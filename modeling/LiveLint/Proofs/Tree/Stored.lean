import LiveLint.Detect.Query
import LiveLint.Scan.Outline
import LiveLint.Tree.Arena

/-!
# What an arena holds

An arena holds a branch at an index if the node there is the one of the branch and its children hold what
stands below the branch. To store a branch only extends an arena, and an arena that was extended still
holds what it held, at the same indices.
-/

namespace LiveLint

namespace Arena

/-- A second arena has the nodes of a first one at the same indices, and perhaps more. -/
structure Extends (a a' : Arena) : Prop where
  size_le : a.size ≤ a'.size
  same : ∀ i, i < a.size → a'.get? i = a.get? i

theorem Extends.refl (a : Arena) : a.Extends a := ⟨Nat.le_refl a.size, fun _ _ => rfl⟩

theorem Extends.trans {a₁ a₂ a₃ : Arena} (first : a₁.Extends a₂) (second : a₂.Extends a₃) :
    a₁.Extends a₃ where
  size_le := Nat.le_trans first.size_le second.size_le
  same i lt := by
    rw [second.same i (Nat.lt_of_lt_of_le lt first.size_le), first.same i lt]

theorem extends_add (a : Arena) (node : Node) : a.Extends (a.add node).1 where
  size_le := by
    rw [size_add]
    exact Nat.le_succ a.size
  same _ lt := get?_add_of_lt node lt

theorem lt_size_of_get? {a : Arena} {i : Nat} {node : Node} (found : a.get? i = some node) :
    i < a.size :=
  (Array.getElem?_eq_some_iff.1 found).1

theorem Extends.get? {a a' : Arena} (ext : a.Extends a') {i : Nat} {node : Node}
    (found : a.get? i = some node) : a'.get? i = some node := by
  rw [ext.same i (lt_size_of_get? found), found]

mutual

/-- An arena holds a branch at an index, with lines counted from a line. -/
def Holds (a : Arena) (line : Nat) : Branch → Nat → Prop
  | .mk d cs, i =>
    ∃ indices, a.get? i = some (Branch.node line d cs indices) ∧ (∀ c ∈ indices, c < i) ∧
      a.HoldsAll line cs indices

/-- An arena holds branches at indices in the same order. -/
def HoldsAll (a : Arena) (line : Nat) : List Branch → List Nat → Prop
  | [], indices => indices = []
  | b :: rest, indices =>
    ∃ i others, indices = i :: others ∧ a.Holds line b i ∧ a.HoldsAll line rest others

end

mutual

theorem Holds.extends {a a' : Arena} (ext : a.Extends a') {line : Nat} {b : Branch} {i : Nat}
    (holds : a.Holds line b i) : a'.Holds line b i := by
  match b with
  | .mk d cs =>
    obtain ⟨indices, found, below, all⟩ := holds
    exact ⟨indices, ext.get? found, below, HoldsAll.extends ext all⟩

theorem HoldsAll.extends {a a' : Arena} (ext : a.Extends a') {line : Nat} {bs : List Branch}
    {indices : List Nat} (all : a.HoldsAll line bs indices) : a'.HoldsAll line bs indices := by
  match bs with
  | [] => exact all
  | b :: rest =>
    obtain ⟨i, others, split, here, there⟩ := all
    exact ⟨i, others, split, Holds.extends ext here, HoldsAll.extends ext there⟩

end

theorem Holds.lt_size {a : Arena} {line : Nat} {b : Branch} {i : Nat} (holds : a.Holds line b i) :
    i < a.size := by
  match b with
  | .mk d cs =>
    obtain ⟨indices, found, -⟩ := holds
    exact lt_size_of_get? found

/-- What an arena holds at one of several indices is one of the branches. -/
theorem HoldsAll.exists_of_mem {a : Arena} {line : Nat} {bs : List Branch} {indices : List Nat}
    (all : a.HoldsAll line bs indices) {i : Nat} (member : i ∈ indices) :
    ∃ b ∈ bs, a.Holds line b i := by
  induction bs generalizing indices with
  | nil =>
    rw [all] at member
    cases member
  | cons b rest ih =>
    obtain ⟨j, others, rfl, here, there⟩ := all
    rcases List.mem_cons.1 member with rfl | later
    · exact ⟨b, List.mem_cons_self .., here⟩
    · obtain ⟨c, found, holds⟩ := ih there later
      exact ⟨c, List.mem_cons_of_mem b found, holds⟩

end Arena

namespace Branch

mutual

/-- To store a branch extends an arena by what holds the branch. -/
theorem holds_store (line : Nat) (b : Branch) (a : Arena) :
    a.Extends (b.store line a).1 ∧ a.size ≤ (b.store line a).2 ∧
      (b.store line a).1.Holds line b (b.store line a).2 := by
  match b with
  | .mk d cs =>
    obtain ⟨ext, within, all⟩ := holdsAll_storeAll line cs a
    unfold store
    dsimp only
    generalize storeAll line cs a = out at ext within all ⊢
    have added := out.1.extends_add (node line d cs out.2)
    exact ⟨ext.trans added, ext.size_le, out.2, Arena.get?_add_self _ _,
      fun c member => (within c member).2, all.extends added⟩

theorem holdsAll_storeAll (line : Nat) (bs : List Branch) (a : Arena) :
    a.Extends (storeAll line bs a).1 ∧
      (∀ i ∈ (storeAll line bs a).2, a.size ≤ i ∧ i < (storeAll line bs a).1.size) ∧
      (storeAll line bs a).1.HoldsAll line bs (storeAll line bs a).2 := by
  match bs with
  | [] => exact ⟨.refl a, nofun, rfl⟩
  | b :: rest =>
    obtain ⟨ext, fresh, holds⟩ := holds_store line b a
    unfold storeAll
    dsimp only
    generalize b.store line a = first at ext fresh holds ⊢
    obtain ⟨ext', within, all⟩ := holdsAll_storeAll line rest first.1
    refine ⟨ext.trans ext', ?_, first.2, _, rfl, holds.extends ext', all⟩
    intro i member
    rcases List.mem_cons.1 member with rfl | later
    · exact ⟨fresh, Nat.lt_of_lt_of_le holds.lt_size ext'.size_le⟩
    · obtain ⟨behind, inside⟩ := within i later
      exact ⟨Nat.le_trans ext.size_le behind, inside⟩

end

/-- The body of a node is one of its children. -/
theorem mem_of_body_node {line : Nat} {d : Draft} {cs : List Branch} {indices : List Nat} {j : Nat}
    (body : (node line d cs indices).body = some j) : j ∈ indices := by
  obtain ⟨⟨id, i⟩, found, rfl⟩ := Option.map_eq_some_iff.1 body
  exact (List.of_mem_zip (List.mem_of_find?_eq_some found)).2

end Branch

namespace Arena

theorem visits_cons (a : Arena) (skipErrors : Bool) (v : Visit) (pending : List Visit) :
    a.visits skipErrors (v :: pending) =
      if a.cuts skipErrors v.index then v :: a.visits skipErrors pending
      else v :: a.visits skipErrors (a.pendingBelow v ++ pending) := by
  rw [visits]

/-- A walk deals with what is pending one after the other. -/
theorem visits_append (a : Arena) (skipErrors : Bool) (first second : List Visit) :
    a.visits skipErrors (first ++ second) =
      a.visits skipErrors first ++ a.visits skipErrors second := by
  fun_induction visits a skipErrors first with
  | case1 => rw [List.nil_append, List.nil_append]
  | case2 v pending cut ih => rw [List.cons_append, visits_cons, if_pos cut, ih, List.cons_append]
  | case3 v pending cut ih =>
    rw [List.cons_append, visits_cons, if_neg cut, ← List.append_assoc, ih, List.cons_append]

/-- A walk stays among the indices that can be reached from where it begins. -/
theorem mem_visits {a : Arena} {skipErrors : Bool} {reached : Nat → Prop}
    (below : ∀ i, reached i → ∀ c ∈ a.childrenBelow i, reached c) {pending : List Visit}
    (start : ∀ v ∈ pending, reached v.index) {v : Visit} (member : v ∈ a.visits skipErrors pending) :
    reached v.index := by
  fun_induction visits a skipErrors pending with
  | case1 => cases member
  | case2 w pending cut ih =>
    rcases List.mem_cons.1 member with rfl | later
    · exact start v (List.mem_cons_self ..)
    · exact ih (fun v member => start v (List.mem_cons_of_mem w member)) later
  | case3 w pending cut ih =>
    rcases List.mem_cons.1 member with rfl | later
    · exact start v (List.mem_cons_self ..)
    · refine ih ?_ later
      intro v member
      rcases List.mem_append.1 member with child | rest
      · obtain ⟨c, found, rfl⟩ := List.mem_map.1 child
        exact below w.index (start w (List.mem_cons_self ..)) c found
      · exact start v (List.mem_cons_of_mem w rest)

/-- Two arenas with the same nodes up to an index are walked in the same way from there. -/
theorem visits_congr {a a' : Arena} {n : Nat} (same : ∀ i, i ≤ n → a'.get? i = a.get? i)
    (skipErrors : Bool) {pending : List Visit} (start : ∀ v ∈ pending, v.index ≤ n) :
    a'.visits skipErrors pending = a.visits skipErrors pending := by
  fun_induction visits a skipErrors pending with
  | case1 => rw [visits]
  | case2 v pending cut ih =>
    have kind : a'.cuts skipErrors v.index = a.cuts skipErrors v.index := by
      unfold cuts Arena.kind
      rw [same v.index (start v (List.mem_cons_self ..))]
    rw [visits_cons, kind, if_pos cut, ih fun v member => start v (List.mem_cons_of_mem _ member)]
  | case3 v pending cut ih =>
    have here := same v.index (start v (List.mem_cons_self ..))
    have kind : a'.cuts skipErrors v.index = a.cuts skipErrors v.index := by
      unfold cuts Arena.kind
      rw [here]
    have children : a'.pendingBelow v = a.pendingBelow v := by
      unfold pendingBelow childrenBelow Arena.kind
      rw [here]
    rw [visits_cons, kind, if_neg cut, children]
    rw [ih ?_]
    intro w member
    rcases List.mem_append.1 member with child | rest
    · obtain ⟨c, found, rfl⟩ := List.mem_map.1 child
      exact Nat.le_of_lt (Nat.lt_of_lt_of_le (lt_of_mem_childrenBelow found)
        (start v (List.mem_cons_self ..)))
    · exact start w (List.mem_cons_of_mem v rest)

end Arena

/-!
## What stands behind a placed node

A walk of a root whose arena holds a branch meets nothing but the nodes of the branch and of what stands
below it. So every node of a walk can be traced back to the draft that it was made of.
-/

/-- A branch stands somewhere below another one, or is that branch. -/
inductive Branch.Within : Branch → Branch → Prop where
  | self (b : Branch) : Within b b
  | deeper {b c : Branch} {d : Draft} {cs : List Branch} (child : c ∈ cs) (within : Within b c) :
      Within b (.mk d cs)

/-- A placed node of an arena shows a branch: it was made of its draft and has its place, and it has a body
exactly if the draft names one of the branches directly below. What is its body can be looked up. -/
structure Placed.Shows (a : Arena) (item : Placed) (b : Branch) : Prop where
  kind : item.node.kind = b.draft.kind
  startLine : item.startLine = b.draft.span.start.line
  endLine : item.endLine = b.draft.span.stop.line
  body_iff : (∃ i ∈ item.node.children, item.node.body = some i) ↔
    ∃ c ∈ b.children, b.draft.body = some c.draft.id
  found_iff : (a.bodyOf? item).isSome = true ↔ ∃ i ∈ item.node.children, item.node.body = some i

/-- A node that stands for a branch, at its place below a root. -/
structure Placed.Stands (a : Arena) (item : Placed) (b : Branch) : Prop where
  holds : a.Holds item.root.line b item.index
  placed : a.place? item.root ⟨item.index, item.ancestors⟩ = some item

namespace Arena

variable {a : Arena} {line : Nat}

/-- A child of a branch within another one is within it. -/
theorem within_of_child {b c c' : Branch} (within : c.Within b) (child : c' ∈ c.children) : c'.Within b := by
  have first : c'.Within c := by
    cases c
    exact .deeper child (.self c')
  induction within with
  | self => exact first
  | deeper below _ ih => exact .deeper below ih

/-- Whatever can be reached from a node that holds a branch holds a branch within it. -/
theorem exists_within_of_child {b c : Branch} {i j : Nat} (within : c.Within b) (holds : a.Holds line c i)
    (child : j ∈ a.childrenBelow i) : ∃ c', c'.Within b ∧ a.Holds line c' j := by
  obtain ⟨c', child', holds'⟩ : ∃ c' ∈ c.children, a.Holds line c' j := by
    cases c with
    | mk d cs =>
      obtain ⟨indices, found, -, all⟩ := holds
      unfold childrenBelow at child
      rw [found] at child
      exact all.exists_of_mem (List.mem_filter.1 child).1
  exact ⟨c', within_of_child within child', holds'⟩

/-- What is found under a name is one of the indices. -/
theorem index_mem {name : Option Nat} {ids indices : List Nat} {i : Nat}
    (found : ((ids.zip indices).find? fun (id, _) => name == some id).map (·.2) = some i) : i ∈ indices := by
  obtain ⟨⟨_, k⟩, first, rfl⟩ := Option.map_eq_some_iff.1 found
  exact (List.of_mem_zip (List.mem_of_find?_eq_some first)).2

/-- Names and indices of the same branches: the first branch that is named is found at its index. -/
theorem exists_index_iff {name : Option Nat} {cs : List Branch} {indices : List Nat}
    (all : a.HoldsAll line cs indices) :
    (∃ i ∈ indices, (((cs.map (·.draft.id)).zip indices).find? fun (id, _) => name == some id).map (·.2) =
      some i) ↔ ∃ c ∈ cs, name = some c.draft.id := by
  induction cs generalizing indices with
  | nil =>
    rw [all]
    simp
  | cons c rest ih =>
    obtain ⟨i, others, rfl, -, there⟩ := all
    rw [List.map_cons, List.zip_cons_cons, List.find?_cons]
    dsimp only
    by_cases named : name = some c.draft.id
    · rw [beq_iff_eq.2 named]
      exact iff_of_true ⟨i, List.mem_cons_self .., rfl⟩ ⟨c, List.mem_cons_self .., named⟩
    · rw [beq_eq_false_iff_ne.2 named]
      dsimp only
      constructor
      · rintro ⟨j, -, found⟩
        obtain ⟨c', member, named'⟩ := (ih there).1 ⟨j, index_mem found, found⟩
        exact ⟨c', List.mem_cons_of_mem _ member, named'⟩
      · rintro ⟨c', member, named'⟩
        rcases List.mem_cons.1 member with rfl | member
        · exact absurd named' named
        · obtain ⟨j, among, found⟩ := (ih there).2 ⟨c', member, named'⟩
          exact ⟨j, List.mem_cons_of_mem _ among, found⟩

/-- A node that holds a branch, placed for a root on the line that lines are counted from, shows it. -/
theorem shows_of_holds {b : Branch} {i : Nat} (holds : a.Holds line b i) {root : Root}
    (placed_at : root.line = line) {ancestors : List NodeKind} {item : Placed}
    (placed : a.place? root ⟨i, ancestors⟩ = some item) : item.Shows a b := by
  cases b with
  | mk d cs =>
    obtain ⟨indices, found, -, all⟩ := holds
    unfold place? at placed
    rw [found] at placed
    cases placed
    refine ⟨rfl, ?_, ?_, exists_index_iff all, ?_⟩
    · dsimp only [Branch.node, Branch.draft]
      omega
    · dsimp only [Branch.node, Branch.draft]
      omega
    · unfold bodyOf?
      constructor
      · intro there
        obtain ⟨body, there⟩ := Option.isSome_iff_exists.1 there
        obtain ⟨j, named, -⟩ := Option.bind_eq_some_iff.1 there
        exact ⟨j, index_mem named, named⟩
      · rintro ⟨j, child, named⟩
        obtain ⟨c, -, holds⟩ := all.exists_of_mem child
        cases c
        obtain ⟨_, here, -⟩ := holds
        rw [named, Option.bind_some, place?, here]
        rfl

theorem place?_eq {v : Visit} {root : Root} {item : Placed} (placed : a.place? root v = some item) :
    item.index = v.index ∧ item.ancestors = v.ancestors ∧ item.root = root ∧ a.get? v.index = some item.node := by
  obtain ⟨node, found, rfl⟩ := Option.map_eq_some_iff.1 placed
  exact ⟨rfl, rfl, rfl, found⟩

/-- Every node that a walk of a root meets stands for a branch within the one that is held there. -/
theorem exists_stands_of_mem_walkRoot {b : Branch} {root : Root} (holds : a.Holds root.line b root.index)
    {skipErrors : Bool} {item : Placed} (member : item ∈ a.walkRoot root skipErrors) :
    ∃ c, c.Within b ∧ item.Stands a c ∧ item.root = root ∧
      ⟨item.index, item.ancestors⟩ ∈ a.visits skipErrors [⟨root.index, []⟩] := by
  unfold walkRoot at member
  obtain ⟨v, visited, placed⟩ := List.mem_filterMap.1 member
  have reached : ∃ c, c.Within b ∧ a.Holds root.line c v.index := by
    have closed : ∀ i, (∃ c, Branch.Within c b ∧ a.Holds root.line c i) →
        ∀ j ∈ a.childrenBelow i, ∃ c, Branch.Within c b ∧ a.Holds root.line c j := by
      rintro i ⟨c, within, holds⟩ j child
      exact exists_within_of_child within holds child
    refine mem_visits closed ?_ visited
    intro v start
    rw [List.mem_singleton.1 start]
    exact ⟨b, .self b, holds⟩
  obtain ⟨c, within, holds⟩ := reached
  obtain ⟨index, ancestors, same_root, -⟩ := place?_eq placed
  have same : (⟨item.index, item.ancestors⟩ : Visit) = v := by rw [index, ancestors]
  refine ⟨c, within, ⟨?_, ?_⟩, same_root, same ▸ visited⟩
  · rw [same_root, index]
    exact holds
  · rw [same_root, same]
    exact placed

/-- Every node that a walk of a root meets shows a branch within the one that is held there. -/
theorem exists_shows_of_mem_walkRoot {b : Branch} {root : Root} (holds : a.Holds root.line b root.index)
    {skipErrors : Bool} {item : Placed} (member : item ∈ a.walkRoot root skipErrors) :
    ∃ c, c.Within b ∧ item.Shows a c := by
  obtain ⟨c, within, stands, -, -⟩ := exists_stands_of_mem_walkRoot holds member
  exact ⟨c, within, shows_of_holds stands.holds rfl stands.placed⟩

end Arena

end LiveLint
