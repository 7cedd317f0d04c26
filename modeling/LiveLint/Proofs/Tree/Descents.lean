import LiveLint.Proofs.Parse.Published
import LiveLint.Proofs.Tree.TreeShapes
import LiveLint.Proofs.Tree.Walks

/-!
# Ways down

A way down leads from a node to a child, and on from there, but not through errors. A walk meets the ends of the ways
down from where it begins, and carries the kinds of the nodes before the end along. In an arena that holds trees there
is one way down at most from a node to another one, so a walk meets no node twice.
-/

namespace LiveLint

namespace Arena

/-- A way down from a node, as a list of nodes: each is a child of the one before, which is no error. -/
inductive Descent (a : Arena) : Nat → List Nat → Prop
  | stop (i : Nat) : a.Descent i [i]
  | step {i c : Nat} {node : Node} {path : List Nat} (found : a.get? i = some node) (readable : node.kind ≠ .error)
      (child : c ∈ node.children) (below : a.Descent c path) : a.Descent i (i :: path)

variable {a : Arena}

theorem kind_of_get? {i : Nat} {node : Node} (found : a.get? i = some node) : a.kind i = node.kind := by
  rw [kind, found]
  rfl

theorem Reaches.trans {i j k : Nat} (first : a.Reaches i j) (second : a.Reaches j k) : a.Reaches i k := by
  induction first with
  | self => exact second
  | child found member _ ih => exact .child found member (ih second)

namespace Descent

/-- A way down begins with its node, and what follows leads down from a child. -/
theorem of_cons {i x : Nat} {path : List Nat} (down : a.Descent i (x :: path)) :
    x = i ∧ (path = [] ∨ ∃ node c, a.get? i = some node ∧ node.kind ≠ .error ∧ c ∈ node.children ∧
      a.Descent c path) := by
  cases down with
  | stop => exact ⟨rfl, Or.inl rfl⟩
  | step found readable child below => exact ⟨rfl, Or.inr ⟨_, _, found, readable, child, below⟩⟩

/-- What comes before the end of a way down is no end. -/
theorem of_cons_append {i x k : Nat} {path : List Nat} (down : a.Descent i (x :: path ++ [k])) :
    x = i ∧ ∃ node c, a.get? i = some node ∧ node.kind ≠ .error ∧ c ∈ node.children ∧
      a.Descent c (path ++ [k]) := by
  obtain ⟨same, ended | more⟩ := of_cons down
  · exact absurd ended (List.append_ne_nil_of_right_ne_nil path (List.cons_ne_nil k []))
  · exact ⟨same, more⟩

theorem of_singleton {i k : Nat} (down : a.Descent i [k]) : k = i := (of_cons down).1

end Descent

/-! ## Ways down and walks -/

/-- A walk meets the ends of the ways down from where it begins, with the kinds of the nodes before the end as
ancestors. -/
theorem mem_visits_iff (formed : a.WellFormed) {pending : List Visit} {w : Visit} :
    w ∈ a.visits true pending ↔ ∃ v ∈ pending, ∃ path, a.Descent v.index (path ++ [w.index]) ∧
      w.ancestors = (path.map a.kind).reverse ++ v.ancestors := by
  constructor
  · intro member
    fun_induction visits a true pending with
    | case1 => cases member
    | case2 v pending cut ih =>
      rcases List.mem_cons.1 member with rfl | later
      · exact ⟨w, List.mem_cons_self, [], .stop _, rfl⟩
      · obtain ⟨v', among, way⟩ := ih later
        exact ⟨v', List.mem_cons_of_mem v among, way⟩
    | case3 v pending cut ih =>
      rcases List.mem_cons.1 member with rfl | later
      · exact ⟨w, List.mem_cons_self, [], .stop _, rfl⟩
      · obtain ⟨v', among, path, down, ancestors⟩ := ih later
        rcases List.mem_append.1 among with child | rest
        · obtain ⟨c, below, rfl⟩ := List.mem_map.1 child
          refine ⟨v, List.mem_cons_self, v.index :: path, ?_, ?_⟩
          · cases found : a.get? v.index with
            | none =>
              rw [childrenBelow, found] at below
              cases below
            | some node =>
              rw [formed.childrenBelow_eq found] at below
              refine .step found (fun error => cut ?_) below down
              rw [cuts, kind_of_get? found, error]
              rfl
          · rw [ancestors, List.map_cons, List.reverse_cons, List.append_assoc]
            rfl
        · exact ⟨v', List.mem_cons_of_mem v rest, path, down, ancestors⟩
  · rintro ⟨v, among, path, down, ancestors⟩
    refine (visits_sublist (mem_visits_of_mem among)).subset ?_
    clear among
    induction path generalizing v with
    | nil =>
      have same : w = v := by
        obtain ⟨index, carried⟩ := w
        obtain ⟨index', carried'⟩ := v
        cases down.of_singleton
        exact congrArg _ ancestors
      rw [same]
      exact mem_visits_of_mem List.mem_cons_self
    | cons i path ih =>
      obtain ⟨rfl, node, c, found, readable, child, below⟩ := down.of_cons_append
      have entered : ¬a.cuts true v.index = true := by
        rw [cuts, kind_of_get? found]
        exact fun error => readable (beq_iff_eq.1 error)
      rw [visits_cons, if_neg entered, List.append_nil]
      refine List.mem_cons_of_mem _ ?_
      have pending : (⟨c, a.kind v.index :: v.ancestors⟩ : Visit) ∈ a.pendingBelow v := by
        refine List.mem_map_of_mem ?_
        rw [formed.childrenBelow_eq found]
        exact child
      refine (visits_sublist (mem_visits_of_mem pending)).subset (ih _ below ?_)
      rw [ancestors, List.map_cons, List.reverse_cons, List.append_assoc]
      rfl

/-! ## Walks meet nodes once -/

theorem reaches_of_mem_childrenBelow {i c : Nat} (below : c ∈ a.childrenBelow i) : a.Reaches i c := by
  unfold childrenBelow at below
  split at below
  · next node found => exact .child found (List.mem_filter.1 below).1 (.self c)
  · cases below

/-- What a walk meets stands below something it began with. -/
theorem exists_reaches_of_mem_visits {skipErrors : Bool} {pending : List Visit} {w : Visit}
    (member : w ∈ a.visits skipErrors pending) : ∃ v ∈ pending, a.Reaches v.index w.index := by
  refine @mem_visits a skipErrors (fun i => ∃ v ∈ pending, a.Reaches v.index i) ?_ pending ?_ w member
  · rintro i ⟨v, among, reaches⟩ c below
    exact ⟨v, among, reaches.trans (reaches_of_mem_childrenBelow below)⟩
  · exact fun v among => ⟨v, among, .self _⟩

/-- Nothing stands below two separate nodes. -/
theorem Separate.apart {indices : List Nat} (separate : a.Separate indices) (formed : a.WellFormed) :
    indices.Pairwise fun x y => ∀ i, a.Reaches x i → ¬a.Reaches y i :=
  separate.imp fun before i below below' =>
    Nat.lt_irrefl i (Nat.lt_of_le_of_lt (formed.reaches_le below) (before i below'))

/-- A walk that begins with nodes that share nothing below them meets no node twice. -/
theorem nodup_visits (shaped : a.TreeShaped) (skipErrors : Bool) {pending : List Visit}
    (apart : (pending.map (·.index)).Pairwise fun x y => ∀ i, a.Reaches x i → ¬a.Reaches y i) :
    ((a.visits skipErrors pending).map (·.index)).Nodup := by
  fun_induction visits a skipErrors pending with
  | case1 => exact .nil
  | case2 v pending cut ih =>
    obtain ⟨here, others⟩ := List.pairwise_cons.1 apart
    refine List.nodup_cons.2 ⟨fun again => ?_, ih others⟩
    obtain ⟨w, met, same⟩ := List.mem_map.1 again
    obtain ⟨v', among, reaches⟩ := exists_reaches_of_mem_visits met
    rw [same] at reaches
    exact here v'.index (List.mem_map_of_mem among) v.index (.self _) reaches
  | case3 v pending cut ih =>
    obtain ⟨here, others⟩ := List.pairwise_cons.1 apart
    have children : (a.pendingBelow v).map (·.index) = a.childrenBelow v.index := by
      rw [pendingBelow, List.map_map]
      exact List.map_id _
    have below_self {c : Nat} (below : c ∈ a.childrenBelow v.index) : ¬a.Reaches c v.index := fun reaches =>
      Nat.lt_irrefl c (Nat.lt_of_lt_of_le (lt_of_mem_childrenBelow below) (shaped.formed.reaches_le reaches))
    refine List.nodup_cons.2 ⟨fun again => ?_, ih ?_⟩
    · obtain ⟨w, met, same⟩ := List.mem_map.1 again
      obtain ⟨v', among, reaches⟩ := exists_reaches_of_mem_visits met
      rw [same] at reaches
      rcases List.mem_append.1 among with child | rest
      · exact below_self (children ▸ List.mem_map_of_mem child) reaches
      · exact here v'.index (List.mem_map_of_mem rest) v.index (.self _) reaches
    · rw [List.map_append, children, List.pairwise_append]
      refine ⟨?_, others, fun c below w among i reaches => ?_⟩
      · cases found : a.get? v.index with
        | none =>
          rw [childrenBelow, found]
          exact .nil
        | some node =>
          rw [shaped.formed.childrenBelow_eq found]
          exact (shaped.separate _ node found).apart shaped.formed
      · exact here w among i ((reaches_of_mem_childrenBelow below).trans reaches)

theorem map_index_walks_sublist (roots : List Root) (skipErrors : Bool) :
    ((roots.flatMap fun root => a.walkRoot root skipErrors).map (·.index)).Sublist
      ((a.visits skipErrors (roots.map fun root => ⟨root.index, []⟩)).map (·.index)) := by
  have placed (root : Root) (vs : List Visit) :
      ((vs.filterMap (a.place? root)).map (·.index)).Sublist (vs.map (·.index)) := by
    induction vs with
    | nil => exact .slnil
    | cons v rest ih =>
      rw [List.filterMap_cons]
      cases here : a.place? root v with
      | none => exact ih.cons _
      | some item =>
        rw [List.map_cons, List.map_cons, (place?_eq here).1]
        exact ih.cons_cons _
  induction roots with
  | nil => exact List.nil_sublist _
  | cons root rest ih =>
    rw [List.flatMap_cons, List.map_append, List.map_cons, ← List.singleton_append, visits_append, List.map_append]
    exact (placed root _).append ih

/-! ## Ways down are unique -/

/-- A node stands below one at most of those that share nothing below them. -/
theorem eq_of_reaches {α : Type} {index : α → Nat} {xs : List α} {x y : α} {i : Nat}
    (apart : xs.Pairwise fun x y => ∀ i, a.Reaches (index x) i → ¬a.Reaches (index y) i) (member : x ∈ xs)
    (member' : y ∈ xs) (below : a.Reaches (index x) i) (below' : a.Reaches (index y) i) : x = y := by
  induction xs with
  | nil => cases member
  | cons z rest ih =>
    obtain ⟨here, others⟩ := List.pairwise_cons.1 apart
    rcases List.mem_cons.1 member with rfl | among <;> rcases List.mem_cons.1 member' with rfl | among'
    · rfl
    · exact absurd below' (here y among' i below)
    · exact absurd below (here x among i below')
    · exact ih others among among'

namespace Descent

theorem reaches {i k : Nat} {path : List Nat} (down : a.Descent i (path ++ [k])) : a.Reaches i k := by
  induction path generalizing i with
  | nil =>
    rw [down.of_singleton]
    exact .self i
  | cons x path ih =>
    obtain ⟨-, node, c, found, -, child, below⟩ := down.of_cons_append
    exact .child found child (ih below)

/-- A way down can be led on by a child of its last node. -/
theorem append {i j c : Nat} {path : List Nat} {node : Node} (down : a.Descent i (path ++ [j]))
    (found : a.get? j = some node) (readable : node.kind ≠ .error) (child : c ∈ node.children) :
    a.Descent i (path ++ [j] ++ [c]) := by
  induction path generalizing i with
  | nil =>
    cases down.of_singleton
    exact .step found readable child (.stop c)
  | cons x path ih =>
    obtain ⟨rfl, node', c', found', readable', child', below⟩ := down.of_cons_append
    exact .step found' readable' child' (ih below)

/-- No way down leads back. -/
theorem not_back (formed : a.WellFormed) {i c : Nat} {node : Node} {path : List Nat} (found : a.get? i = some node)
    (child : c ∈ node.children) : ¬a.Descent c (path ++ [i]) := by
  intro below
  have le := formed.reaches_le below.reaches
  have lt := ((formed i node found).children c child).2
  omega

/-- There is one way down at most from a node to another one. -/
theorem unique (shaped : a.TreeShaped) {i k : Nat} {path path' : List Nat} (down : a.Descent i (path ++ [k]))
    (down' : a.Descent i (path' ++ [k])) : path = path' := by
  induction path generalizing i path' with
  | nil =>
    cases down.of_singleton
    cases path' with
    | nil => rfl
    | cons x rest =>
      obtain ⟨-, node, c, found, -, child, below⟩ := down'.of_cons_append
      exact absurd below (not_back shaped.formed found child)
  | cons x rest ih =>
    obtain ⟨rfl, node, c, found, -, child, below⟩ := down.of_cons_append
    cases path' with
    | nil =>
      cases down'.of_singleton
      exact absurd below (not_back shaped.formed found child)
    | cons x' rest' =>
      obtain ⟨rfl, node', c', found', -, child', below'⟩ := down'.of_cons_append
      cases found.symm.trans found'
      have apart := (shaped.separate _ node found).apart shaped.formed
      have same : c = c' := @eq_of_reaches a Nat id _ _ _ k apart child child' below.reaches below'.reaches
      subst same
      rw [ih below below']

end Descent

end Arena

/-- A walk of a tree meets no node twice. -/
theorem Tree.nodup_walk {t : Tree} {a : Arena} (shaped : a.TreeShaped) (apart : t.Apart a) (skipErrors : Bool) :
    ((t.walk a skipErrors).map (·.index)).Nodup := by
  refine (Arena.nodup_visits shaped skipErrors ?_).sublist (Arena.map_index_walks_sublist t.roots skipErrors)
  rw [List.map_map, List.pairwise_map]
  exact apart.apart

theorem Arena.place?_of_mem_walk {t : Tree} {a : Arena} {skipErrors : Bool} {item : Placed}
    (member : item ∈ t.walk a skipErrors) : a.place? item.root ⟨item.index, item.ancestors⟩ = some item := by
  obtain ⟨root, -, met⟩ := List.mem_flatMap.1 member
  obtain ⟨v, -, placed⟩ := List.mem_filterMap.1 met
  obtain ⟨index, ancestors, same_root, -⟩ := place?_eq placed
  rw [index, ancestors, same_root]
  exact placed

end LiveLint
