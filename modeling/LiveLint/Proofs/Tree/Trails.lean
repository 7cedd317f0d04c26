import LiveLint.Proofs.Parse.LoopBodies
import LiveLint.Proofs.Parse.ShapedArenas
import LiveLint.Proofs.Tree.Descents

/-!
# Trails

The trail of a draft in a forest is what lies around it, outermost first. It can be told from the order of the drafts
alone: a draft in front of another one lies around it if it is no error and holds everything from there to the other
one. In an arena that holds the forest, the trail is the way down to the node of the draft.
-/

namespace LiveLint

/-! ## Trails in forests -/

namespace Branch

mutual

/-- The drafts of a branch in walking order, each with the drafts around it, outermost first. -/
def trails (outer : List Draft) : Branch → List (List Draft × Draft)
  | .mk d cs => (outer, d) :: trailsAll (outer ++ [d]) cs

/-- The drafts of branches next to each other, each with the drafts around it. -/
def trailsAll (outer : List Draft) : List Branch → List (List Draft × Draft)
  | [] => []
  | b :: rest => trails outer b ++ trailsAll outer rest

end

end Branch

namespace Forest

/-- The drafts, among some in front of a draft, that are no errors and hold everything up to it. -/
def around (d : Draft) : List Draft → List Draft
  | [] => []
  | f :: rest =>
    if !f.isError && (rest ++ [d]).all (f.span.contains ·.span) then f :: around d rest else around d rest

/-- Drafts that do not hold something in front of a draft do not lie around it. -/
theorem around_append {d : Draft} {front rest : List Draft}
    (blocked : ∀ f ∈ front, ∃ g ∈ rest ++ [d], f.span.contains g.span = false) :
    around d (front ++ rest) = around d rest := by
  induction front with
  | nil => rfl
  | cons f front ih =>
    have others := ih fun g member => blocked g (List.mem_cons_of_mem f member)
    obtain ⟨g, member, outside⟩ := blocked f List.mem_cons_self
    have fails : ¬(!f.isError && (front ++ rest ++ [d]).all (f.span.contains ·.span)) = true := by
      rw [Bool.and_eq_true, List.all_eq_true]
      rintro ⟨-, holds⟩
      have inside := holds g (by rw [List.append_assoc]; exact List.mem_append_right _ member)
      rw [outside] at inside
      cases inside
    rw [List.cons_append, around, if_neg fails, others]

/-- A draft that is no error lies around what it holds. -/
theorem around_cons {x d : Draft} {front : List Draft} (readable : ¬x.isError = true)
    (holds : ∀ g ∈ front ++ [d], x.span.contains g.span = true) : around d (x :: front) = x :: around d front := by
  rw [around, if_pos]
  rw [Bool.and_eq_true, List.all_eq_true]
  exact ⟨by simpa using readable, holds⟩

/-- Where a draft ends, so do the drafts inside of it. -/
theorem around_beside {x d : Draft} {below front : List Draft} (inside : ∀ g ∈ below, x.span.contains g.span = true)
    (outside : ∃ g ∈ front ++ [d], x.span.contains g.span = false) :
    around d (x :: below ++ front) = around d front := by
  obtain ⟨g, member, outside⟩ := outside
  refine around_append fun f among => ⟨g, member, ?_⟩
  rcases List.mem_cons.1 among with rfl | among
  · exact outside
  · rw [Bool.eq_false_iff]
    intro holds
    rw [Span.contains_trans (inside f among) holds] at outside
    cases outside

/-- A member of two lists that are put together stands in the first one or behind it. -/
theorem exists_side {α : Type} {below beside front back : List α} {d : α}
    (parts : below ++ beside = front ++ d :: back) :
    (∃ back', below = front ++ d :: back') ∨ ∃ front', front = below ++ front' ∧ beside = front' ++ d :: back := by
  rcases List.append_eq_append_iff.1 parts with ⟨front', same, tail⟩ | ⟨back', rfl, tail⟩
  · exact Or.inr ⟨front', same, tail⟩
  · cases back' with
    | nil => exact Or.inr ⟨[], by rw [List.append_nil, List.append_nil], tail.symm⟩
    | cons g back' => exact Or.inl ⟨back', by rw [(List.cons_eq_cons.1 tail).1]⟩

theorem map_trailsAll_build (outer ds : List Draft) : (Branch.trailsAll outer (build ds)).map (·.2) = ds := by
  fun_induction build ds generalizing outer with
  | case1 => rfl
  | case2 d rest error ih =>
    rw [Branch.trailsAll, Branch.trails, Branch.trailsAll, List.singleton_append, List.map_cons, ih]
  | case3 d rest readable ih₁ ih₂ =>
    rw [Branch.trailsAll, Branch.trails, List.cons_append, List.map_cons, List.map_append, ih₁, ih₂,
      List.takeWhile_append_dropWhile]

/-- In the forest of some drafts, those around a draft are the ones in front of it that hold everything up to it. -/
theorem getElem?_trailsAll_build (outer : List Draft) {ds front back : List Draft} {d : Draft}
    (split : ds = front ++ d :: back) :
    (Branch.trailsAll outer (build ds))[front.length]? = some (outer ++ around d front, d) := by
  fun_induction build ds generalizing outer front back with
  | case1 => exact absurd split.symm (List.append_ne_nil_of_right_ne_nil _ (List.cons_ne_nil _ _))
  | case2 x rest error ih =>
    rw [Branch.trailsAll, Branch.trails, Branch.trailsAll, List.singleton_append]
    cases front with
    | nil =>
      cases split
      rw [around, List.append_nil]
      rfl
    | cons y front =>
      cases split
      rw [List.length_cons, List.getElem?_cons_succ, ih outer rfl, around, error]
      rfl
  | case3 x rest readable ih₁ ih₂ =>
    rw [Branch.trailsAll, Branch.trails]
    cases front with
    | nil =>
      cases split
      rw [around, List.append_nil]
      rfl
    | cons y front =>
      obtain ⟨rfl, behind⟩ := List.cons_eq_cons.1 split
      have parts := List.takeWhile_append_dropWhile (p := fun y : Draft => x.span.contains y.span) (l := rest)
      have inside (g : Draft) (member : g ∈ rest.takeWhile (x.span.contains ·.span)) :
          x.span.contains g.span = true := List.mem_takeWhile_imp (p := fun y : Draft => x.span.contains y.span) member
      have stops := List.head?_dropWhile_not (fun y : Draft => x.span.contains y.span) rest
      have length := congrArg List.length (map_trailsAll_build (outer ++ [x]) (rest.takeWhile (x.span.contains ·.span)))
      rw [List.length_map] at length
      rw [List.length_cons, List.cons_append, List.getElem?_cons_succ]
      generalize rest.takeWhile (x.span.contains ·.span) = below at *
      generalize rest.dropWhile (x.span.contains ·.span) = beside at *
      subst behind
      rcases exists_side parts with ⟨back', rfl⟩ | ⟨front', rfl, rfl⟩
      · -- The draft lies below the first one, and so does everything in front of it.
        have deeper : front.length < (front ++ d :: back').length := by
          rw [List.length_append, List.length_cons]
          omega
        rw [List.getElem?_append_left (by omega), ih₁ (outer ++ [x]) rfl, around_cons readable, List.append_assoc,
          List.singleton_append]
        refine fun g member => inside g ?_
        rcases List.mem_append.1 member with before | last
        · exact List.mem_append_left _ before
        · exact List.mem_append_right _ (List.mem_singleton.1 last ▸ List.mem_cons_self)
      · -- The draft stands beside the first one, which does not hold the next draft after those below it.
        have outside : ∃ g ∈ front' ++ [d], x.span.contains g.span = false := by
          cases front' with
          | nil => exact ⟨d, List.mem_singleton_self d, by simpa using stops⟩
          | cons g front' => exact ⟨g, List.mem_cons_self, by simpa using stops⟩
        rw [List.getElem?_append_right (by rw [length, List.length_append]; omega), length, List.length_append,
          Nat.add_sub_cancel_left, ih₂ outer rfl,
          ← around_beside inside outside, List.cons_append]

end Forest

/-! ## Trails in arenas -/

namespace Arena

variable {a : Arena} {line r : Nat}

/-- The node at an index was made of a draft. -/
def MadeOf (a : Arena) (i : Nat) (d : Draft) : Prop :=
  ∃ node, a.get? i = some node ∧ node.kind = d.kind ∧ node.name = d.name

/-- A node that is visited was made of the draft at the end of a trail, and the trail leads down to it. -/
def Trails (a : Arena) (r : Nat) (v : Visit) (trail : List Draft × Draft) : Prop :=
  a.MadeOf v.index trail.2 ∧ ∃ path, a.Descent r (path ++ [v.index]) ∧ List.Forall₂ a.MadeOf path trail.1

mutual

/-- A walk from a node that holds a branch visits the trails of the branch, behind the way down to the node. -/
theorem trails_of_holds (formed : a.WellFormed) {b : Branch} {i : Nat} (holds : a.Holds line b i) (bare : b.Bare)
    {path : List Nat} {outer : List Draft} (down : a.Descent r (path ++ [i])) (made : List.Forall₂ a.MadeOf path outer)
    (ancestors : List NodeKind) : List.Forall₂ (a.Trails r) (a.visits true [⟨i, ancestors⟩]) (b.trails outer) := by
  match b with
  | .mk d cs =>
    obtain ⟨indices, found, smaller, all⟩ := holds
    have kind : a.kind i = d.kind := kind_of_get? found
    have here : a.Trails r ⟨i, ancestors⟩ (outer, d) := ⟨⟨_, found, rfl, rfl⟩, path, down, made⟩
    rw [visits_cons, Branch.trails]
    by_cases error : d.kind = .error
    · have cut : a.cuts true i = true := by
        rw [cuts, kind, error]
        rfl
      obtain rfl : cs = [] := bare _ (.self _) error
      rw [if_pos cut, visits]
      exact .cons here .nil
    · have entered : ¬a.cuts true i = true := by
        rw [cuts, kind]
        exact fun cut => error (beq_iff_eq.1 cut)
      rw [if_neg entered, List.append_nil, pendingBelow, formed.childrenBelow_eq found]
      have longer := List.rel_append made (.cons ⟨_, found, rfl, rfl⟩ .nil)
      refine .cons here (trailsAll_of_holdsAll formed all ?_ ?_ longer _)
      · exact fun c child c' within => bare c' (.deeper child within)
      · exact fun c child => down.append found error child

theorem trailsAll_of_holdsAll (formed : a.WellFormed) {bs : List Branch} {indices : List Nat}
    (all : a.HoldsAll line bs indices) (bare : ∀ b ∈ bs, b.Bare) {path : List Nat} {outer : List Draft}
    (down : ∀ i ∈ indices, a.Descent r (path ++ [i])) (made : List.Forall₂ a.MadeOf path outer)
    (ancestors : List NodeKind) :
    List.Forall₂ (a.Trails r) (a.visits true (indices.map (⟨·, ancestors⟩))) (Branch.trailsAll outer bs) := by
  match bs with
  | [] =>
    rw [all, List.map_nil, visits]
    exact .nil
  | b :: rest =>
    obtain ⟨i, others, rfl, here, there⟩ := all
    have split : (i :: others).map (Visit.mk · ancestors) = [⟨i, ancestors⟩] ++ others.map (⟨·, ancestors⟩) := rfl
    rw [split, visits_append, Branch.trailsAll]
    refine List.rel_append (trails_of_holds formed here ?_ (down i List.mem_cons_self) made ancestors)
      (trailsAll_of_holdsAll formed there ?_ (fun j member => down j (List.mem_cons_of_mem i member)) made ancestors)
    · exact bare b List.mem_cons_self
    · exact fun c member => bare c (List.mem_cons_of_mem b member)

end

/-- A node that was met below some roots was made of the draft at the end of a trail, and the trail leads down to it
from one of the roots. -/
structure EndsTrail (a : Arena) (roots : List Root) (item : Placed) (trail : List Draft × Draft) : Prop where
  kind : item.node.kind = trail.2.kind
  name : item.node.name = trail.2.name
  down : ∃ root ∈ roots, ∃ path, a.Descent root.index (path ++ [item.index]) ∧ List.Forall₂ a.MadeOf path trail.1

theorem EndsTrail.mono {roots more : List Root} (subset : roots ⊆ more) {item : Placed} {trail : List Draft × Draft}
    (ends : a.EndsTrail roots item trail) : a.EndsTrail more item trail := by
  obtain ⟨root, among, way⟩ := ends.down
  exact ⟨ends.kind, ends.name, root, subset among, way⟩

/-- What a walk of a root meets are the ends of the trails of the branch that is held there. -/
theorem endsTrails_walkRoot (formed : a.WellFormed) {b : Branch} {root : Root} (holds : a.Holds line b root.index)
    (bare : b.Bare) : List.Forall₂ (a.EndsTrail [root]) (a.walkRoot root) (b.trails []) := by
  have start : a.Descent root.index ([] ++ [root.index]) := .stop root.index
  have trails := trails_of_holds formed holds bare start .nil []
  unfold walkRoot
  generalize a.visits true [⟨root.index, []⟩] = vs at trails
  generalize b.trails [] = ts at trails
  induction trails with
  | nil => exact .nil
  | @cons v trail vs ts first _ ih =>
    obtain ⟨⟨node, found, kind, name⟩, path, down, made⟩ := first
    have placed : a.place? root v = some _ := congrArg (Option.map _) found
    rw [List.filterMap_cons_some placed]
    exact .cons ⟨kind, name, root, List.mem_singleton_self root, path, down, made⟩ ih

theorem endsTrails_walks (formed : a.WellFormed) {roots : List Root} {bs : List Branch}
    (held : List.Forall₂ (fun root b => ∃ line, a.Holds line b root.index) roots bs) (bare : ∀ b ∈ bs, b.Bare) :
    List.Forall₂ (a.EndsTrail roots) (roots.flatMap fun root => a.walkRoot root) (Branch.trailsAll [] bs) := by
  induction held with
  | nil => exact .nil
  | @cons root b roots bs first _ ih =>
    obtain ⟨line, holds⟩ := first
    rw [List.flatMap_cons, Branch.trailsAll]
    refine List.rel_append ((endsTrails_walkRoot formed holds (bare b List.mem_cons_self)).imp ?_) ?_
    · exact fun item trail => EndsTrail.mono (List.cons_subset_cons root (List.nil_subset roots))
    · refine (ih fun c member => bare c (List.mem_cons_of_mem b member)).imp ?_
      exact fun item trail => EndsTrail.mono (List.subset_cons_self root roots)

end Arena

namespace Parser

/-- A parser that has read nothing makes trees of nodes that share nothing. -/
theorem treeShaped_fromScratch (r : Revision) : (fromScratch r).arena.TreeShaped := by
  have empty : ({} : Parser).TreeShaped := fun k => Arena.treeShaped_empty
  exact TreeShaped.parse r empty none .nothing none _

theorem apart_fromScratch (r : Revision) : (fromScratch r).tree.Apart (fromScratch r).arena := by
  have answer : (ParseLog.start {} 200000).answer ⟨r, none, .nothing, none⟩ = fromScratch r := rfl
  have sound := (ParseLog.sound_start {} 200000).apply ⟨r, none, .nothing, none⟩
  unfold ParseLog.apply at sound
  rw [answer] at sound
  generalize fromScratch r = out at sound
  exact sound.tree_apart (List.mem_append_right _ (List.mem_singleton_self _))

/-- A walk from scratch meets the ends of the trails of the drafts that were kept. -/
theorem endsTrails_fromScratch {r : Revision} {profile : Profile}
    (supported : Profile.find? r.language = some profile) :
    List.Forall₂ ((fromScratch r).arena.EndsTrail (fromScratch r).tree.roots)
      ((fromScratch r).tree.walk (fromScratch r).arena)
      (Branch.trailsAll [] (Forest.build (Forest.ordered (Outline.kept profile r.text.toList)))) := by
  have branches : r.branches = Forest.build (Forest.ordered (Outline.kept profile r.text.toList)) := by
    unfold Revision.branches
    rw [supported]
    rfl
  have held := holds_fromScratch r
  rw [branches] at held
  exact Arena.endsTrails_walks (treeShaped_fromScratch r).formed (held.imp fun root b here => ⟨root.line, here.2⟩)
    (Forest.bare_of_mem_build _)

end Parser

end LiveLint
