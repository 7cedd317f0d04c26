import LiveLint.Proofs.Scan.Nesting
import LiveLint.Proofs.Tree.Faces

/-!
# Walks of forests

A walk of a forest meets its drafts in the order that the forest was built from. What it meets below a node is a
part of what it meets as a whole, so the drafts that a body holds are met below the body.
-/

namespace LiveLint

def Draft.range (d : Draft) : SourceRange :=
  ⟨d.span.start.line, d.span.start.col, d.span.stop.line, d.span.stop.col⟩

/-- A forest shows the kinds and the ranges of its drafts in their order. -/
theorem Forest.map_facesAll_build (ds : List Draft) (skipErrors : Bool) (ancestors : List NodeKind) :
    (Branch.facesAll 0 skipErrors ancestors (build ds)).map (fun f => (f.kind, f.range)) =
      ds.map fun d => (d.kind, d.range) := by
  have range_zero (d : Draft) (cs : List Branch) : Branch.range 0 (.mk d cs) = d.range := by
    unfold Branch.range Draft.range Branch.draft
    dsimp only
    rw [Int.add_zero, Int.add_zero]
  fun_induction build ds generalizing ancestors with
  | case1 => rfl
  | case2 d rest error ih =>
    have alone : (if (skipErrors && d.kind == .error) = true then []
        else Branch.facesAll 0 skipErrors (d.kind :: ancestors) []) = [] := by
      split <;> rfl
    rw [Branch.facesAll, Branch.faces, alone, List.singleton_append, List.map_cons, ih, List.map_cons, range_zero]
  | case3 d rest readable ih₁ ih₂ =>
    have entered : ¬(skipErrors && d.kind == .error) = true := by
      rw [Bool.and_eq_true]
      exact fun both => readable both.2
    rw [Branch.facesAll, Branch.faces, if_neg entered, List.cons_append, List.map_cons, List.map_append, ih₁, ih₂,
      ← List.map_append, List.takeWhile_append_dropWhile, List.map_cons, range_zero]

namespace Arena

variable {a : Arena} {skipErrors : Bool} {root : Root} {item body : Placed} {b : Branch}

/-- What a walk meets from a node on is a part of every walk that meets the node. -/
theorem visits_sublist {v : Visit} {pending : List Visit} (member : v ∈ a.visits skipErrors pending) :
    (a.visits skipErrors [v]).Sublist (a.visits skipErrors pending) := by
  fun_induction visits a skipErrors pending with
  | case1 => cases member
  | case2 w pending cut ih =>
    rcases List.mem_cons.1 member with rfl | later
    · rw [visits_cons, if_pos cut, visits]
      exact (List.nil_sublist _).cons_cons v
    · exact (ih later).cons w
  | case3 w pending cut ih =>
    rcases List.mem_cons.1 member with rfl | later
    · rw [visits_cons, if_neg cut, List.append_nil, visits_append]
      exact (List.sublist_append_left _ _).cons_cons v
    · exact (ih later).cons w

/-- What is pending is met. -/
theorem mem_visits_of_mem {v : Visit} {pending : List Visit} (member : v ∈ pending) :
    v ∈ a.visits skipErrors pending := by
  obtain ⟨front, back, rfl⟩ := List.append_of_mem member
  rw [visits_append, visits_cons]
  refine List.mem_append_right _ ?_
  split <;> exact List.mem_cons_self ..

/-- What stands below a node that stands for a branch and is no error. -/
theorem exists_below_of_stands (stands : item.Stands a b) :
    ∃ indices, item.node = Branch.node item.root.line b.draft b.children indices ∧
      a.HoldsAll item.root.line b.children indices ∧
      a.pendingBelow ⟨item.index, item.ancestors⟩ = indices.map (⟨·, b.draft.kind :: item.ancestors⟩) := by
  cases b with
  | mk d cs =>
    obtain ⟨indices, found, smaller, all⟩ := stands.holds
    obtain ⟨-, -, -, found'⟩ := place?_eq stands.placed
    refine ⟨indices, Option.some.inj (found'.symm.trans found), all, ?_⟩
    unfold pendingBelow childrenBelow Arena.kind
    dsimp only
    rw [found]
    show ((indices.filter (· < item.index)).map _) = _
    rw [List.filter_eq_self.2 fun c member => decide_eq_true (smaller c member)]
    rfl

theorem cuts_of_stands (stands : item.Stands a b) (readable : ¬b.draft.isError = true) :
    ¬a.cuts skipErrors item.index = true := by
  cases b with
  | mk d cs =>
    obtain ⟨indices, found, -⟩ := stands.holds
    unfold cuts Arena.kind
    rw [found, Bool.and_eq_true]
    exact fun both => readable both.2

/-- A walk below a node meets a part of what a walk meets from the node on. -/
theorem visits_below_sublist (stands : item.Stands a b) (readable : ¬b.draft.isError = true)
    (skipErrors : Bool) :
    (a.visits skipErrors (a.pendingBelow ⟨item.index, item.ancestors⟩)).Sublist
      (a.visits skipErrors [⟨item.index, item.ancestors⟩]) := by
  rw [visits_cons, if_neg (cuts_of_stands stands readable), List.append_nil]
  exact List.sublist_cons_self ..

/-- A walk below a node shows what the branch has below it. -/
theorem faces_walkBelow (stands : item.Stands a b) (skipErrors : Bool) :
    (a.walkBelow item skipErrors).map a.face =
      Branch.facesAll 0 skipErrors (b.draft.kind :: item.ancestors) b.children := by
  obtain ⟨indices, -, all, below⟩ := exists_below_of_stands stands
  unfold walkBelow
  rw [below, facesAll_of_holdsAll all, Int.sub_self]

/-- What is found under a name is the branch with the name. -/
theorem exists_holds_of_named {line : Nat} {name : Option Nat} {cs : List Branch} {indices : List Nat} {i : Nat}
    (all : a.HoldsAll line cs indices)
    (found : (((cs.map (·.draft.id)).zip indices).find? fun (id, _) => name == some id).map (·.2) = some i) :
    i ∈ indices ∧ ∃ c ∈ cs, name = some c.draft.id ∧ a.Holds line c i := by
  refine ⟨index_mem found, ?_⟩
  induction cs generalizing indices with
  | nil => cases found
  | cons c rest ih =>
    obtain ⟨j, others, rfl, here, there⟩ := all
    rw [List.map_cons, List.zip_cons_cons, List.find?_cons] at found
    split at found
    · next named =>
      cases found
      exact ⟨c, List.mem_cons_self .., eq_of_beq named, here⟩
    · obtain ⟨c', member, named, holds⟩ := ih there found
      exact ⟨c', List.mem_cons_of_mem _ member, named, holds⟩

/-- The body of a node stands for the branch that the draft names, directly below the node. -/
theorem exists_stands_of_bodyOf? (stands : item.Stands a b) (found : a.bodyOf? item = some body) :
    body.root = item.root ∧ ⟨body.index, body.ancestors⟩ ∈ a.pendingBelow ⟨item.index, item.ancestors⟩ ∧
      ∃ c ∈ b.children, b.draft.body = some c.draft.id ∧ body.Stands a c := by
  obtain ⟨indices, node, all, below⟩ := exists_below_of_stands stands
  obtain ⟨i, named, placed⟩ := Option.bind_eq_some_iff.1 found
  rw [node] at named placed
  obtain ⟨index, ancestors, same_root, -⟩ := place?_eq placed
  obtain ⟨child, c, member, named, holds⟩ := exists_holds_of_named all named
  have visit : (⟨body.index, body.ancestors⟩ : Visit) = ⟨i, b.draft.kind :: item.ancestors⟩ := by
    rw [index, ancestors]
    rfl
  refine ⟨same_root, ?_, c, member, named, ?_, ?_⟩
  · rw [visit, below]
    exact List.mem_map.2 ⟨i, child, rfl⟩
  · rw [same_root, index]
    exact holds
  · rw [same_root, visit]
    exact placed

/-- What a walk meets below the body of a node is a part of what it meets as a whole. -/
theorem walkBelow_sublist {c : Branch} (stands : item.Stands a b) (readable : ¬b.draft.isError = true)
    (same_root : item.root = root)
    (visited : ⟨item.index, item.ancestors⟩ ∈ a.visits skipErrors [⟨root.index, []⟩])
    (found : a.bodyOf? item = some body) (stands' : body.Stands a c) (readable' : ¬c.draft.isError = true) :
    (a.walkBelow body skipErrors).Sublist (a.walkRoot root skipErrors) := by
  obtain ⟨body_root, pending, -⟩ := exists_stands_of_bodyOf? stands found
  have part := ((visits_below_sublist stands' readable' skipErrors).trans
    (visits_sublist (mem_visits_of_mem pending))).trans
    ((visits_below_sublist stands readable skipErrors).trans (visits_sublist visited))
  unfold walkBelow walkRoot
  rw [body_root, same_root]
  exact part.filterMap _

end Arena

end LiveLint
