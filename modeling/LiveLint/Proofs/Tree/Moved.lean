import LiveLint.Detect.Query
import LiveLint.Proofs.Scan.Offsets
import LiveLint.Proofs.Scan.Outlines
import LiveLint.Proofs.Tree.Stored
import Mathlib.Data.List.Basic

/-!
# Moving a root

A root that is placed on another line has the same nodes below it, all moved by the same number of lines.
What lies below an index stays on the lines of the top node if the arena holds a branch there.
-/

namespace LiveLint

namespace Span

theorem contains_self (s : Span) : s.contains s = true := by
  rw [contains_iff]
  exact ⟨Position.le_refl _, Position.le_refl _⟩

theorem lines_of_contains {outer inner : Span} (inside : outer.contains inner = true) :
    outer.start.line ≤ inner.start.line ∧ inner.stop.line ≤ outer.stop.line := by
  rw [contains_iff] at inside
  exact ⟨Position.line_le_of_le inside.1, Position.line_le_of_le inside.2⟩

end Span

theorem Branch.contains_of_nestedIn {span : Span} {cs : List Branch} (nested : NestedIn span cs)
    {c : Branch} (member : c ∈ cs) : span.contains c.draft.span = true ∧ c.Nested := by
  induction cs with
  | nil => cases member
  | cons first rest ih =>
    obtain ⟨inside, inner, later⟩ := nested
    rcases List.mem_cons.1 member with rfl | member
    · exact ⟨inside, inner⟩
    · exact ih later member

namespace Placed

def moved (root' : Root) (item : Placed) : Placed :=
  { item with
    startLine := item.startLine + ((root'.line : Int) - item.root.line)
    endLine := item.endLine + ((root'.line : Int) - item.root.line)
    root := root' }

/-- What a walk of a root knows of a node it meets: the node is one of those that can be reached, and it
is placed by the line of the root. -/
structure Below (a : Arena) (root : Root) (reached : Nat → Prop) (item : Placed) : Prop where
  within : reached item.index
  found : a.get? item.index = some item.node
  root_eq : item.root = root
  startLine : item.startLine = root.line + item.node.startLine
  endLine : item.endLine = root.line + item.node.endLine

end Placed

namespace Arena

/-- The indices that can be reached from a top node of some height: none lies behind the top node, and
their nodes lie on the lines of the top node. -/
structure Subtree (a : Arena) (top : Nat) (height : Int) (reached : Nat → Prop) : Prop where
  reached_top : reached top
  le : ∀ i, reached i → i ≤ top
  children : ∀ i, reached i → ∀ c ∈ a.childrenBelow i, reached c
  body : ∀ i node, reached i → a.get? i = some node → ∀ j, node.body = some j → reached j
  first : ∀ i node, reached i → a.get? i = some node → 0 ≤ node.startLine
  last : ∀ i node, reached i → a.get? i = some node → node.endLine < height

/-- A branch lies inside of a span and is held at an index, with lines counted from the first of the
span. -/
structure HeldInside (a : Arena) (outer : Span) (c : Branch) (i : Nat) : Prop where
  holds : a.Holds outer.start.line c i
  nested : c.Nested
  inside : outer.contains c.draft.span = true

/-- The node of a branch that is held inside of a span lies on its lines, and so do its children, which
have smaller indices. -/
theorem HeldInside.node {a : Arena} {outer : Span} {c : Branch} {i : Nat}
    (held : a.HeldInside outer c i) :
    ∃ node, a.get? i = some node ∧ (∀ j, node.body = some j → j ∈ node.children) ∧
      0 ≤ node.startLine ∧ node.endLine < (outer.stop.line : Int) + 1 - outer.start.line ∧
      ∀ j ∈ node.children, j < i ∧ ∃ child, a.HeldInside outer child j := by
  match c with
  | .mk d cs =>
    obtain ⟨⟨indices, found, smaller, all⟩, nested, inside⟩ := held
    obtain ⟨first, last⟩ := Span.lines_of_contains inside
    unfold Branch.draft at first last
    dsimp only at first last
    refine ⟨_, found, fun j body => Branch.mem_of_body_node body, ?_, ?_, ?_⟩
    · show (0 : Int) ≤ (d.span.start.line : Int) - outer.start.line
      omega
    · show (d.span.stop.line : Int) - outer.start.line < _
      omega
    · intro j child
      obtain ⟨c, member, held⟩ := all.exists_of_mem child
      obtain ⟨within, deeper⟩ := Branch.contains_of_nestedIn nested member
      exact ⟨smaller j child, c, held, deeper, Span.contains_trans inside within⟩

/-- Where an arena holds a branch, everything below lies on the lines of the branch. -/
theorem subtree_of_holds {a : Arena} {b : Branch} {top : Nat}
    (holds : a.Holds b.draft.span.start.line b top) (nested : b.Nested) :
    ∃ reached, a.Subtree top ((b.draft.span.stop.line : Int) + 1 - b.draft.span.start.line) reached := by
  refine ⟨fun i => i ≤ top ∧ ∃ c, a.HeldInside b.draft.span c i,
    ⟨Nat.le_refl top, b, holds, nested, Span.contains_self _⟩, fun i within => within.1, ?_, ?_, ?_, ?_⟩
  · rintro i ⟨le, c, held⟩ j child
    obtain ⟨node, found, -, -, -, children⟩ := held.node
    unfold childrenBelow at child
    rw [found] at child
    obtain ⟨smaller, below⟩ := children j (List.mem_of_mem_filter child)
    exact ⟨Nat.le_trans (Nat.le_of_lt smaller) le, below⟩
  · rintro i node ⟨le, c, held⟩ found j body
    obtain ⟨_, same, bodies, -, -, children⟩ := held.node
    cases found.symm.trans same
    obtain ⟨smaller, below⟩ := children j (bodies j body)
    exact ⟨Nat.le_trans (Nat.le_of_lt smaller) le, below⟩
  · rintro i node ⟨-, c, held⟩ found
    obtain ⟨_, same, -, first, -, -⟩ := held.node
    cases found.symm.trans same
    exact first
  · rintro i node ⟨-, c, held⟩ found
    obtain ⟨_, same, -, -, last, -⟩ := held.node
    cases found.symm.trans same
    exact last

theorem below_of_place? {a : Arena} {root : Root} {reached : Nat → Prop} {v : Visit} {item : Placed}
    (within : reached v.index) (placed : a.place? root v = some item) :
    item.Below a root reached := by
  obtain ⟨node, found, rfl⟩ := Option.map_eq_some_iff.1 placed
  exact ⟨within, found, rfl, rfl, rfl⟩

theorem place?_moved {a a' : Arena} {root root' : Root} {v : Visit}
    (same : a'.get? v.index = a.get? v.index) :
    a'.place? root' v = (a.place? root v).map (·.moved root') := by
  unfold place?
  rw [same, Option.map_map]
  congr 1
  funext node
  simp only [Function.comp_apply, Placed.moved, Placed.mk.injEq, true_and, and_true]
  omega

variable {a a' : Arena} {root root' : Root} {height : Int} {reached : Nat → Prop}

/-- Visits of what can be reached are placed as before, moved with the root. -/
theorem filterMap_place?_moved (subtree : a.Subtree root.index height reached)
    (same : ∀ i, i ≤ root.index → a'.get? i = a.get? i) {pending : List Visit}
    (start : ∀ v ∈ pending, reached v.index) (skipErrors : Bool) :
    (a'.visits skipErrors pending).filterMap (a'.place? root') =
      ((a.visits skipErrors pending).filterMap (a.place? root)).map (·.moved root') := by
  rw [visits_congr same skipErrors fun v member => subtree.le v.index (start v member),
    List.map_filterMap]
  refine List.filterMap_congr ?_
  intro v member
  exact place?_moved (same v.index (subtree.le v.index (mem_visits subtree.children start member)))

theorem below_of_mem_filterMap (subtree : a.Subtree root.index height reached) {pending : List Visit}
    (start : ∀ v ∈ pending, reached v.index) {skipErrors : Bool} {item : Placed}
    (member : item ∈ (a.visits skipErrors pending).filterMap (a.place? root)) :
    item.Below a root reached := by
  obtain ⟨v, visited, placed⟩ := List.mem_filterMap.1 member
  exact below_of_place? (mem_visits subtree.children start visited) placed

/-- A walk of a root that was moved meets the same nodes, moved with it. -/
theorem walkRoot_moved (subtree : a.Subtree root.index height reached)
    (index : root'.index = root.index) (same : ∀ i, i ≤ root.index → a'.get? i = a.get? i)
    (skipErrors : Bool) :
    a'.walkRoot root' skipErrors = (a.walkRoot root skipErrors).map (·.moved root') := by
  unfold walkRoot
  rw [index]
  exact filterMap_place?_moved subtree same
    (fun v member => by rw [List.mem_singleton.1 member]; exact subtree.reached_top) skipErrors

theorem below_of_mem_walkRoot (subtree : a.Subtree root.index height reached) {skipErrors : Bool}
    {item : Placed} (member : item ∈ a.walkRoot root skipErrors) : item.Below a root reached :=
  below_of_mem_filterMap subtree
    (fun v member => by rw [List.mem_singleton.1 member]; exact subtree.reached_top) member

/-- The same of a walk below one of the nodes. -/
theorem walkBelow_moved (subtree : a.Subtree root.index height reached)
    (same : ∀ i, i ≤ root.index → a'.get? i = a.get? i) {item : Placed}
    (below : item.Below a root reached) (skipErrors : Bool) :
    a'.walkBelow (item.moved root') skipErrors =
      (a.walkBelow item skipErrors).map (·.moved root') := by
  have here := same item.index (subtree.le item.index below.within)
  have pending : a'.pendingBelow ⟨item.index, item.ancestors⟩ =
      a.pendingBelow ⟨item.index, item.ancestors⟩ := by
    unfold pendingBelow childrenBelow kind
    rw [here]
  unfold walkBelow
  show (a'.visits skipErrors (a'.pendingBelow ⟨item.index, item.ancestors⟩)).filterMap
    (a'.place? root') = _
  rw [pending, below.root_eq]
  refine filterMap_place?_moved subtree same ?_ skipErrors
  intro v member
  obtain ⟨c, child, rfl⟩ := List.mem_map.1 member
  exact subtree.children item.index below.within c child

theorem bodyOf?_moved (subtree : a.Subtree root.index height reached)
    (same : ∀ i, i ≤ root.index → a'.get? i = a.get? i) {item : Placed}
    (below : item.Below a root reached) :
    a'.bodyOf? (item.moved root') = (a.bodyOf? item).map (·.moved root') := by
  unfold bodyOf?
  rw [below.root_eq]
  show item.node.body.bind _ = _
  cases body : item.node.body with
  | none => rfl
  | some j =>
    have within := subtree.body item.index item.node below.within below.found j body
    exact place?_moved (same j (subtree.le j within))

theorem below_of_bodyOf? (subtree : a.Subtree root.index height reached) {item body : Placed}
    (below : item.Below a root reached) (found : a.bodyOf? item = some body) :
    body.Below a root reached := by
  unfold bodyOf? at found
  obtain ⟨j, is_body, placed⟩ := Option.bind_eq_some_iff.1 found
  rw [below.root_eq] at placed
  exact below_of_place? (subtree.body item.index item.node below.within below.found j is_body) placed

end Arena

end LiveLint
