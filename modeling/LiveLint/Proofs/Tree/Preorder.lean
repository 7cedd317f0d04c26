import LiveLint.Proofs.Scan.Rounds
import LiveLint.Proofs.Tree.Grown
import LiveLint.Scan.Indexed
import Mathlib.Data.List.Nodup

/-!
# Walks in preorder

A subtree has spots: its node comes first, then come the spots of its first child, then those of the second. A spot
knows the way down to it, as the number of the child that is taken each time, so that a node with several ways down to
it has several spots. A walk that goes round with a stack meets the spots in this order, each with the kinds of the
nodes on its way. One that stops at errors meets those with no error on their way. What a walk meets below a node are
the spots whose ways go on from there.
-/

namespace LiveLint

/-!
## Walks with a stack

Walks over an arena once more, as they go round by round. A stack holds the nodes to be entered, each with the kinds
of what stands above it. A round takes the node on top, fetches it by its index and pushes all its children, the last
one first. Only what the arena holds brings such a walk to its end: where a node stands below itself, it goes round for
ever.
-/

namespace Indexed

/-- One round of a walk: the stack, and what was met so far, newest first. -/
def visitRound (a : Arena) (root : Root) (skipErrors : Bool) :
    List Visit × List Placed → Except Lapse ((List Visit × List Placed) ⊕ List Placed)
  | ([], met) => return .inr met.reverse
  | (v :: stack, met) => do
    let node ← fetch a.nodes.toList v.index
    let item : Placed :=
      { index := v.index
        node
        startLine := root.line + node.startLine
        endLine := root.line + node.endLine
        ancestors := v.ancestors
        root }
    if skipErrors && node.kind == .error then return .inl (stack, item :: met)
    let push (stack : List Visit) (c : Nat) : List Visit := ⟨c, node.kind :: v.ancestors⟩ :: stack
    return .inl (node.children.reverse.foldl push stack, item :: met)

/-- What a walk meets from a node on, in a number of rounds. -/
def walk (a : Arena) (rounds : Nat) (root : Root) (skipErrors : Bool) (v : Visit) : Except Lapse (List Placed) :=
  loop (visitRound a root skipErrors) rounds ([v], [])

def walkRoot (a : Arena) (rounds : Nat) (root : Root) (skipErrors : Bool := true) : Except Lapse (List Placed) :=
  walk a rounds root skipErrors ⟨root.index, []⟩

/-- Everything strictly below a placed node, one walk for each child. -/
def walkBelow (a : Arena) (rounds : Nat) (item : Placed) (skipErrors : Bool := true) : Except Lapse (List Placed) :=
  gather (fun c => walk a rounds item.root skipErrors ⟨c, item.node.kind :: item.ancestors⟩) item.node.children

/-- One round of counting: the stack, and the number of nodes met so far. -/
def countRound (a : Arena) : List Nat × Nat → Except Lapse ((List Nat × Nat) ⊕ Nat)
  | ([], count) => return .inr count
  | (i :: stack, count) => do
    let node ← fetch a.nodes.toList i
    return .inl (node.children.foldl (fun stack c => c :: stack) stack, count + 1)

def subtreeSize (a : Arena) (rounds : Nat) (i : Nat) : Except Lapse Nat := loop (countRound a) rounds ([i], 0)

end Indexed

/-- A place in a subtree. -/
structure Spot where
  index : Nat
  /-- Which child to take each time on the way down. -/
  way : List Nat
  /-- The nodes on the way down, from the top of the subtree to the parent. -/
  above : List Nat
  deriving DecidableEq, Repr

namespace Spot

/-- The spot in a larger subtree, below another node as one of its children. -/
def under (i n : Nat) (s : Spot) : Spot := ⟨s.index, n :: s.way, i :: s.above⟩

/-- A spot of the subtree at another spot, from above. -/
def graft (s t : Spot) : Spot := ⟨t.index, s.way ++ t.way, s.above ++ t.above⟩

/-- Whether another spot lies strictly below a spot. -/
def isAbove (s t : Spot) : Bool := s.way.isPrefixOf t.way && s.way != t.way

/-- Whether no node above a spot is an error. -/
def isOpen (a : Arena) (s : Spot) : Bool := s.above.all (a.kind · != .error)

/-- Whether a walk comes to a spot: it stops at no node above. -/
def isMet (a : Arena) (skipErrors : Bool) (s : Spot) : Bool := s.above.all (!a.cuts skipErrors ·)

/-- The visit of a walk at a spot, below some ancestors. -/
def visit (a : Arena) (ancestors : List NodeKind) (s : Spot) : Visit :=
  ⟨s.index, (s.above.map a.kind).reverse ++ ancestors⟩

end Spot

namespace Arena

/-- The spots of the subtree of a node by plain recursion: the node, then the spots of its children from left to
right. -/
def spots (a : Arena) (i : Nat) : List Spot :=
  ⟨i, [], []⟩ :: (a.childrenBelow i).attach.zipIdx.flatMap fun p => (a.spots p.1.1).map (.under i p.2)
termination_by i
decreasing_by exact lt_of_mem_childrenBelow p.1.2

/-- Children come before their parents. -/
def ChildrenFirst (a : Arena) : Prop := ∀ i node, a.get? i = some node → ∀ c ∈ node.children, c < i

/-- A node that was met at a spot below a root: its lines are shifted by the line of the root, and its ancestors are
the kinds of the nodes on the way, nearest first. -/
structure Shows (a : Arena) (root : Root) (s : Spot) (item : Placed) : Prop where
  index : item.index = s.index
  node : a.get? s.index = some item.node
  startLine : item.startLine = root.line + item.node.startLine
  endLine : item.endLine = root.line + item.node.endLine
  ancestors : item.ancestors = (s.above.map a.kind).reverse
  root : item.root = root

variable {a : Arena} {skipErrors : Bool} {i : Nat}

/-- Whatever is stored keeps to this order. -/
theorem WellFormed.childrenFirst (formed : a.WellFormed) : a.ChildrenFirst :=
  fun i node found c member => ((formed i node found).children c member).2

/-!
## Spots
-/

theorem spots_eq (a : Arena) (i : Nat) :
    a.spots i = ⟨i, [], []⟩ :: (a.childrenBelow i).zipIdx.flatMap fun p => (a.spots p.1).map (.under i p.2) := by
  have attached := congrArg List.zipIdx (List.attach_map_subtype_val (a.childrenBelow i))
  rw [List.zipIdx_map] at attached
  rw [spots, ← attached, List.flatMap_map]
  rfl

theorem spots_eq_cons_tail (a : Arena) (i : Nat) : a.spots i = ⟨i, [], []⟩ :: (a.spots i).tail := by
  rw [spots_eq, List.tail_cons]

theorem mem_spots_iff {s : Spot} :
    s ∈ a.spots i ↔ s = ⟨i, [], []⟩ ∨
      ∃ n c, (a.childrenBelow i)[n]? = some c ∧ ∃ t ∈ a.spots c, s = t.under i n := by
  rw [spots_eq, List.mem_cons, List.mem_flatMap]
  refine or_congr_right ⟨?_, ?_⟩
  · rintro ⟨⟨c, n⟩, child, below⟩
    obtain ⟨t, member, rfl⟩ := List.mem_map.1 below
    exact ⟨n, c, List.mem_zipIdx_iff_getElem?.1 child, t, member, rfl⟩
  · rintro ⟨n, c, child, t, member, rfl⟩
    exact ⟨(c, n), List.mem_zipIdx_iff_getElem?.2 child, List.mem_map_of_mem member⟩

theorem way_ne_nil {s : Spot} (member : s ∈ (a.spots i).tail) : s.way ≠ [] := by
  rw [spots_eq, List.tail_cons, List.mem_flatMap] at member
  obtain ⟨p, -, below⟩ := member
  obtain ⟨t, -, rfl⟩ := List.mem_map.1 below
  exact List.cons_ne_nil _ _

theorem lt_of_mem_zipIdx {p : Nat × Nat} (child : p ∈ (a.childrenBelow i).zipIdx) : p.1 < i :=
  lt_of_mem_childrenBelow (List.mem_of_getElem? (List.mem_zipIdx_iff_getElem?.1 child))

/-- The spots of a subtree are told apart by their ways. -/
theorem nodup_ways (a : Arena) (i : Nat) : ((a.spots i).map (·.way)).Nodup := by
  induction i using Nat.strongRecOn with
  | ind i ih =>
    have block (p : Nat × Nat) : ((a.spots p.1).map (Spot.under i p.2)).map (·.way) =
        ((a.spots p.1).map (·.way)).map (p.2 :: ·) := by
      rw [List.map_map, List.map_map]
      rfl
    rw [spots_eq, List.map_cons, List.map_flatMap, List.nodup_cons, List.nodup_flatMap]
    simp only [block]
    refine ⟨?_, fun p child => (ih p.1 (lt_of_mem_zipIdx child)).map (List.cons_injective), ?_⟩
    · simp
    · have numbered : (a.childrenBelow i).zipIdx.Pairwise fun p q => p.2 < q.2 := by
        rw [← List.pairwise_map, List.zipIdx_map_snd]
        exact List.pairwise_lt_range'
      -- Ways through two children differ in their first number.
      refine numbered.imp fun {p q} less way left right => ?_
      obtain ⟨w, -, rfl⟩ := List.mem_map.1 left
      obtain ⟨w', -, same⟩ := List.mem_map.1 right
      exact Nat.ne_of_gt less (List.cons_eq_cons.1 same).1

theorem index_le_of_mem_spots {s : Spot} (member : s ∈ a.spots i) : s.index ≤ i := by
  induction i using Nat.strongRecOn generalizing s with
  | ind i ih =>
    rcases mem_spots_iff.1 member with rfl | ⟨n, c, child, t, below, rfl⟩
    · exact Nat.le_refl i
    · have less := lt_of_mem_childrenBelow (List.mem_of_getElem? child)
      exact Nat.le_trans (ih c less below : t.index ≤ c) (Nat.le_of_lt less)

theorem length_flatMap_eq_total {α β : Type} (f : α → List β) (xs : List α) :
    (xs.flatMap f).length = total (fun x => (f x).length) xs := by
  induction xs with
  | nil => rfl
  | cons x rest ih => rw [List.flatMap_cons, List.length_append, ih, total_cons]

theorem total_reverse {α : Type} (quantity : α → Nat) (xs : List α) :
    total quantity xs.reverse = total quantity xs := by
  induction xs with
  | nil => rfl
  | cons x rest ih =>
    rw [List.reverse_cons, total_append, ih, total_cons, total_cons, Nat.add_comm]
    rfl

/-- A subtree has as many spots as nodes are counted in it. -/
theorem length_spots (a : Arena) (i : Nat) : (a.spots i).length = a.subtreeSize i := by
  induction i using Nat.strongRecOn with
  | ind i ih =>
    have blocks : total (fun p => ((a.spots p.1).map (Spot.under i p.2)).length) (a.childrenBelow i).zipIdx =
        total (fun p => a.subtreeSize p.1) (a.childrenBelow i).zipIdx :=
      total_congr fun p child => by rw [List.length_map, ih p.1 (lt_of_mem_zipIdx child)]
    rw [spots_eq, List.length_cons, length_flatMap_eq_total, blocks, ← total_map a.subtreeSize Prod.fst,
      List.zipIdx_map_fst, subtreeSize_eq, Nat.add_comm]

/-- Of the blocks of a numbered list, only the one with a given number is left if the others are empty. -/
theorem flatMap_zipIdx_of_single {α β : Type} {f : α × Nat → List β} {xs : List α} {k n : Nat} {x : α}
    (here : xs[n]? = some x) (others : ∀ p, p.2 ≠ k + n → f p = []) : (xs.zipIdx k).flatMap f = f (x, k + n) := by
  induction xs generalizing k n with
  | nil => cases here
  | cons y rest ih =>
    rw [List.zipIdx_cons, List.flatMap_cons]
    cases n with
    | zero =>
      cases here
      have none_left : (rest.zipIdx (k + 1)).flatMap f = [] := by
        refine List.flatMap_eq_nil_iff.2 fun p member => others p ?_
        have := List.le_snd_of_mem_zipIdx member
        omega
      rw [none_left, List.append_nil]
      rfl
    | succ n =>
      rw [others (y, k) (by dsimp only; omega), List.nil_append,
        ih (k := k + 1) here fun p other => others p (by omega)]
      congr 2
      omega

/-- The spots at and below a spot are those of the subtree there. -/
theorem filter_way_spots {s : Spot} (member : s ∈ a.spots i) :
    (a.spots i).filter (fun t => s.way.isPrefixOf t.way) = (a.spots s.index).map s.graft := by
  induction i using Nat.strongRecOn generalizing s with
  | ind i ih =>
    rcases mem_spots_iff.1 member with rfl | ⟨n, c, child, s, below, rfl⟩
    · have all_kept : (a.spots i).filter (fun t => [].isPrefixOf t.way) = a.spots i :=
        List.filter_eq_self.2 fun t _ => rfl
      have same : Spot.graft ⟨i, [], []⟩ = id := rfl
      rw [all_kept, same, List.map_id]
    · have less := lt_of_mem_childrenBelow (List.mem_of_getElem? child)
      have block (p : Nat × Nat) : ((a.spots p.1).map (Spot.under i p.2)).filter
          (fun t => (s.under i n).way.isPrefixOf t.way) =
            ((a.spots p.1).filter fun t => n == p.2 && s.way.isPrefixOf t.way).map (.under i p.2) := List.filter_map
      -- Of all blocks, only the one of the child that the way takes is left.
      rw [spots_eq, List.filter_cons_of_neg (by simp [Spot.under]), List.filter_flatMap]
      simp only [block]
      rw [flatMap_zipIdx_of_single child]
      · rw [Nat.zero_add]
        simp only [beq_self_eq_true, Bool.true_and]
        rw [ih c less below, List.map_map]
        rfl
      · intro p other
        rw [List.filter_eq_nil_iff.2, List.map_nil]
        intro t _
        have different : (n == p.2) = false := by simpa using fun same : n = p.2 => other (by omega)
        simp [different]

theorem subtreeSize_le_of_mem_spots {s : Spot} (member : s ∈ a.spots i) : a.subtreeSize s.index ≤ a.subtreeSize i := by
  rw [← length_spots, ← length_spots, ← List.length_map s.graft, ← filter_way_spots member]
  exact List.length_filter_le _ _

theorem subtreeSize_le_of_mem_childrenBelow {c : Nat} (child : c ∈ a.childrenBelow i) :
    a.subtreeSize c ≤ a.subtreeSize i := by
  obtain ⟨n, here⟩ := List.mem_iff_getElem?.1 child
  exact subtreeSize_le_of_mem_spots (mem_spots_iff.2 <| Or.inr ⟨n, c, here, _, mem_spots_iff.2 (Or.inl rfl), rfl⟩)

/-- The spots strictly below a spot are those of the subtree there, without its top. -/
theorem filter_isAbove_spots {s : Spot} (member : s ∈ a.spots i) :
    (a.spots i).filter (s.isAbove ·) = (a.spots s.index).tail.map s.graft := by
  have top : (a.spots s.index).filter (fun t => s.way != (s.graft t).way) = (a.spots s.index).tail := by
    have below : ∀ t ∈ (a.spots s.index).tail, (s.way != (s.graft t).way) = true := by
      intro t member
      simpa [Spot.graft] using way_ne_nil member
    conv_lhs => rw [spots_eq_cons_tail]
    rw [List.filter_cons_of_neg (by simp [Spot.graft]), List.filter_eq_self.2 below]
  have split : (a.spots i).filter (s.isAbove ·) =
      ((a.spots i).filter fun t => s.way.isPrefixOf t.way).filter (s.way != ·.way) := by
    rw [List.filter_filter]
    exact List.filter_congr fun t _ => Bool.and_comm _ _
  rw [split, filter_way_spots member, List.filter_map, ← top]
  rfl

/-!
## Walks
-/

/-- A plain recursion deals with the children of a node one after the other. -/
theorem preorder_eq (a : Arena) (skipErrors : Bool) (v : Visit) :
    a.preorder skipErrors v =
      if a.cuts skipErrors v.index then [v] else v :: (a.pendingBelow v).flatMap (a.preorder skipErrors) := by
  have attached := List.attach_map_subtype_val (a.childrenBelow v.index)
  rw [preorder, pendingBelow, List.flatMap_map]
  split
  · rfl
  · conv_rhs => rw [← attached, List.flatMap_map]

/-- A walk with a list of what is pending is the plain recursion. -/
theorem visits_eq_flatMap_preorder (pending : List Visit) :
    a.visits skipErrors pending = pending.flatMap (a.preorder skipErrors) := by
  fun_induction visits a skipErrors pending with
  | case1 => rfl
  | case2 v pending cut ih => rw [ih, List.flatMap_cons, preorder_eq, if_pos cut, List.singleton_append]
  | case3 v pending entered ih =>
    rw [ih, List.flatMap_append, List.flatMap_cons, preorder_eq, if_neg entered, List.cons_append]

/-- The plain recursion visits the spots that it comes to. -/
theorem preorder_eq_map_spots (a : Arena) (skipErrors : Bool) (i : Nat) (ancestors : List NodeKind) :
    a.preorder skipErrors ⟨i, ancestors⟩ =
      ((a.spots i).filter (·.isMet a skipErrors)).map (·.visit a ancestors) := by
  induction i using Nat.strongRecOn generalizing ancestors with
  | ind i ih =>
    have block (p : Nat × Nat) : ((a.spots p.1).map (Spot.under i p.2)).filter (·.isMet a skipErrors) =
        ((a.spots p.1).filter fun t => !a.cuts skipErrors i && t.isMet a skipErrors).map (.under i p.2) :=
      List.filter_map
    have top : Spot.isMet a skipErrors ⟨i, [], []⟩ = true := rfl
    rw [preorder_eq, spots_eq, List.filter_cons_of_pos top, List.filter_flatMap, List.map_cons, List.map_flatMap]
    simp only [block]
    by_cases cut : a.cuts skipErrors i = true
    · rw [if_pos cut]
      simp [cut, Spot.visit]
    · have entered : a.cuts skipErrors i = false := Bool.eq_false_iff.2 cut
      have visit_under (p : Nat × Nat) (t : Spot) :
          (t.under i p.2).visit a ancestors = t.visit a (a.kind i :: ancestors) := by
        simp [Spot.visit, Spot.under]
      rw [if_neg cut, pendingBelow, List.flatMap_map, ← List.zipIdx_map_fst 0 (a.childrenBelow i), List.flatMap_map,
        List.zipIdx_map_fst]
      refine congrArg _ (List.flatMap_congr fun p child => ?_)
      rw [ih p.1 (lt_of_mem_zipIdx child), List.map_map]
      simp only [entered, Bool.not_false, Bool.true_and]
      exact List.map_congr_left fun t _ => (visit_under p t).symm

/-- Below a node at which it does not stop, a walk visits the spots below its top. -/
theorem visits_pendingBelow {j : Nat} (entered : ¬a.cuts skipErrors j = true) (ancestors : List NodeKind) :
    a.visits skipErrors (a.pendingBelow ⟨j, ancestors⟩) =
      ((a.spots j).tail.filter (·.isMet a skipErrors)).map (·.visit a ancestors) := by
  have whole := preorder_eq_map_spots a skipErrors j ancestors
  have top : Spot.isMet a skipErrors ⟨j, [], []⟩ = true := rfl
  rw [preorder_eq, if_neg entered, spots_eq_cons_tail, List.filter_cons_of_pos top, List.map_cons] at whole
  rw [visits_eq_flatMap_preorder]
  exact (List.cons_eq_cons.1 whole).2

/-- What a walk visits below a spot that it comes to are the spots strictly below it that it comes to. -/
theorem visits_below_spot {s : Spot} (member : s ∈ a.spots i) (met : s.isMet a skipErrors = true)
    (entered : ¬a.cuts skipErrors s.index = true) :
    a.visits skipErrors (a.pendingBelow (s.visit a [])) =
      (((a.spots i).filter (·.isMet a skipErrors)).filter (s.isAbove ·)).map (·.visit a []) := by
  have grafted : ((a.spots s.index).tail.map s.graft).filter (·.isMet a skipErrors) =
      ((a.spots s.index).tail.filter (·.isMet a skipErrors)).map s.graft := by
    rw [List.filter_map]
    refine congrArg _ (List.filter_congr fun t _ => ?_)
    unfold Spot.isMet at met ⊢
    simp [Spot.graft, met]
  have swapped : ((a.spots i).filter (·.isMet a skipErrors)).filter (s.isAbove ·) =
      ((a.spots i).filter (s.isAbove ·)).filter (·.isMet a skipErrors) := by
    rw [List.filter_filter, List.filter_filter]
    exact List.filter_congr fun t _ => Bool.and_comm _ _
  rw [swapped, filter_isAbove_spots member, grafted, List.map_map, Spot.visit, visits_pendingBelow entered]
  refine List.map_congr_left fun t _ => ?_
  simp [Spot.visit, Spot.graft]

/-- What is placed shows the spots of the visits. -/
theorem forall₂_shows (root : Root) {ss : List Spot} (inside : ∀ s ∈ ss, s.index < a.size) :
    List.Forall₂ (a.Shows root) ss ((ss.map (·.visit a [])).filterMap (a.place? root)) := by
  induction ss with
  | nil => exact .nil
  | cons s rest ih =>
    obtain ⟨here, others⟩ := List.forall_mem_cons.1 inside
    have found : a.get? s.index = some a.nodes[s.index] := Array.getElem?_eq_getElem here
    have placed : a.place? root (s.visit a []) = some _ := congrArg (Option.map _) found
    rw [List.map_cons, List.filterMap_cons_some placed]
    exact .cons ⟨rfl, found, rfl, rfl, List.append_nil _, rfl⟩ (ih others)

end Arena

namespace Indexed

open Arena

variable {a : Arena} {rounds : Nat} {skipErrors : Bool}

theorem fetch_node {i : Nat} {node : Node} (found : a.get? i = some node) : fetch a.nodes.toList i = .ok node := by
  refine fetch_eq ?_
  rw [Array.getElem?_toList]
  exact found

/-- What stands below a node of an arena is in the arena. -/
theorem mem_pendingBelow_lt {v w : Visit} (inside : v.index < a.size) (member : w ∈ a.pendingBelow v) :
    w.index < a.size := by
  obtain ⟨c, child, rfl⟩ := List.mem_map.1 member
  exact Nat.lt_trans (lt_of_mem_childrenBelow child) inside

/-- A round of a walk meets the node on top of the stack and puts what is pending below it in its place. -/
theorem visitRound_cons (first : a.ChildrenFirst) (root : Root) (skipErrors : Bool) {v : Visit}
    (here : v.index < a.size) (stack : List Visit) (met : List Placed) :
    ∃ item, a.place? root v = some item ∧ visitRound a root skipErrors (v :: stack, met) =
      .ok (.inl (if a.cuts skipErrors v.index then stack else a.pendingBelow v ++ stack, item :: met)) := by
  have found : a.get? v.index = some a.nodes[v.index] := Array.getElem?_eq_getElem here
  have cut : a.cuts skipErrors v.index = (skipErrors && a.nodes[v.index].kind == .error) := by
    rw [cuts, Arena.kind, found]
    rfl
  have pushed : a.nodes[v.index].children.reverse.foldl
      (fun stack c => ⟨c, a.nodes[v.index].kind :: v.ancestors⟩ :: stack) stack = a.pendingBelow v ++ stack := by
    rw [List.foldl_reverse, List.foldr_cons_eq_append, pendingBelow, childrenBelow_of_lt found (first _ _ found),
      Arena.kind, found]
    rfl
  refine ⟨_, congrArg (Option.map _) found, ?_⟩
  unfold visitRound
  dsimp only
  rw [fetch_node found]
  dsimp only [pure, Except.pure, bind, Except.bind]
  rw [cut, pushed]
  split <;> rfl

/-- A walk with a stack comes to its end and meets what the walk with a list of what is pending meets. -/
theorem walk_eq (first : a.ChildrenFirst) (root : Root) {v : Visit} (inside : v.index < a.size)
    (enough : a.subtreeSize v.index < rounds) :
    walk a rounds root skipErrors v = .ok ((a.visits skipErrors [v]).filterMap (a.place? root)) := by
  -- At every round, what was met and the walk of what is on the stack make up the whole walk.
  refine loop_eq (fun s : List Visit × List Placed => ∀ v ∈ s.1, v.index < a.size)
    (fun s => total (a.subtreeSize ·.index) s.1)
    (fun s => s.2.reverse ++ (a.visits skipErrors s.1).filterMap (a.place? root)) ?_ ?_ enough
  · rintro ⟨stack, met⟩ inside
    cases stack with
    | nil =>
      refine Or.inl (congrArg (Except.ok <| Sum.inr ·) ?_)
      rw [visits]
      exact (List.append_nil _).symm
    | cons v stack =>
      obtain ⟨here, others⟩ := List.forall_mem_cons.1 inside
      obtain ⟨item, placed, round⟩ := visitRound_cons first root skipErrors here stack met
      have size := a.subtreeSize_eq v.index
      have below : total (a.subtreeSize ·.index) (a.pendingBelow v) =
          total a.subtreeSize (a.childrenBelow v.index) := total_map ..
      rw [visits_cons]
      split at round
      · rw [if_pos ‹_›]
        refine Or.inr ⟨_, round, others, ?_, ?_⟩
        · dsimp only
          rw [total_cons]
          omega
        · dsimp only
          rw [List.filterMap_cons_some placed, List.reverse_cons, List.append_assoc]
          rfl
      · rw [if_neg ‹_›]
        refine Or.inr ⟨_, round, List.forall_mem_append.2 ⟨fun w => mem_pendingBelow_lt here, others⟩, ?_, ?_⟩
        · dsimp only
          rw [total_append, total_cons]
          omega
        · dsimp only
          rw [List.filterMap_cons_some placed, List.reverse_cons, List.append_assoc]
          rfl
  · exact List.forall_mem_singleton.2 inside

theorem countRound_cons (first : a.ChildrenFirst) {i : Nat} (here : i < a.size) (stack : List Nat) (count : Nat) :
    countRound a (i :: stack, count) = .ok (.inl ((a.childrenBelow i).reverse ++ stack, count + 1)) := by
  have found : a.get? i = some a.nodes[i] := Array.getElem?_eq_getElem here
  have pushed : a.nodes[i].children.foldl (fun stack c => c :: stack) stack = (a.childrenBelow i).reverse ++ stack := by
    rw [childrenBelow_of_lt found (first _ _ found)]
    exact List.foldl_flip_cons_eq_append'
  unfold countRound
  dsimp only
  rw [fetch_node found]
  dsimp only [pure, Except.pure, bind, Except.bind]
  rw [pushed]

/-- Counting with a stack comes to its end and counts the subtree. -/
theorem subtreeSize_eq (first : a.ChildrenFirst) {i : Nat} (inside : i < a.size) (enough : a.subtreeSize i < rounds) :
    subtreeSize a rounds i = .ok (a.subtreeSize i) := by
  have counted : subtreeSize a rounds i = .ok (0 + total a.subtreeSize [i]) := by
    -- At every round, the count and the sizes on the stack add up to the same number.
    refine loop_eq (fun s : List Nat × Nat => ∀ c ∈ s.1, c < a.size) (fun s => total a.subtreeSize s.1)
      (fun s => s.2 + total a.subtreeSize s.1) ?_ (List.forall_mem_singleton.2 inside) enough
    rintro ⟨stack, count⟩ inside
    cases stack with
    | nil => exact Or.inl rfl
    | cons i stack =>
      obtain ⟨here, others⟩ := List.forall_mem_cons.1 inside
      have members : ∀ c ∈ (a.childrenBelow i).reverse, c < a.size := by
        intro c child
        exact Nat.lt_trans (lt_of_mem_childrenBelow (List.mem_reverse.1 child)) here
      have left : total a.subtreeSize ((a.childrenBelow i).reverse ++ stack) + 1 =
          total a.subtreeSize (i :: stack) := by
        rw [total_append, total_reverse, total_cons, a.subtreeSize_eq i]
        omega
      refine Or.inr ⟨_, countRound_cons first here stack count, List.forall_mem_append.2 ⟨members, others⟩, ?_, ?_⟩
      · dsimp only
        omega
      · dsimp only
        omega
  rw [counted, Nat.zero_add]
  rfl

/-- One walk for each child of a placed node comes to its end and meets everything strictly below the node. -/
theorem walkBelow_eq (first : a.ChildrenFirst) {root : Root} {s : Spot} {item : Placed} (shows : a.Shows root s item)
    (inside : s.index < a.size) (enough : a.subtreeSize s.index < rounds) :
    walkBelow a rounds item skipErrors = .ok (a.walkBelow item skipErrors) := by
  have found : a.get? item.index = some item.node := by rw [shows.index, shows.node]
  have below := childrenBelow_of_lt found (first _ _ found)
  have kind : a.kind item.index = item.node.kind := by rw [Arena.kind, found, Option.map_some, Option.getD_some]
  have each : ∀ c ∈ item.node.children,
      walk a rounds item.root skipErrors ⟨c, item.node.kind :: item.ancestors⟩ =
        .ok ((a.preorder skipErrors ⟨c, item.node.kind :: item.ancestors⟩).filterMap (a.place? item.root)) := by
    intro c child
    rw [← below, shows.index] at child
    have less := lt_of_mem_childrenBelow child
    have smaller := subtreeSize_le_of_mem_childrenBelow child
    rw [walk_eq first _ (Nat.lt_trans less inside) (Nat.lt_of_le_of_lt smaller enough), visits_eq_flatMap_preorder,
      List.flatMap_singleton]
  rw [walkBelow, gather_eq each, Arena.walkBelow, visits_eq_flatMap_preorder, pendingBelow, List.flatMap_map,
    List.filterMap_flatMap, below, kind]

end Indexed

namespace Arena

variable {a : Arena} {skipErrors : Bool} {rounds : Nat}

/-!
## Whole walks
-/

theorem isMet_true (a : Arena) (s : Spot) : s.isMet a true = s.isOpen a := rfl

theorem filter_isMet_false (a : Arena) (ss : List Spot) : ss.filter (·.isMet a false) = ss := by
  refine List.filter_eq_self.2 fun s _ => ?_
  simp [Spot.isMet, cuts]

/-- A node that was met at a spot is known in all its parts. -/
theorem rightUnique_shows (a : Arena) (root : Root) : Relator.RightUnique (a.Shows root) := by
  rintro s ⟨index, node, startLine, endLine, ancestors, root⟩ ⟨index', node', startLine', endLine', ancestors', root'⟩
    left right
  obtain rfl : node = node' := Option.some.inj (left.node.symm.trans right.node)
  obtain rfl : index = index' := left.index.trans right.index.symm
  obtain rfl : startLine = startLine' := left.startLine.trans right.startLine.symm
  obtain rfl : endLine = endLine' := left.endLine.trans right.endLine.symm
  obtain rfl : ancestors = ancestors' := left.ancestors.trans right.ancestors.symm
  obtain rfl : root = root' := left.root.trans right.root.symm
  rfl

/-- Where two lists go side by side, so do the parts of them that a test on the first keeps. -/
theorem forall₂_filter_zip {α β : Type} {R : α → β → Prop} {xs : List α} {ys : List β} (each : List.Forall₂ R xs ys)
    (keep : α → Bool) : List.Forall₂ R (xs.filter keep) (((xs.zip ys).filter (keep ·.1)).map (·.2)) := by
  induction each with
  | nil => exact .nil
  | @cons x y xs ys here _ ih =>
    simp only [List.zip_cons_cons, List.filter_cons]
    split
    · exact .cons here ih
    · exact ih

/-- The spots below a root that no error stands above. -/
def openSpots (a : Arena) (root : Root) : List Spot := (a.spots root.index).filter (·.isOpen a)

theorem walkRoot_eq (a : Arena) (root : Root) :
    a.walkRoot root skipErrors =
      (((a.spots root.index).filter (·.isMet a skipErrors)).map (·.visit a [])).filterMap (a.place? root) := by
  rw [walkRoot, visits_eq_flatMap_preorder, List.flatMap_singleton, preorder_eq_map_spots]

theorem forall₂_walkRoot (skipErrors : Bool) {root : Root} (inside : root.index < a.size) :
    List.Forall₂ (a.Shows root) ((a.spots root.index).filter (·.isMet a skipErrors)) (a.walkRoot root skipErrors) := by
  rw [walkRoot_eq]
  refine forall₂_shows root fun s member => ?_
  exact Nat.lt_of_le_of_lt (index_le_of_mem_spots (List.mem_filter.1 member).1) inside

/-- What a walk meets below what it met are those it met at the spots strictly below. -/
theorem walkBelow_eq {root : Root} (inside : root.index < a.size) {s : Spot} {item : Placed}
    (member : s ∈ a.openSpots root) (shows : a.Shows root s item) (intact : item.node.kind ≠ .error) :
    a.walkBelow item true =
      (((a.openSpots root).zip (a.walkRoot root true)).filter (s.isAbove ·.1)).map (·.2) := by
  have every := forall₂_walkRoot true inside
  obtain ⟨stands, met⟩ := List.mem_filter.1 member
  have entered : ¬a.cuts true s.index = true := by
    rw [cuts, Arena.kind, shows.node]
    simpa using intact
  have place : (⟨item.index, item.ancestors⟩ : Visit) = s.visit a [] := by
    rw [shows.index, shows.ancestors, Spot.visit, List.append_nil]
  have below : List.Forall₂ (a.Shows root) ((a.openSpots root).filter (s.isAbove ·)) (a.walkBelow item true) := by
    rw [walkBelow, place, shows.root, visits_below_spot stands ((isMet_true a s).trans met) entered]
    refine forall₂_shows root fun t other => ?_
    have there := (List.mem_filter.1 (List.mem_filter.1 other).1).1
    exact Nat.lt_of_le_of_lt (index_le_of_mem_spots there) inside
  exact (rightUnique_shows a root).forall₂ below (forall₂_filter_zip every _)

/-- Walks from a root, and below what they meet, come to their end and go through the spots in preorder. -/
structure WalksInPreorder (a : Arena) (rounds : Nat) (root : Root) : Prop where
  /-- Spots are told apart by their ways. -/
  apart : ((a.spots root.index).map (·.way)).Nodup
  /-- A walk that does not stop at errors shows all spots. -/
  whole : Indexed.walkRoot a rounds root false = .ok (a.walkRoot root false) ∧
    List.Forall₂ (a.Shows root) (a.spots root.index) (a.walkRoot root false)
  /-- A walk that stops at errors shows the spots with no error above them. -/
  pruned : Indexed.walkRoot a rounds root true = .ok (a.walkRoot root true) ∧
    List.Forall₂ (a.Shows root) (a.openSpots root) (a.walkRoot root true)
  /-- What is counted in the subtree is what the walk that does not stop meets. -/
  counted : Indexed.subtreeSize a rounds root.index = .ok (a.walkRoot root false).length ∧
    a.subtreeSize root.index = (a.walkRoot root false).length
  /-- Below a node that it met and that is no error, a walk meets again what it met strictly below. -/
  below : ∀ p ∈ (a.openSpots root).zip (a.walkRoot root true), p.2.node.kind ≠ .error →
    Indexed.walkBelow a rounds p.2 true = .ok (a.walkBelow p.2 true) ∧
      a.walkBelow p.2 true =
        (((a.openSpots root).zip (a.walkRoot root true)).filter (p.1.isAbove ·.1)).map (·.2)

/-- In an arena whose children come before their parents, a walk with a stack that is given as many rounds as there
are nodes comes to its end, and what it meets is the preorder of the subtree. -/
theorem walksInPreorder_of_childrenFirst (first : a.ChildrenFirst) {root : Root} (inside : root.index < a.size)
    (enough : a.subtreeSize root.index < rounds) : a.WalksInPreorder rounds root := by
  have whole := forall₂_walkRoot false inside
  rw [filter_isMet_false] at whole
  have size : a.subtreeSize root.index = (a.walkRoot root false).length := by rw [← length_spots, whole.length_eq]
  refine ⟨nodup_ways a root.index, ⟨Indexed.walk_eq first root inside enough, whole⟩,
    ⟨Indexed.walk_eq first root inside enough, forall₂_walkRoot true inside⟩, ⟨?_, size⟩, ?_⟩
  · rw [Indexed.subtreeSize_eq first inside enough, size]
  · rintro ⟨s, item⟩ member intact
    have shows := List.forall₂_zip (forall₂_walkRoot true inside) member
    have opened : s ∈ a.openSpots root := (List.of_mem_zip member).1
    have stands := (List.mem_filter.1 opened).1
    have smaller := subtreeSize_le_of_mem_spots stands
    refine ⟨Indexed.walkBelow_eq first shows ?_ (Nat.lt_of_le_of_lt smaller enough),
      walkBelow_eq inside opened shows intact⟩
    exact Nat.lt_of_le_of_lt (index_le_of_mem_spots stands) inside

/-- A leaf that stands below an error and twice more beside it. -/
def leafShared : Arena :=
  let node (kind : NodeKind) (children : List Nat) : Node :=
    { kind, type := kind.label, startLine := 0, startCol := 0, endLine := 0, endCol := 0, children }
  ⟨#[node .number [], node .error [0], node .other [0, 1, 0]]⟩

theorem walksInPreorder_leafShared :
    leafShared.ChildrenFirst ∧ 2 < leafShared.size ∧ leafShared.subtreeSize 2 < 6 ∧
      leafShared.WalksInPreorder 6 ⟨2, 7, "", false⟩ := by
  have first : leafShared.ChildrenFirst := by
    rintro (_ | _ | _ | i) node found
    · cases found
      decide
    · cases found
      decide
    · cases found
      decide
    · cases found
  have zero : leafShared.subtreeSize 0 = 1 := by
    rw [subtreeSize_eq]
    rfl
  have one : leafShared.subtreeSize 1 = 2 := by
    rw [subtreeSize_eq, show leafShared.childrenBelow 1 = [0] from rfl, total_cons, zero]
    rfl
  have two : leafShared.subtreeSize 2 < 6 := by
    rw [subtreeSize_eq, show leafShared.childrenBelow 2 = [0, 1, 0] from rfl]
    simp [total, zero, one]
  exact ⟨first, by decide, two, walksInPreorder_of_childrenFirst first (by decide) two⟩

end Arena

end LiveLint
