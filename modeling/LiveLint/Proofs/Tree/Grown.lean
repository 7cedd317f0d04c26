import LiveLint.Proofs.Tree.Stored
import LiveLint.Tree.Normalize
import LiveLint.Tree.Tree
import Mathlib.Data.List.Basic

/-!
# Arenas that grow

Whatever is stored in an arena is added behind the nodes that are there and refers to none of them. So an
arena stays well formed, what can be reached from a new node is new, and what is shown of an old node
stays what it was. This is true of branches and native nodes alike, and also of a part of them, where
storing the rest failed.
-/

namespace LiveLint

/-- A node may stand at an index: its children lie below the index, none of them below a bound, and its
body is one of its children. -/
structure Node.FitsAt (node : Node) (low i : Nat) : Prop where
  children : ∀ c ∈ node.children, low ≤ c ∧ c < i
  body : ∀ b, node.body = some b → b ∈ node.children

theorem Node.FitsAt.mono {node : Node} {low low' i : Nat} (fits : node.FitsAt low i)
    (le : low' ≤ low) : node.FitsAt low' i :=
  ⟨fun c member => ⟨Nat.le_trans le (fits.children c member).1, (fits.children c member).2⟩, fits.body⟩

namespace Arena

/-- Every node refers only to nodes that were added before it, and its body is one of its children. -/
def WellFormed (a : Arena) : Prop := ∀ i node, a.get? i = some node → node.FitsAt 0 i

/-- A second arena has more nodes than a first one, and none of these refers to one of the first. -/
structure Grows (a a' : Arena) : Prop where
  ext : a.Extends a'
  fresh : ∀ i node, a.size ≤ i → a'.get? i = some node → node.FitsAt a.size i

/-- A node is another one or stands somewhere below it. -/
inductive Reaches (a : Arena) : Nat → Nat → Prop
  | self (i : Nat) : a.Reaches i i
  | child {i c j : Nat} {node : Node} (found : a.get? i = some node) (member : c ∈ node.children)
      (below : a.Reaches c j) : a.Reaches i j

/-- No child that was added before a node is left out by a walk. -/
theorem childrenBelow_of_lt {a : Arena} {i : Nat} {node : Node} (found : a.get? i = some node)
    (before : ∀ c ∈ node.children, c < i) : a.childrenBelow i = node.children := by
  unfold childrenBelow
  rw [found]
  exact List.filter_eq_self.2 fun c member => decide_eq_true (before c member)

theorem wellFormed_empty : WellFormed {} := by
  intro i node found
  simp [get?] at found

namespace Grows

theorem refl (a : Arena) : a.Grows a := by
  refine ⟨.refl a, ?_⟩
  intro i node outside found
  have inside := lt_size_of_get? found
  omega

theorem trans {a₁ a₂ a₃ : Arena} (first : a₁.Grows a₂) (second : a₂.Grows a₃) : a₁.Grows a₃ := by
  refine ⟨first.ext.trans second.ext, ?_⟩
  intro i node outside found
  by_cases early : i < a₂.size
  · rw [second.ext.same i early] at found
    exact first.fresh i node outside found
  · exact (second.fresh i node (by omega) found).mono first.ext.size_le

/-- The last node that is added may refer to all nodes that were added since the beginning. -/
theorem add {a a' : Arena} (grows : a.Grows a') {node : Node} (fits : node.FitsAt a.size a'.size) :
    a.Grows (a'.add node).1 := by
  refine ⟨grows.ext.trans (a'.extends_add node), ?_⟩
  intro i other outside found
  have inside := lt_size_of_get? found
  rw [size_add] at inside
  by_cases last : i = a'.size
  · rw [last, get?_add_self] at found
    cases found
    rwa [last]
  · rw [get?_add_of_lt node (by omega)] at found
    exact grows.fresh i other outside found

theorem wellFormed {a a' : Arena} (grows : a.Grows a') (formed : a.WellFormed) : a'.WellFormed := by
  intro i node found
  by_cases old : i < a.size
  · rw [grows.ext.same i old] at found
    exact formed i node found
  · exact (grows.fresh i node (by omega) found).mono (Nat.zero_le _)

/-- From a new node only new nodes can be reached. -/
theorem le_of_reaches {a a' : Arena} (grows : a.Grows a') {i j : Nat} (reaches : a'.Reaches i j)
    (outside : a.size ≤ i) : a.size ≤ j := by
  induction reaches with
  | self => exact outside
  | child found member _ ih => exact ih ((grows.fresh _ _ outside found).children _ member).1

theorem upTo {a a' : Arena} (grows : a.Grows a') {n : Nat} (le : a.size ≤ n) :
    a.Grows (a'.upTo n) := by
  have get?_upTo (i : Nat) : (a'.upTo n).get? i = if i < n then a'.get? i else none := by
    simp only [Arena.upTo, Arena.get?, Array.getElem?_extract, Nat.zero_add, Nat.sub_zero]
    by_cases first : i < n
    · by_cases inside : i < a'.nodes.size
      · rw [if_pos (by omega), if_pos first]
      · rw [if_neg (by omega), if_pos first, Array.getElem?_eq_none (by omega)]
    · rw [if_neg (by omega), if_neg first]
  have size_upTo : (a'.upTo n).size = min n a'.size := by simp [Arena.upTo, Arena.size]
  refine ⟨⟨?_, ?_⟩, ?_⟩
  · rw [size_upTo]
    exact Nat.le_min.2 ⟨le, grows.ext.size_le⟩
  · intro i lt
    rw [get?_upTo, if_pos (by omega), grows.ext.same i lt]
  · intro i node outside found
    rw [get?_upTo] at found
    split at found
    · exact grows.fresh i node outside found
    · cases found

end Grows

namespace WellFormed

variable {a a' : Arena}

/-- What can be reached from a node was added no later. -/
theorem reaches_le (formed : a.WellFormed) {i j : Nat} (reaches : a.Reaches i j) : j ≤ i := by
  induction reaches with
  | self => exact Nat.le_refl _
  | child found member _ ih =>
    exact Nat.le_of_lt (Nat.lt_of_le_of_lt ih ((formed _ _ found).children _ member).2)

/-- Nodes that are added later change nothing about what can be reached. -/
theorem reaches_iff (formed : a.WellFormed) (ext : a.Extends a') {i j : Nat} (inside : i < a.size) :
    a'.Reaches i j ↔ a.Reaches i j := by
  constructor
  · intro reaches
    induction reaches with
    | self => exact .self _
    | child found member _ ih =>
      rw [ext.same _ inside] at found
      have less := ((formed _ _ found).children _ member).2
      exact .child found member (ih (Nat.lt_trans less inside))
  · intro reaches
    induction reaches with
    | self => exact .self _
    | child found member _ ih =>
      exact .child (ext.get? found) member
        (ih (Nat.lt_trans ((formed _ _ found).children _ member).2 inside))

/-- In a well-formed arena no child of a node is left out by a walk. -/
theorem childrenBelow_eq (formed : a.WellFormed) {i : Nat} {node : Node}
    (found : a.get? i = some node) : a.childrenBelow i = node.children :=
  childrenBelow_of_lt found fun c member => ((formed i node found).children c member).2

end WellFormed

section Extends

variable {a a' : Arena}

theorem Extends.childrenBelow (ext : a.Extends a') {i : Nat} (inside : i < a.size) :
    a'.childrenBelow i = a.childrenBelow i := by
  unfold Arena.childrenBelow
  rw [ext.same i inside]

/-- Nodes that are added later change no subtree. -/
theorem Extends.subtreeSize (ext : a.Extends a') {i : Nat} (inside : i < a.size) :
    a'.subtreeSize i = a.subtreeSize i := by
  induction i using Nat.strongRecOn with
  | ind i ih =>
    rw [subtreeSize_eq, subtreeSize_eq, ext.childrenBelow inside]
    congr 1
    refine total_congr ?_
    intro c member
    have less := lt_of_mem_childrenBelow member
    exact ih c less (Nat.lt_trans less inside)

/-- Nodes that are added later change no walk. -/
theorem Extends.walkRoot (ext : a.Extends a') {root : Root} (inside : root.index < a.size)
    (skipErrors : Bool) : a'.walkRoot root skipErrors = a.walkRoot root skipErrors := by
  have same : ∀ i, i ≤ root.index → a'.get? i = a.get? i := fun i le =>
    ext.same i (Nat.lt_of_le_of_lt le inside)
  have start : ∀ v ∈ [(⟨root.index, []⟩ : Visit)], v.index ≤ root.index := by simp
  unfold Arena.walkRoot
  rw [visits_congr same skipErrors start]
  refine List.filterMap_congr ?_
  intro v member
  have le : v.index ≤ root.index :=
    @mem_visits a skipErrors (· ≤ root.index)
      (fun i le c below => Nat.le_trans (Nat.le_of_lt (lt_of_mem_childrenBelow below)) le) _ start v
      member
  unfold place?
  rw [same v.index le]

end Extends

/-- Something was stored in an arena, which grew and has it at an index among the new ones. -/
structure Stores (a : Arena) (out : Arena × Nat) : Prop where
  grows : a.Grows out.1
  new : a.size ≤ out.2 ∧ out.2 < out.1.size

/-- Several things were stored in an arena, each at an index among the new ones. -/
structure StoresAll (a : Arena) (out : Arena) (indices : List Nat) : Prop where
  grows : a.Grows out
  new : ∀ i ∈ indices, a.size ≤ i ∧ i < out.size

theorem StoresAll.nil (a : Arena) : a.StoresAll a [] := ⟨.refl a, nofun⟩

theorem Stores.cons {a a' : Arena} {out : Arena × Nat} {indices : List Nat} (first : a.Stores out)
    (rest : out.1.StoresAll a' indices) : a.StoresAll a' (out.2 :: indices) := by
  refine ⟨first.grows.trans rest.grows, ?_⟩
  intro i member
  rcases List.mem_cons.1 member with rfl | later
  · exact ⟨first.new.1, Nat.lt_of_lt_of_le first.new.2 rest.grows.ext.size_le⟩
  · have new := rest.new i later
    exact ⟨Nat.le_trans first.grows.ext.size_le new.1, new.2⟩

/-- A node is stored behind its children. -/
theorem StoresAll.add {a a' : Arena} {indices : List Nat} (stored : a.StoresAll a' indices)
    {node : Node} (children : node.children = indices)
    (body : ∀ b, node.body = some b → b ∈ indices) : a.Stores (a'.add node) := by
  refine ⟨stored.grows.add ⟨?_, ?_⟩, stored.grows.ext.size_le, ?_⟩
  · rw [children]
    exact stored.new
  · rw [children]
    exact body
  · rw [size_add]
    exact Nat.lt_succ_self _

end Arena

namespace Branch

mutual

/-- To store a branch is to add its nodes, children first. -/
theorem stores (line : Nat) (b : Branch) (a : Arena) : a.Stores (b.store line a) := by
  match b with
  | .mk d cs =>
    unfold store
    exact (storesAll line cs a).add rfl fun _ body => mem_of_body_node body

theorem storesAll (line : Nat) (bs : List Branch) (a : Arena) :
    a.StoresAll (storeAll line bs a).1 (storeAll line bs a).2 := by
  match bs with
  | [] => exact .nil a
  | b :: rest => exact (stores line b a).cons (storesAll line rest (b.store line a).1)

end

end Branch

namespace Normalize

variable (profile : Profile) (code : ByteArray) (row : Int)

mutual

/-- To store a native node is to add its nodes, children first. -/
theorem stores (levels : Nat) (parent : Option NativeNode) (n : NativeNode) (a : Arena) :
    a.Stores (store profile code row levels parent n a) := by
  match n with
  | .mk type named startByte endByte startPoint endPoint field missing children =>
    unfold store
    split
    · exact (Arena.StoresAll.nil a).add rfl nofun
    · split
      · exact (Arena.StoresAll.nil a).add rfl nofun
      · next levels =>
        refine (storesAll levels _ children a).add rfl ?_
        intro b body
        obtain ⟨_, -, found⟩ := Option.bind_eq_some_iff.1 body
        obtain ⟨pair, last, rfl⟩ := Option.map_eq_some_iff.1 found
        exact List.mem_map_of_mem (List.mem_reverse.1 (List.mem_of_find?_eq_some last))

theorem storesAll (levels : Nat) (parent : NativeNode) (ns : List NativeNode) (a : Arena) :
    a.StoresAll (storeAll profile code row levels parent ns a).1
      ((storeAll profile code row levels parent ns a).2.map (·.2)) := by
  match ns with
  | [] =>
    unfold storeAll
    exact .nil a
  | n :: rest =>
    unfold storeAll
    split
    · exact (stores levels (some parent) n a).cons (storesAll levels parent rest _)
    · exact storesAll levels parent rest a

end

end Normalize

end LiveLint
