import LiveLint.Proofs.Tree.Grown

/-!
# Arenas hold trees

The children of a node are stored one after the other, each behind everything that stands below the children before
it. So no node stands below two children of one node, and a walk from a root meets no node twice. Errors are stored
without children, also those that have some in a native tree. Both kinds of source are stored in this way.
-/

namespace LiveLint

namespace Arena

/-- Nodes none of which is as young as anything that stands below one that comes later in the list. -/
def Separate (a : Arena) (indices : List Nat) : Prop :=
  indices.Pairwise fun x y => ∀ i, a.Reaches y i → x < i

/-- An arena whose nodes refer only to nodes that were added before them, without sharing any, and whose errors refer
to none. -/
structure TreeShaped (a : Arena) : Prop where
  formed : a.WellFormed
  leaves : ∀ i node, a.get? i = some node → node.kind = .error → node.children = []
  separate : ∀ i node, a.get? i = some node → a.Separate node.children

variable {a a' : Arena}

theorem treeShaped_empty : TreeShaped {} where
  formed := wellFormed_empty
  leaves _ _ found := by simp [get?] at found
  separate _ _ found := by simp [get?] at found

/-- Nodes that are added later separate no worse. -/
theorem Separate.extends {indices : List Nat} (separate : a.Separate indices) (formed : a.WellFormed)
    (ext : a.Extends a') (inside : ∀ i ∈ indices, i < a.size) : a'.Separate indices := by
  refine List.Pairwise.imp_of_mem ?_ separate
  intro x y _ member before i reaches
  exact before i ((formed.reaches_iff ext (inside y member)).1 reaches)

/-- What is stored first is older than anything that stands below what is stored after it. -/
theorem Stores.separate_cons {out : Arena × Nat} {indices : List Nat} (first : a.Stores out)
    (rest : out.1.StoresAll a' indices) (separate : a'.Separate indices) :
    a'.Separate (out.2 :: indices) := by
  refine List.pairwise_cons.2 ⟨?_, separate⟩
  intro y member i reaches
  exact Nat.lt_of_lt_of_le first.new.2 (rest.grows.le_of_reaches reaches (rest.new y member).1)

namespace TreeShaped

/-- A node is added above separate nodes, or above none if it is an error. -/
theorem add (shaped : a.TreeShaped) {node : Node} (fits : node.FitsAt 0 a.size)
    (leaf : node.kind = .error → node.children = []) (separate : a.Separate node.children) :
    (a.add node).1.TreeShaped := by
  have ext := a.extends_add node
  have last {i : Nat} {other : Node} (found : (a.add node).1.get? i = some other) :
      i = a.size ∧ other = node ∨ i < a.size ∧ a.get? i = some other := by
    have inside := lt_size_of_get? found
    rw [size_add] at inside
    by_cases new : i = a.size
    · rw [new, get?_add_self] at found
      exact Or.inl ⟨new, (Option.some.inj found).symm⟩
    · rw [get?_add_of_lt node (by omega)] at found
      exact Or.inr ⟨by omega, found⟩
  constructor
  case formed =>
    intro i other found
    rcases last found with ⟨rfl, rfl⟩ | ⟨-, found⟩
    · exact fits
    · exact shaped.formed i other found
  case leaves =>
    intro i other found
    rcases last found with ⟨-, rfl⟩ | ⟨-, found⟩
    · exact leaf
    · exact shaped.leaves i other found
  case separate =>
    intro i other found
    rcases last found with ⟨-, rfl⟩ | ⟨inside, found⟩
    · exact separate.extends shaped.formed ext fun c member => (fits.children c member).2
    · exact (shaped.separate i other found).extends shaped.formed ext fun c member =>
        Nat.lt_trans ((shaped.formed i other found).children c member).2 inside

/-- A node without children can always be added. -/
theorem add_leaf (shaped : a.TreeShaped) {node : Node} (alone : node.children = []) (bodiless : node.body = none) :
    (a.add node).1.TreeShaped := by
  refine shaped.add ⟨?_, ?_⟩ (fun _ => alone) ?_
  · rw [alone]
    exact nofun
  · rw [bodiless]
    exact nofun
  · rw [alone]
    exact .nil

/-- The first nodes of an arena have the shape of the whole. -/
theorem upTo (shaped : a.TreeShaped) (n : Nat) : (a.upTo n).TreeShaped := by
  have kept {i : Nat} {node : Node} (found : (a.upTo n).get? i = some node) : a.get? i = some node := by
    unfold Arena.upTo Arena.get? at found
    rw [Array.getElem?_extract, Nat.zero_add] at found
    split at found
    · exact found
    · cases found
  have reaches {i j : Nat} (below : (a.upTo n).Reaches i j) : a.Reaches i j := by
    induction below with
    | self => exact .self _
    | child found member _ ih => exact .child (kept found) member ih
  refine ⟨fun i node found => shaped.formed i node (kept found), fun i node found => shaped.leaves i node (kept found),
    fun i node found => ?_⟩
  exact (shaped.separate i node (kept found)).imp fun before i below => before i (reaches below)

end TreeShaped

end Arena

/-! ## What is stored -/

namespace Branch

/-- A branch none of whose errors has anything below it. -/
def Bare (b : Branch) : Prop := ∀ c : Branch, c.Within b → c.draft.kind = .error → c.children = []

mutual

theorem treeShaped_store (line : Nat) (b : Branch) {a : Arena} (bare : b.Bare) (shaped : a.TreeShaped) :
    (b.store line a).1.TreeShaped := by
  match b with
  | .mk d cs =>
    have below : ∀ c ∈ cs, c.Bare := fun c member c' within => bare c' (.deeper member within)
    have leaf : d.kind = .error → cs = [] := bare _ (.self _)
    obtain ⟨shaped', separate⟩ := treeShaped_storeAll line cs below shaped
    have stored := storesAll line cs a
    unfold store
    refine shaped'.add ⟨fun i member => ⟨Nat.zero_le _, (stored.new i member).2⟩, fun _ => mem_of_body_node⟩
      (fun error => ?_) separate
    show (storeAll line cs a).2 = []
    rw [leaf error]
    rfl

theorem treeShaped_storeAll (line : Nat) (bs : List Branch) {a : Arena} (bare : ∀ b ∈ bs, b.Bare)
    (shaped : a.TreeShaped) :
    (storeAll line bs a).1.TreeShaped ∧ (storeAll line bs a).1.Separate (storeAll line bs a).2 := by
  match bs with
  | [] => exact ⟨shaped, .nil⟩
  | b :: rest =>
    have first := treeShaped_store line b (bare b List.mem_cons_self) shaped
    obtain ⟨shaped', separate⟩ :=
      treeShaped_storeAll line rest (fun b member => bare b (List.mem_cons_of_mem _ member)) first
    exact ⟨shaped', (stores line b a).separate_cons (storesAll line rest _) separate⟩

end

end Branch

/-- Drafts of errors contain nothing in a forest. -/
theorem Forest.bare_of_mem_build (ds : List Draft) : ∀ b ∈ build ds, b.Bare := by
  fun_induction build ds with
  | case1 => exact List.forall_mem_nil _
  | case2 d rest error ih =>
    refine List.forall_mem_cons.2 ⟨?_, ih⟩
    intro c within
    cases within with
    | self => exact fun _ => rfl
    | deeper child => cases child
  | case3 d rest readable ih₁ ih₂ =>
    refine List.forall_mem_cons.2 ⟨?_, ih₂⟩
    intro c within
    cases within with
    | self => exact fun error => absurd (beq_iff_eq.2 error) readable
    | deeper child within => exact ih₁ _ child c within

namespace Normalize

/-- Only unreadable native nodes become errors. -/
theorem kind_record_ne_error {profile : Profile} {code : ByteArray} {row : Int} {parent : Option NativeNode}
    {n : NativeNode} {children : List Nat} {body : Option Nat} (readable : ¬n.isError = true) :
    (record profile code row parent n children body).kind ≠ .error := by
  unfold record
  dsimp only
  rw [if_neg readable]
  unfold kind
  repeat' split
  all_goals decide

variable (profile : Profile) (code : ByteArray) (row : Int)

mutual

theorem treeShaped_store (levels : Nat) (parent : Option NativeNode) (n : NativeNode) {a : Arena}
    (shaped : a.TreeShaped) : (store profile code row levels parent n a).1.TreeShaped := by
  match n with
  | .mk type named startByte endByte startPoint endPoint field missing children =>
    unfold store
    split
    · exact shaped.add_leaf rfl rfl
    · next readable =>
      split
      · exact shaped.add_leaf rfl rfl
      · next levels =>
        have stored := storesAll profile code row levels
          (.mk type named startByte endByte startPoint endPoint field missing children) children a
        obtain ⟨shaped', separate⟩ := treeShaped_storeAll levels
          (.mk type named startByte endByte startPoint endPoint field missing children) children shaped
        refine shaped'.add ⟨fun i member => ⟨Nat.zero_le _, (stored.new i member).2⟩, ?_⟩ (fun error => ?_) separate
        · intro b body
          obtain ⟨_, -, found⟩ := Option.bind_eq_some_iff.1 body
          obtain ⟨pair, last, rfl⟩ := Option.map_eq_some_iff.1 found
          exact List.mem_map_of_mem (List.mem_reverse.1 (List.mem_of_find?_eq_some last))
        · exact absurd error (kind_record_ne_error readable)

theorem treeShaped_storeAll (levels : Nat) (parent : NativeNode) (ns : List NativeNode) {a : Arena}
    (shaped : a.TreeShaped) :
    (storeAll profile code row levels parent ns a).1.TreeShaped ∧
      (storeAll profile code row levels parent ns a).1.Separate
        ((storeAll profile code row levels parent ns a).2.map (·.2)) := by
  match ns with
  | [] =>
    unfold storeAll
    exact ⟨shaped, .nil⟩
  | n :: rest =>
    unfold storeAll
    split
    · have first := treeShaped_store levels (some parent) n shaped
      obtain ⟨shaped', separate⟩ := treeShaped_storeAll levels parent rest first
      exact ⟨shaped', (stores profile code row levels (some parent) n a).separate_cons
        (storesAll profile code row levels parent rest _) separate⟩
    · exact treeShaped_storeAll levels parent rest shaped

end

end Normalize

end LiveLint
