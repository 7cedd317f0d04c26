import LiveLint.Proofs.Parse.Published

/-!
# Records of native nodes

Every node that is stored for a native tree is the record of a native node: its type, its points with rows counted
from the first row of its root, and as its body the record of one of its children. So whatever a walk meets below
a root that was built, in a tree of whatever revision, can be traced back to the native node it was made of.
-/

namespace LiveLint

/-- A native node stands somewhere below another one, or is that node. -/
inductive NativeNode.Within : NativeNode → NativeNode → Prop where
  | self (n : NativeNode) : Within n n
  | deeper {m c n : NativeNode} (child : c ∈ n.children) (within : Within m c) : Within m n

theorem NativeNode.Within.child {m n top : NativeNode} (within : n.Within top) (child : m ∈ n.children) :
    m.Within top := by
  induction within with
  | self => exact .deeper child (.self m)
  | deeper above _ ih => exact .deeper above ih

namespace Normalize

variable (profile : Profile) (code : ByteArray) (row : Int)

/-- An arena has the record of a native node at an index. -/
def Recorded (a : Arena) (n : NativeNode) (i : Nat) : Prop :=
  ∃ parent children body, a.get? i = some (record profile code row parent n children body)

/-- An arena has at an index the record of a native node that stands below another one. Its body is the record
of a child with the bytes and the type of the first child that fills the field of bodies. -/
def Traced (a : Arena) (top : NativeNode) (i : Nat) : Prop :=
  ∃ n parent children body, n.Within top ∧
    a.get? i = some (record profile code row parent n children body) ∧
    ∀ b, body = some b → ∃ m ∈ n.children, ∃ named, n.childOf? "body" = some named ∧ m.same named = true ∧
      Recorded profile code row a m b

variable {profile code row}

theorem Recorded.extends {a a' : Arena} {n : NativeNode} {i : Nat} (ext : a.Extends a')
    (recorded : Recorded profile code row a n i) : Recorded profile code row a' n i := by
  obtain ⟨parent, children, body, found⟩ := recorded
  exact ⟨parent, children, body, ext.get? found⟩

theorem Traced.extends {a a' : Arena} {top : NativeNode} {i : Nat} (ext : a.Extends a')
    (traced : Traced profile code row a top i) : Traced profile code row a' top i := by
  obtain ⟨n, parent, children, body, within, found, bodied⟩ := traced
  refine ⟨n, parent, children, body, within, ext.get? found, fun b named => ?_⟩
  obtain ⟨m, child, field, first, same, recorded⟩ := bodied b named
  exact ⟨m, child, field, first, same, recorded.extends ext⟩

/-- All nodes that were added to an arena are traced to native nodes. -/
def TracedSince (profile : Profile) (code : ByteArray) (row : Int) (a a' : Arena) (top : NativeNode) : Prop :=
  ∀ i, a.size ≤ i → i < a'.size → Traced profile code row a' top i

/-- A node is added that is the record of a native one. -/
theorem TracedSince.add {a a' : Arena} {top n : NativeNode} {parent : Option NativeNode} {children : List Nat}
    {body : Option Nat} (since : TracedSince profile code row a a' top) (within : n.Within top)
    (bodied : ∀ b, body = some b → ∃ m ∈ n.children, ∃ named, n.childOf? "body" = some named ∧
      m.same named = true ∧ Recorded profile code row a' m b) :
    TracedSince profile code row a (a'.add (record profile code row parent n children body)).1 top := by
  intro i old inside
  have ext := a'.extends_add (record profile code row parent n children body)
  rw [Arena.size_add] at inside
  by_cases last : i = a'.size
  · subst last
    refine ⟨n, parent, children, body, within, Arena.get?_add_self _ _, fun b named => ?_⟩
    obtain ⟨m, child, field, first, same, recorded⟩ := bodied b named
    exact ⟨m, child, field, first, same, recorded.extends ext⟩
  · exact (since i old (by omega)).extends ext

theorem tracedSince_refl (a : Arena) (top : NativeNode) : TracedSince profile code row a a top :=
  fun _ old inside => absurd old (Nat.not_le_of_lt inside)

/-- A node is added that is the record of a native one and has no body. -/
theorem tracedSince_leaf {a : Arena} {top n : NativeNode} (within : n.Within top) (parent : Option NativeNode) :
    TracedSince profile code row a (a.add (record profile code row parent n [] none)).1 top := by
  refine (tracedSince_refl a top).add within ?_
  intro b named
  cases named

theorem TracedSince.trans {a₁ a₂ a₃ : Arena} {top : NativeNode} (first : TracedSince profile code row a₁ a₂ top)
    (second : TracedSince profile code row a₂ a₃ top) (ext : a₂.Extends a₃) :
    TracedSince profile code row a₁ a₃ top := by
  intro i old inside
  by_cases early : i < a₂.size
  · exact (first i old early).extends ext
  · exact second i (Nat.le_of_not_lt early) inside

theorem childOf?_of_body? {n body : NativeNode} (found : body? profile code n = some body) :
    n.childOf? "body" = some body := by
  unfold body? at found
  split at found
  · exact found
  · exact found
  · cases found

variable (profile code row)

mutual

/-- To store a native node is to record it, and whatever is stored with it is traced to a node below it. -/
theorem traced_store (levels : Nat) (parent : Option NativeNode) (n : NativeNode) (a : Arena) {top : NativeNode}
    (within : n.Within top) :
    Recorded profile code row (store profile code row levels parent n a).1 n
        (store profile code row levels parent n a).2 ∧
      TracedSince profile code row a (store profile code row levels parent n a).1 top := by
  match n with
  | .mk type named startByte endByte startPoint endPoint field missing children =>
    unfold store
    split
    · exact ⟨⟨_, _, _, Arena.get?_add_self _ _⟩, tracedSince_leaf within parent⟩
    · split
      · exact ⟨⟨_, _, _, Arena.get?_add_self _ _⟩, tracedSince_leaf within parent⟩
      · next levels =>
        obtain ⟨recorded, since⟩ := traced_storeAll levels
          (.mk type named startByte endByte startPoint endPoint field missing children) children a
          (fun m child => within.child child)
        refine ⟨⟨_, _, _, Arena.get?_add_self _ _⟩, since.add within ?_⟩
        intro b body
        obtain ⟨first, is_body, found⟩ := Option.bind_eq_some_iff.1 body
        obtain ⟨⟨m, i⟩, last, rfl⟩ := Option.map_eq_some_iff.1 found
        obtain ⟨child, recorded⟩ := recorded (m, i) (List.mem_reverse.1 (List.mem_of_find?_eq_some last))
        have same := List.find?_some last
        exact ⟨m, child, first, childOf?_of_body? is_body, same, recorded⟩

theorem traced_storeAll (levels : Nat) (parent : NativeNode) (ns : List NativeNode) (a : Arena) {top : NativeNode}
    (within : ∀ n ∈ ns, n.Within top) :
    (∀ pair ∈ (storeAll profile code row levels parent ns a).2, pair.1 ∈ ns ∧
        Recorded profile code row (storeAll profile code row levels parent ns a).1 pair.1 pair.2) ∧
      TracedSince profile code row a (storeAll profile code row levels parent ns a).1 top := by
  match ns with
  | [] =>
    unfold storeAll
    exact ⟨List.forall_mem_nil _, tracedSince_refl a top⟩
  | n :: rest =>
    have later : ∀ m ∈ rest, m.Within top := fun m member => within m (List.mem_cons_of_mem n member)
    unfold storeAll
    split
    · obtain ⟨recorded, since⟩ := traced_store levels (some parent) n a (within n List.mem_cons_self)
      obtain ⟨others, since'⟩ := traced_storeAll levels parent rest
        (store profile code row levels (some parent) n a).1 later
      have ext := (storesAll profile code row levels parent rest
        (store profile code row levels (some parent) n a).1).grows.ext
      refine ⟨?_, since.trans since' ext⟩
      intro pair member
      rcases List.mem_cons.1 member with rfl | among
      · exact ⟨List.mem_cons_self, recorded.extends ext⟩
      · obtain ⟨child, recorded⟩ := others pair among
        exact ⟨List.mem_cons_of_mem n child, recorded⟩
    · obtain ⟨others, since⟩ := traced_storeAll levels parent rest a later
      refine ⟨fun pair member => ?_, since⟩
      obtain ⟨child, recorded⟩ := others pair member
      exact ⟨List.mem_cons_of_mem n child, recorded⟩

end

end Normalize

namespace Arena

/-- A walk from a node that was added meets only nodes that were added with it. -/
theorem Grows.mem_walkRoot {a a₁ a₂ : Arena} (grows : a.Grows a₁) (ext : a₁.Extends a₂) {root : Root}
    (new : a.size ≤ root.index ∧ root.index < a₁.size) {skipErrors : Bool} {item : Placed}
    (member : item ∈ a₂.walkRoot root skipErrors) : a.size ≤ item.index ∧ item.index < a₁.size := by
  obtain ⟨v, visited, placed⟩ := List.mem_filterMap.1 member
  rw [(place?_eq placed).1]
  have closed : ∀ i, a.size ≤ i ∧ i < a₁.size → ∀ c ∈ a₂.childrenBelow i, a.size ≤ c ∧ c < a₁.size := by
    rintro i ⟨old, inside⟩ c below
    have less := lt_of_mem_childrenBelow below
    rw [ext.childrenBelow inside] at below
    unfold childrenBelow at below
    split at below
    · next node found =>
      exact ⟨((grows.fresh i node old found).children c (List.mem_filter.1 below).1).1, Nat.lt_trans less inside⟩
    · cases below
  have inside := mem_visits closed (fun v start => ?_) visited
  · exact inside
  · rw [List.mem_singleton.1 start]
    exact new

end Arena

namespace RootSource

variable {profile : Profile} {code : ByteArray} {module : NativeNode}

/-- A source of a root was made of one of some native nodes. -/
def OfNative (profile : Profile) (code : ByteArray) (module : NativeNode) (ns : List NativeNode)
    (source : RootSource) : Prop :=
  ∃ n ∈ ns, source.first = (n.startPoint.row + 1).toNat ∧
    source.store = Normalize.storeRoot profile code module n

theorem ofNative_native (profile : Profile) (tree : NativeTree) :
    ∀ source ∈ native profile tree, OfNative profile tree.text.toUTF8 tree.root tree.root.topLevel source := by
  intro source member
  obtain ⟨n, top, rfl⟩ := List.mem_map.1 member
  exact ⟨n, top, rfl, rfl⟩

/-- Whatever a walk meets below a root that was built is traced to a native node below the one of the root. -/
theorem exists_traced_of_build (r : Revision) {sources : List RootSource} {ns : List NativeNode}
    (of : ∀ source ∈ sources, OfNative profile code module ns source) (pool : Reusable) (a : Arena) {root : Root}
    (member : root ∈ (build r sources pool a).2) (fresh : root.reused = false) :
    ∃ n ∈ ns, root.line = (n.startPoint.row + 1).toNat ∧
      ∀ skipErrors, ∀ item ∈ (build r sources pool a).1.walkRoot root skipErrors,
        Normalize.Traced profile code n.startPoint.row (build r sources pool a).1 n item.index := by
  induction sources generalizing pool a with
  | nil => cases member
  | cons source rest ih =>
    have later : ∀ source ∈ rest, OfNative profile code module ns source := fun s among =>
      of s (List.mem_cons_of_mem source among)
    rw [build] at member ⊢
    split at member
    · next old pool' taken =>
      rcases List.mem_cons.1 member with rfl | among
      · cases fresh
      · exact ih later pool' a among
    · next taken =>
      rcases List.mem_cons.1 member with rfl | among
      · obtain ⟨n, top, line, store⟩ := of source List.mem_cons_self
        have stored : a.Stores (source.store a) := by
          rw [store]
          exact Normalize.stores ..
        have traced : Normalize.TracedSince profile code n.startPoint.row a (source.store a).1 n := by
          rw [store]
          exact (Normalize.traced_store profile code n.startPoint.row Normalize.maxDepth (some module) n a
            (.self n)).2
        have stores : ∀ s ∈ rest, ∀ a : Arena, a.Stores (s.store a) := by
          intro s among a
          obtain ⟨m, -, -, store⟩ := later s among
          rw [store]
          exact Normalize.stores ..
        have ext := (built_build r stores pool (source.store a).1).grows.ext
        refine ⟨n, top, line, fun skipErrors item met => ?_⟩
        obtain ⟨old, inside⟩ := stored.grows.mem_walkRoot ext stored.new met
        exact (traced item.index old inside).extends ext
      · exact ih later pool _ among

end RootSource

end LiveLint
