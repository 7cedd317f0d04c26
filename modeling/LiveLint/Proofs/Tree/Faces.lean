import LiveLint.Detect.Query
import LiveLint.Proofs.Tree.Stored

/-!
# What a walk shows

The face of a node is everything that a walk shows of it besides its index. A walk of a root whose arena
holds a branch shows the faces of the branch, moved to the line of the root.
-/

namespace LiveLint

/-- What a walk shows of a node: its place is absolute, and so is that of its body. -/
structure Face where
  kind : NodeKind
  type : String
  range : SourceRange
  name : String
  value : String
  paramCount : Nat
  body : Option SourceRange
  /-- Kinds of the ancestors, nearest first. -/
  ancestors : List NodeKind
  deriving DecidableEq, Repr

def Face.moved (delta : Int) (f : Face) : Face :=
  { f with range := f.range.shifted delta, body := f.body.map (·.shifted delta) }

namespace Face

/-- The faces of something outermost with everything below it. -/
def Whole (fs : List Face) : Prop :=
  ∃ first rest, fs = first :: rest ∧ first.ancestors = [] ∧ ∀ f ∈ rest, f.ancestors ≠ []

/-- What is below something ends where the next outermost face begins. -/
theorem takeWhile_of_whole {fss : List (List Face)} (whole : ∀ fs ∈ fss, Whole fs) :
    fss.flatten.takeWhile (·.ancestors ≠ []) = [] := by
  cases fss with
  | nil => rfl
  | cons fs rest =>
    obtain ⟨first, below, rfl, outermost, -⟩ := whole fs (List.mem_cons_self ..)
    rw [List.flatten_cons, List.cons_append, List.takeWhile_cons_of_neg (by simp [outermost])]

/-- Faces that follow each other tell which outermost one they belong to. -/
theorem eq_of_flatten_eq {xs ys : List (List Face)} (left : ∀ fs ∈ xs, Whole fs)
    (right : ∀ fs ∈ ys, Whole fs) (same : xs.flatten = ys.flatten) : xs = ys := by
  induction xs generalizing ys with
  | nil =>
    cases ys with
    | nil => rfl
    | cons fs rest =>
      obtain ⟨first, below, rfl, -⟩ := right fs (List.mem_cons_self ..)
      exact absurd same (List.cons_ne_nil _ _).symm
  | cons fs others ih =>
    obtain ⟨first, below, rfl, -, nested⟩ := left fs (List.mem_cons_self ..)
    cases ys with
    | nil => exact absurd same (List.cons_ne_nil _ _)
    | cons fs' others' =>
      obtain ⟨first', below', rfl, -, nested'⟩ := right fs' (List.mem_cons_self ..)
      rw [List.flatten_cons, List.flatten_cons, List.cons_append, List.cons_append] at same
      obtain ⟨rfl, tails⟩ := List.cons_eq_cons.1 same
      have later := fun fs member => left fs (List.mem_cons_of_mem _ member)
      have later' := fun fs member => right fs (List.mem_cons_of_mem _ member)
      have cut : below = below' := by
        have taken := congrArg (List.takeWhile (·.ancestors ≠ [])) tails
        rwa [List.takeWhile_append_of_pos (by simpa using nested),
          List.takeWhile_append_of_pos (by simpa using nested'), takeWhile_of_whole later,
          takeWhile_of_whole later', List.append_nil, List.append_nil] at taken
      subst cut
      rw [ih later later' (List.append_cancel_left tails)]

end Face

namespace Arena

def face (a : Arena) (item : Placed) : Face where
  kind := item.node.kind
  type := item.node.type
  range := item.range
  name := item.node.name
  value := item.node.value
  paramCount := item.node.paramCount
  body := (a.bodyOf? item).map (·.range)
  ancestors := item.ancestors

/-- The faces of everything below and including a root. -/
def faces (a : Arena) (root : Root) (skipErrors : Bool) : List Face :=
  (a.walkRoot root skipErrors).map a.face

end Arena

def Tree.faces (t : Tree) (a : Arena) (skipErrors : Bool) : List Face :=
  (t.walk a skipErrors).map a.face

namespace Branch

def range (delta : Int) (b : Branch) : SourceRange :=
  ⟨b.draft.span.start.line + delta, b.draft.span.start.col, b.draft.span.stop.line + delta,
    b.draft.span.stop.col⟩

mutual

def faces (delta : Int) (skipErrors : Bool) : List NodeKind → Branch → List Face
  | ancestors, .mk d cs =>
    { kind := d.kind
      type := d.type
      range := range delta (.mk d cs)
      name := d.name
      value := d.value
      paramCount := d.paramCount
      body := (cs.find? (d.body == some ·.draft.id)).map (range delta)
      ancestors } ::
      if skipErrors && d.kind == .error then [] else facesAll delta skipErrors (d.kind :: ancestors) cs

/-- The faces of branches next to each other. -/
def facesAll (delta : Int) (skipErrors : Bool) : List NodeKind → List Branch → List Face
  | _, [] => []
  | ancestors, b :: rest =>
    faces delta skipErrors ancestors b ++ facesAll delta skipErrors ancestors rest

end

theorem range_add (delta more : Int) (b : Branch) :
    b.range (delta + more) = (b.range delta).shifted more := by
  unfold range SourceRange.shifted
  rw [Int.add_assoc, Int.add_assoc]

mutual

/-- To move a branch moves its faces. -/
theorem faces_add (delta more : Int) (skipErrors : Bool) (ancestors : List NodeKind) (b : Branch) :
    b.faces (delta + more) skipErrors ancestors =
      (b.faces delta skipErrors ancestors).map (Face.moved more) := by
  match b with
  | .mk d cs =>
    have below := facesAll_add delta more skipErrors (d.kind :: ancestors) cs
    have body : (cs.find? (d.body == some ·.draft.id)).map (range (delta + more)) =
        ((cs.find? (d.body == some ·.draft.id)).map (range delta)).map (·.shifted more) := by
      rw [Option.map_map]
      congr 1
      funext c
      exact range_add delta more c
    unfold faces
    rw [List.map_cons, range_add, body, below]
    split <;> rfl

theorem facesAll_add (delta more : Int) (skipErrors : Bool) (ancestors : List NodeKind)
    (bs : List Branch) :
    facesAll (delta + more) skipErrors ancestors bs =
      (facesAll delta skipErrors ancestors bs).map (Face.moved more) := by
  match bs with
  | [] => rfl
  | b :: rest =>
    unfold facesAll
    rw [List.map_append, faces_add delta more skipErrors ancestors b,
      facesAll_add delta more skipErrors ancestors rest]

end

/-- Whatever is below something has ancestors. -/
theorem ancestors_of_mem_facesAll {delta : Int} {skipErrors : Bool} {ancestors : List NodeKind}
    (below : ancestors ≠ []) {bs : List Branch} {f : Face}
    (member : f ∈ facesAll delta skipErrors ancestors bs) : f.ancestors ≠ [] := by
  match bs with
  | [] => exact absurd member List.not_mem_nil
  | .mk d cs :: rest =>
    unfold facesAll at member
    rcases List.mem_append.1 member with here | later
    · unfold faces at here
      rcases List.mem_cons.1 here with rfl | deeper
      · exact below
      · split at deeper
        · exact absurd deeper List.not_mem_nil
        · exact ancestors_of_mem_facesAll (List.cons_ne_nil _ _) deeper
    · exact ancestors_of_mem_facesAll below later

/-- Only the first face of an outermost branch has no ancestors. -/
theorem whole_faces (delta : Int) (skipErrors : Bool) (b : Branch) :
    Face.Whole (b.faces delta skipErrors []) := by
  cases b with
  | mk d cs =>
    unfold faces
    refine ⟨_, _, rfl, rfl, ?_⟩
    intro f member
    split at member
    · exact absurd member List.not_mem_nil
    · exact ancestors_of_mem_facesAll (List.cons_ne_nil _ _) member

end Branch

namespace Arena

variable {a : Arena} {line : Nat}

/-- The node that holds a branch is placed where the branch is, moved to the line of the root. -/
theorem range_of_holds {b : Branch} {i : Nat} (holds : a.Holds line b i) (root : Root)
    (ancestors : List NodeKind) :
    (a.place? root ⟨i, ancestors⟩).map (·.range) = some (b.range ((root.line : Int) - line)) := by
  cases b with
  | mk d cs =>
    obtain ⟨indices, found, -⟩ := holds
    unfold place?
    rw [found]
    simp only [Option.map_some, Option.some.injEq, Placed.range, Branch.node, Branch.range, Branch.draft,
      SourceRange.mk.injEq, and_true, true_and]
    omega

/-- The body of a node that holds a branch is the one of the branches below that the branch names. -/
theorem body_of_holdsAll {d : Draft} {cs : List Branch} {indices : List Nat}
    (all : a.HoldsAll line cs indices) (root : Root) (ancestors : List NodeKind) :
    (((((cs.map (·.draft.id)).zip indices).find? fun (id, _) => d.body == some id).map (·.2)).bind
        fun i => a.place? root ⟨i, ancestors⟩).map (·.range) =
      (cs.find? (d.body == some ·.draft.id)).map (Branch.range ((root.line : Int) - line)) := by
  induction cs generalizing indices with
  | nil => rfl
  | cons c rest ih =>
    obtain ⟨i, others, rfl, here, there⟩ := all
    rw [List.map_cons, List.zip_cons_cons, List.find?_cons, List.find?_cons]
    dsimp only
    cases named : d.body == some c.draft.id with
    | true => exact range_of_holds here root ancestors
    | false => exact ih there

mutual

/-- A walk from a node that holds a branch shows the faces of the branch. -/
theorem faces_of_holds {b : Branch} {i : Nat} (holds : a.Holds line b i) (root : Root)
    (skipErrors : Bool) (ancestors : List NodeKind) :
    ((a.visits skipErrors [⟨i, ancestors⟩]).filterMap (a.place? root)).map a.face =
      b.faces ((root.line : Int) - line) skipErrors ancestors := by
  match b with
  | .mk d cs =>
    obtain ⟨item, placed, range⟩ := Option.map_eq_some_iff.1 (range_of_holds holds root ancestors)
    obtain ⟨indices, found, smaller, all⟩ := holds
    have node : item.node = Branch.node line d cs indices := by
      obtain ⟨_, same, rfl⟩ := Option.map_eq_some_iff.1 placed
      exact Option.some.inj (same.symm.trans found)
    have where_placed : item.ancestors = ancestors ∧ item.root = root := by
      obtain ⟨_, -, rfl⟩ := Option.map_eq_some_iff.1 placed
      exact ⟨rfl, rfl⟩
    have kind : a.kind i = d.kind := by
      unfold Arena.kind
      rw [found]
      rfl
    have below : a.pendingBelow ⟨i, ancestors⟩ = indices.map (⟨·, d.kind :: ancestors⟩) := by
      unfold pendingBelow childrenBelow
      dsimp only
      rw [found, kind]
      show ((indices.filter (· < i)).map _) = _
      rw [List.filter_eq_self.2 fun c member => decide_eq_true (smaller c member)]
    have body := body_of_holdsAll (d := d) all root (d.kind :: ancestors)
    have first : a.face item =
        { kind := d.kind
          type := d.type
          range := Branch.range ((root.line : Int) - line) (.mk d cs)
          name := d.name
          value := d.value
          paramCount := d.paramCount
          body := (cs.find? (d.body == some ·.draft.id)).map (Branch.range ((root.line : Int) - line))
          ancestors } := by
      unfold face bodyOf?
      rw [range, node, where_placed.1, where_placed.2, ← body]
      rfl
    have later := facesAll_of_holdsAll all root skipErrors (d.kind :: ancestors)
    rw [visits_cons, Branch.faces]
    unfold cuts
    dsimp only
    rw [kind]
    split
    · rw [visits, List.filterMap_cons_some placed, List.filterMap_nil, List.map_singleton, first]
    · rw [List.append_nil, below, List.filterMap_cons_some placed, List.map_cons, later, first]

theorem facesAll_of_holdsAll {bs : List Branch} {indices : List Nat}
    (all : a.HoldsAll line bs indices) (root : Root) (skipErrors : Bool) (ancestors : List NodeKind) :
    ((a.visits skipErrors (indices.map (⟨·, ancestors⟩))).filterMap (a.place? root)).map a.face =
      Branch.facesAll ((root.line : Int) - line) skipErrors ancestors bs := by
  match bs with
  | [] =>
    rw [all]
    unfold Branch.facesAll
    rw [List.map_nil, visits]
    rfl
  | b :: rest =>
    obtain ⟨i, others, rfl, here, there⟩ := all
    have split : (i :: others).map (Visit.mk · ancestors) =
        [⟨i, ancestors⟩] ++ others.map (⟨·, ancestors⟩) := rfl
    rw [split, visits_append, List.filterMap_append, List.map_append,
      faces_of_holds here root skipErrors ancestors,
      facesAll_of_holdsAll there root skipErrors ancestors, Branch.facesAll]

end

end Arena

end LiveLint
