import LiveLint.Detect.Match
import LiveLint.Detect.Queries
import LiveLint.Fault

/-!
# Detection

A detector runs its queries over a tree and gives what they find identities. What a query finds in
a top-level node is remembered by the node's index, so that a node carried over to a later revision
is not searched again; the matches then move with the node.
-/

namespace LiveLint

/-- What determines the matches of a query in one top-level node of an arena. -/
structure MemoKey where
  root : Nat
  kind : String
  language : String
  settings : Settings.Key
  deriving DecidableEq, Repr, Hashable

/-- The line a node was at when it was searched, and what was found. -/
abbrev Finds := Nat × List Match

structure Detector where
  queries : List Query := []
  /-- An arena with this many results forgets them before it takes another one. -/
  memoLimit : Int := 50000
  /-- Results by arena. -/
  memo : Std.HashMap Nat (Std.HashMap MemoKey Finds) := ∅
  hits : Nat := 0
  misses : Nat := 0

namespace Detector

/-- The detector with one more query. Each kind may be registered once. -/
def register (d : Detector) (query : Query) : Except Fault Detector :=
  if d.queries.any (·.kind == query.kind) then
    .error (.unacceptable (.duplicateQuery query.kind))
  else .ok { d with queries := d.queries ++ [query] }

def ofQueries (queries : List Query) (memoLimit : Int := 50000) : Except Fault Detector :=
  queries.foldlM register { memoLimit }

def standard : Detector := { queries := Query.builtIn }

def resultsOf (d : Detector) (arena : Nat) : Std.HashMap MemoKey Finds := d.memo.getD arena ∅

def remember (d : Detector) (arena : Nat) (key : MemoKey) (found : Finds) : Detector :=
  let results := d.resultsOf arena
  let results := if d.memoLimit ≤ results.size then ∅ else results
  { d with memo := d.memo.insert arena (results.insert key found), misses := d.misses + 1 }

/-- What a search finds in one top-level node, from memory if it was done before. -/
def inRoot (d : Detector) (settings : Settings) (s : Subject) (kind : String)
    (find : Settings → Subject → Root → List Match) (root : Root) : Detector × List Match :=
  let key : MemoKey := ⟨root.index, kind, s.tree.language, settings.key⟩
  match (d.resultsOf s.tree.arena)[key]? with
  | some (line, found) =>
    ({ d with hits := d.hits + 1 }, found.map (·.shifted ((root.line : Int) - line)))
  | none =>
    let found := find settings s root
    (d.remember s.tree.arena key (root.line, found), found)

/-- What a search finds in top-level nodes, errors left out. -/
def inRoots (settings : Settings) (s : Subject) (kind : String)
    (find : Settings → Subject → Root → List Match) :
    List Root → Detector → Detector × List Match
  | [], d => (d, [])
  | root :: rest, d =>
    if s.arena.kind root.index == .error then inRoots settings s kind find rest d
    else
      let (d, here) := d.inRoot settings s kind find root
      let (d, there) := inRoots settings s kind find rest d
      (d, here ++ there)

def run (d : Detector) (settings : Settings) (s : Subject) (query : Query) :
    Detector × Except Fault (List Match) :=
  match query.search with
  | .inRoot find =>
    let (d, found) := inRoots settings s query.kind find s.tree.roots d
    (d, .ok found)
  | .inFile find => (d, find settings s)

/-- A checkpoint is asked after every query whether detection may go on; its argument counts the
questions from one. -/
abbrev Checkpoint := Nat → Option Fault

def Checkpoint.pass : Checkpoint := fun _ => none

/-- Runs queries one after the other; `asked` questions were put to the checkpoint before. -/
def runAll (settings : Settings) (s : Subject) (checkpoint : Checkpoint) :
    List Query → Nat → Detector → Detector × Except Fault (List Match)
  | [], _, d => (d, .ok [])
  | query :: rest, asked, d =>
    if query.appliesTo s.tree.language then
      match d.run settings s query with
      | (d, .error fault) => (d, .error fault)
      | (d, .ok here) =>
        match checkpoint (asked + 1) with
        | some fault => (d, .error fault)
        | none =>
          let (d, there) := runAll settings s checkpoint rest (asked + 1) d
          (d, there.map (here ++ ·))
    else runAll settings s checkpoint rest asked d

def namedFunction (m : Match) : Except Fault Identity.NamedFunction :=
  match m.metadata.get? "name" with
  | some name => .ok (m.range, name.plain)
  | none => .error (.missingKey "name")

/-- Runs every query that applies and returns the occurrences in source order. Nothing is found in a
tree of limited support. -/
def detect (d : Detector) (settings : Settings) (tree : Tree) (arena : Arena)
    (checkpoint : Checkpoint := Checkpoint.pass) : Detector × Except Fault (List Occurrence) :=
  if tree.limited || tree.roots.isEmpty then (d, .ok [])
  else
    let s : Subject := { tree, arena }
    match runAll settings s checkpoint d.queries 0 d with
    | (d, .error fault) => (d, .error fault)
    | (d, .ok found) =>
      let (d, spans) := d.run settings s Query.functionSpans
      (d,
        (spans.bind (·.mapM namedFunction)).map
          (Identity.assign tree.file tree.language s.lines found))

end Detector

/-!
## Thresholds as they are given

A threshold ought to be a number. If it is something else, the searches that meet it fail, and only
those: a threshold for functions does no harm in a file without functions. Tables and lists cannot
be part of a key, so that no result about a node can be looked up with them.
-/

structure Thresholds where
  minFunctionLength : Value := .int 50
  maxParameters : Value := .int 5
  duplicateMinLines : Value := .int 5

def Subject.searched (s : Subject) : List Root :=
  s.tree.roots.filter fun root => s.arena.kind root.index != .error

def Subject.functions (s : Subject) : List Placed :=
  s.searched.flatMap fun root => (s.arena.walkRoot root).filter (·.node.kind == .function)

def Subject.hasBody (s : Subject) (item : Placed) : Bool :=
  (s.arena.bodyOf? item).any (·.node.kind != .error)

namespace Thresholds

/-- The thresholds that are numbers. The standard value stands for any other. -/
def settings (t : Thresholds) : Settings :=
  let standard : Settings := {}
  { minFunctionLength := t.minFunctionLength.number?.getD standard.minFunctionLength
    maxParameters := t.maxParameters.number?.getD standard.maxParameters
    duplicateMinLines := t.duplicateMinLines.number?.getD standard.duplicateMinLines }

/-- Why thresholds cannot be part of a key. -/
def keyFault? (t : Thresholds) : Option Fault :=
  [t.minFunctionLength, t.maxParameters, t.duplicateMinLines].findSome? fun v =>
    match v with
    | .list _ | .table _ => some (.mistyped (.unhashable v.typeName))
    | _ => none

/-- Why a number cannot be compared with a threshold. -/
def orderFault? (relation : String) (v : Value) : Option Fault :=
  if v.number?.isSome then none else some (.mistyped (.unordered relation "int" v.typeName))

/-- Why a file cannot be searched for repeated code. -/
def windowFault? (v : Value) : Option Fault :=
  match v with
  | .null | .table _ => some (.mistyped (.operands "*" "int" v.typeName))
  | v => orderFault? "<" v

/-- Why a query cannot search a tree. -/
def fault? (t : Thresholds) (s : Subject) (q : Query) : Option Fault :=
  match q.search with
  | .inFile _ => windowFault? t.duplicateMinLines
  | .inRoot _ =>
    if s.searched.isEmpty then none
    else
      t.keyFault?.or <|
        if q.kind == Query.longFunction.kind && s.functions.any s.hasBody then
          orderFault? "<=" t.minFunctionLength
        else if q.kind == Query.longParameterList.kind && !s.functions.isEmpty then
          orderFault? ">" t.maxParameters
        else none

/-- The query as it does under some thresholds. -/
def guard (t : Thresholds) (s : Subject) (q : Query) : Query :=
  match t.fault? s q with
  | some fault => { q with search := .inFile fun _ _ => .error fault }
  | none => q

def AreNumbers (t : Thresholds) : Prop :=
  t.minFunctionLength.number?.isSome ∧ t.maxParameters.number?.isSome ∧
    t.duplicateMinLines.number?.isSome

private theorem keyFault?_of_numbers {t : Thresholds} (h : t.AreNumbers) : t.keyFault? = none := by
  obtain ⟨length, parameters, lines⟩ := h
  have fine : ∀ v : Value, v.number?.isSome →
      (match v with
        | .list _ | .table _ => some (Fault.mistyped (.unhashable v.typeName))
        | _ => none) = none := by
    intro v number
    cases v <;> simp_all [Value.number?]
  simp only [keyFault?, List.findSome?_cons, List.findSome?_nil, fine _ length, fine _ parameters,
    fine _ lines]

private theorem windowFault?_of_number {v : Value} (h : v.number?.isSome) : windowFault? v = none := by
  cases v <;> simp_all [Value.number?, windowFault?, orderFault?]

/-- Numbers never make a search fail. -/
theorem fault?_of_numbers {t : Thresholds} (h : t.AreNumbers) (s : Subject) (q : Query) :
    t.fault? s q = none := by
  have ordered : ∀ (relation : String) (v : Value), v.number?.isSome → orderFault? relation v = none :=
    fun relation v number => if_pos number
  unfold fault?
  cases q.search with
  | inFile _ => exact windowFault?_of_number h.2.2
  | inRoot _ =>
    simp only [keyFault?_of_numbers h, ordered _ _ h.1, ordered _ _ h.2.1, Option.or, ite_self]

/-- Under numbers a query does what it does anyway. -/
theorem guard_of_numbers {t : Thresholds} (h : t.AreNumbers) (s : Subject) (q : Query) :
    t.guard s q = q := by
  rw [guard, fault?_of_numbers h]

end Thresholds

def Detector.detectGiven (d : Detector) (t : Thresholds) (tree : Tree) (arena : Arena)
    (checkpoint : Checkpoint := Checkpoint.pass) : Detector × Except Fault (List Occurrence) :=
  let guarded := { d with queries := d.queries.map (t.guard { tree, arena }) }
  let (after, found) := guarded.detect t.settings tree arena checkpoint
  ({ after with queries := d.queries }, found)

end LiveLint
