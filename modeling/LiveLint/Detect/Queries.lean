import LiveLint.Detect.Query
import Std.Data.HashMap

/-!
# The built-in queries
-/

/-!
## Repeated code

Lines are compared after their blanks have been collapsed; blank lines and comments are left out.
A window of lines that occurs again, without overlapping its first copy, is a repetition, and
repetitions that continue each other make up one run. Broken regions interrupt runs, and a window
of nothing but brackets and separators is no code.
-/

namespace LiveLint.Duplicate

/-- A line that takes part in the comparison. A broken region has no text. -/
structure Line where
  number : Nat
  text : Option String
  deriving DecidableEq, Repr

/-- Whether the line before is a broken region or there is none. -/
def afterGap (before : Option Line) : Bool := (before.bind (·.text)).isNone

/-- The lines that take part, given the number of the first line and the line taken before it. -/
def significantFrom (profile : Option Profile) (broken : List (Int × Int)) :
    Nat → Option Line → List (List Char) → List Line
  | _, _, [] => []
  | number, before, raw :: rest =>
    if broken.any fun (first, last) => first ≤ number && number ≤ last then
      if afterGap before then significantFrom profile broken (number + 1) before rest
      else
        let line : Line := ⟨number, none⟩
        line :: significantFrom profile broken (number + 1) (some line) rest
    else
      let text := Text.trim raw
      if text.isEmpty || profile.any (·.isCommentLine text) then
        significantFrom profile broken (number + 1) before rest
      else
        let line : Line := ⟨number, some (String.ofList (Text.collapse text))⟩
        line :: significantFrom profile broken (number + 1) (some line) rest

def significant (s : Subject) : List Line :=
  significantFrom s.profile (s.tree.errorSpans s.arena) 1 none s.lines

/-- The place in a list of some length that a number stands for; a negative one counts from the
end. -/
def placeOf (length : Nat) (i : Int) : Nat := if 0 ≤ i then i.toNat else (i + length).toNat

/-- The texts of the window at a place, given the lines from there on, if it lies inside of the
`total` lines, none of its lines is broken, and they are not only punctuation. A window of negative
size ends as many lines before the end. -/
def window? (total : Nat) (size : Int) (i : Nat) (lines : List Line) : Option (List String) :=
  if i + size ≤ total then
    match (lines.take (placeOf total (i + size) - i)).mapM (·.text) with
    | some key => if key.all (LogicalLine.isPunctuationOnly ·.toList) then none else some key
    | none => none
  else none

/-- The windows of a list of lines with the places they begin at. -/
def windowsFrom (total : Nat) (size : Int) : Nat → List Line → List (Nat × List String)
  | _, [] => []
  | i, line :: rest =>
    match window? total size i (line :: rest) with
    | some key => (i, key) :: windowsFrom total size (i + 1) rest
    | none => windowsFrom total size (i + 1) rest

structure Repetition where
  later : Nat
  first : Nat
  deriving DecidableEq, Repr

/-- The repetitions among windows, given where earlier windows were first seen. -/
def repetitions (size : Int) (seen : Std.HashMap (List String) Nat) :
    List (Nat × List String) → List Repetition
  | [] => []
  | (i, key) :: rest =>
    match seen[key]? with
    | none => repetitions size (seen.insert key i) rest
    | some j =>
      if j + size ≤ i then ⟨i, j⟩ :: repetitions size seen rest else repetitions size seen rest

/-- Repetitions that continue each other: the first of them and how many there are. -/
structure Run where
  start : Repetition
  count : Nat
  deriving DecidableEq, Repr

def Run.isContinuedBy (run : Run) (r : Repetition) : Bool :=
  r.later == run.start.later + run.count && r.first == run.start.first + run.count

/-- Extends a run by the repetitions that follow, and collects the runs after it. -/
def runsFrom (run : Run) : List Repetition → List Run
  | [] => [run]
  | r :: rest =>
    if run.isContinuedBy r then runsFrom { run with count := run.count + 1 } rest
    else run :: runsFrom ⟨r, 1⟩ rest

def runs : List Repetition → List Run
  | [] => []
  | r :: rest => runsFrom ⟨r, 1⟩ rest

/-- Runs of at least this many lines are serious. -/
def highLines : Int := 20

def lineNumber (lines : Array Line) (i : Nat) : Nat := (lines[i]?.map (·.number)).getD 0

def kind : String := "duplicated-code"

/-- What is reported of a run: the lines of the later copy, and where the first copy is. -/
def report (source : Array (List Char)) (lines : Array Line) (size : Int) (run : Run) : Match :=
  let length := run.count + size - 1
  let stop (start : Nat) := lineNumber lines (placeOf lines.size (start + length - 1))
  let last := stop run.start.later
  let covered := lines.extract run.start.later (placeOf lines.size (run.start.later + length))
  let logical := covered.toList.countP fun l => l.text.any (LogicalLine.holds none ·.toList)
  { kind
    range :=
      ⟨lineNumber lines run.start.later, 0, last, (Text.trimRight (source.getD (last - 1) [])).length⟩
    severity := if highLines ≤ length then .high else .medium
    metadata :=
      [("lines", .int length), ("logical_lines", .int logical),
        ("original_start_line", .int (lineNumber lines run.start.first)),
        ("original_end_line", .int (stop run.start.first))] }

def among (size : Int) (s : Subject) (lines : List Line) : List Match :=
  let all := lines.toArray
  let source := s.lines.toArray
  (runs (repetitions size ∅ (windowsFrom lines.length size 0 lines))).map (report source all size)

/-- The repeated runs of a file. A file that is too short for two windows has none; where windows
are looked for, their size has to be a whole number. -/
def find (settings : Settings) (s : Subject) : Except Fault (List Match) :=
  let size := settings.duplicateMinLines
  let lines := significant s
  if Number.lt (.int lines.length) (2 * size) then .ok []
  else
    match size.whole? with
    | some n => .ok (among n s lines)
    | none => .error (.mistyped (.notInteger "float"))

end LiveLint.Duplicate

/-!
## Queries
-/

namespace LiveLint.Query

def longFunctionAt (settings : Settings) (s : Subject) (item : Placed) : Option Match :=
  if item.node.kind != .function then none
  else
    match s.arena.bodyOf? item with
    | none => none
    | some body =>
      let count : Number := .int (LogicalLine.count s.profile s.lines body)
      if body.node.kind == .error || count.le settings.minFunctionLength then none
      else
        some
          { kind := "long-function"
            range := item.range
            severity := if Number.lt (2 * settings.minFunctionLength) count then .high else .medium
            metadata :=
              [("name", .text item.node.name), ("logical_lines", .ofNumber count),
                ("threshold", .ofNumber settings.minFunctionLength)] }

/-- Functions whose body has more logical lines than allowed; twice as many are serious. -/
def longFunction : Query where
  kind := "long-function"
  search := .perNode longFunctionAt

/-- Numbers outside of a declaration that would name them. A function inside a declaration starts
afresh. -/
def magicNumber : Query where
  kind := "magic-number"
  search := .perNode fun _ _ item =>
    if item.node.kind == .number && !inDeclaration item.ancestors then
      some
        { kind := "magic-number", range := item.range, severity := .low,
          metadata := [("value", .text item.node.value)] }
    else none

/-- How many loops lead from a loop with a body to a node at or below that body, both ends
counted if the node is a loop. -/
def nesting (body inner : Placed) : Nat :=
  (inner.ancestors.take (inner.ancestors.length - body.ancestors.length)).count .loop + 2

def loopDepth (a : Arena) (body : Placed) : Nat :=
  (((body :: a.walkBelow body).filter (·.node.kind == .loop)).map (nesting body)).foldl max 1

def nestedLoopAt (_ : Settings) (s : Subject) (item : Placed) : Option Match :=
  if item.node.kind != .loop then none
  else
    match s.arena.bodyOf? item with
    | none => none
    | some body =>
      let depth := loopDepth s.arena body
      if depth < 2 then none
      else
        some
          { kind := "nested-loop", range := item.range,
            severity := if 3 ≤ depth then .high else .medium, metadata := [("depth", .int depth)] }

/-- Loops with a loop in their body; three levels are serious. -/
def nestedLoop : Query where
  kind := "nested-loop"
  search := .perNode nestedLoopAt

def duplicatedCode : Query where
  kind := Duplicate.kind
  search := .inFile Duplicate.find

def longParameterList : Query where
  kind := "long-parameter-list"
  search := .perNode fun settings _ item =>
    if item.node.kind == .function && settings.maxParameters.lt (.int item.node.paramCount) then
      some
        { kind := "long-parameter-list", range := item.range, severity := .medium,
          metadata :=
            [("name", .text item.node.name), ("parameters", .int item.node.paramCount),
              ("limit", .ofNumber settings.maxParameters)] }
    else none

def evalUsage : Query where
  kind := "eval-usage"
  search := .perNode fun _ _ item =>
    if item.node.kind == .call then
      some
        { kind := "eval-usage", range := item.range, severity := .high,
          metadata := [("callee", .text item.node.name)] }
    else none

def looseEquality : Query where
  kind := "loose-equality"
  languages := some ["javascript", "typescript"]
  search := .perNode fun _ _ item =>
    if item.node.kind == .comparison then
      some
        { kind := "loose-equality", range := item.range, severity := .low,
          metadata := [("operator", .text item.node.value)] }
    else none

/-- All built-in queries, in the order in which they run. -/
def builtIn : List Query :=
  [longFunction, magicNumber, nestedLoop, duplicatedCode, longParameterList, evalUsage,
    looseEquality]

/-- A query of its own kind for functions of one name. -/
def functionsNamed (kind name : String) : Query where
  kind
  search := .perNode fun _ _ item =>
    if item.node.kind == .function && item.node.name == name then
      some { kind, range := item.range, severity := .low }
    else none

/-- All functions with their names, which make up the scopes. -/
def functionSpans : Query where
  kind := "function-spans"
  search := .perNode fun _ _ item =>
    if item.node.kind == .function then
      some
        { kind := "function-spans", range := item.range, severity := .low,
          metadata := [("name", .text item.node.name)] }
    else none

end LiveLint.Query
