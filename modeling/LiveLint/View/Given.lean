import LiveLint.Classify.Classifier
import LiveLint.Detect.Detector
import LiveLint.Engine.Request
import LiveLint.Parse.Grammars
import LiveLint.Reading
import LiveLint.Revision.Tracker
import LiveLint.Schedule.Scheduler
import LiveLint.Value

/-!
# Values that are given

Parts of the library from tables and lists, the way a caller gives them. What is left out has its
standard value.
-/

namespace LiveLint

/-- A field of a table that must be there. -/
def Value.need (v : Value) (key : String) : Except Fault Value :=
  match v.field? key with
  | some x => .ok x
  | none => .error (.missingKey key)

/-- Refuses fields that name no argument of a function. -/
def Value.checkArguments (v : Value) (function : String) (names : List String) : Except Fault Unit :=
  match v.asFields.find? (!names.contains ·.1) with
  | some (name, _) => .error (.mistyped (.unknownArgument function name))
  | none => .ok ()

/-- A source range from its four numbers. -/
def SourceRange.ofValue (v : Value) : SourceRange :=
  match v.asList.map (·.asInt) with
  | [startLine, startCol, endLine, endCol] => ⟨startLine, startCol, endLine, endCol⟩
  | _ => ⟨0, 0, 0, 0⟩

def Value.pair (v : Value) : Int × Int :=
  match v.asList.map (·.asInt) with
  | [a, b] => (a, b)
  | _ => (0, 0)

def LineRange.ofValue (v : Value) : Except Fault LineRange :=
  let (start, stop) :=
    match v with
    | .table _ => (v.intAt "start", v.intAt "end")
    | v => v.pair
  match LineRange.ofInts? start stop with
  | some r => .ok r
  | none => .error (.unacceptable (.lineRange start stop))

/-- A pair of a host, which may be anything that stands for two whole numbers. -/
def HostRange.ofPair (v : Value) : Except Fault HostRange :=
  match v.asList with
  | [start, stop] => do pure (.pair (← start.cut) (← stop.cut))
  | items =>
    .error (.unacceptable
      (if items.length < 2 then .tooFewItems 2 items.length else .tooManyItems 2))

/-- Ranges as a host gives them. Pairs that are no ranges do harm only where the ranges count. -/
structure GivenRanges where
  /-- The ranges, if there are any. -/
  ranges : Option (List HostRange) := none
  /-- What is wrong with the pairs. -/
  fault : Option Fault := none

/-- Ranges of a host. A table has to hold a line range. -/
def GivenRanges.ofValue (v : Value) : Except Fault GivenRanges :=
  match v with
  | .list items => do
    let read ← items.mapM fun item =>
      match item with
      | .table _ => (LineRange.ofValue item).map fun r => Except.ok (HostRange.range r)
      | item => pure (HostRange.ofPair item)
    match read.mapM id with
    | .ok ranges => pure { ranges := some ranges }
    | .error fault => pure { ranges := some [], fault := some fault }
  | _ => pure {}

/-- The ranges where they count. -/
def GivenRanges.all (g : GivenRanges) : Except Fault (List HostRange) :=
  match g.fault with
  | some fault => .error fault
  | none => .ok (g.ranges.getD [])

/-- The ranges for a file of which some revisions are known. -/
def GivenRanges.against (g : GivenRanges) (t : Tracker) (file : String) :
    Except Fault (Option (List HostRange)) :=
  match g.fault with
  | some fault => if t.followsLatest file then .error fault else .ok g.ranges
  | none => .ok g.ranges

/-- The severity in a table, which is low if it is left out. -/
def Severity.ofTable (v : Value) : Except Fault Severity :=
  let given := (v.field? "severity").getD (.text "low")
  match given.text?.bind Severity.ofLabel? with
  | some severity => .ok severity
  | none => .error (.unacceptable (.severity given))

def Match.ofValue (v : Value) : Except Fault Match := do
  pure
    { kind := v.textAt "kind"
      range := SourceRange.ofValue (v.get "range")
      severity := ← Severity.ofTable v
      metadata := (v.get "metadata").asFields }

def Occurrence.ofValue (v : Value) : Except Fault Occurrence := do
  pure
    { identity := v.textOr "identity" "id"
      file := v.textOr "file" "a.py"
      language := v.textOr "language" "python"
      kind := v.textAt "kind"
      range := if v.has "range" then SourceRange.ofValue (v.get "range") else ⟨1, 0, 1, 5⟩
      severity := ← Severity.ofTable v
      scope := v.textOr "scope" moduleScope
      metadata := (v.get "metadata").asFields }

/-- The number that a confidence has to be. -/
def Issue.confidenceOf (v : Value) : Except Fault Number :=
  match v.number? with
  | some n => .ok n
  | none => .error (.mistyped (.unordered "<=" "float" v.typeName))

def Issue.ofValue (v : Value) : Except Fault Issue := do
  let category ← Category.ofValue ((v.field? "category").getD (.text "Readability"))
  let confidence ← confidenceOf ((v.field? "confidence").getD (.float 0.5))
  Issue.ofParts (← Occurrence.ofValue v) category confidence

/-- A rule. One whose confidence is no number fails as soon as it is used. -/
def Rule.ofValue (v : Value) : Except Fault Rule := do
  let category ← Category.ofValue (← v.need "category")
  let confidence ← v.need "confidence"
  match confidence.number? with
  | some confidence => pure { category, confidence }
  | none =>
    let fault : Fault := .mistyped (.unordered ">" confidence.typeName "float")
    pure { category, confidence := 0, adjust := fun _ => .error fault }

/-- Rules by the kinds of patterns. -/
def Rule.tableOfValue (v : Value) : Except Fault (Table String Rule) :=
  v.asFields.mapM fun (kind, rule) => do pure (kind, ← Rule.ofValue rule)

def Thresholds.ofValue (v : Value) : Thresholds where
  minFunctionLength := (v.field? "min_function_length").getD (.int 50)
  maxParameters := (v.field? "max_parameters").getD (.int 5)
  duplicateMinLines := (v.field? "duplicate_min_lines").getD (.int 5)

/-- Why the interval of a workspace cannot be told if the base interval is no number. A workspace that
is in use has an interval of its own, and then the larger one is looked for first. -/
def SchedulerSettings.baseFault? (inUse : Bool) (v : Value) : Option Fault :=
  match v with
  | .null | .table _ =>
    some (.mistyped
      (if inUse then .unordered ">" v.typeName v.typeName else .operands "/" v.typeName "float"))
  | v => if v.number?.isSome then none else some (.mistyped (.operands "/" v.typeName "float"))

def SchedulerSettings.ofTable (v : Value) : SchedulerSettings Number :=
  let valueOr (key : String) (other : Value) : Value := (v.field? key).getD other
  SchedulerSettings.ofValues (valueOr "max_concurrent" (.int 3)) (valueOr "max_queue_depth" (.int 32))
    (v.numberOr "base_debounce_ms" (.float 0)) (valueOr "max_debounce_ms" (.float 5000))
    (valueOr "load_queue_threshold" (.int 3)) (valueOr "load_latency_threshold_ms" (.float 1000))

def Grammars.ofValue (v : Value) : Grammars :=
  ⟨v.asFields.map fun (name, style) => (name,
    match style.asText with
    | "named" => .named
    | "plain" => .plain
    | "broken" => .broken
    | _ => .absent)⟩

/-- A request for an analysis of a file of which some revisions are known. -/
def AnalysisRequest.ofValue (t : Tracker) (v : Value) : Except Fault AnalysisRequest := do
  let ranges ← (← GivenRanges.ofValue (v.get "ranges")).against t (v.textAt "file")
  pure
    { file := (← v.need "file").asText
      language := (← v.need "language").asText
      code := (← v.need "code").asText
      ranges
      workspace := v.textOr "workspace" "default" }

end LiveLint
