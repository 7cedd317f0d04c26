import LiveLint.Classify.Classifier
import LiveLint.Language.Profile
import LiveLint.Log
import LiveLint.Notice.Journal
import LiveLint.Parse.Parser
import LiveLint.Remote.Connectivity
import LiveLint.Revision.Tracker
import LiveLint.Schedule.Scheduler
import LiveLint.Value

/-!
# Views of trees

Syntax trees as tables, and native trees as they are recorded.
-/

/-!
## Views

Values of the library as tables and lists, the way reports show them.
-/

namespace LiveLint

/-- A natural number as a value. -/
abbrev Value.nat (n : Nat) : Value := .int n

def Value.texts (items : List String) : Value := .list (items.map .text)

/-- What may be missing as a value. -/
def Value.option {α : Type} (view : α → Value) (x : Option α) : Value := (x.map view).getD .null

def SourceRange.view (r : SourceRange) : Value :=
  .table
    [("start_line", .int r.startLine), ("start_col", .int r.startCol), ("end_line", .int r.endLine),
      ("end_col", .int r.endCol)]

def LineRange.view (r : LineRange) : Value := .list [.nat r.start, .nat r.stop]

def BytePoint.view (p : BytePoint) : Value := .list [.nat p.row, .nat p.col]

/-- The fields of an edit in order. -/
def ByteEdit.fields (e : ByteEdit) : Fields :=
  [("start_byte", .nat e.startByte), ("old_end_byte", .nat e.oldEndByte),
    ("new_end_byte", .nat e.newEndByte), ("start_point", e.startPoint.view),
    ("old_end_point", e.oldEndPoint.view), ("new_end_point", e.newEndPoint.view)]

def ByteEdit.view (e : ByteEdit) : Value := .list (e.fields.map (·.2))

def Revision.view (r : Revision) : Value :=
  .table
    [("file", .text r.file), ("language", .text r.language), ("revision", .nat r.number),
      ("base", .nat r.base), ("ranges", .list (r.changed.map (·.view))),
      ("edit", .option ByteEdit.view r.edit), ("line_count", .nat r.lineCount)]

def Occurrence.fields (o : Occurrence) : Fields :=
  [("identity", .text o.identity), ("file", .text o.file), ("language", .text o.language),
    ("kind", .text o.kind), ("range", o.range.view), ("severity", .text o.severity.label),
    ("scope", .text o.scope), ("metadata", .table o.metadata)]

def Occurrence.view (o : Occurrence) : Value := .table o.fields

/-- An issue as a table: the occurrence, and the confidence with four places. -/
def Issue.view (i : Issue) : Value :=
  .table
    (i.occurrence.fields ++
      [("category", .text i.category.label), ("confidence", .ofNumber (i.confidence.round 4)),
        ("remote_adjusted", .bool i.remoteAdjusted)])

def LowConfidence.view (e : LowConfidence) : Value :=
  .table
    [("identity", .text e.identity), ("kind", .text e.kind), ("language", .text e.language),
      ("category", .text e.category.label), ("confidence", .ofNumber e.confidence),
      ("reason", .text e.reason)]

def Profile.view (p : Profile) : Value :=
  .table
    [("name", .text p.name), ("grammar", .text p.grammar), ("block_style", .text p.blockStyle.label),
      ("function_types", .texts p.functionTypes), ("loop_types", .texts p.loopTypes),
      ("number_types", .texts p.numberTypes), ("declaration_types", .texts p.declarationTypes),
      ("constant_assignment_types", .texts p.constantAssignmentTypes),
      ("enum_types", .texts p.enumTypes), ("call_types", .texts p.callTypes),
      ("comparison_types", .texts p.comparisonTypes),
      ("parameter_list_types", .texts p.parameterListTypes), ("line_comment", .text p.lineComment),
      ("block_comment", .option (fun (a, b) => .texts [a, b]) p.blockComment),
      ("implicit_parameters", .texts p.implicitParameters),
      ("dangerous_calls", .texts p.dangerousCalls),
      ("loose_equality_operators", .texts p.looseEqualityOperators)]

def Log.Record.view (r : Log.Record) : Value := .texts [r.level.label, r.logger, r.message]

def Notice.view (n : Notice Float) : Value := .table n.fields

/-- What the parser counted. -/
def Parser.counts (p : Parser) : Fields :=
  [("treesitter", .nat p.nativeCount), ("fallback", .nat p.scannedCount),
    ("limited", .nat p.limitedCount), ("reused", .nat p.reusedRoots), ("built", .nat p.builtRoots)]

def Journal.stats (j : Journal) (now : Float) : Fields :=
  [("entries", .nat j.cache.entries.length), ("bytes", .nat j.cache.size),
    ("max_bytes", .ofNumber j.cache.cap.given),
    ("dismissed", .nat j.cache.dismissedCount), ("expired", .nat (j.cache.expiredCount now)),
    ("persistent", .bool j.store.isSome),
    ("directory", .option (·.directory) j.store)]

def Scheduler.stats (s : Scheduler Number) (name : String) : Value :=
  let w := s.workspace name
  .table
    [("running", .nat w.running), ("queued", .nat w.waiters.length),
      ("debounce_ms", .ofNumber (Interval.max w.debounce s.settings.baseDebounce)),
      ("latency_ms", .ofNumber (w.latency.round 2)), ("completed", .nat w.completed),
      ("overflowed", .nat w.overflowed)]

/-- The state of a connectivity machine. -/
def ConnectivityMachine.fields (m : ConnectivityMachine Number) : Fields :=
  [("state", .text m.state.label), ("failed_retries", .nat m.failedRetries),
    ("next_attempt_at", .ofNumber m.nextAttempt)]

/-- The state of a connectivity machine and its latest changes. -/
def ConnectivityMachine.view (m : ConnectivityMachine Number) : Value :=
  .table
    (m.fields ++
      [("degraded", .bool m.isDegraded),
        ("transitions", .list (m.changes.map fun c =>
          .list [.text c.source.label, .text c.target.label, .ofNumber c.time]))])

/-! ## Views of trees -/

/-- A placed node as a list. -/
def Placed.view (p : Placed) : Value :=
  .list
    [.nat p.index, .nat p.ancestors.length, .text p.node.kind.label, .text p.node.type,
      .int p.startLine, .nat p.node.startCol, .int p.endLine, .nat p.node.endCol,
      .option .nat p.node.body, .text p.node.name, .text p.node.value, .nat p.node.paramCount]

def Root.view (r : Root) : Value :=
  .list [.nat r.index, .nat r.line, .text r.digest, .bool r.reused]

/-- A tree with all its nodes. -/
def Tree.view (t : Tree) (a : Arena) : Value :=
  let errors := t.errorSpans a
  .table
    [("language", .text t.language), ("backend", .text t.backend.label), ("limited", .bool t.limited),
      ("revision", .nat t.revision), ("roots", .list (t.roots.map (·.view))),
      ("arena", .nat a.size), ("reused", .nat t.reusedCount),
      ("sizes", .list (t.roots.map fun r => .nat (a.subtreeSize r.index))),
      ("nodes", .list ((t.walk a false).map (·.view))),
      ("errors", .list (errors.map fun (first, last) => .list [.int first, .int last])),
      ("has_errors", .bool (!errors.isEmpty)), ("unparsable", .bool (t.fullyUnparsable a))]

/-- Something asked of the native side as a list. -/
def NativeCall.view : NativeCall → Value
  | .parse grammar source old =>
    .list [.text "parse", .text grammar, .nat source.utf8ByteSize, .bool old.isSome]
  | .copy => .texts ["copy"]
  | .edit e => .list [.text "edit", .table e.fields]

mutual

/-- A native tree that was recorded as nested lists: type, whether it is named, first and last byte,
first and last point, field, whether it is missing, children. -/
def NativeNode.ofValue : Value → NativeNode
  | .list
      [type, named, startByte, endByte, startRow, startCol, endRow, endCol, field, missing,
        .list children] =>
    .mk type.asText named.truthy startByte.asInt.toNat endByte.asInt.toNat
      ⟨startRow.asInt, startCol.asInt.toNat⟩ ⟨endRow.asInt, endCol.asInt.toNat⟩ field.text?
      missing.truthy (NativeNode.ofValues children)
  | _ => default

/-- Native trees that were recorded one after the other. -/
def NativeNode.ofValues : List Value → List NativeNode
  | [] => []
  | v :: rest => NativeNode.ofValue v :: NativeNode.ofValues rest

end

/-- The reply of the native side that was recorded: nothing, a failure with its text, or a tree. -/
def NativeReply.ofValue (v : Value) (copies : Bool) : NativeReply :=
  match v with
  | .null => .nothing
  | .table fields => .failure (Value.textAt (.table fields) "raise")
  | node => .tree (NativeNode.ofValue node) copies

end LiveLint
