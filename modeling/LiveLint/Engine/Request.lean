import LiveLint.Classify.Classifier
import LiveLint.Json.Parser
import LiveLint.Notice.Cache
import LiveLint.Remote.Connectivity
import LiveLint.Revision.Diff
import LiveLint.Tree.Tree
import LiveLint.Value

/-!
# Requests of a host

A host sends requests as JSON objects. A request asks for an analysis or for a record of what the
user did with a pattern; whatever breaks the rules of a request is refused with a reason, and with
the name of the field that is to blame.
-/

/-! ## Requests and results of an analysis -/

namespace LiveLint

/-- What is to be analyzed: a file with its text, perhaps the lines that changed, and the workspace
whose slots count. -/
structure AnalysisRequest where
  file : String
  language : String
  code : String
  ranges : Option (List HostRange) := none
  workspace : String := "default"
  deriving Repr

/-- How an analysis ended. -/
inductive AnalysisStatus where
  | ok
  /-- The language is not known. -/
  | limited
  /-- No part of the file could be read. -/
  | unparsable
  /-- A newer text of the file came in. -/
  | superseded
  /-- Too many analyses are waiting. -/
  | retryLater
  deriving DecidableEq, Repr

def AnalysisStatus.label : AnalysisStatus → String
  | .ok => "ok"
  | .limited => "limited"
  | .unparsable => "unparsable"
  | .superseded => "superseded"
  | .retryLater => "retry_later"

structure AnalysisResult where
  file : String
  language : String
  /-- Number of the revision that was analyzed. -/
  revision : Nat
  status : AnalysisStatus
  /-- The issues that are to be shown. -/
  issues : List Issue := []
  /-- Whether there is a remote service that counts as unavailable. -/
  degraded : Bool := false
  /-- How many issues are not shown again. -/
  suppressed : Nat := 0
  backend : Backend := .none
  /-- State of the connection, none if there is no remote service. -/
  connectivity : Option Connectivity := none
  deriving Repr

/-- Version of the format in which requests and results are exchanged. -/
def schemaVersion : String := "1.0"

/-! ## Requests of a host -/

inductive HostRequest where
  | analyze (r : AnalysisRequest)
  | checkAndRecord (file identity : String) (action : NoticeAction)
  deriving Repr

inductive RequestFault where
  | notJson (reason : String)
  | notObject
  | version (v : Value)
  | operation (v : Value)
  | notText (field : String)
  | notName (field : String)
  | notList (field : String)
  | range (v : Value)
  | action (v : Value)
  deriving Repr

namespace RequestFault

def reason : RequestFault → String
  | .notJson reason => "not valid JSON: " ++ reason
  | .notObject => "payload must be a JSON object"
  | .version v => "unsupported schema version " ++ v.shown
  | .operation v => "unknown operation " ++ v.shown
  | .notText _ => "must be a string"
  | .notName _ => "must be a non-empty string"
  | .notList _ => "must be a list"
  | .range v => "bad range " ++ v.shown
  | .action v => "unknown action " ++ v.shown

def field : RequestFault → Option String
  | .notJson _ | .notObject => none
  | .version _ => some "schema_version"
  | .operation _ => some "operation"
  | .notText field | .notName field | .notList field => some field
  | .range _ => some "changedRanges"
  | .action _ => some "action"

def reply (f : RequestFault) : Value :=
  .table
    ([("schema_version", .text schemaVersion), ("status", .text "error"),
        ("error", .text f.reason)] ++
      (f.field.map fun name => ("field", Value.text name)).toList)

end RequestFault

namespace HostRequest

def textIn (payload : Fields) (field : String) : Except RequestFault String :=
  match Table.get? payload field with
  | some (.text s) => .ok s
  | _ => .error (.notText field)

/-- A field that holds a text that is not empty. -/
def nameIn (payload : Fields) (field : String) : Except RequestFault String :=
  match Table.get? payload field with
  | some (.text s) => if s.isEmpty then .error (.notName field) else .ok s
  | _ => .error (.notName field)

/-- Versions are compared by their first number. -/
def isSupported (version : String) : Bool :=
  version.toList.takeWhile (· != '.') == schemaVersion.toList.takeWhile (· != '.')

/-- The version of the format is left out or supported. -/
def checkVersion (payload : Fields) : Except RequestFault Unit :=
  match Table.get? payload "schema_version" with
  | none | some .null => .ok ()
  | some (.text version) =>
    if isSupported version then .ok () else .error (.version (.text version))
  | some v => .error (.version v)

/-- A range: a pair of whole numbers or a table with start and end. -/
def rangeOf (item : Value) : Except RequestFault HostRange :=
  let ends : Option (Value × Value) :=
    match item with
    | .table _ => some (item.get "start", item.get "end")
    | .list [start, stop] => some (start, stop)
    | _ => none
  match ends with
  | some (.int start, .int stop) =>
    match LineRange.ofInts? start stop with
    | some r => .ok (.range r)
    | none => .error (.range item)
  | _ => .error (.range item)

/-- The lines that changed, if the host says so. -/
def rangesIn (payload : Fields) : Except RequestFault (Option (List HostRange)) :=
  match Table.get? payload "changedRanges" with
  | none | some .null => .ok none
  | some (.list items) => (items.mapM rangeOf).map some
  | some _ => .error (.notList "changedRanges")

def analysisOf (payload : Fields) : Except RequestFault HostRequest := do
  let file ← nameIn payload "file"
  let language ← textIn payload "language"
  let code ← textIn payload "code"
  let workspace ←
    if (Table.get? payload "workspace").isSome then nameIn payload "workspace" else pure "default"
  let ranges ← rangesIn payload
  pure (.analyze { file, language, code, ranges, workspace })

def recordOf (payload : Fields) : Except RequestFault HostRequest := do
  let file ← nameIn payload "file"
  let identity ← nameIn payload "identity"
  let v := (Table.get? payload "action").getD (.text NoticeAction.shown.label)
  match v.text?.bind NoticeAction.ofLabel? with
  | some action => pure (.checkAndRecord file identity action)
  | none => .error (.action v)

def ofValue (payload : Value) : Except RequestFault HostRequest :=
  match payload with
  | .table fields => do
    checkVersion fields
    match (Table.get? fields "operation").getD .null with
    | .text "analyze" => analysisOf fields
    | .text "checkAndRecord" => recordOf fields
    | v => .error (.operation v)
  | _ => .error .notObject

def payloadOfText (text : String) : Except RequestFault Value :=
  (Json.parse text.toList).mapError fun f => .notJson (f.message text.toList)

def payloadOfBytes (bytes : List UInt8) : Except RequestFault Value :=
  (Json.parseBytes bytes).mapError .notJson

end HostRequest

end LiveLint
