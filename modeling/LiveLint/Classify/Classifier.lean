import LiveLint.Detect.Match
import LiveLint.Fault
import LiveLint.Log
import LiveLint.Table
import LiveLint.Value

/-!
# Classification

Every occurrence gets one category. A kind without a rule falls back to one category with little
confidence, and whenever the confidence is low the event is logged and kept for a while.
-/

/-!
## Issues

An issue is a detected pattern with its category and a confidence between zero and one. Rules give a kind of
pattern both.
-/

/-! ## Categories -/

namespace LiveLint

/-- What an issue is about. -/
inductive Category where
  | syntaxBasics | logicClarity | performance | readability | security
  deriving DecidableEq, Repr

namespace Category

def label : Category → String
  | .syntaxBasics => "Syntax Basics"
  | .logicClarity => "Logic Clarity"
  | .performance => "Performance"
  | .readability => "Readability"
  | .security => "Security"

def all : List Category := [.syntaxBasics, .logicClarity, .performance, .readability, .security]

def names : List String := all.map label

def ofLabel? (name : String) : Option Category := all.find? (·.label == name)

theorem ofLabel?_label (c : Category) : ofLabel? c.label = some c := by cases c <;> rfl

def ofValue (v : Value) : Except Fault Category :=
  match v with
  | .text name =>
    match ofLabel? name with
    | some c => .ok c
    | none => .error (.unacceptable (.category v))
  | v => .error (.unacceptable (.category v))

end Category

/-!
## Classification rules

A rule gives a kind of pattern its category and its confidence. Some rules look at what the query
reported and replace the confidence; they then say why.
-/

/-- Looks at the data of an occurrence for a reason to replace the confidence. -/
abbrev Adjustment := Fields → Except Fault (Option (Number × String))

structure Rule where
  category : Category
  confidence : Number
  adjust : Adjustment := fun _ => .ok none

namespace Rule

def confidenceFor (r : Rule) (data : Fields) : Except Fault (Number × String) :=
  (r.adjust data).map fun replaced => replaced.getD (r.confidence, "base rule")

/-- Functions that are hardly longer than allowed are less certain. -/
def borderline : Adjustment := fun data =>
  match data.get? "logical_lines", data.get? "threshold" with
  | some lines, some threshold =>
    match lines.number?.bind Number.whole?, threshold.number?.bind Number.whole? with
    | some n, some limit =>
      if (Number.int limit).overflows then .error .numberTooLarge
      else if Number.int n ≤ Number.int limit * Number.float 1.2 then
        .ok (some (.float 0.65,
          lines.plain ++ " logical lines is close to the " ++ threshold.plain ++ "-line threshold"))
      else .ok none
    | _, _ => .ok none
  | _, _ => .ok none

/-- Numbers that are usually fine without a name. -/
def benignNumbers : List String := ["0", "1", "2", "-1", "0.0", "1.0", "0.5", "10", "100"]

/-- Common numbers are less certain. -/
def benign : Adjustment := fun data =>
  let value := ((data.get? "value").map (·.plain)).getD ""
  if benignNumbers.contains value then
    .ok (some (.float 0.6, "literal " ++ value ++ " is commonly self-explanatory"))
  else .ok none

/-- Replaces the confidence if a field is at least some number. A field that is missing counts as
zero, one that is no number is an error. -/
def atLeast (field : String) (least : Int) (confidence : Number) (reason : String) : Adjustment :=
  fun data =>
    let value := (data.get? field).getD (.int 0)
    match value.number? with
    | some n => .ok (if Number.int least ≤ n then some (confidence, reason) else none)
    | none => .error (.mistyped (.unordered ">=" value.typeName "int"))

def standard : Table String Rule :=
  [("long-function", { category := .logicClarity, confidence := .float 0.9, adjust := borderline }),
    ("magic-number", { category := .readability, confidence := .float 0.85, adjust := benign }),
    ("nested-loop",
      { category := .performance, confidence := .float 0.8
        adjust := atLeast "depth" 3 (.float 0.9) "three or more nested loops" }),
    ("duplicated-code",
      { category := .logicClarity, confidence := .float 0.85
        adjust := atLeast "lines" 10 (.float 0.95) "ten or more duplicated lines" }),
    ("long-parameter-list", { category := .readability, confidence := .float 0.8 }),
    ("eval-usage", { category := .security, confidence := .float 0.95 }),
    ("loose-equality", { category := .syntaxBasics, confidence := .float 0.9 })]

/-- The rules for single languages, which come before those for all. -/
def forLanguages : Table String (Table String Rule) :=
  [("typescript",
    [("loose-equality", { category := .syntaxBasics, confidence := .float 0.95 })])]

end Rule

/-!
## Issues

A detected pattern with its category and a confidence between zero and one.
-/

structure Issue where
  occurrence : Occurrence
  category : Category
  confidence : Number
  /-- Whether the confidence came from the remote service. -/
  remoteAdjusted : Bool := false
  deriving Repr

/-- The number itself if it lies between zero and one, otherwise the nearer of the two. What is no
number counts as zero. -/
def Number.unit (x : Number) : Number :=
  let raised := if Number.float 0 < x then x else .float 0
  if raised < Number.float 1 then raised else .float 1

namespace Issue

def identity (i : Issue) : String := i.occurrence.identity

/-- An issue with a confidence that is checked. -/
def ofParts (occurrence : Occurrence) (category : Category) (confidence : Number)
    (remoteAdjusted : Bool := false) : Except Fault Issue :=
  if Number.float 0 ≤ confidence ∧ confidence ≤ Number.float 1 then
    .ok { occurrence, category, confidence, remoteAdjusted }
  else .error (.unacceptable (.confidence confidence))

/-- The issue with another confidence, brought between zero and one. -/
def withConfidence (i : Issue) (confidence : Number) : Issue :=
  { i with confidence := confidence.unit, remoteAdjusted := true }

end Issue

end LiveLint

/-!
## Classifying
-/

namespace LiveLint

structure LowConfidence where
  identity : String
  kind : String
  language : String
  category : Category
  confidence : Number
  reason : String
  deriving Repr

/-- Rules, and the latest classifications with low confidence, oldest first. -/
structure Classifier where
  rules : Table String Rule := Rule.standard
  languageRules : Table String (Table String Rule) := Rule.forLanguages
  /-- How many events are kept; none means all. -/
  history : Option Nat := some 256
  events : List LowConfidence := []

namespace Classifier

/-- The classifier with a limit on the events it keeps. Null stands for no limit; everything else
has to be a whole number that is not below zero. -/
def keeping (c : Classifier) (history : Value) : Except Fault Classifier :=
  if history.isNull then .ok { c with history := none }
  else
    match history.number?.bind Number.whole? with
    | none => .error (.mistyped .notCount)
    | some n =>
      if n < 0 then .error (.unacceptable (.negative "maxlen"))
      else .ok { c with history := some n.toNat }

def lowConfidence : Number := .float 0.7

def rule? (c : Classifier) (kind language : String) : Option Rule :=
  (((c.languageRules.get? language).getD []).get? kind).or (c.rules.get? kind)

def judge (c : Classifier) (o : Occurrence) (language : String) :
    Except Fault (Category × Number × String) :=
  match c.rule? o.kind language with
  | some rule =>
    (rule.confidenceFor o.metadata).map fun (confidence, reason) =>
      (rule.category, confidence, reason)
  | none => .ok (.logicClarity, .float 0.5, (Failure.unclassified o.kind language).text)

/-- The classifier with one more event; the oldest one is dropped if there are too many. -/
def record (c : Classifier) (event : LowConfidence) : Classifier :=
  let events := c.events ++ [event]
  { c with events := events.drop (events.length - c.history.getD events.length) }

def recordOf (e : LowConfidence) : Log.Record :=
  .ofLogger .info "classification.classifier"
    ("Low-confidence classification: " ++ e.kind ++ " (" ++ e.language ++ ") -> " ++
      e.category.label ++ " at " ++ e.confidence.fixed 2 ++ ": " ++ e.reason)

structure Outcome where
  classifier : Classifier
  issue : Except Fault Issue
  logs : List Log.Record := []

def languageFor (o : Occurrence) (language : String) : String :=
  if language.isEmpty then o.language else language

/-- Classifies an occurrence. An empty language stands for that of the occurrence. -/
def classify (c : Classifier) (o : Occurrence) (language : String := "") : Outcome :=
  let language := languageFor o language
  match c.judge o language with
  | .error fault => { classifier := c, issue := .error fault }
  | .ok (category, confidence, reason) =>
    let confidence := confidence.unit
    let issue := Issue.ofParts o category confidence
    if confidence < lowConfidence then
      let event : LowConfidence :=
        ⟨o.identity, o.kind, language, category, confidence, reason⟩
      { classifier := c.record event, issue, logs := [recordOf event] }
    else { classifier := c, issue }

/-- Classifies occurrences one after the other, up to the first that cannot be classified. -/
def classifyAll (c : Classifier) (language : String) :
    List Occurrence → Classifier × Except Fault (List Issue) × List Log.Record
  | [] => (c, .ok [], [])
  | o :: rest =>
    let out := c.classify o language
    match out.issue with
    | .error fault => (out.classifier, .error fault, out.logs)
    | .ok issue =>
      let (c, issues, logs) := classifyAll out.classifier language rest
      (c, issues.map (issue :: ·), out.logs ++ logs)

end Classifier

end LiveLint
