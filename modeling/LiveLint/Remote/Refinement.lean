import LiveLint.Classify.Classifier
import LiveLint.Reading
import LiveLint.Remote.Client
import LiveLint.Remote.Connectivity

/-!
# Refinements

The service may adjust the confidence of the issues of a file: first all issues are sent, then those
that are still uncertain. While a call is out the refinement waits, and what the state machine says
about the second call is asked only after the first one came back.
-/

/-!
## The remote gateway

The only way to the remote service. It asks the state machine before every call, tells it how the
call went, and turns every failure into the absence of a result. What the service answers can
change the confidence of issues and nothing else.
-/

namespace LiveLint

/-- The way to the remote service; without a client it leads nowhere. -/
structure Gateway where
  client : Option RemoteClient := none
  machine : ConnectivityMachine Number
  deriving Repr

namespace Gateway

/-- The delays after failures, in seconds. -/
def standardDelays : List Number := [.float 1, .float 2, .float 4]

def isEnabled (g : Gateway) : Bool := g.client.isSome

def isDegraded (g : Gateway) : Bool := g.isEnabled && g.machine.isDegraded

def ask (g : Gateway) (now : Number) : Gateway × Bool × List Log.Record :=
  let (machine, allowed, logs) := g.machine.attempt now
  ({ g with machine }, allowed, logs)

def warning (operation cause message : String) : Log.Record :=
  .ofLogger .warning "scheduling.remote"
    ("Unexpected remote failure: " ++
      (Failure.remoteUnavailable operation (cause ++ ": " ++ message) none).text)

/-- Tells the state machine how a call went; a call that failed has no result. The time of the next
probe has to be a double. -/
def conclude (g : Gateway) (now : Number) (operation : String) :
    Except RemoteFault Fields → Gateway × Except Fault (Option Fields) × List Log.Record
  | .ok fields =>
    let (machine, logs) := g.machine.succeed now
    ({ g with machine }, .ok (some fields), logs)
  | .error fault =>
    let surprise :=
      match fault with
      | .unavailable _ => []
      | .unexpected cause message => [warning operation cause message]
    if g.machine.isLastChance && g.machine.probeInterval.overflows then
      ({ g with machine := g.machine.countFailure }, .error .numberTooLarge, surprise)
    else
      let (machine, logs) := g.machine.fail now
      ({ g with machine }, .ok none, surprise ++ logs)

structure Outcome (σ ρ : Type) where
  gateway : Gateway
  result : ρ
  logs : List Log.Record
  rest : σ

/-- A call with its result reported to the state machine. `exchange` carries the call out. -/
def call {σ : Type} (g : Gateway) (now : Number) (operation : String)
    (exchange : RemoteClient → σ → Except RemoteFault Fields × σ) (s : σ) :
    Outcome σ (Except Fault (Option Fields)) :=
  match g.client with
  | none => ⟨g, .ok none, [], s⟩
  | some client =>
    let (g, allowed, asked) := g.ask now
    if !allowed then ⟨g, .ok none, asked, s⟩
    else
      let (result, s) := exchange client s
      let (g, answer, logs) := g.conclude now operation result
      ⟨g, answer, asked ++ logs, s⟩

def summary (i : Issue) : Value :=
  let r := i.occurrence.range
  .table
    [("identity", .text i.identity), ("kind", .text i.occurrence.kind),
      ("category", .text i.category.label), ("confidence", .ofNumber i.confidence),
      ("range", .table
        [("start_line", .int r.startLine), ("start_col", .int r.startCol),
          ("end_line", .int r.endLine), ("end_col", .int r.endCol)]),
      ("metadata", .table i.occurrence.metadata)]

/-- The confidence a value stands for; truth values and everything that is no number stand for
none. -/
def confidence? : Value → Option Number
  | .int n => some (.int n)
  | .float x => some (.float x)
  | _ => none

/-- An issue with the confidence the service gives it, if it gives it one. -/
def adjust (adjustments : Fields) (i : Issue) : Except Fault Issue :=
  match (adjustments.get? i.identity).bind confidence? with
  | some n => n.real.map fun x => i.withConfidence (.float x)
  | none => .ok i

def apply (issues : List Issue) (answer : Option Fields) : Except Fault (List Issue) :=
  match answer.bind fun fields => Table.get? fields "confidence" with
  | some (.table adjustments) => issues.mapM (adjust adjustments)
  | _ => .ok issues

/-- Whether the confidence of an issue is low enough to ask a second time. -/
def isUncertain (i : Issue) : Bool := i.confidence < Number.float 0.7

def structurePayload (file language : String) (revision : Int) (issues : List Issue) : Value :=
  .table
    [("file", .text file), ("language", .text language), ("revision", .int revision),
      ("patterns", .list (issues.map summary))]

def classifyPayload (language : String) (issues : List Issue) : Value :=
  .table [("language", .text language), ("patterns", .list (issues.map summary))]

end Gateway

/-! ## Refinements -/

structure RefinementTopic where
  file : String
  language : String
  revision : Int
  deriving Repr

/-- Where a refinement stands. -/
inductive Refinement where
  /-- All issues were sent. -/
  | consulting (issues : List Issue)
  /-- Those that are uncertain were sent. -/
  | insisting (issues : List Issue)
  | settled (result : Except Fault (List Issue))

namespace Refinement

/-- The issues that are sent a second time. -/
def uncertain (issues : List Issue) : List Issue := issues.filter Gateway.isUncertain

/-- The call that is out, and what it carries. -/
def pending (topic : RefinementTopic) : Refinement → Option (RemoteCall × Value)
  | .consulting issues =>
    some
      (.structural, Gateway.structurePayload topic.file topic.language topic.revision issues)
  | .insisting issues => some (.classify, Gateway.classifyPayload topic.language (uncertain issues))
  | .settled _ => none

/-- Sends those issues that are uncertain, if there are any and a call may be made. -/
def second (g : Gateway) (now : Number) (issues : List Issue) :
    Gateway × Refinement × List Log.Record :=
  if (uncertain issues).isEmpty then (g, .settled (.ok issues), [])
  else
    let (g, allowed, logs) := g.ask now
    (g, if allowed then .insisting issues else .settled (.ok issues), logs)

def start (g : Gateway) (now : Number) (issues : List Issue) :
    Gateway × Refinement × List Log.Record :=
  if g.client.isNone || issues.isEmpty then (g, .settled (.ok issues), [])
  else
    let (g, allowed, logs) := g.ask now
    if allowed then (g, .consulting issues, logs)
    else
      let (g, r, more) := second g now issues
      (g, r, logs ++ more)

/-- Goes on with what a call brought back. -/
def resume (g : Gateway) (now : Number) (r : Refinement) (result : Except RemoteFault Fields) :
    Gateway × Refinement × List Log.Record :=
  match r with
  | .consulting issues =>
    let (g, answer, logs) := g.conclude now RemoteCall.structural.label result
    match answer.bind (Gateway.apply issues) with
    | .error fault => (g, .settled (.error fault), logs)
    | .ok issues =>
      let (g, r, more) := second g now issues
      (g, r, logs ++ more)
  | .insisting issues =>
    let (g, answer, logs) := g.conclude now RemoteCall.classify.label result
    (g, .settled (answer.bind (Gateway.apply issues)), logs)
  | .settled result => (g, .settled result, [])

/-- Carries out the call that is out, and goes on. -/
def exchange {σ : Type} (g : Gateway) (now : Number) (transport : Transport σ)
    (topic : RefinementTopic) (r : Refinement) (s : σ) : Gateway.Outcome σ Refinement :=
  match r.pending topic, g.client with
  | some (call, payload), some client =>
    let (result, s) := client.post transport call payload s
    let (g, r, logs) := resume g now r result
    ⟨g, r, logs, s⟩
  | _, _ => ⟨g, r, [], s⟩

/-- The result of a refinement; a call that is still out counts as without result. -/
def result : Refinement → Except Fault (List Issue)
  | .consulting issues | .insisting issues => .ok issues
  | .settled result => result

end Refinement

/-- Lets the service adjust the confidence of issues. There are at most two calls. -/
def Gateway.refine {σ : Type} (g : Gateway) (now : Number) (transport : Transport σ)
    (topic : RefinementTopic) (issues : List Issue) (s : σ) :
    Gateway.Outcome σ (Except Fault (List Issue)) :=
  let (g, r, logs) := Refinement.start g now issues
  let first := Refinement.exchange g now transport topic r s
  let last := Refinement.exchange first.gateway now transport topic first.result first.rest
  ⟨last.gateway, last.result.result, logs ++ first.logs ++ last.logs, last.rest⟩

end LiveLint
