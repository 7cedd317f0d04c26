import LiveLint.Engine.Basic
import LiveLint.Engine.Request

/-!
# Sessions

In a session many analyses are under way at once. Each is a call that takes steps, and waits between
them: for the interval that holds analyses back, for the other calls for its file, for a slot, for the
parser, for the queries and for the remote service. A step is taken only when it is the call's turn;
any order of turns is allowed, and `settle` takes them in the order in which they fell due.

A call may go on only as long as its revision is the latest one of its file. It checks that after
every wait, and leaves nothing behind if it finds itself overtaken.
-/

namespace LiveLint

/-- What happens while the file of a call is parsed: time goes by, and a new text of the file may come
in. -/
structure Meanwhile where
  seconds : Float := 0
  edit : Option String := none
  deriving Repr

/-- The tracker after the text that came in, if one did. -/
def Meanwhile.recordIn (m : Meanwhile) (t : Tracker) (file : String) : Tracker :=
  match m.edit with
  | some text => (t.record file text).1
  | none => t

inductive CallStage where
  /-- It is held back for an interval. -/
  | heldBack
  /-- It waits for the other calls for its file. -/
  | inLine
  /-- It waits for a slot. -/
  | waiting
  /-- It has had a slot since some time and is being parsed. -/
  | parsing (since : Float)
  /-- It is searched for patterns. -/
  | detecting (tree : Tree) (since : Float)
  /-- It waits for the remote service. -/
  | refining (tree : Tree) (since : Float) (r : Refinement)
  | finished (result : Except Fault AnalysisResult)

structure Call where
  request : AnalysisRequest
  meanwhile : Meanwhile
  config : Config
  revision : Revision
  stage : CallStage

/-- Calls by their tickets, and those whose turn it is. -/
structure Session (σ : Type) where
  engine : Engine
  clock : Float
  /-- The way to the remote service and its state. -/
  transport : Transport σ
  remote : σ
  calls : Array Call := #[]
  /-- The tickets whose turn it is, the one that is due first at the front. -/
  ready : List Nat := []
  /-- The tickets of the calls for a file; the first one may work. -/
  lines : Table String (List Nat) := []
  /-- The intervals for which calls were held back. -/
  heldBack : List Number := []
  logs : List Log.Record := []

namespace Session

variable {σ : Type}

def update (s : Session σ) (ticket : Nat) (f : Call → Call) : Session σ :=
  { s with calls := s.calls.modify ticket f }

def wake (s : Session σ) (ticket : Nat) : Session σ := { s with ready := s.ready ++ [ticket] }

def log (s : Session σ) (logs : List Log.Record) : Session σ := { s with logs := s.logs ++ logs }

def moveTo (s : Session σ) (ticket : Nat) (stage : CallStage) : Session σ :=
  s.update ticket ({ · with stage })

/-- Moves a call to a stage that ends by itself. -/
def goOn (s : Session σ) (ticket : Nat) (stage : CallStage) : Session σ :=
  (s.moveTo ticket stage).wake ticket

def isCurrent (s : Session σ) (c : Call) : Bool := s.engine.tracker.isCurrent c.revision

def report (s : Session σ) (c : Call) (status : AnalysisStatus) (backend : Backend := .none) :
    AnalysisResult :=
  let g := s.engine.gateway
  { file := c.request.file
    language := c.request.language
    revision := c.revision.number
    status
    degraded := g.isDegraded
    backend
    connectivity := if g.isEnabled then some g.machine.state else none }

def finish (s : Session σ) (ticket : Nat) (c : Call) (status : AnalysisStatus) : Session σ :=
  s.moveTo ticket (.finished (.ok (s.report c status)))

/-- The call that works on a file leaves its line, and the next one has its turn. -/
def leaveLine (s : Session σ) (file : String) : Session σ :=
  match s.lines.get? file with
  | some (_ :: next :: rest) =>
    { s with lines := s.lines.set file (next :: rest) }.wake next
  | _ => { s with lines := s.lines.erase file }

/-- A call gives its slot back and leaves the line of its file. Then it is over, as `how` says unless
the scheduler fails. -/
def leave (s : Session σ) (ticket : Nat) (c : Call) (since : Float)
    (how : Session σ → Except Fault AnalysisResult) : Session σ :=
  let latency := Interval.between (Number.float since) (Number.float s.clock)
  let out := s.engine.scheduler.release c.request.workspace (some latency)
  let s := { s with engine := { s.engine with scheduler := out.scheduler } }
  let s := ((out.next.map s.wake).getD s).leaveLine c.request.file
  s.moveTo ticket (.finished ((out.fault.map .error).getD (how s)))

/-- A call that has a slot finds itself overtaken. -/
def abandon (s : Session σ) (ticket : Nat) (c : Call) (since : Float) : Session σ :=
  s.leave ticket c since fun s => .ok (s.report c .superseded)

def fail (s : Session σ) (ticket : Nat) (c : Call) (since : Float) (fault : Fault) : Session σ :=
  s.leave ticket c since fun _ => .error fault

/-- What is reported about a call that came to its end: its issues but for those that were shown or
dismissed before. -/
def outcome (s : Session σ) (c : Call) (tree : Tree) (issues : List Issue) : AnalysisResult :=
  if tree.limited then s.report c .limited tree.backend
  else if tree.fullyUnparsable (s.engine.parser.arena tree.arena) then
    s.report c .unparsable tree.backend
  else
    let shown := issues.filter (!s.engine.isSuppressed c.request.file s.clock ·)
    { s.report c .ok tree.backend with
      issues := shown
      suppressed := issues.length - shown.length }

/-- A call comes to its end: its tree is kept and its revision counts as analyzed. -/
def publish (s : Session σ) (ticket : Nat) (c : Call) (tree : Tree) (since : Float)
    (issues : List Issue) : Session σ :=
  if !s.isCurrent c then s.abandon ticket c since
  else
    let e := s.engine
    let e :=
      { e with
        trees := e.trees.set c.request.file tree
        tracker := (e.tracker.markAnalyzed c.revision).1 }
    { s with engine := e }.leave ticket c since fun s => .ok (s.outcome c tree issues)

def refineFrom (s : Session σ) (ticket : Nat) (c : Call) (tree : Tree) (since : Float)
    (r : Refinement) : Session σ :=
  match r with
  | .settled (.ok issues) => s.publish ticket c tree since issues
  | .settled (.error fault) => s.fail ticket c since fault
  | r => s.goOn ticket (.refining tree since r)

def topic (c : Call) (tree : Tree) : RefinementTopic :=
  { file := c.revision.file, language := tree.language, revision := c.revision.number }

/-- The remote service has its say about the issues of a call. -/
def refine (s : Session σ) (ticket : Nat) (c : Call) (tree : Tree) (since : Float)
    (r : Refinement) : Session σ :=
  let out :=
    Refinement.exchange s.engine.gateway (.float s.clock) s.transport (topic c tree) r s.remote
  let engine := { s.engine with gateway := out.gateway }
  ({ s with engine, remote := out.rest }.log out.logs).refineFrom ticket c tree since out.result

/-- The issues that are worth reporting are sent to the remote service. -/
def submit (s : Session σ) (ticket : Nat) (c : Call) (tree : Tree) (since : Float)
    (issues : List Issue) : Session σ :=
  let (gateway, r, logs) := Refinement.start s.engine.gateway (.float s.clock) issues
  ({ s with engine := { s.engine with gateway } }.log logs).refineFrom ticket c tree since r

def classify (s : Session σ) (ticket : Nat) (c : Call) (tree : Tree) (since : Float)
    (found : List Occurrence) : Session σ :=
  let (classifier, issues, logs) := s.engine.classifier.classifyAll tree.language found
  let s := { s with engine := { s.engine with classifier } }.log logs
  match issues.bind (Engine.select c.config) with
  | .ok issues => s.submit ticket c tree since issues
  | .error fault => s.fail ticket c since fault

/-- The fault that ends the search in a file that has a newer revision. -/
def overtaken (s : Session σ) (c : Call) : Fault :=
  let latest := (s.engine.tracker.latest.get? c.revision.file).getD c.revision
  .failure (.superseded c.revision.file c.revision.number latest.number)

/-- What the queries ask while they search the tree of a call: whether its revision is still the latest
one. -/
def checkpoint (s : Session σ) (c : Call) : Detector.Checkpoint :=
  fun _ => if s.isCurrent c then none else some (s.overtaken c)

/-- The tree of a call is searched for patterns, with the answers of a checkpoint. -/
def search (s : Session σ) (ticket : Nat) (c : Call) (tree : Tree) (since : Float)
    (checkpoint : Detector.Checkpoint) : Session σ :=
  let e := s.engine
  let (detector, found) :=
    e.detector.detect c.config.settings tree (e.parser.arena tree.arena) checkpoint
  let s := { s with engine := { e with detector } }
  match found with
  | .ok found => s.classify ticket c tree since found
  | .error (.failure (.superseded ..)) => s.abandon ticket c since
  | .error fault => s.fail ticket c since fault

def detect (s : Session σ) (ticket : Nat) (c : Call) (tree : Tree) (since : Float) : Session σ :=
  s.search ticket c tree since (s.checkpoint c)

/-- The file of a call is parsed, while other things happen. -/
def parse (s : Session σ) (ticket : Nat) (c : Call) (since : Float) : Session σ :=
  let e := s.engine
  let tracker := c.meanwhile.recordIn e.tracker c.request.file
  let out := e.parser.parse c.revision (e.trees.get? c.request.file)
  let s :=
    { s with
      clock := s.clock + c.meanwhile.seconds
      engine := { e with tracker, parser := out.parser } }.log out.logs
  if s.isCurrent c then s.goOn ticket (.detecting out.tree since) else s.abandon ticket c since

def enterSlot (s : Session σ) (ticket : Nat) (c : Call) : Session σ :=
  let since := s.clock
  match s.engine.treeFor? c.revision with
  | some tree =>
    if s.isCurrent c then s.goOn ticket (.detecting tree since) else s.abandon ticket c since
  | none => s.goOn ticket (.parsing since)

/-- A call is the first one in the line of its file, and asks for a slot. -/
def enterFile (s : Session σ) (ticket : Nat) (c : Call) : Session σ :=
  if !s.isCurrent c then (s.leaveLine c.request.file).finish ticket c .superseded
  else
    let (scheduler, admission) := s.engine.scheduler.acquire c.request.workspace ticket
    let s := { s with engine := { s.engine with scheduler } }
    match admission with
    | .granted => s.enterSlot ticket c
    | .queued => s.moveTo ticket .waiting
    | .refused _ => (s.leaveLine c.request.file).finish ticket c .retryLater
    | .failed fault => (s.leaveLine c.request.file).moveTo ticket (.finished (.error fault))

def joinLine (s : Session σ) (ticket : Nat) (c : Call) : Session σ :=
  let line := (s.lines.get? c.request.file).getD []
  let s := { s with lines := s.lines.set c.request.file (line ++ [ticket]) }
  if line.isEmpty then s.enterFile ticket c else s.moveTo ticket .inLine

def step (s : Session σ) (ticket : Nat) : Session σ :=
  match s.calls[ticket]? with
  | none => s
  | some c =>
    match c.stage with
    | .heldBack => if s.isCurrent c then s.joinLine ticket c else s.finish ticket c .superseded
    | .inLine => s.enterFile ticket c
    | .waiting => s.enterSlot ticket c
    | .parsing since => s.parse ticket c since
    | .detecting tree since => s.detect ticket c tree since
    | .refining tree since r => s.refine ticket c tree since r
    | .finished _ => s

def opened (s : Session σ) (request : AnalysisRequest) (meanwhile : Meanwhile) (revision : Revision)
    (stage : CallStage) : Session σ :=
  { s with calls := s.calls.push { request, meanwhile, config := s.engine.config, revision, stage } }

/-- A call whose text is recorded is held back if there is much to do. -/
def enter (s : Session σ) (request : AnalysisRequest) (meanwhile : Meanwhile) (revision : Revision) :
    Session σ :=
  let ticket := s.calls.size
  match (s.engine.scheduler.debounce request.workspace).real with
  | .error fault => s.opened request meanwhile revision (.finished (.error fault))
  | .ok _ =>
    let config := s.engine.config
    let delay := s.engine.scheduler.debounceSeconds request.workspace
    let s := s.opened request meanwhile revision .heldBack
    if Number.lt 0 delay then
      { s with clock := s.clock + delay.toFloat, heldBack := s.heldBack ++ [delay] }.wake ticket
    else s.joinLine ticket { request, meanwhile, config, revision, stage := .heldBack }

/-- The text of a call is recorded. -/
def accept (s : Session σ) (request : AnalysisRequest) (meanwhile : Meanwhile := {}) : Session σ :=
  let (tracker, revision) :=
    s.engine.tracker.record request.file request.code request.ranges request.language
  { s with engine := { s.engine with tracker } }.enter request meanwhile revision

def begin (s : Session σ) (request : AnalysisRequest) (meanwhile : Meanwhile := {}) : Session σ :=
  let (engine, logs, fault) := s.engine.applyConfig
  let s := { s with engine }.log logs
  match fault with
  | none => s.accept request meanwhile
  | some fault =>
    let (_, revision) :=
      s.engine.tracker.record request.file request.code request.ranges request.language
    s.opened request meanwhile revision (.finished (.error fault))

/-- The call that is at turn takes its step, for as many turns as there is fuel for. -/
def settleWith : Nat → Session σ → Session σ
  | 0, s => s
  | fuel + 1, s =>
    match s.ready with
    | [] => s
    | ticket :: rest => settleWith fuel ({ s with ready := rest }.step ticket)

/-- Turns are taken until none is left. A call takes at most seven steps. -/
def settle (s : Session σ) : Session σ := settleWith (7 * s.calls.size) s

/-- How a call ended; one that has not ended counts as overtaken. -/
def resultOf (s : Session σ) (c : Call) : Except Fault AnalysisResult :=
  match c.stage with
  | .finished result => result
  | _ => .ok (s.report c .superseded)

/-- How the calls ended, in the order in which they began. -/
def results (s : Session σ) : List (Except Fault AnalysisResult) :=
  s.calls.toList.map s.resultOf

end Session

def Engine.session {σ : Type} (e : Engine) (clock : Float) (transport : Transport σ) (remote : σ) :
    Session σ :=
  { engine := e, clock, transport, remote }

/-- A single analysis: a session with one call. -/
def Engine.analyze {σ : Type} (e : Engine) (clock : Float) (transport : Transport σ) (remote : σ)
    (request : AnalysisRequest) (meanwhile : Meanwhile := {}) : Session σ :=
  ((e.session clock transport remote).begin request meanwhile).settle

end LiveLint
