import LiveLint.Engine.Session
import LiveLint.Proofs.Detect.Faults
import LiveLint.Proofs.Outcomes

/-!
# How sessions go on

The analyses of a session share one thread of control and hand it over only where they wait. A move is
what happens between two such points: a call begins, a call takes its turn, or something else happens
that does not touch the calls. Moves come in any order, and any call whose turn it is may be next.

Parsing and searching run aside while other moves are made. For a parse the order of moves says when
it ended. The queries ask again and again whether they may go on, so a search ends in one move with the
answers they were given, of which the refusals are still true.
-/

namespace LiveLint

def CallStage.isRunning : CallStage → Bool
  | .parsing .. | .detecting .. | .refining .. => true
  | _ => false

/-- Whether a call is the one for its file that may work. -/
def CallStage.holdsFile : CallStage → Bool
  | .waiting => true
  | stage => stage.isRunning

/-- Whether a call is among those that wait for their file or work on it. -/
def CallStage.isInFile : CallStage → Bool
  | .inLine => true
  | stage => stage.holdsFile

def CallStage.isFinished : CallStage → Bool
  | .finished _ => true
  | _ => false

/-- The revisions, the trees, the lines for slots and the queries are the same. -/
structure Engine.SameWork (e e' : Engine) : Prop where
  tracker : e'.tracker = e.tracker
  trees : e'.trees = e.trees
  workspaces : e'.scheduler.workspaces = e.scheduler.workspaces
  queries : e'.detector.queries = e.detector.queries

/-- An engine that has not analyzed anything. -/
structure Engine.IsNew (e : Engine) : Prop where
  tracker : e.tracker = {}
  trees : e.trees = []
  workspaces : e.scheduler.workspaces = []
  sincere : ∀ q ∈ e.detector.queries, q.Sincere

/-- A new engine has nothing but its configuration, what follows from it, and what the disk held. -/
theorem Engine.eq_of_start {c : Config} {disk after : Disk} {e : Engine} {logs : List Log.Record}
    (started : Engine.start c disk = .ok (e, after, logs)) :
    ∃ journal gateway, Engine.gatewayOf c = .ok gateway ∧
      e = { config := c, journal, lifetime := c.lifetime, scheduler := { settings := c.scheduling },
            gateway } := by
  unfold Engine.start at started
  obtain ⟨⟨_, journal, _⟩, -, started⟩ := bind_eq_ok_iff.1 started
  obtain ⟨gateway, way, started⟩ := bind_eq_ok_iff.1 started
  cases started
  exact ⟨journal, gateway, way, rfl⟩

/-- A configuration without a remote service leads to none. -/
theorem Engine.client_eq_none {c : Config} (offline : c.hasRemote = false) {gateway : Gateway}
    (way : Engine.gatewayOf c = .ok gateway) : gateway.client = none := by
  unfold Engine.gatewayOf at way
  obtain ⟨machine, -, way⟩ := bind_eq_ok_iff.1 way
  obtain ⟨client, found, way⟩ := bind_eq_ok_iff.1 way
  unfold Engine.endpoint at found
  rw [offline] at found
  cases found
  cases way
  rfl

/-- A configuration and a disk make a new engine, or none. -/
theorem Engine.isNew_of_start {c : Config} {disk after : Disk} {e : Engine} {logs : List Log.Record}
    (started : Engine.start c disk = .ok (e, after, logs)) : e.IsNew := by
  obtain ⟨_, _, -, rfl⟩ := Engine.eq_of_start started
  exact ⟨rfl, rfl, rfl, Query.builtIn_sincere⟩

namespace Session

variable {σ : Type}

/-- Nothing that concerns the calls has changed: neither their state nor their turns and lines, and
nothing in the engine that they share. -/
structure SameWork (s s' : Session σ) : Prop extends s.engine.SameWork s'.engine where
  calls : s'.calls = s.calls
  ready : s'.ready = s.ready
  lines : s'.lines = s.lines

def take (s : Session σ) (ticket : Nat) : Session σ := { s with ready := s.ready.erase ticket }

/-- What can happen in a session, and the ticket of the call that does it. -/
inductive Moves (s : Session σ) : Option Nat → Session σ → Prop where
  /-- Time goes by, the configuration changes, a notice is dealt with, a connection is made. -/
  | surroundings {s' : Session σ} (same : s.SameWork s') : Moves s none s'
  /-- A call begins. -/
  | begin (request : AnalysisRequest) (meanwhile : Meanwhile) :
      Moves s (some s.calls.size) (s.begin request meanwhile)
  /-- A call goes on that had to wait while the configuration was applied. -/
  | accept (request : AnalysisRequest) (meanwhile : Meanwhile) :
      Moves s (some s.calls.size) (s.accept request meanwhile)
  /-- A call has its turn. -/
  | turn {ticket : Nat} (ready : ticket ∈ s.ready) :
      Moves s (some ticket) ((s.take ticket).step ticket)
  /-- The search for a call ends that ran aside. -/
  | search {ticket : Nat} {c : Call} {tree : Tree} {since : Float} (ready : ticket ∈ s.ready)
      (call : s.calls[ticket]? = some c) (stage : c.stage = .detecting tree since)
      (checkpoint : Detector.Checkpoint)
      (stale : ∀ n fault, checkpoint n = some fault → s.isCurrent c = false) :
      Moves s (some ticket) ((s.take ticket).search ticket c tree since checkpoint)

inductive Runs (s : Session σ) : Session σ → Prop where
  | refl : Runs s s
  | move {s' s'' : Session σ} {actor : Option Nat} (before : Runs s s') (last : s'.Moves actor s'') :
      Runs s s''

/-- What can become of a session of a new engine. -/
inductive Reachable : Session σ → Prop where
  | start {e : Engine} (new : e.IsNew) (clock : Float) (transport : Transport σ) (remote : σ) :
      Reachable (e.session clock transport remote)
  | move {s s' : Session σ} {actor : Option Nat} (before : Reachable s) (last : s.Moves actor s') :
      Reachable s'

end Session

end LiveLint
