import LiveLint.Fault
import LiveLint.Log
import LiveLint.Moment

/-!
# Connectivity

Whether the remote service is asked at all depends on how earlier calls went. After a failure no
call is made until a delay has passed, and the delays grow; when all of them are used up the
service counts as unavailable and is only probed from time to time. Nothing ever waits: calls that
come too early are simply not made.
-/

namespace LiveLint

/-- What is known about the remote service. -/
inductive Connectivity where
  | connected | retrying | degraded
  deriving DecidableEq, Repr

def Connectivity.label : Connectivity → String
  | .connected => "connected"
  | .retrying => "retrying"
  | .degraded => "degraded"

structure ConnectivityChange (τ : Type) where
  source : Connectivity
  target : Connectivity
  time : τ
  deriving Repr

structure ConnectivityMachine (τ : Type) where
  /-- The delay after the first failure. -/
  firstDelay : τ
  /-- The delays after the failures that follow. -/
  moreDelays : List τ
  probeInterval : τ
  state : Connectivity := .connected
  /-- Failures since the first one. -/
  failedRetries : Nat := 0
  /-- No call is made before this time. -/
  nextAttempt : τ
  probing : Bool := false
  /-- The latest changes, oldest first. -/
  changes : List (ConnectivityChange τ) := []
  deriving Repr

namespace ConnectivityMachine

def history : Nat := 64

variable {τ : Type}

def ofDelays [Moment τ] (delays : List τ) (probeInterval : τ) :
    Except Fault (ConnectivityMachine τ) :=
  match delays with
  | [] => .error (.unacceptable .noBackoff)
  | first :: more =>
    .ok { firstDelay := first, moreDelays := more, probeInterval, nextAttempt := Moment.zero }

/-- Whether the service counts as unavailable. -/
def isDegraded (m : ConnectivityMachine τ) : Bool := m.state == .degraded

def enter (m : ConnectivityMachine τ) (target : Connectivity) (now : τ) : ConnectivityMachine τ :=
  let changes := m.changes ++ [⟨m.state, target, now⟩]
  { m with state := target, changes := changes.drop (changes.length - history) }

/-- Whether the service counts as unavailable if the next call fails. -/
def isLastChance (m : ConnectivityMachine τ) : Bool :=
  match m.state with
  | .connected => false
  | .degraded => true
  | .retrying => m.probing || m.moreDelays.length ≤ m.failedRetries

/-- A failure is counted, and nothing else follows from it. -/
def countFailure (m : ConnectivityMachine τ) : ConnectivityMachine τ :=
  match m.state with
  | .connected | .degraded => m
  | .retrying =>
    { m with probing := false, failedRetries := m.failedRetries + if m.probing then 0 else 1 }

def logged (level : Log.Level) (message : String) : Log.Record :=
  .ofLogger level "scheduling.connectivity" message

variable [Moment τ]

/-- Asks whether a call may be made now. A probe that is due changes the state. -/
def attempt (m : ConnectivityMachine τ) (now : τ) :
    ConnectivityMachine τ × Bool × List Log.Record :=
  match m.state with
  | .connected => (m, true, [])
  | .retrying => (m, !Moment.lt now m.nextAttempt, [])
  | .degraded =>
    if Moment.lt now m.nextAttempt then (m, false, [])
    else
      ({ m with probing := true }.enter .retrying now, true,
        [logged .info "Probing remote analysis service"])

def succeed (m : ConnectivityMachine τ) (now : τ) : ConnectivityMachine τ × List Log.Record :=
  let m := { m with failedRetries := 0, nextAttempt := Moment.zero, probing := false }
  if m.state == .connected then (m, [])
  else (m.enter .connected now, [logged .info "Remote analysis service reachable; connected"])

/-- The service counts as unavailable from now on. -/
def degrade (m : ConnectivityMachine τ) (now : τ) : ConnectivityMachine τ × List Log.Record :=
  ({ m with probing := false, nextAttempt := now + m.probeInterval }.enter .degraded now,
    [logged .warning
      ("Remote analysis unavailable; degraded to local-only mode (next probe in " ++
        Moment.rounded m.probeInterval ++ "s)")])

def fail (m : ConnectivityMachine τ) (now : τ) : ConnectivityMachine τ × List Log.Record :=
  match m.state with
  | .connected =>
    ({ m with failedRetries := 0, nextAttempt := now + m.firstDelay }.enter .retrying now, [])
  | .degraded => ({ m with nextAttempt := now + m.probeInterval }, [])
  | .retrying =>
    if m.probing then m.degrade now
    else
      match m.moreDelays[m.failedRetries]? with
      | some delay =>
        ({ m with failedRetries := m.failedRetries + 1, nextAttempt := now + delay }, [])
      | none => { m with failedRetries := m.failedRetries + 1 }.degrade now

end ConnectivityMachine

end LiveLint
