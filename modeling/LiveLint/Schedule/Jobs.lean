import LiveLint.Schedule.Scheduler

/-!
# Jobs

Jobs are tasks that hold slots. A task takes a step only when it is its turn: a new one to request
its slot, a waiting one after its request was granted or given up, a working one when it is told to
finish. Turns are taken in the order in which they fell due.
-/

namespace LiveLint

inductive JobState where
  | waiting | held | done | cancelled
  /-- It was turned away, or its slot could not be dealt with. -/
  | refused (f : Fault)
  /-- Its work failed. -/
  | failed (text : String)
  deriving Repr

/-- Where the task of a job stands. -/
inductive JobStage (α : Type) where
  | created
  | inLine
  /-- Its slot was handed over, but it was not its turn yet. -/
  | granted
  | working (since : α)
  | ended
  deriving Repr

structure Job (α : Type) where
  name : String
  workspace : String
  /-- Whether the task ends when it has its slot, and leaves the release to others. -/
  keepsSlot : Bool
  stage : JobStage α := .created
  state : JobState := .waiting
  cancelled : Bool := false
  /-- Whether it was told to finish. -/
  finishing : Bool := false
  /-- What its work fails with. -/
  fault : Option String := none
  deriving Repr

/-- A scheduler, the jobs by their tickets, and the tickets whose turn it is. -/
structure Jobs (α : Type) where
  scheduler : Scheduler α
  jobs : Array (Job α) := #[]
  ready : List Nat := []
  clock : α

namespace Jobs

variable {α : Type} [Interval α]

def update (s : Jobs α) (ticket : Nat) (f : Job α → Job α) : Jobs α :=
  { s with jobs := s.jobs.modify ticket f }

def wake (s : Jobs α) (ticket : Nat) : Jobs α := { s with ready := s.ready ++ [ticket] }

/-- Tells the job that gets a slot. -/
def grant (s : Jobs α) (next : Option Nat) : Jobs α :=
  match next with
  | some ticket => (s.update ticket ({ · with stage := .granted })).wake ticket
  | none => s

/-- A new job that requests a slot when it is its turn. -/
def add (s : Jobs α) (name workspace : String) (keepsSlot : Bool) : Jobs α :=
  let ticket := s.jobs.size
  { s with jobs := s.jobs.push { name, workspace, keepsSlot } }.wake ticket

/-- Releases a slot of a workspace, perhaps with a fault. -/
def release (s : Jobs α) (workspace : String) (latency : Option α) : Jobs α × Option Fault :=
  let out := s.scheduler.release workspace latency
  ({ s with scheduler := out.scheduler }.grant out.next, out.fault)

def leave (s : Jobs α) (ticket : Nat) (state : JobState) : Jobs α :=
  s.update ticket ({ · with state, stage := .ended })

/-- A job that worked since some time gives its slot back. A fault in that is all the job shows. -/
def conclude (s : Jobs α) (ticket : Nat) (j : Job α) (since : α) : Jobs α :=
  let state :=
    if j.cancelled then .cancelled
    else
      match j.fault with
      | some text => .failed text
      | none => .done
  let (s, fault) := s.release j.workspace (some (Interval.between since s.clock))
  s.leave ticket ((fault.map .refused).getD state)

def enter (s : Jobs α) (ticket : Nat) (j : Job α) : Jobs α :=
  if j.keepsSlot then s.leave ticket .held
  else if j.finishing then s.conclude ticket j s.clock
  else s.update ticket ({ · with state := .held, stage := .working s.clock })

def step (s : Jobs α) (ticket : Nat) : Jobs α :=
  match s.jobs[ticket]? with
  | none => s
  | some j =>
    match j.stage with
    | .created =>
      if j.cancelled then s.update ticket ({ · with stage := .ended })
      else
        let (scheduler, admission) := s.scheduler.acquire j.workspace ticket
        let s := { s with scheduler }
        match admission with
        | .granted => s.enter ticket j
        | .queued => s.update ticket ({ · with stage := .inLine })
        | .refused f => s.leave ticket (.refused (.failure f))
        | .failed f => s.leave ticket (.refused f)
    | .inLine =>
      { s with scheduler := s.scheduler.withdraw j.workspace ticket }.leave ticket .cancelled
    | .granted =>
      if j.cancelled then
        let (scheduler, next) := s.scheduler.passOn j.workspace
        ({ s with scheduler }.grant next).leave ticket .cancelled
      else s.enter ticket j
    | .working since => s.conclude ticket j since
    | .ended => s

/-- Lets jobs take their steps, as many as there is fuel for. -/
def settleWith : Nat → Jobs α → Jobs α
  | 0, s => s
  | fuel + 1, s =>
    match s.ready with
    | [] => s
    | ticket :: rest => settleWith fuel ({ s with ready := rest }.step ticket)

/-- Lets jobs take their steps until none is left. A job takes at most three, and every step wakes
at most one other. -/
def settle (s : Jobs α) : Jobs α := settleWith (s.ready.length + 4 * s.jobs.size) s

/-- The ticket of the latest job of a name. -/
def ticket? (s : Jobs α) (name : String) : Option Nat :=
  (s.jobs.toList.zipIdx.filter (·.1.name == name)).getLast?.map (·.2)

/-- Cancels a job. One that is over is not affected. -/
def cancel (s : Jobs α) (ticket : Nat) : Jobs α :=
  match s.jobs[ticket]? with
  | none => s
  | some j =>
    match j.stage with
    | .ended => s
    | .inLine =>
      if j.cancelled then s
      else
        let s := { s with scheduler := s.scheduler.giveUp j.workspace ticket }
        (s.update ticket ({ · with cancelled := true })).wake ticket
    | .working _ => (s.update ticket ({ · with cancelled := true })).wake ticket
    | _ => s.update ticket ({ · with cancelled := true })

def finish (s : Jobs α) (ticket : Nat) (fault : Option String) : Jobs α :=
  match s.jobs[ticket]? with
  | some j =>
    let s := s.update ticket ({ · with finishing := true, fault })
    match j.stage with
    | .working _ => s.wake ticket
    | _ => s
  | none => s

end Jobs

end LiveLint
