import LiveLint.Proofs.Schedule.Slots
import LiveLint.Schedule.Jobs

/-!
# Jobs in any order

What can happen to jobs while they share the slots of a workspace, in any order: requests are made, given
up and granted, slots are given back, limits change, and every task whose turn it is may be next. The log
of a workspace notes what the jobs show of themselves.
-/

namespace LiveLint

variable {α : Type}

/-- Whether a job has a slot. A task that ended with its slot has it until it is given back. -/
def Job.holds (j : Job α) (returned : Bool) : Bool :=
  match j.stage with
  | .granted | .working _ => true
  | .ended =>
    match j.state with
    | .held => !returned
    | _ => false
  | .created | .inLine => false

/-- Whether a job shows that it got a slot. -/
def Job.entered (j : Job α) : Bool :=
  match j.stage with
  | .granted | .working _ => true
  | .ended =>
    match j.state with
    | .held | .done | .failed _ => true
    | _ => false
  | .created | .inLine => false

/-- Whether a job shows that its request was not turned away. -/
def Job.joined (j : Job α) : Bool :=
  match j.stage with
  | .inLine => true
  | _ => j.entered

instance (j : Job α) : Decidable (j.stage = .ended) :=
  match j.stage with
  | .ended => isTrue rfl
  | .created | .inLine | .granted | .working _ => isFalse nofun

inductive JobMove (α : Type) where
  /-- A task is made that requests a slot when it is its turn. -/
  | request (name workspace : String) (keepsSlot : Bool)
  /-- A task takes its turn. -/
  | turn (ticket : Nat)
  | cancel (ticket : Nat)
  | finish (ticket : Nat) (fault : Option String)
  /-- The slot that a task kept when it ended is given back. -/
  | release (ticket : Nat) (latency : Option α)
  | configure (settings : SchedulerSettings α)
  /-- Time goes by. -/
  | wait (clock : α)

namespace Jobs

def isCancelled (s : Jobs α) (ticket : Nat) : Bool := s.jobs[ticket]?.any (·.cancelled)

/-- The jobs without one turn of a task. -/
def take (s : Jobs α) (ticket : Nat) : Jobs α := { s with ready := s.ready.erase ticket }

variable [Interval α]

def act (s : Jobs α) : JobMove α → Jobs α
  | .request name workspace keepsSlot => s.add name workspace keepsSlot
  | .turn ticket => (s.take ticket).step ticket
  | .cancel ticket => s.cancel ticket
  | .finish ticket fault => s.finish ticket fault
  | .release ticket latency =>
    match s.jobs[ticket]? with
    | some j => (s.release j.workspace latency).1
    | none => s
  | .configure settings => { s with scheduler := s.scheduler.configure settings }
  | .wait clock => { s with clock }

end Jobs

/-- Jobs with what was noted about the requests of one workspace. -/
structure JobLog (α : Type) where
  workspace : String
  jobs : Jobs α
  /-- The tickets whose kept slots were given back. -/
  returned : List Nat := []
  /-- The tickets of the requests that were not turned away, in the order in which they came. -/
  arrived : List Nat := []
  /-- The tickets that got a slot, in the order in which they got it. -/
  served : List Nat := []
  /-- The number of slots at the time when the line was last joined while nobody was in it. -/
  bar : Nat := 0

namespace JobLog

/-- Tickets of the workspace whose jobs show something for the first time. -/
def newly (l : JobLog α) (shows : Job α → Bool) (known : List Nat) (s : Jobs α) : List Nat :=
  (List.range s.jobs.size).filter fun t =>
    s.jobs[t]?.any (fun j => j.workspace == l.workspace && shows j) && !known.contains t

/-- The line of the workspace, with the requests that were given up and are still in it. -/
def line [Interval α] (l : JobLog α) : List Waiter := (l.jobs.scheduler.workspace l.workspace).waiters

def waiting [Interval α] (l : JobLog α) : List Nat := (l.jobs.scheduler.workspace l.workspace).waiting

def running [Interval α] (l : JobLog α) : Nat := (l.jobs.scheduler.workspace l.workspace).running

/-- The tickets of the workspace that have a slot. -/
def holders (l : JobLog α) : List Nat :=
  (List.range l.jobs.jobs.size).filter fun t =>
    l.jobs.jobs[t]?.any fun j => j.workspace == l.workspace && j.holds (l.returned.contains t)

/-- Whether a request was not given up before it got a slot. -/
def persists (l : JobLog α) (ticket : Nat) : Bool :=
  l.served.contains ticket || !l.jobs.isCancelled ticket

def slots (l : JobLog α) : Nat := l.jobs.scheduler.settings.slots

variable [Interval α]

def perform (l : JobLog α) (m : JobMove α) : JobLog α :=
  let after := l.jobs.act m
  { l with
    jobs := after
    returned :=
      match m with
      | .release ticket _ => ticket :: l.returned
      | _ => l.returned
    arrived := l.arrived ++ l.newly Job.joined l.arrived after
    served := l.served ++ l.newly Job.entered l.served after
    bar := if l.line.isEmpty && !(after.scheduler.workspace l.workspace).waiters.isEmpty then l.slots
      else l.bar }

def run (l : JobLog α) (moves : List (JobMove α)) : JobLog α := moves.foldl perform l

/-- What may happen next: a turn is taken by a task whose turn it is, a slot that was kept is given back
once, and limits are amounts. -/
def Allows (l : JobLog α) : JobMove α → Prop
  | .turn ticket => ticket ∈ l.jobs.ready
  | .release ticket _ =>
    ∃ j, l.jobs.jobs[ticket]? = some j ∧ j.stage = .ended ∧
      j.holds (l.returned.contains ticket) = true
  | .configure settings => settings.Comparable
  | _ => True

/-- What may happen, one thing after the other. -/
def Legal (l : JobLog α) : List (JobMove α) → Prop
  | [] => True
  | m :: rest => l.Allows m ∧ (l.perform m).Legal rest

instance (l : JobLog α) : DecidablePred l.Allows
  | .turn ticket => inferInstanceAs (Decidable (ticket ∈ l.jobs.ready))
  | .release ticket _ =>
    match job : l.jobs.jobs[ticket]? with
    | none => isFalse fun ⟨_, other, _⟩ => nomatch job.symm.trans other
    | some j =>
      decidable_of_iff (j.stage = .ended ∧ j.holds (l.returned.contains ticket) = true)
        ⟨fun kept => ⟨j, job, kept⟩, fun ⟨_, other, kept⟩ => Option.some.inj (job.symm.trans other) ▸ kept⟩
  | .configure settings => inferInstanceAs (Decidable settings.Comparable)
  | .request _ _ _ | .cancel _ | .finish _ _ | .wait _ => isTrue trivial

instance legalDecidable : (l : JobLog α) → DecidablePred l.Legal
  | _, [] => isTrue trivial
  | l, m :: rest =>
    have := legalDecidable (l.perform m) rest
    inferInstanceAs (Decidable (l.Allows m ∧ (l.perform m).Legal rest))

def start (workspace : String) (settings : SchedulerSettings α) (clock : α) : JobLog α :=
  { workspace, jobs := { scheduler := { settings }, clock } }

end JobLog

end LiveLint

/-!
## What a job can do

Everything that happens to jobs is made of a few transitions, each of which changes one job, its
workspace, and at most one more job, the one that a slot is handed over to. What holds of jobs in any
order is proved of these transitions.
-/

namespace LiveLint

variable {α : Type} [Interval α]

namespace Jobs

def setWorkspace (s : Jobs α) (name : String) (w : Workspace α) : Jobs α :=
  { s with scheduler := s.scheduler.set name w }

theorem workspace_setWorkspace (s : Jobs α) (name other : String) (w : Workspace α) :
    (s.setWorkspace name w).scheduler.workspace other =
      if name = other then w else s.scheduler.workspace other := by
  split
  · next here => exact here ▸ s.scheduler.workspace_set_self name w
  · next away => exact s.scheduler.workspace_set_of_ne w (Ne.symm away)

omit [Interval α] in
theorem scheduler_grant (s : Jobs α) (next : Option Nat) : (s.grant next).scheduler = s.scheduler := by
  cases next <;> rfl

end Jobs

section

omit [Interval α]

theorem Job.out_of_line {j : Job α} (stage : j.stage = .granted ∨ ∃ since, j.stage = .working since) :
    j.stage ≠ .inLine := by
  rcases stage with stage | ⟨since, stage⟩ <;> simp [stage]

theorem Job.holds_of_slot {j : Job α} (stage : j.stage = .granted ∨ ∃ since, j.stage = .working since)
    (returned : Bool) : j.holds returned = true := by
  rcases stage with stage | ⟨since, stage⟩ <;> simp only [holds, stage]

end

namespace JobLog

/-- A ticket is noted if it is one of the workspace. -/
def noted (l : JobLog α) (name : String) (ticket : Option Nat) : List Nat :=
  if name = l.workspace then ticket.toList else []

omit [Interval α] in
theorem mem_noted_iff {l : JobLog α} {name : String} {ticket : Option Nat} {t : Nat} :
    t ∈ l.noted name ticket ↔ name = l.workspace ∧ ticket = some t := by
  unfold noted
  split
  · next here => simp only [Option.mem_toList, here, true_and]
  · next away => simp only [List.not_mem_nil, away, false_and]

omit [Interval α] in
theorem noted_here {l : JobLog α} {name : String} (here : name = l.workspace) (ticket : Option Nat) :
    l.noted name ticket = ticket.toList :=
  if_pos here

omit [Interval α] in
theorem noted_elsewhere {l : JobLog α} {name : String} (away : name ≠ l.workspace)
    (ticket : Option Nat) : l.noted name ticket = [] :=
  if_neg away

omit [Interval α] in
theorem noted_none (l : JobLog α) (name : String) : l.noted name none = [] := ite_self _

/-- The least changes of jobs, with what is noted of them, while a job may take its turn. -/
inductive Transition (actor : Option Nat) (l : JobLog α) : JobLog α → Prop where
  | request (name workspace : String) (keepsSlot : Bool) :
      Transition actor l { l with jobs := l.jobs.add name workspace keepsSlot }
  | wait (clock : α) : Transition actor l { l with jobs.clock := clock }
  /-- A task gets a turn. -/
  | wake {ticket : Nat} {j : Job α} (job : l.jobs.jobs[ticket]? = some j) (old : j.stage ≠ .created)
      (called : j.stage = .inLine → j.cancelled = true) :
      Transition actor l { l with jobs := l.jobs.wake ticket }
  /-- Something else about a workspace changes. -/
  | touch {name : String} {w : Workspace α} (line : w.waiters = (l.jobs.scheduler.workspace name).waiters)
      (running : w.running = (l.jobs.scheduler.workspace name).running) :
      Transition actor l { l with jobs := l.jobs.setWorkspace name w }
  /-- Something else about a job changes. A job that is not in line and not over may be given up. -/
  | flag {ticket : Nat} {j : Job α} {f : Job α → Job α} (job : l.jobs.jobs[ticket]? = some j)
      (stage : (f j).stage = j.stage) (state : (f j).state = j.state)
      (workspace : (f j).workspace = j.workspace)
      (cancelled : (f j).cancelled = j.cancelled ∨
        j.cancelled = false ∧ j.stage ≠ .inLine ∧ j.stage ≠ .ended) :
      Transition actor l { l with jobs := l.jobs.update ticket f }
  /-- A request in line is given up. -/
  | giveUp {ticket : Nat} {j : Job α} (job : l.jobs.jobs[ticket]? = some j) (stage : j.stage = .inLine)
      (live : j.cancelled = false) :
      Transition actor l { l with
        jobs := (l.jobs.setWorkspace j.workspace
          ((l.jobs.scheduler.workspace j.workspace).giveUp ticket)).update ticket
            ({ · with cancelled := true }) }
  /-- A request that was given up leaves the line. -/
  | withdraw {ticket : Nat} {j : Job α} (job : l.jobs.jobs[ticket]? = some j)
      (stage : j.stage = .inLine) (cancelled : j.cancelled = true) :
      Transition actor l { l with
        jobs := (l.jobs.setWorkspace j.workspace
          ((l.jobs.scheduler.workspace j.workspace).withdraw ticket)).leave ticket .cancelled }
  /-- A job ends that never had a request in line. -/
  | drop {ticket : Nat} {j : Job α} {f : Job α → Job α} (job : l.jobs.jobs[ticket]? = some j)
      (stage : j.stage = .created) (workspace : (f j).workspace = j.workspace)
      (ended : (f j).stage = .ended) (cancelled : (f j).cancelled = j.cancelled)
      (out : (f j).entered = false) :
      Transition actor l { l with jobs := l.jobs.update ticket f }
  /-- A request gets a slot at once. -/
  | enter {ticket : Nat} {j : Job α} {w : Workspace α} (job : l.jobs.jobs[ticket]? = some j)
      (acts : actor = some ticket) (stage : j.stage = .created) (live : j.cancelled = false)
      (free : (l.jobs.scheduler.workspace j.workspace).running < l.slots)
      (alone : (l.jobs.scheduler.workspace j.workspace).waiters = []) (line : w.waiters = [])
      (running : w.running = (l.jobs.scheduler.workspace j.workspace).running + 1) :
      Transition actor l { l with
        jobs := (l.jobs.setWorkspace j.workspace w).update ticket ({ · with stage := .granted })
        arrived := l.arrived ++ l.noted j.workspace (some ticket)
        served := l.served ++ l.noted j.workspace (some ticket) }
  /-- A request joins the line. -/
  | queue {ticket : Nat} {j : Job α} {w : Workspace α} (job : l.jobs.jobs[ticket]? = some j)
      (stage : j.stage = .created) (live : j.cancelled = false) (rests : ticket ∉ l.jobs.ready)
      (busy : (l.jobs.scheduler.workspace j.workspace).waiters = [] →
        l.slots ≤ (l.jobs.scheduler.workspace j.workspace).running)
      (line : w.waiters = (l.jobs.scheduler.workspace j.workspace).waiters ++
        [{ ticket := some ticket }])
      (running : w.running = (l.jobs.scheduler.workspace j.workspace).running) :
      Transition actor l { l with
        jobs := (l.jobs.setWorkspace j.workspace w).update ticket ({ · with stage := .inLine })
        arrived := l.arrived ++ l.noted j.workspace (some ticket)
        bar := if j.workspace = l.workspace ∧ l.line = [] then l.slots else l.bar }
  /-- A job that has its slot goes on with it. -/
  | goOn {ticket : Nat} {j : Job α} {f : Job α → Job α} (job : l.jobs.jobs[ticket]? = some j)
      (stage : j.stage = .granted) (workspace : (f j).workspace = j.workspace)
      (cancelled : (f j).cancelled = j.cancelled) (holds : (f j).holds false = true)
      (entered : (f j).entered = true) :
      Transition actor l { l with jobs := l.jobs.update ticket f }
  /-- A job ends and its slot is handed over. -/
  | handOver {ticket : Nat} {j : Job α} {f : Job α → Job α} {w : Workspace α} {next : Option Nat}
      (job : l.jobs.jobs[ticket]? = some j)
      (stage : j.stage = .granted ∨ ∃ since, j.stage = .working since)
      (passed : (l.jobs.scheduler.workspace j.workspace).HandsOver w next)
      (workspace : (f j).workspace = j.workspace) (ended : (f j).stage = .ended)
      (cancelled : (f j).cancelled = j.cancelled) (gone : (f j).holds false = false) :
      Transition actor l { l with
        jobs := ((l.jobs.setWorkspace j.workspace w).grant next).update ticket f
        served := l.served ++ l.noted j.workspace next }
  /-- The slot that a task kept when it ended is handed over. -/
  | giveBack {ticket : Nat} {j : Job α} {w : Workspace α} {next : Option Nat}
      (job : l.jobs.jobs[ticket]? = some j) (stage : j.stage = .ended)
      (holds : j.holds (l.returned.contains ticket) = true)
      (passed : (l.jobs.scheduler.workspace j.workspace).HandsOver w next) :
      Transition actor l { l with
        jobs := (l.jobs.setWorkspace j.workspace w).grant next
        returned := ticket :: l.returned
        served := l.served ++ l.noted j.workspace next }

/-- Some transitions, one after the other. -/
inductive Transitions (actor : Option Nat) (l : JobLog α) : JobLog α → Prop where
  | refl : Transitions actor l l
  | more {l' l'' : JobLog α} (before : Transitions actor l l') (last : l'.Transition actor l'') :
      Transitions actor l l''

end JobLog

end LiveLint
