import LiveLint.Fault
import LiveLint.Table
import LiveLint.Value

/-!
# The scheduler

Each workspace has a number of slots. A request gets a slot if one is free and nobody waits;
otherwise it waits in line, or is turned away if the line is full. A slot that is released goes to
the request that has waited longest. While there is much to do, analyses are held back for an
interval that doubles up to a limit, and halves again when there is less.
-/

/-!
## Intervals and limits

What the scheduler needs to know about its intervals, which are counted in milliseconds: they are
compared, doubled, halved and averaged. The rules are the same for doubles and for exact numbers.
-/

namespace LiveLint

/-- Amounts of time in milliseconds. -/
class Interval (α : Type) where
  lt : α → α → Bool
  le : α → α → Bool
  zero : α
  /-- The least interval that load leads to: a quarter of a second. -/
  leastLoaded : α
  double : α → α
  half : α → α
  /-- The interval in seconds. -/
  seconds : α → α
  /-- Moves the first amount by three tenths of its distance to the second. -/
  approach : α → α → α
  /-- The milliseconds between two times in seconds. -/
  between : α → α → α
  /-- What messages call the type of an interval. -/
  typeName : α → String

/-- Intervals at run time. -/
instance : Interval Number where
  lt := Number.lt
  le := Number.le
  zero := .float 0
  leastLoaded := .float 250
  double x := x * 2
  half x := x / 2
  seconds x := x / .float 1000
  approach old new := old + .float 0.3 * (new - old)
  between start stop := (stop - start) * .float 1000
  typeName x := (Value.ofNumber x).typeName

/-- The larger of two intervals, the first if neither is larger. -/
def Interval.max [Interval α] (x y : α) : α := if Interval.lt x y then y else x

/-- The smaller of two intervals, the first if neither is smaller. -/
def Interval.min [Interval α] (x y : α) : α := if Interval.lt y x then y else x

/-!
## Limits

What the scheduler compares amounts with. A limit is an amount itself, unless a value was given that
no amount can be compared with: then the comparison fails, and it fails only when it is made.
-/

inductive Limit (α : Type) where
  | amount (x : α)
  /-- A value without an order, known by the name of its type. -/
  | unordered (type : String)
  deriving Repr

namespace Limit

variable {α β : Type}

/-- The limit that a value gives, with its number seen as an amount. -/
def ofValue (amountOf : Number → α) (v : Value) : Limit α :=
  match v.number? with
  | some x => .amount (amountOf x)
  | none => .unordered v.typeName

/-- Whether an amount of a type stands in a relation to the limit. -/
def holds (l : Limit α) (relation type : String) (p : α → Bool) : Except Fault Bool :=
  match l with
  | .amount x => .ok (p x)
  | .unordered other => .error (.mistyped (.unordered relation type other))

@[simp] theorem holds_amount (x : α) (relation type : String) (p : α → Bool) :
    (Limit.amount x).holds relation type p = .ok (p x) := rfl

/-- An interval, or the limit if that is smaller. -/
def cap [Interval α] (l : Limit α) (x : α) : Except Fault α :=
  match l with
  | .amount most => .ok (Interval.min x most)
  | .unordered other => .error (.mistyped (.unordered "<" other (Interval.typeName x)))

@[simp] theorem cap_amount [Interval α] (most x : α) :
    (Limit.amount most).cap x = .ok (Interval.min x most) := rfl

end Limit

/-! ## The scheduler -/

structure SchedulerSettings (α : Type) where
  /-- Slots of a workspace. -/
  maxConcurrent : Limit Nat := .amount 3
  /-- Requests that may wait. -/
  maxQueueDepth : Limit Nat := .amount 32
  baseDebounce : α
  maxDebounce : Limit α
  /-- With this many requests waiting there is much to do. -/
  queueThreshold : Limit Nat := .amount 3
  /-- If jobs take longer than this there is much to do. -/
  latencyThreshold : Limit α
  deriving Repr

def SchedulerSettings.ofValues (maxConcurrent maxQueueDepth : Value) (baseDebounce : Number)
    (maxDebounce queueThreshold latencyThreshold : Value) : SchedulerSettings Number where
  maxConcurrent := .ofValue Number.countBelow maxConcurrent
  maxQueueDepth := .ofValue (·.ceil.toNat) maxQueueDepth
  baseDebounce
  maxDebounce := .ofValue id maxDebounce
  queueThreshold := .ofValue (·.ceil.toNat) queueThreshold
  latencyThreshold := .ofValue id latencyThreshold

/-- A request in line. One that is given up stays in line until its task notices. -/
structure Waiter where
  /-- Who is told when the request is granted; nobody is if the request failed when it joined. -/
  ticket : Option Nat
  live : Bool := true
  deriving DecidableEq, Repr

/-- The slots of one workspace and the line for them. -/
structure Workspace (α : Type) where
  running : Nat := 0
  waiters : List Waiter := []
  debounce : α
  latency : α
  completed : Nat := 0
  overflowed : Nat := 0
  deriving Repr

namespace Workspace

variable {α : Type}

/-- Gives a slot that became free to the oldest request that was not given up, or frees it. -/
def handOver (w : Workspace α) : Workspace α × Option Nat :=
  match w.waiters.dropWhile (!·.live) with
  | next :: rest => ({ w with waiters := rest }, next.ticket)
  | [] => ({ w with waiters := [], running := w.running - 1 }, none)

def giveUp (w : Workspace α) (ticket : Nat) : Workspace α :=
  { w with
    waiters :=
      w.waiters.map fun x => if x.ticket == some ticket then { x with live := false } else x }

/-- Takes a request out of the line. -/
def withdraw (w : Workspace α) (ticket : Nat) : Workspace α :=
  { w with waiters := w.waiters.filter (·.ticket != some ticket) }

variable [Interval α]

def isOpen (w : Workspace α) (s : SchedulerSettings α) : Except Fault Bool :=
  (s.maxConcurrent.holds "<" "int" (w.running < ·)).map (· && w.waiters.isEmpty)

def isFull (w : Workspace α) (s : SchedulerSettings α) : Except Fault Bool :=
  s.maxQueueDepth.holds ">=" "int" (· ≤ w.waiters.length)

/-- Whether there is much to do. -/
def isLoaded (w : Workspace α) (s : SchedulerSettings α) : Except Fault Bool := do
  if ← s.queueThreshold.holds ">=" "int" (· ≤ w.waiters.length) then pure true
  else s.latencyThreshold.holds ">" (Interval.typeName w.latency) (Interval.lt · w.latency)

def grown (s : SchedulerSettings α) (x : α) : Except Fault α :=
  s.maxDebounce.cap
    (Interval.max (Interval.max (Interval.double x) Interval.leastLoaded) s.baseDebounce)

def shrunk (s : SchedulerSettings α) (x : α) : α :=
  let half := Interval.half x
  if Interval.le (Interval.max Interval.leastLoaded s.baseDebounce) half then half
  else s.baseDebounce

/-- Adapts the interval to the load. -/
def adapt (w : Workspace α) (s : SchedulerSettings α) : Except Fault (Workspace α) := do
  let debounce ← if ← w.isLoaded s then grown s w.debounce else pure (shrunk s w.debounce)
  pure { w with debounce }

def complete (w : Workspace α) (latency : α) : Workspace α :=
  { w with
    completed := w.completed + 1
    latency := if w.completed == 0 then latency else Interval.approach w.latency latency }

end Workspace

structure Scheduler (α : Type) where
  settings : SchedulerSettings α
  workspaces : Table String (Workspace α) := []
  deriving Repr

inductive Admission where
  /-- It has a slot. -/
  | granted
  /-- It waits in line. -/
  | queued
  /-- It is turned away. -/
  | refused (f : Failure)
  /-- It cannot be decided upon, or fails when it joins the line. -/
  | failed (f : Fault)
  deriving Repr

namespace Scheduler

variable {α : Type} [Interval α]

/-- The state of a workspace; one that was never used has the interval that holds without load. -/
def workspace (s : Scheduler α) (name : String) : Workspace α :=
  (s.workspaces.get? name).getD { debounce := s.settings.baseDebounce, latency := Interval.zero }

def set (s : Scheduler α) (name : String) (w : Workspace α) : Scheduler α :=
  { s with workspaces := s.workspaces.set name w }

def configure (s : Scheduler α) (settings : SchedulerSettings α) : Scheduler α :=
  { s with settings }

/-- A request joins the line. If the interval cannot be adapted the request fails, but its place in
line stays. -/
def joinLine (s : Scheduler α) (name : String) (ticket : Nat) : Scheduler α × Admission :=
  let w := s.workspace name
  let joined (ticket : Option Nat) : Workspace α :=
    { w with waiters := w.waiters ++ [{ ticket }] }
  match (joined (some ticket)).adapt s.settings with
  | .ok w => (s.set name w, .queued)
  | .error f => (s.set name (joined none), .failed f)

/-- Requests a slot. A request that has to wait is known by its ticket. -/
def acquire (s : Scheduler α) (name : String) (ticket : Nat) : Scheduler α × Admission :=
  let w := s.workspace name
  match w.isOpen s.settings, w.isFull s.settings with
  | .error f, _ => (s.set name w, .failed f)
  | .ok true, _ => (s.set name { w with running := w.running + 1 }, .granted)
  | .ok false, .error f => (s.set name w, .failed f)
  | .ok false, .ok true =>
    (s.set name { w with overflowed := w.overflowed + 1 },
      .refused (.queueFull name w.waiters.length))
  | .ok false, .ok false => s.joinLine name ticket

structure Release (α : Type) where
  scheduler : Scheduler α
  /-- The ticket of the request that gets the slot. -/
  next : Option Nat
  /-- Why the interval could not be adapted. -/
  fault : Option Fault := none

/-- Releases a slot, with the time the job took if that counts. The slot is passed on even if the
interval cannot be adapted. -/
def release (s : Scheduler α) (name : String) (latency : Option α) : Release α :=
  let w := s.workspace name
  let w := (latency.map w.complete).getD w
  let (w, next) := w.handOver
  match w.adapt s.settings with
  | .ok w => { scheduler := s.set name w, next }
  | .error f => { scheduler := s.set name w, next, fault := some f }

/-- Passes on the slot of a request that was given up after it got the slot. -/
def passOn (s : Scheduler α) (name : String) : Scheduler α × Option Nat :=
  let (w, next) := (s.workspace name).handOver
  (s.set name w, next)

/-- Gives up a request in line. -/
def giveUp (s : Scheduler α) (name : String) (ticket : Nat) : Scheduler α :=
  s.set name ((s.workspace name).giveUp ticket)

def withdraw (s : Scheduler α) (name : String) (ticket : Nat) : Scheduler α :=
  s.set name ((s.workspace name).withdraw ticket)

/-- The interval for which an analysis is held back, in milliseconds. -/
def debounce (s : Scheduler α) (name : String) : α :=
  match s.workspaces.get? name with
  | some w => Interval.max w.debounce s.settings.baseDebounce
  | none => s.settings.baseDebounce

/-- The interval for which an analysis is held back, in seconds. -/
def debounceSeconds (s : Scheduler α) (name : String) : α := Interval.seconds (s.debounce name)

def running (s : Scheduler α) (name : String) : Nat :=
  ((s.workspaces.get? name).map (·.running)).getD 0

def queued (s : Scheduler α) (name : String) : Nat :=
  ((s.workspaces.get? name).map (·.waiters.length)).getD 0

end Scheduler

end LiveLint
