import LiveLint.Proofs.Remote.Counts

/-!
# Calls and the machine

Calls are made when the machine allows them, and end later, each in its own time. The log of a machine
keeps the calls that are out and those that failed since the machine was last connected, and notes for each
how many of these failures it came after. What the log shows is tied to the machine by one invariant: the
failures are those that the machine counts, the next attempt is due a pause after the last of them, and no
call began before the pause was over that followed the failure before it.
-/

namespace LiveLint

variable {τ : Type}

structure OpenCall (τ : Type) where
  start : τ
  /-- How many failures there were between the time when the machine was last connected and the start. -/
  heard : Nat
  deriving Repr

structure FailedCall (τ : Type) extends OpenCall τ where
  stop : τ
  deriving Repr

/-- What can happen to calls. Those that are out are known by their places. -/
inductive CallMove (τ : Type) where
  /-- Somebody wants to make a call, and does so if the machine allows it. -/
  | begin (now : τ)
  /-- A call is given up, and nobody learns how it went. -/
  | giveUp (place : Nat)
  | succeed (place : Nat) (now : τ)
  | fail (place : Nat) (now : τ)
  deriving Repr

def CallMove.time? : CallMove τ → Option τ
  | .begin now | .succeed _ now | .fail _ now => some now
  | .giveUp _ => none

/-- A machine with the calls that are out, and those that failed since it was last connected. -/
structure CallLog (τ : Type) where
  machine : ConnectivityMachine τ
  /-- The calls that are out, in the order in which they began. -/
  out : List (OpenCall τ) := []
  /-- The calls that failed, in the order in which they failed. -/
  failures : List (FailedCall τ) := []
  deriving Repr

namespace CallLog

variable [Moment τ]

/-- The log after something happened. After a success the machine is connected, and no call has heard of a
failure since then. -/
def perform (l : CallLog τ) : CallMove τ → CallLog τ
  | .begin now =>
    { l with
      machine := l.machine.perform (.ask now)
      out := if l.machine.allows now then l.out ++ [⟨now, l.failures.length⟩] else l.out }
  | .giveUp place => { l with out := l.out.eraseIdx place }
  | .succeed place now =>
    { machine := l.machine.perform (.succeed now)
      out := (l.out.eraseIdx place).map ({ · with heard := 0 })
      failures := [] }
  | .fail place now =>
    { machine := l.machine.perform (.fail now)
      out := l.out.eraseIdx place
      failures := l.failures ++ (l.out[place]?.map fun c => { toOpenCall := c, stop := now }).toList }

def run (l : CallLog τ) (moves : List (CallMove τ)) : CallLog τ := moves.foldl perform l

/-- What may happen next: only a call that is out ends. -/
def Allows (l : CallLog τ) : CallMove τ → Prop
  | .begin _ => True
  | .giveUp place | .succeed place _ | .fail place _ => place < l.out.length

/-- What may happen next if calls do not overlap. -/
def AllowsAlone (l : CallLog τ) : CallMove τ → Prop
  | .begin _ => l.out = []
  | m => l.Allows m

/-- What may happen by some rule, one thing after the other. -/
def Follows (rule : CallLog τ → CallMove τ → Prop) (l : CallLog τ) : List (CallMove τ) → Prop
  | [] => True
  | m :: rest => rule l m ∧ (l.perform m).Follows rule rest

abbrev Legal (l : CallLog τ) : List (CallMove τ) → Prop := l.Follows Allows

/-- What may happen to calls that do not overlap, one thing after the other. -/
abbrev Serial (l : CallLog τ) : List (CallMove τ) → Prop := l.Follows AllowsAlone

instance (l : CallLog τ) : DecidablePred l.Allows
  | .begin _ => isTrue trivial
  | .giveUp place | .succeed place _ | .fail place _ =>
    inferInstanceAs (Decidable (place < l.out.length))

instance (l : CallLog τ) : DecidablePred l.AllowsAlone
  | .begin _ => inferInstanceAs (Decidable (l.out = []))
  | .giveUp place | .succeed place _ | .fail place _ =>
    inferInstanceAs (Decidable (place < l.out.length))

instance followsDecidable (rule : CallLog τ → CallMove τ → Prop) [∀ l, DecidablePred (rule l)] :
    (l : CallLog τ) → DecidablePred (l.Follows rule)
  | _, [] => isTrue trivial
  | l, m :: rest =>
    have := followsDecidable rule (l.perform m) rest
    inferInstanceAs (Decidable (rule l m ∧ (l.perform m).Follows rule rest))

def start (machine : ConnectivityMachine τ) : CallLog τ := { machine }

/-- What every move keeps that a rule allows holds after every run by the rule. -/
theorem Follows.keeps {rule : CallLog τ → CallMove τ → Prop} {holds : CallLog τ → Prop}
    (step : ∀ {l m}, holds l → rule l m → holds (l.perform m)) {l : CallLog τ}
    {moves : List (CallMove τ)} (follows : l.Follows rule moves) (before : holds l) :
    holds (l.run moves) := by
  induction moves generalizing l with
  | nil => exact before
  | cons m rest ih => exact ih follows.2 (step before follows.1)

theorem samePauses_perform (l : CallLog τ) (m : CallMove τ) :
    l.machine.SamePauses (l.perform m).machine := by
  cases m with
  | begin now => exact l.machine.samePauses_perform (.ask now)
  | giveUp place => exact ⟨rfl, rfl⟩
  | succeed place now => exact l.machine.samePauses_perform (.succeed now)
  | fail place now => exact l.machine.samePauses_perform (.fail now)

theorem samePauses_run (l : CallLog τ) (moves : List (CallMove τ)) :
    l.machine.SamePauses (l.run moves).machine := by
  induction moves generalizing l with
  | nil => exact ⟨rfl, rfl⟩
  | cons m rest ih => exact (l.samePauses_perform m).trans (ih (l.perform m))

/-- A call began only when the pause was over that followed the last failure before it. -/
def Waited (l : CallLog τ) (c : OpenCall τ) : Prop :=
  ∀ k, c.heard = k + 1 →
    ∃ f, l.failures[k]? = some f ∧ Moment.lt c.start (f.stop + l.machine.pause k) = false

/-- A call that is out joins the calls that failed. -/
theorem failures_fail {l : CallLog τ} {place : Nat} (out : place < l.out.length) (now : τ) :
    (l.perform (.fail place now)).failures = l.failures ++ [⟨l.out[place], now⟩] := by
  change l.failures ++ (l.out[place]?.map _).toList = _
  rw [List.getElem?_eq_getElem out]
  rfl

theorem mem_failures_fail {l : CallLog τ} {place : Nat} {f : FailedCall τ} (out : place < l.out.length)
    {now : τ} : f ∈ (l.perform (.fail place now)).failures ↔ f ∈ l.failures ∨ f = ⟨l.out[place], now⟩ := by
  rw [failures_fail out, List.mem_append, List.mem_singleton]

/-- The calls that are out after somebody wanted to make one are those from before, and his if it was
allowed. -/
theorem mem_out_begin {l : CallLog τ} {now : τ} {c : OpenCall τ} :
    c ∈ (l.perform (.begin now)).out ↔
      c ∈ l.out ∨ l.machine.allows now = true ∧ c = ⟨now, l.failures.length⟩ := by
  change c ∈ (if l.machine.allows now then l.out ++ [⟨now, l.failures.length⟩] else l.out) ↔ _
  split
  · next allowed => rw [List.mem_append, List.mem_singleton, and_iff_right allowed]
  · next refused => exact (or_iff_left fun new => refused new.1).symm

/-- The log and its machine agree. -/
structure Kept (l : CallLog τ) : Prop where
  counts : l.machine.Counts l.failures.length
  due : ∀ k f, l.failures[k]? = some f → k + 1 = l.failures.length →
    l.machine.nextAttempt = f.stop + l.machine.pause k
  out_waited : ∀ c ∈ l.out, l.Waited c
  failed_waited : ∀ f ∈ l.failures, l.Waited f.toOpenCall

/-- A call goes on having waited while failures are added. -/
theorem Waited.mono {l l' : CallLog τ} {c : OpenCall τ} (waited : l.Waited c)
    (same : l.machine.SamePauses l'.machine) (more : l.failures <+: l'.failures) : l'.Waited c := by
  intro k heard
  obtain ⟨f, found, late⟩ := waited k heard
  obtain ⟨added, eq⟩ := more
  refine ⟨f, ?_, ?_⟩
  · rw [← eq, List.getElem?_append_left (List.getElem?_eq_some_iff.1 found).1, found]
  · rwa [same.pause]

theorem waited_of_heard_eq_zero (l : CallLog τ) {c : OpenCall τ} (none : c.heard = 0) : l.Waited c :=
  fun _ heard => nomatch none.symm.trans heard

namespace Kept

variable {l : CallLog τ}

/-- The machine allows a call exactly if nothing failed since it was last connected, or the pause after the
last failure is over. -/
theorem allows_iff (kept : l.Kept) (now : τ) :
    l.machine.allows now = true ↔
      ∀ k f, l.failures[k]? = some f → k + 1 = l.failures.length →
        Moment.lt now (f.stop + l.machine.pause k) = false := by
  rw [ConnectivityMachine.allows_iff, kept.counts.connected]
  constructor
  · rintro (none | late) k f found last
    · omega
    · rwa [← kept.due k f found last]
  · intro late
    cases failures : l.failures.length with
    | zero => exact Or.inl rfl
    | succ k =>
      have less : k < l.failures.length := by omega
      have found := List.getElem?_eq_getElem less
      rw [kept.due k _ found failures.symm]
      exact Or.inr (late k _ found failures.symm)

theorem begin (kept : l.Kept) (now : τ) : (l.perform (.begin now)).Kept := by
  obtain ⟨counts, next⟩ := kept.counts.ask now
  have same := l.machine.samePauses_perform (.ask now)
  have older : ∀ {c}, l.Waited c → (l.perform (.begin now)).Waited c :=
    fun waited => waited.mono same (List.prefix_refl _)
  refine ⟨counts, ?_, ?_, fun f member => older (kept.failed_waited f member)⟩
  · intro k f found last
    change (l.machine.perform (.ask now)).nextAttempt = f.stop + (l.machine.perform (.ask now)).pause k
    rw [next, same.pause]
    exact kept.due k f found last
  · intro c member
    rcases mem_out_begin.1 member with old | ⟨allowed, rfl⟩
    · exact older (kept.out_waited c old)
    · refine older fun k heard => ?_
      have less : k < l.failures.length := by
        change l.failures.length = k + 1 at heard
        omega
      have found := List.getElem?_eq_getElem less
      exact ⟨_, found, (kept.allows_iff now).1 allowed k _ found heard.symm⟩

theorem giveUp (kept : l.Kept) (place : Nat) : (l.perform (.giveUp place)).Kept :=
  ⟨kept.counts, kept.due, fun c member => kept.out_waited c (List.mem_of_mem_eraseIdx member),
    kept.failed_waited⟩

theorem succeed (l : CallLog τ) (place : Nat) (now : τ) : (l.perform (.succeed place now)).Kept := by
  refine ⟨.succeed _ now, nofun, ?_, nofun⟩
  intro c member
  obtain ⟨c', -, rfl⟩ := List.mem_map.1 member
  exact waited_of_heard_eq_zero _ rfl

theorem fail (kept : l.Kept) {place : Nat} (out : place < l.out.length) (now : τ) :
    (l.perform (.fail place now)).Kept := by
  obtain ⟨counts, next, -⟩ := kept.counts.fail now
  have same := l.machine.samePauses_perform (.fail now)
  have failures := failures_fail out now
  have more : l.failures <+: (l.perform (.fail place now)).failures := failures ▸ List.prefix_append _ _
  have older : ∀ {c}, l.Waited c → (l.perform (.fail place now)).Waited c :=
    fun waited => waited.mono same more
  refine ⟨?_, ?_, fun c member => older (kept.out_waited c (List.mem_of_mem_eraseIdx member)), ?_⟩
  · rw [failures, List.length_append]
    exact counts
  · intro k f found last
    rw [failures, List.length_append, List.length_singleton, Nat.add_right_cancel_iff] at last
    subst last
    rw [failures, List.getElem?_concat_length] at found
    cases found
    change (l.machine.perform (.fail now)).nextAttempt = now + (l.machine.perform (.fail now)).pause _
    rw [next, same.pause]
  · intro f member
    rcases (mem_failures_fail out).1 member with old | rfl
    · exact older (kept.failed_waited f old)
    · exact older (kept.out_waited _ (List.getElem_mem out))

theorem perform (kept : l.Kept) {m : CallMove τ} (allowed : l.Allows m) : (l.perform m).Kept := by
  cases m with
  | begin now => exact kept.begin now
  | giveUp place => exact kept.giveUp place
  | succeed place now => exact .succeed l place now
  | fail place now => exact kept.fail allowed now

end Kept

/-- A new machine agrees with an empty log. -/
theorem kept_start {delays : List τ} {probeInterval : τ} {machine : ConnectivityMachine τ}
    (made : ConnectivityMachine.ofDelays delays probeInterval = .ok machine) : (start machine).Kept :=
  ⟨(ConnectivityMachine.counts_of_ofDelays made).1, nofun, nofun, nofun⟩

end CallLog

end LiveLint
