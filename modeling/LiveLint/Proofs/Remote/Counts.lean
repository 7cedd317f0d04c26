import LiveLint.Remote.Connectivity

/-!
# Counting failures

A machine is asked whether a call may be made, and told how calls went. Behind its fields stands one
number: how many calls failed since it was last connected. The state follows from it but for a probe, and
so does the time that has to pass before the next attempt.
-/

namespace LiveLint

variable {τ : Type}

inductive ConnectivityEvent (τ : Type) where
  | ask (now : τ)
  | succeed (now : τ)
  | fail (now : τ)
  deriving DecidableEq, Repr

namespace ConnectivityMachine

def delays (m : ConnectivityMachine τ) : List τ := m.firstDelay :: m.moreDelays

/-- The time that has to pass after a failure, given how many there were before it since the machine was
last connected: its delay, or the interval between probes when there is no delay left. -/
def pause (m : ConnectivityMachine τ) (failures : Nat) : τ := m.delays[failures]?.getD m.probeInterval

/-- The machine has the same delays and the same interval between probes. -/
structure SamePauses (m m' : ConnectivityMachine τ) : Prop where
  delays : m'.delays = m.delays
  probeInterval : m'.probeInterval = m.probeInterval

/-- The machine counts a number of failures since it was last connected. -/
structure Counts (m : ConnectivityMachine τ) (failures : Nat) : Prop where
  connected : m.state = .connected ↔ failures = 0
  retrying : m.state = .retrying → m.probing = false →
    m.failedRetries + 1 = failures ∧ failures ≤ m.delays.length
  degraded : m.state = .degraded → m.delays.length < failures
  probing : m.probing = true → m.state = .retrying ∧ m.delays.length < failures

theorem pause_of_le {m : ConnectivityMachine τ} {failures : Nat} (many : m.delays.length ≤ failures) :
    m.pause failures = m.probeInterval := by
  rw [pause, List.getElem?_eq_none many, Option.getD_none]

theorem SamePauses.pause {m m' : ConnectivityMachine τ} (same : m.SamePauses m') (k : Nat) :
    m'.pause k = m.pause k := by
  rw [ConnectivityMachine.pause, ConnectivityMachine.pause, same.delays, same.probeInterval]

theorem SamePauses.trans {m m' m'' : ConnectivityMachine τ} (first : m.SamePauses m')
    (second : m'.SamePauses m'') : m.SamePauses m'' :=
  ⟨second.delays.trans first.delays, second.probeInterval.trans first.probeInterval⟩

variable [Moment τ]

/-- Whether a call may be made. -/
def allows (m : ConnectivityMachine τ) (now : τ) : Bool := (m.attempt now).2.1

def perform (m : ConnectivityMachine τ) : ConnectivityEvent τ → ConnectivityMachine τ
  | .ask now => (m.attempt now).1
  | .succeed now => (m.succeed now).1
  | .fail now => (m.fail now).1

def run (m : ConnectivityMachine τ) (events : List (ConnectivityEvent τ)) : ConnectivityMachine τ :=
  events.foldl perform m

/-- A machine that is not connected allows a call as soon as its time has come. -/
theorem allows_iff (m : ConnectivityMachine τ) (now : τ) :
    m.allows now = true ↔ m.state = .connected ∨ Moment.lt now m.nextAttempt = false := by
  unfold allows attempt
  cases state : m.state with
  | connected => simp
  | retrying => simp
  | degraded => cases early : Moment.lt now m.nextAttempt <;> simp

/-- A call that is not allowed leaves the machine as it is, and one that is allowed changes it only if it is
a probe. -/
theorem perform_ask (m : ConnectivityMachine τ) (now : τ) :
    m.perform (.ask now) =
      if m.allows now = true ∧ m.state = .degraded then { m with probing := true }.enter .retrying now
      else m := by
  change (m.attempt now).1 = _
  simp only [allows_iff]
  unfold attempt
  cases state : m.state with
  | connected => simp
  | retrying => simp
  | degraded => cases early : Moment.lt now m.nextAttempt <;> simp

theorem samePauses_perform (m : ConnectivityMachine τ) (event : ConnectivityEvent τ) :
    m.SamePauses (m.perform event) := by
  cases event with
  | ask now =>
    rw [perform_ask]
    split <;> exact ⟨rfl, rfl⟩
  | succeed now =>
    change m.SamePauses (m.succeed now).1
    unfold succeed
    dsimp only
    split <;> exact ⟨rfl, rfl⟩
  | fail now =>
    change m.SamePauses (m.fail now).1
    unfold fail
    split
    · exact ⟨rfl, rfl⟩
    · exact ⟨rfl, rfl⟩
    · split
      · exact ⟨rfl, rfl⟩
      · split <;> exact ⟨rfl, rfl⟩

theorem samePauses_run (m : ConnectivityMachine τ) (events : List (ConnectivityEvent τ)) :
    m.SamePauses (m.run events) := by
  induction events generalizing m with
  | nil => exact ⟨rfl, rfl⟩
  | cons event rest ih => exact (m.samePauses_perform event).trans (ih (m.perform event))

/-- After a success the machine is connected, and has forgotten all failures. -/
theorem perform_succeed (m : ConnectivityMachine τ) (now : τ) :
    (m.perform (.succeed now)).state = .connected ∧ (m.perform (.succeed now)).failedRetries = 0 ∧
      (m.perform (.succeed now)).probing = false := by
  change (m.succeed now).1.state = _ ∧ (m.succeed now).1.failedRetries = _ ∧ (m.succeed now).1.probing = _
  unfold succeed
  dsimp only
  split
  · next connected => exact ⟨eq_of_beq connected, rfl, rfl⟩
  · exact ⟨rfl, rfl, rfl⟩

/-- A new machine is connected and has the delays that it was made with. -/
theorem counts_of_ofDelays {given : List τ} {interval : τ} {m : ConnectivityMachine τ}
    (made : ofDelays given interval = .ok m) :
    m.Counts 0 ∧ m.delays = given ∧ m.probeInterval = interval := by
  cases given with
  | nil => cases made
  | cons first more =>
    cases made
    exact ⟨⟨⟨fun _ => rfl, fun _ => rfl⟩, nofun, nofun, nofun⟩, rfl, rfl⟩

namespace Counts

variable {m : ConnectivityMachine τ} {failures : Nat}

theorem succeed (m : ConnectivityMachine τ) (now : τ) : (m.perform (.succeed now)).Counts 0 := by
  obtain ⟨state, -, probing⟩ := m.perform_succeed now
  constructor
  · simp [state]
  · simp [state]
  · simp [state]
  · simp [probing]

theorem ask (counts : m.Counts failures) (now : τ) :
    (m.perform (.ask now)).Counts failures ∧
      (m.perform (.ask now)).nextAttempt = m.nextAttempt := by
  rw [perform_ask]
  split
  · next probe =>
    have many := counts.degraded probe.2
    refine ⟨⟨?_, nofun, nofun, fun _ => ⟨rfl, many⟩⟩, rfl⟩
    exact ⟨nofun, by omega⟩
  · exact ⟨counts, rfl⟩

/-- A machine that gives up for the time being has seen more failures than it has delays. -/
theorem degrade (m : ConnectivityMachine τ) (now : τ) (many : m.delays.length ≤ failures) :
    (m.degrade now).1.Counts (failures + 1) ∧ (m.degrade now).1.nextAttempt = now + m.pause failures ∧
      (m.degrade now).1.state = if failures < m.delays.length then .retrying else .degraded := by
  rw [pause_of_le many, if_neg (Nat.not_lt.2 many)]
  exact ⟨⟨⟨nofun, nofun⟩, nofun, fun _ => Nat.lt_succ_of_le many, nofun⟩, rfl, rfl⟩

/-- One more failure counts whatever the state was, and the pause after it follows from the count. -/
theorem fail (counts : m.Counts failures) (now : τ) :
    (m.perform (.fail now)).Counts (failures + 1) ∧
      (m.perform (.fail now)).nextAttempt = now + m.pause failures ∧
      (m.perform (.fail now)).state =
        if failures < m.delays.length then .retrying else .degraded := by
  change (m.fail now).1.Counts _ ∧ (m.fail now).1.nextAttempt = _ ∧ (m.fail now).1.state = _
  unfold ConnectivityMachine.fail
  split
  case h_1 state =>
    obtain rfl := counts.connected.1 state
    have some_left : 0 < m.delays.length := Nat.succ_pos _
    have no_probe : m.probing = false :=
      Bool.eq_false_iff.2 fun probing => nomatch state.symm.trans (counts.probing probing).1
    rw [if_pos some_left]
    refine ⟨⟨⟨nofun, nofun⟩, fun _ _ => ⟨rfl, some_left⟩, nofun, ?_⟩, rfl, rfl⟩
    exact fun probing => nomatch no_probe.symm.trans probing
  case h_2 state =>
    have many := counts.degraded state
    rw [pause_of_le (Nat.le_of_lt many), if_neg (Nat.not_lt.2 (Nat.le_of_lt many))]
    refine ⟨⟨?_, ?_, fun _ => Nat.lt_succ_of_lt many, ?_⟩, rfl, state⟩
    · exact ⟨fun connected => (nomatch state.symm.trans connected), nofun⟩
    · exact fun retrying => (nomatch state.symm.trans retrying)
    · exact fun probing => (nomatch state.symm.trans (counts.probing probing).1)
  case h_3 state =>
    split
    case isTrue probing => exact degrade m now (Nat.le_of_lt (counts.probing probing).2)
    case isFalse no_probe =>
      obtain ⟨rfl, few⟩ := counts.retrying state (Bool.eq_false_iff.2 no_probe)
      split
      case h_1 delay next =>
        obtain ⟨less, -⟩ := List.getElem?_eq_some_iff.1 next
        have some_left : m.failedRetries + 1 < m.delays.length := Nat.succ_lt_succ less
        have pause : m.pause (m.failedRetries + 1) = delay := by
          rw [ConnectivityMachine.pause, delays, List.getElem?_cons_succ, next, Option.getD_some]
        rw [pause, if_pos some_left]
        refine ⟨⟨?_, fun _ _ => ⟨rfl, some_left⟩, ?_, ?_⟩, rfl, state⟩
        · exact ⟨fun connected => (nomatch state.symm.trans connected), nofun⟩
        · exact fun degraded => (nomatch state.symm.trans degraded)
        · exact fun probing => absurd probing no_probe
      case h_2 none_left =>
        have many : m.moreDelays.length ≤ m.failedRetries := List.getElem?_eq_none_iff.1 none_left
        exact degrade { m with failedRetries := m.failedRetries + 1 } now (Nat.succ_le_succ many)

end Counts

end ConnectivityMachine

end LiveLint
