import LiveLint.Proofs.Remote.CallLogs

/-!
# One call after the other

When calls do not overlap, the machine follows its schedule. The first failure is followed by the first
delay, each further one by the next, and the failure that finds no delay left makes the service count as
unavailable. From then on there is one attempt in each interval between probes, and a single success ends
all of this.
-/

namespace LiveLint

variable {τ : Type}

/-- The states that follow a state. -/
def Connectivity.LeadsTo : Connectivity → Connectivity → Prop
  | .connected, .retrying | .retrying, .connected | .retrying, .degraded | .degraded, .retrying => True
  | _, _ => False

namespace CallLog

variable [Moment τ]

/-- At most one call is out. It has heard of all failures, as has each call that failed of those before it,
and while it is out the service does not count as unavailable. -/
structure Alone (l : CallLog τ) : Prop extends l.Kept where
  few : l.out.length ≤ 1
  fresh : ∀ c ∈ l.out, c.heard = l.failures.length
  tried : l.out ≠ [] → l.machine.state ≠ .degraded
  each : ∀ (k : Nat) (f : FailedCall τ), l.failures[k]? = some f → f.heard = k

namespace Alone

variable {l : CallLog τ}

/-- When the only call ends, none is out. -/
theorem out_eraseIdx (alone : l.Alone) {place : Nat} (out : place < l.out.length) :
    l.out.eraseIdx place = [] := by
  have few := alone.few
  refine List.eq_nil_of_length_eq_zero ?_
  rw [List.length_eraseIdx_of_lt out]
  omega

theorem begin (alone : l.Alone) (now : τ) (nobody : l.out = []) : (l.perform (.begin now)).Alone := by
  have out : (l.perform (.begin now)).out =
      if l.machine.allows now then [⟨now, l.failures.length⟩] else [] := by
    change (if l.machine.allows now then l.out ++ [_] else l.out) = _
    rw [nobody]
    rfl
  refine { alone.toKept.begin now with few := ?_, fresh := ?_, tried := ?_, each := alone.each }
  · rw [out]
    split
    · exact Nat.le_refl 1
    · exact Nat.zero_le 1
  · intro c member
    rw [out] at member
    split at member
    · exact List.mem_singleton.1 member ▸ rfl
    · cases member
  · intro somebody
    rw [out] at somebody
    have allowed : l.machine.allows now = true :=
      Decidable.byContradiction fun refused => somebody (if_neg refused)
    change (l.machine.perform (.ask now)).state ≠ .degraded
    rw [ConnectivityMachine.perform_ask]
    split
    · nofun
    · next same => exact fun degraded => same ⟨allowed, degraded⟩

theorem fail (alone : l.Alone) {place : Nat} (out : place < l.out.length) (now : τ) :
    (l.perform (.fail place now)).Alone := by
  have nobody : (l.perform (.fail place now)).out = [] := alone.out_eraseIdx out
  refine { alone.toKept.fail out now with few := ?_, fresh := ?_, tried := ?_, each := ?_ }
  · exact nobody ▸ Nat.zero_le 1
  · exact nobody ▸ nofun
  · exact absurd nobody
  · intro k f found
    rw [failures_fail out] at found
    rcases Nat.lt_or_ge k l.failures.length with less | more
    · rw [List.getElem?_append_left less] at found
      exact alone.each k f found
    · rw [List.getElem?_append_right more, List.getElem?_singleton] at found
      split at found
      · next last =>
        cases found
        have heard := alone.fresh _ (List.getElem_mem out)
        change l.out[place].heard = k
        omega
      · cases found

theorem perform (alone : l.Alone) {m : CallMove τ} (allowed : l.AllowsAlone m) : (l.perform m).Alone := by
  cases m with
  | begin now => exact alone.begin now allowed
  | giveUp place =>
    have nobody : (l.perform (.giveUp place)).out = [] := alone.out_eraseIdx allowed
    exact { alone.toKept.giveUp place with
      few := nobody ▸ Nat.zero_le 1, fresh := nobody ▸ nofun, tried := absurd nobody, each := alone.each }
  | succeed place now =>
    have nobody : (l.perform (.succeed place now)).out = [] := by
      change (l.out.eraseIdx place).map _ = []
      rw [alone.out_eraseIdx allowed]
      rfl
    exact { Kept.succeed l place now with
      few := nobody ▸ Nat.zero_le 1, fresh := nobody ▸ nofun, tried := absurd nobody, each := nofun }
  | fail place now => exact alone.fail allowed now

/-- The state stays or moves on as states do. -/
theorem changes (alone : l.Alone) {m : CallMove τ} (allowed : l.AllowsAlone m) :
    (l.perform m).machine.state = l.machine.state ∨
      l.machine.state.LeadsTo (l.perform m).machine.state := by
  cases m with
  | begin now =>
    change (l.machine.perform (.ask now)).state = _ ∨ Connectivity.LeadsTo _ (l.machine.perform (.ask now)).state
    rw [ConnectivityMachine.perform_ask]
    split
    · next probe =>
      rw [probe.2]
      exact Or.inr trivial
    · exact Or.inl rfl
  | giveUp place => exact Or.inl rfl
  | succeed place now =>
    have tried := alone.tried (List.ne_nil_of_length_pos (Nat.lt_of_le_of_lt (Nat.zero_le place) allowed))
    have connected : (l.perform (.succeed place now)).machine.state = .connected :=
      (l.machine.perform_succeed now).1
    rw [connected]
    cases state : l.machine.state with
    | connected => exact Or.inl rfl
    | retrying => exact Or.inr trivial
    | degraded => exact absurd state tried
  | fail place now =>
    have tried := alone.tried (List.ne_nil_of_length_pos (Nat.lt_of_le_of_lt (Nat.zero_le place) allowed))
    have after : (l.perform (.fail place now)).machine.state = _ := (alone.counts.fail now).2.2
    rw [after]
    cases state : l.machine.state with
    | connected =>
      rw [alone.counts.connected.1 state]
      exact Or.inr trivial
    | retrying =>
      split
      · exact Or.inl rfl
      · exact Or.inr trivial
    | degraded => exact absurd state tried

end Alone

/-- How the machine behaves with delays and an interval between probes when calls do not overlap. What is
counted are the failures since it was last connected. -/
structure Scheduled (delays : List τ) (probeInterval : τ) (l : CallLog τ) : Prop where
  changes : ∀ m, l.AllowsAlone m → (l.perform m).machine.state = l.machine.state ∨
    l.machine.state.LeadsTo (l.perform m).machine.state
  connected : l.machine.state = .connected ↔ l.failures = []
  retrying : l.failures ≠ [] → l.failures.length ≤ delays.length → l.machine.state = .retrying
  /-- With more failures than delays only an attempt that has begun since then can be the reason that the
  service does not count as unavailable. -/
  degraded : delays.length < l.failures.length →
    l.machine.state = .degraded ∨ l.machine.state = .retrying ∧ l.machine.probing = true
  /-- As many failures as there are delays are retried, and every further one degrades the service. -/
  failure : ∀ place now, l.AllowsAlone (.fail place now) →
    (l.perform (.fail place now)).failures.length = l.failures.length + 1 ∧
      (l.perform (.fail place now)).machine.state =
        if l.failures.length < delays.length then .retrying else .degraded
  /-- An attempt is allowed as soon as the delay is over that follows the last failure, or the interval
  between probes when no delay is left. -/
  attempt : ∀ now, l.machine.allows now = true ↔
    ∀ k f, l.failures[k]? = some f → k + 1 = l.failures.length →
      Moment.lt now (f.stop + delays[k]?.getD probeInterval) = false
  /-- The call that is out began no earlier than that. -/
  underWay : ∀ c ∈ l.out, ∀ k f, l.failures[k]? = some f → k + 1 = l.failures.length →
    Moment.lt c.start (f.stop + delays[k]?.getD probeInterval) = false
  /-- Each call that failed began no earlier than that after the failure before it. -/
  spaced : ∀ k f g, l.failures[k]? = some f → l.failures[k + 1]? = some g →
    Moment.lt g.start (f.stop + delays[k]?.getD probeInterval) = false
  /-- After a success all failures are forgotten, and attempts are allowed at once. -/
  success : ∀ place now, l.AllowsAlone (.succeed place now) →
    (l.perform (.succeed place now)).machine.state = .connected ∧
      (l.perform (.succeed place now)).machine.failedRetries = 0 ∧
      (l.perform (.succeed place now)).failures = [] ∧
      ∀ later, (l.perform (.succeed place now)).machine.allows later = true

theorem Alone.scheduled {l : CallLog τ} (alone : l.Alone) :
    l.Scheduled l.machine.delays l.machine.probeInterval where
  changes _ := alone.changes
  connected := alone.counts.connected.trans List.length_eq_zero_iff
  retrying := by
    intro some few
    cases state : l.machine.state with
    | connected => exact absurd (List.length_eq_zero_iff.1 (alone.counts.connected.1 state)) some
    | retrying => rfl
    | degraded => exact absurd (alone.counts.degraded state) (Nat.not_lt.2 few)
  degraded := by
    intro many
    cases state : l.machine.state with
    | connected => exact absurd (alone.counts.connected.1 state) (Nat.ne_of_gt (Nat.zero_lt_of_lt many))
    | retrying =>
      refine Or.inr ⟨rfl, Decidable.byContradiction fun no_probe => ?_⟩
      exact absurd many (Nat.not_lt.2 (alone.counts.retrying state (Bool.eq_false_iff.2 no_probe)).2)
    | degraded => exact Or.inl rfl
  failure := by
    intro place now out
    refine ⟨?_, (alone.counts.fail now).2.2⟩
    rw [failures_fail out, List.length_append, List.length_singleton]
  attempt := alone.toKept.allows_iff
  underWay := by
    intro c member k f found last
    obtain ⟨f', found', late⟩ := alone.out_waited c member k ((alone.fresh c member).trans last.symm)
    obtain rfl := Option.some.inj (found.symm.trans found')
    exact late
  spaced := by
    intro k f g found next
    obtain ⟨f', found', late⟩ := alone.failed_waited g (List.mem_of_getElem? next) k (alone.each _ g next)
    obtain rfl := Option.some.inj (found.symm.trans found')
    exact late
  success := by
    intro place now out
    obtain ⟨state, forgotten, -⟩ := l.machine.perform_succeed now
    exact ⟨state, forgotten, rfl, fun later => (ConnectivityMachine.allows_iff _ later).2 (Or.inl state)⟩

theorem alone_start {delays : List τ} {probeInterval : τ} {machine : ConnectivityMachine τ}
    (made : ConnectivityMachine.ofDelays delays probeInterval = .ok machine) : (start machine).Alone :=
  { kept_start made with few := Nat.zero_le 1, fresh := nofun, tried := absurd rfl, each := nofun }

end CallLog

end LiveLint
