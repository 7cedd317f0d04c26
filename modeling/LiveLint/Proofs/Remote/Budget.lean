import LiveLint.Proofs.Moments
import LiveLint.Proofs.Remote.CallLogs

/-!
# What the delays add up to

Calls may overlap, and then the machine counts failures of calls that were out already when an earlier one
failed. It counts each of them like a failed retry. So the service counts as unavailable after one failure
more than there are delays, however fast these came; a delay is certain to have passed only if the call that
failed after it began after the failure before it.
-/

namespace LiveLint

/-- Moments that can all be compared, and that keep their order when they are moved by a duration. -/
class Moment.Steady (τ : Type) [Moment τ] : Prop extends Moment.Lawful τ where
  le_self : ∀ a : τ, le a a = true
  add_le : ∀ {a b : τ} (d : τ), le a b = true → le (a + d) (b + d) = true

/-- Whole numbers as moments, in whatever unit. -/
instance : Moment Int where
  zero := 0
  le a b := decide (a ≤ b)
  lt a b := decide (a < b)
  value := .int
  rounded := toString

instance : Moment.Steady Int where
  trans first second :=
    decide_eq_true (Int.le_trans (of_decide_eq_true first) (of_decide_eq_true second))
  self_of_le _ := decide_eq_true (Int.le_refl _)
  lt_iff _ _ := by simp [Moment.lt, Moment.le]
  le_self a := decide_eq_true (Int.le_refl a)
  add_le d le := decide_eq_true (Int.add_le_add_right (of_decide_eq_true le) d)

variable {τ : Type} [Moment τ]

theorem Moment.le_of_not_lt [Moment.Steady τ] {a b : τ} (late : Moment.lt a b = false) :
    Moment.le b a = true := by
  have iff := Moment.Lawful.lt_iff (Moment.Steady.le_self a) (Moment.Steady.le_self b)
  rw [late] at iff
  exact Bool.of_not_eq_false (mt iff.2 Bool.false_ne_true)

/-- A time after some durations have passed. -/
def Moment.elapse (start : τ) (durations : List τ) : τ := durations.foldl (· + ·) start

namespace CallLog

/-- Whether a failure is that of a call that began after all failures before it. -/
def retried (l : CallLog τ) (place : Nat) : Bool := l.failures[place]?.any (·.heard == place)

/-- The first delays of some, without those that were not waited for: the call that failed after them began
before the failure before it. -/
def awaited (l : CallLog τ) (delays : List τ) (count : Nat) : List τ :=
  (List.range count).filterMap fun k => if l.retried (k + 1) then delays[k]? else none

omit [Moment τ] in
theorem awaited_succ (l : CallLog τ) (delays : List τ) (count : Nat) :
    l.awaited delays (count + 1) =
      l.awaited delays count ++ if l.retried (count + 1) then delays[count]?.toList else [] := by
  rw [awaited, List.range_succ, List.filterMap_append, List.filterMap_cons, List.filterMap_nil]
  cases l.retried (count + 1) with
  | false => rfl
  | true => cases delays[count]? <;> rfl

omit [Moment τ] in
/-- If every failure was that of a retry, all delays were waited for. -/
theorem awaited_eq (l : CallLog τ) {delays : List τ}
    (all : ∀ k, k < delays.length → l.retried (k + 1) = true) :
    l.awaited delays delays.length = delays := by
  have upTo : ∀ count, count ≤ delays.length → l.awaited delays count = delays.take count := by
    intro count
    induction count with
    | zero => exact fun _ => rfl
    | succ k ih =>
      intro within
      rw [awaited_succ, ih (Nat.le_of_succ_le within), if_pos (all k within), List.take_add_one]
  rw [upTo _ (Nat.le_refl _), List.take_length]

/-- Calls end after they begin, and what is noted is noted in the order of time, before all that is still to
come. -/
structure InTime (l : CallLog τ) (later : List τ) : Prop where
  begun : ∀ c ∈ l.out, ∀ t ∈ later, Moment.le c.start t = true
  ended : ∀ f ∈ l.failures, ∀ t ∈ later, Moment.le f.stop t = true
  during : ∀ f ∈ l.failures, Moment.le f.start f.stop = true
  ordered : l.failures.Pairwise fun f g => Moment.le f.stop g.stop = true

def times (moves : List (CallMove τ)) : List τ := moves.filterMap CallMove.time?

/-- One thing comes after the other. -/
def InOrder (times : List τ) : Prop := times.Pairwise fun a b => Moment.le a b = true

instance (times : List τ) : Decidable (InOrder times) := inferInstanceAs (Decidable (times.Pairwise _))

namespace InTime

variable {l : CallLog τ} {m : CallMove τ} {rest : List (CallMove τ)}

theorem perform (inTime : l.InTime (times (m :: rest))) (order : InOrder (times (m :: rest)))
    (allowed : l.Allows m) : (l.perform m).InTime (times rest) := by
  cases m with
  | begin now =>
    obtain ⟨later, -⟩ := List.pairwise_cons.1 order
    refine ⟨fun c member t after => ?_, fun f member t after => ?_, inTime.during, inTime.ordered⟩
    · rcases mem_out_begin.1 member with old | ⟨-, rfl⟩
      · exact inTime.begun c old t (List.mem_cons_of_mem now after)
      · exact later t after
    · exact inTime.ended f member t (List.mem_cons_of_mem now after)
  | giveUp place =>
    exact ⟨fun c member => inTime.begun c (List.mem_of_mem_eraseIdx member), inTime.ended, inTime.during,
      inTime.ordered⟩
  | succeed place now =>
    refine ⟨fun c member t after => ?_, nofun, nofun, List.Pairwise.nil⟩
    obtain ⟨c', old, rfl⟩ := List.mem_map.1 member
    exact inTime.begun c' (List.mem_of_mem_eraseIdx old) t (List.mem_cons_of_mem now after)
  | fail place now =>
    obtain ⟨later, -⟩ := List.pairwise_cons.1 order
    refine ⟨fun c member t after => ?_, fun f member t after => ?_, fun f member => ?_, ?_⟩
    · exact inTime.begun c (List.mem_of_mem_eraseIdx member) t (List.mem_cons_of_mem now after)
    · rcases (mem_failures_fail allowed).1 member with old | rfl
      · exact inTime.ended f old t (List.mem_cons_of_mem now after)
      · exact later t after
    · rcases (mem_failures_fail allowed).1 member with old | rfl
      · exact inTime.during f old
      · exact inTime.begun _ (List.getElem_mem allowed) now List.mem_cons_self
    · rw [failures_fail allowed]
      refine List.pairwise_append.2 ⟨inTime.ordered, List.pairwise_singleton _ _, fun f old g new => ?_⟩
      obtain rfl := List.mem_singleton.1 new
      exact inTime.ended f old now List.mem_cons_self

theorem run {moves : List (CallMove τ)} (inTime : l.InTime (times moves)) (order : InOrder (times moves))
    (legal : l.Legal moves) : (l.run moves).InTime [] := by
  induction moves generalizing l with
  | nil => exact inTime
  | cons m rest ih =>
    refine ih (inTime.perform order legal.1) ?_ legal.2
    exact order.sublist ((List.sublist_cons_self m rest).filterMap _)

/-- The delays that were waited for before a failure have passed at its time. -/
theorem elapse_le [Moment.Steady τ] {later : List τ} (inTime : l.InTime later) (kept : l.Kept)
    {first f : FailedCall τ} (begin : l.failures[0]? = some first) {count : Nat}
    (found : l.failures[count]? = some f) :
    Moment.le (Moment.elapse first.stop (l.awaited l.machine.delays count)) f.stop = true := by
  induction count generalizing f with
  | zero =>
    obtain rfl := Option.some.inj (begin.symm.trans found)
    exact Moment.Steady.le_self _
  | succ k ih =>
    obtain ⟨here, value⟩ := List.getElem?_eq_some_iff.1 found
    have before : k < l.failures.length := by omega
    have earlier := ih (List.getElem?_eq_getElem before)
    have ordered : Moment.le l.failures[k].stop f.stop = true :=
      value ▸ List.pairwise_iff_getElem.1 inTime.ordered k (k + 1) before here (Nat.lt_succ_self k)
    rw [awaited_succ, Moment.elapse, List.foldl_append, ← Moment.elapse]
    split
    · next again =>
      cases delay : l.machine.delays[k]? with
      | none => exact Moment.Lawful.trans earlier ordered
      | some d =>
        -- the call began after the failure before it, so it had to wait for the delay
        have heard : f.heard = k + 1 := by
          rw [retried, found] at again
          exact eq_of_beq again
        have member := List.mem_of_getElem? found
        obtain ⟨g, found', late⟩ := kept.failed_waited f member k heard
        obtain rfl := Option.some.inj ((List.getElem?_eq_getElem before).symm.trans found')
        rw [ConnectivityMachine.pause, delay, Option.getD_some] at late
        have waited := Moment.Lawful.trans (Moment.le_of_not_lt late) (inTime.during f member)
        exact Moment.Lawful.trans (Moment.Steady.add_le d earlier) waited
    · exact Moment.Lawful.trans earlier ordered

end InTime

theorem Follows.of_append {rule : CallLog τ → CallMove τ → Prop} {l : CallLog τ}
    {moves more : List (CallMove τ)} (follows : l.Follows rule (moves ++ more)) :
    l.Follows rule moves ∧ (l.run moves).Follows rule more := by
  induction moves generalizing l with
  | nil => exact ⟨trivial, follows⟩
  | cons m rest ih =>
    obtain ⟨before, after⟩ := ih follows.2
    exact ⟨⟨follows.1, before⟩, after⟩

/-- A failure that is not that of a probe degrades the service if all delays are used up. -/
theorem Kept.degraded_iff {l : CallLog τ} (kept : l.Kept) (retrying : l.machine.state = .retrying)
    (no_probe : l.machine.probing = false) (place : Nat) (now : τ) :
    (l.perform (.fail place now)).machine.state = .degraded ↔
      l.failures.length = l.machine.delays.length := by
  obtain ⟨-, few⟩ := kept.counts.retrying retrying no_probe
  have state : (l.perform (.fail place now)).machine.state = _ := (kept.counts.fail now).2.2
  rw [state]
  split
  · exact ⟨nofun, by omega⟩
  · exact ⟨by omega, fun _ => rfl⟩

/-- The machine degrades a service that it does not probe exactly when it has counted one failure more than
there are delays since it was last connected. The delays that were waited for have passed then; these are
all of them if each of the calls began after the one before had failed. -/
theorem degrades_by_count [Moment.Steady τ] {delays : List τ} {probeInterval : τ}
    {machine : ConnectivityMachine τ} (made : ConnectivityMachine.ofDelays delays probeInterval = .ok machine)
    {moves : List (CallMove τ)} {place : Nat} {now : τ}
    (legal : (start machine).Legal (moves ++ [.fail place now]))
    (order : InOrder (times (moves ++ [.fail place now]))) :
    let l := (start machine).run moves
    let l' := l.perform (.fail place now)
    l.machine.state = .retrying → l.machine.probing = false →
      (l'.machine.state = .degraded ↔ l'.failures.length = delays.length + 1) ∧
        (l'.machine.state = .degraded → ∃ first, l'.failures.head? = some first ∧
          Moment.le (Moment.elapse first.stop (l'.awaited delays delays.length)) now = true ∧
          ((∀ k, k < delays.length → l'.retried (k + 1) = true) →
            Moment.le (Moment.elapse first.stop delays) now = true)) := by
  intro l l' retrying no_probe
  obtain ⟨before, out, -⟩ := legal.of_append
  replace out : place < l.out.length := out
  have kept : l.Kept := before.keeps (fun kept => kept.perform) (kept_start made)
  have same : l'.machine.delays = delays ∧ l.machine.delays = delays := by
    have given := (ConnectivityMachine.counts_of_ofDelays made).2.1
    have first : l.machine.delays = delays := ((start machine).samePauses_run moves).delays.trans given
    exact ⟨(l.samePauses_perform _).delays.trans first, first⟩
  have failures : l'.failures = l.failures ++ [⟨l.out[place], now⟩] := failures_fail out now
  have degraded := kept.degraded_iff retrying no_probe place now
  rw [same.2] at degraded
  refine ⟨?_, fun now_degraded => ?_⟩
  · rw [failures, List.length_append, List.length_singleton, Nat.add_right_cancel_iff]
    exact degraded
  · have count := degraded.1 now_degraded
    have inTime : l'.InTime [] := by
      have all := InTime.run (l := start machine) ⟨nofun, nofun, nofun, List.Pairwise.nil⟩ order legal
      rwa [run, List.foldl_append] at all
    have last : l'.failures[delays.length]? = some ⟨l.out[place], now⟩ := by
      rw [failures, ← count, List.getElem?_concat_length]
    have some_failed : 0 < l'.failures.length := by
      rw [failures, List.length_append]
      exact Nat.succ_pos _
    have found := List.getElem?_eq_getElem some_failed
    have passed := inTime.elapse_le (kept.fail out now) found last
    rw [same.1] at passed
    refine ⟨_, List.head?_eq_getElem?.trans found, passed, fun all => ?_⟩
    rwa [l'.awaited_eq all] at passed

/-- Two calls are out when the first one fails. The other one counts as a failed retry, and the real retry
uses up the last delay. -/
theorem degrades_by_count_one_in_flight :
    let machine : ConnectivityMachine Int :=
      { firstDelay := 1, moreDelays := [2], probeInterval := 60, nextAttempt := 0 }
    let moves : List (CallMove Int) := [.begin 0, .begin 0, .fail 0 5, .fail 0 6, .begin 8]
    let l := (start machine).run moves
    let l' := l.perform (.fail 0 9)
    ConnectivityMachine.ofDelays [1, 2] 60 = .ok machine ∧
      (start machine).Legal (moves ++ [.fail 0 9]) ∧ InOrder (times (moves ++ [.fail 0 9])) ∧
      l.machine.state = .retrying ∧ l.machine.probing = false ∧ l'.awaited [1, 2] 2 = [2] ∧
      ((l'.machine.state = .degraded ↔ l'.failures.length = 3) ∧
        (l'.machine.state = .degraded → ∃ first, l'.failures.head? = some first ∧
          Moment.le (Moment.elapse first.stop (l'.awaited [1, 2] 2)) (9 : Int) = true ∧
          ((∀ k, k < 2 → l'.retried (k + 1) = true) →
            Moment.le (Moment.elapse first.stop [1, 2]) (9 : Int) = true))) := by
  intro machine moves l l'
  have made : ConnectivityMachine.ofDelays [1, 2] 60 = .ok machine := rfl
  have legal : (start machine).Legal (moves ++ [.fail 0 9]) := by decide
  have order : InOrder (times (moves ++ [.fail 0 9])) := by decide
  have retrying : l.machine.state = .retrying := by decide
  have no_probe : l.machine.probing = false := by decide
  have awaited : l'.awaited [1, 2] 2 = [2] := by decide
  exact ⟨made, legal, order, retrying, no_probe, awaited,
    degrades_by_count made legal order retrying no_probe⟩

/-- Four calls are out and fail at the same time, which uses up three delays of which none has passed. -/
example :
    let machine : ConnectivityMachine Int :=
      { firstDelay := 1, moreDelays := [2, 4], probeInterval := 60, nextAttempt := 0 }
    let l := (start machine).run
      [.begin 0, .begin 0, .begin 0, .begin 0, .fail 0 5, .fail 0 5, .fail 0 5, .fail 0 5]
    l.machine.state = .degraded ∧ l.awaited [1, 2, 4] 3 = [] := by
  decide

end CallLog

end LiveLint
