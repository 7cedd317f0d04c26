import LiveLint.Proofs.Detect.Reports
import LiveLint.Proofs.Schedule.Intervals

/-!
# Well-typed configurations

A configuration accepts every value that keeps to its limits, whatever its type. If the values are of the
types that the settings are meant to have, and doubles can say the numbers that are computed with, nothing
that reads a setting can fail.
-/

namespace LiveLint

/-- The values have the types that their settings are meant to have: flags make up a table, and what is
counted is whole. -/
structure Config.WellTyped (c : Config) : Prop where
  flags : ∃ flags, c.get .categoryFlags = .table flags
  whole : ∀ s : Setting, s.reading = .whole → ∃ n, (c.get s).number?.bind Number.whole? = some n

/-- Doubles can say the numbers that are computed with. -/
structure Config.WithinDoubles (c : Config) : Prop where
  length : (c.number .minFunctionLength).overflows = false
  debounce : (c.number .maxDebounce).overflows = false
  lifetime : c.lifetime.overflows = false

namespace Config

variable {c : Config}

theorem WellTyped.number (typed : c.WellTyped) (s : Setting) (counted : s.reading = .whole) :
    ∃ x n, (c.get s).number? = some x ∧ c.number s = x ∧ x.whole? = some n := by
  obtain ⟨n, whole⟩ := typed.whole s counted
  obtain ⟨x, given, whole⟩ := Option.bind_eq_some_iff.1 whole
  exact ⟨x, n, given, by rw [Config.number, given, Option.getD_some], whole⟩

theorem settings_sound (typed : c.WellTyped) (within : c.WithinDoubles) : c.settings.Sound := by
  obtain ⟨x, n, -, same, whole⟩ := typed.number .duplicateMinLines rfl
  refine ⟨⟨n, ?_⟩, within.length⟩
  change (c.number .duplicateMinLines).whole? = some n
  rw [same, whole]

/-- A check that a number is not below another one passes only if it is not. -/
theorem le_of_check {v w : Value} {x y : Number} {m n : Int} {fault : Fault} (left : v.number? = some x)
    (right : w.number? = some y) (whole : x.whole? = some m) (whole' : y.whole? = some n)
    (passed : (do if ← v.isBelow w then Except.error fault else .ok ()) = .ok ()) : n ≤ m := by
  have below : v.isBelow w = .ok (decide (m < n)) := by
    unfold Value.isBelow
    rw [left, right]
    exact congrArg Except.ok (Number.lt_of_whole whole whole')
  obtain ⟨b, same, passed⟩ := bind_eq_ok_iff.1 passed
  rw [below] at same
  cases same
  by_cases less : m < n
  · rw [decide_eq_true less] at passed
    cases passed
  · exact Int.not_lt.1 less

theorem ofValue_of_number {α : Type} {v : Value} {x : Number} (given : v.number? = some x)
    (amountOf : Number → α) : Limit.ofValue amountOf v = .amount (amountOf x) := by
  unfold Limit.ofValue
  rw [given]

theorem WellTyped.comparable (typed : c.WellTyped) : c.scheduling.Comparable := by
  have amount {α : Type} (amountOf : Number → α) (s : Setting) (counted : s.reading = .whole) :
      ∃ x, Limit.ofValue amountOf (c.get s) = .amount x := by
    obtain ⟨x, -, given, -⟩ := typed.number s counted
    exact ⟨_, ofValue_of_number given amountOf⟩
  exact ⟨amount _ .maxConcurrentJobs rfl, amount _ .maxQueueDepth rfl, amount _ .maxDebounce rfl,
    amount _ .loadQueueThreshold rfl, amount _ .loadLatencyThreshold rfl⟩

/-- There is a slot, and the intervals stay between zero and the longest one. -/
theorem WellTyped.bounded (typed : c.WellTyped) (within : c.WithinDoubles) :
    ∃ most, c.scheduling.Bounded most := by
  obtain ⟨slots, count, given_slots, -, whole_slots⟩ := typed.number .maxConcurrentJobs rfl
  obtain ⟨base, least, given_base, same_base, whole_base⟩ := typed.number .baseDebounce rfl
  obtain ⟨longest, most, given_longest, same_longest, whole_longest⟩ := typed.number .maxDebounce rfl
  have passed := c.valid
  unfold check at passed
  simp only [bind_eq_ok_iff] at passed
  obtain ⟨_, _, _, _, _, _, _, _, _, _, _, jobs, _, _, _, positive, _, ordered, _⟩ := passed
  have some_slots : 1 ≤ count := le_of_check given_slots rfl whole_slots rfl jobs
  have not_negative : 0 ≤ least := le_of_check given_base rfl whole_base rfl positive
  have in_order : least ≤ most := le_of_check given_longest given_base whole_longest whole_base ordered
  refine ⟨most, typed.comparable, ?_, ⟨longest, ofValue_of_number given_longest id, whole_longest⟩, ?_,
    Int.le_trans not_negative in_order, ?_⟩
  · have limit : c.scheduling.maxConcurrent = .amount slots.countBelow :=
      ofValue_of_number given_slots Number.countBelow
    unfold SchedulerSettings.slots
    rw [limit, Number.countBelow_of_whole whole_slots]
    exact Int.lt_toNat.2 some_slots
  · change (c.number .baseDebounce).Within most
    rw [same_base]
    intro n whole
    rw [whole_base, Option.some.injEq] at whole
    omega
  · refine Number.overflows_of_whole ?_ whole_longest
    exact same_longest ▸ within.debounce

/-- The values that hold by default have the types that their settings are meant to have. -/
theorem wellTyped_standard : standard.WellTyped where
  flags := ⟨_, rfl⟩
  whole := by
    intro s counted
    cases s <;> first | exact ⟨_, rfl⟩ | cases counted

theorem withinDoubles_standard : standard.WithinDoubles where
  length := Number.overflows_of_small (by decide : (50 : Int).natAbs < 2 ^ 54 - 1)
  debounce := Number.overflows_of_small (by decide : (5000 : Int).natAbs < 2 ^ 54 - 1)
  lifetime := rfl

end Config

end LiveLint
