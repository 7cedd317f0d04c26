import LiveLint.Proofs.Doubles
import LiveLint.Proofs.Outcomes
import LiveLint.Proofs.Schedule.Slots

/-!
# Intervals with a limit

The interval of a workspace is doubled under load, up to a limit, and halved without. If the limit is a whole
number that has a double, every interval has one, so nothing fails when an analysis is held back. That stays
so when the limits change, because an interval that is adapted is brought within the limits of the day. Where
analyses come one after the other, nobody ever waits for a slot.
-/

namespace LiveLint

theorem Interval.max_cases {α : Type} [Interval α] (x y : α) :
    Interval.max x y = x ∨ Interval.max x y = y := by
  unfold Interval.max
  split
  · exact Or.inr rfl
  · exact Or.inl rfl

theorem Number.Within.max {x y : Number} {most : Int} (left : x.Within most) (right : y.Within most) :
    (Interval.max x y).Within most := by
  rcases Interval.max_cases x y with same | same
  · rwa [same]
  · rwa [same]

/-- The limits of a scheduler whose intervals stay between zero and a whole number that has a double. -/
structure SchedulerSettings.Bounded (s : SchedulerSettings Number) (most : Int) : Prop where
  comparable : s.Comparable
  slots : 0 < s.slots
  longest : ∃ bound, s.maxDebounce = .amount bound ∧ bound.whole? = some most
  base : s.baseDebounce.Within most
  not_negative : 0 ≤ most
  small : (Number.int most).overflows = false

namespace Workspace

variable {settings : SchedulerSettings Number} {most : Int} (bounded : settings.Bounded most)

include bounded

theorem within_grown {x y : Number} {any : Int} (within : x.Within any)
    (grows : grown settings x = .ok y) : y.Within most := by
  obtain ⟨bound, limit, whole⟩ := bounded.longest
  unfold grown at grows
  rw [limit, Limit.cap_amount, Except.ok.injEq] at grows
  subst grows
  unfold Interval.min
  split
  · intro n same
    have : most = n := Option.some.inj (whole.symm.trans same)
    have := bounded.not_negative
    omega
  · next small =>
    replace small := Bool.eq_false_iff.2 small
    -- Only the doubled interval can be above the limit, and then the limit is taken.
    rcases Interval.max_cases (Interval.max (Interval.double x) Interval.leastLoaded)
        settings.baseDebounce with first | base
    · rw [first] at small ⊢
      rcases Interval.max_cases (Interval.double x) Interval.leastLoaded with doubled | least
      · rw [doubled] at small ⊢
        exact within.double whole small
      · rw [least]
        exact Number.within_float 250 most
    · rw [base]
      exact bounded.base

theorem within_shrunk (x : Number) : (shrunk settings x).Within most := by
  unfold shrunk
  dsimp only
  split
  · exact Number.within_float _ most
  · exact bounded.base

/-- Adapting the interval changes nothing else, and brings the interval within its bound, whatever bound it
was within before. -/
theorem adapt_within {w : Workspace Number} {any : Int} (within : w.debounce.Within any) :
    ∃ debounce, w.adapt settings = .ok { w with debounce } ∧ debounce.Within most := by
  obtain ⟨debounce, adapted⟩ := exists_adapt bounded.comparable w
  refine ⟨debounce, adapted, ?_⟩
  unfold adapt at adapted
  obtain ⟨loaded, -, adapted⟩ := bind_eq_ok_iff.1 adapted
  split at adapted
  · obtain ⟨y, grows, same⟩ := bind_eq_ok_iff.1 adapted
    cases same
    exact within_grown bounded within grows
  · cases adapted
    exact within_shrunk bounded w.debounce

end Workspace

/-- Analyses come one after the other: nobody waits for a slot, at most one workspace has a slot in use, and
all intervals stay within a bound. -/
structure Scheduler.Serial (s : Scheduler Number) (most : Int) (busy : Option String) : Prop where
  bounded : s.settings.Bounded most
  waiters : ∀ name, (s.workspace name).waiters = []
  running : ∀ name, (s.workspace name).running = if busy = some name then 1 else 0
  within : ∀ name, (s.workspace name).debounce.Within most

namespace Scheduler.Serial

/-- No workspace of a new scheduler was ever used. -/
theorem new {settings : SchedulerSettings Number} {most : Int} (bounded : settings.Bounded most) :
    Serial { settings } most none where
  bounded
  waiters _ := rfl
  running _ := rfl
  within _ := bounded.base

variable {s : Scheduler Number} {most : Int}

/-- The interval for which an analysis is held back has a double. -/
theorem debounce {busy : Option String} (serial : s.Serial most busy) (name : String) :
    (s.debounce name).overflows = false := by
  refine Number.Within.overflows ?_ serial.bounded.small
  have within := serial.within name
  unfold workspace at within
  unfold Scheduler.debounce
  cases found : s.workspaces.get? name with
  | none => exact serial.bounded.base
  | some w =>
    rw [found] at within
    exact within.max serial.bounded.base

theorem set {busy busy' : Option String} (serial : s.Serial most busy) {name : String}
    {w : Workspace Number} (line : w.waiters = []) (within : w.debounce.Within most)
    (running : w.running = if busy' = some name then 1 else 0)
    (others : ∀ other, other ≠ name → (busy' = some other ↔ busy = some other)) :
    (s.set name w).Serial most busy' where
  bounded := serial.bounded
  waiters := by
    intro other
    by_cases same : other = name
    · rw [same, workspace_set_self]
      exact line
    · rw [workspace_set_of_ne s w same]
      exact serial.waiters other
  running := by
    intro other
    by_cases same : other = name
    · rw [same, workspace_set_self]
      exact running
    · rw [workspace_set_of_ne s w same, serial.running other]
      simp only [others other same]
  within := by
    intro other
    by_cases same : other = name
    · rw [same, workspace_set_self]
      exact within
    · rw [workspace_set_of_ne s w same]
      exact serial.within other

/-- A slot is free for whoever asks for one. -/
theorem acquire (serial : s.Serial most none) (name : String) (ticket : Nat) :
    ∃ w, s.acquire name ticket = (s.set name w, .granted) ∧ (s.set name w).Serial most (some name) := by
  have line := serial.waiters name
  have idle := (serial.running name).trans (if_neg nofun)
  have free : (s.workspace name).running < s.settings.slots := idle ▸ serial.bounded.slots
  refine ⟨_, acquire_of_free serial.bounded.comparable free line ticket,
    serial.set line (serial.within name) ?_ ?_⟩
  · rw [if_pos rfl, idle]
  · intro other ne
    simp [Ne.symm ne]

/-- The slot that is in use is given back, and nobody was waiting for it. -/
theorem release {name : String} (serial : s.Serial most (some name)) (latency : Number) :
    ∃ w, s.release name (some latency) = { scheduler := s.set name w, next := none } ∧
      (s.set name w).Serial most none := by
  have line : ((s.workspace name).complete latency).waiters = [] := serial.waiters name
  have busy : ((s.workspace name).complete latency).running = 1 :=
    (serial.running name).trans (if_pos rfl)
  have within : ((s.workspace name).complete latency).debounce.Within most := serial.within name
  unfold Scheduler.release
  dsimp only [Option.map_some, Option.getD_some]
  generalize (s.workspace name).complete latency = w at line busy within
  have handed : w.handOver = ({ w with waiters := [], running := w.running - 1 }, none) := by
    unfold Workspace.handOver
    rw [line]
    rfl
  rw [handed]
  generalize left : { w with waiters := [], running := w.running - 1 } = w'
  have within' : w'.debounce.Within most := left ▸ within
  obtain ⟨debounce, adapted, bound⟩ := Workspace.adapt_within serial.bounded within'
  dsimp only
  rw [adapted]
  refine ⟨{ w' with debounce }, rfl, serial.set ?_ bound ?_ ?_⟩
  · rw [← left]
  · rw [← left, if_neg nofun, busy]
  · intro other ne
    simp [Ne.symm ne]

end Scheduler.Serial

/-- The limits are in order and every interval has a double, whatever the limits were when it was adapted. -/
structure Scheduler.Measured (s : Scheduler Number) : Prop where
  limits : ∃ most, s.settings.Bounded most
  stored : ∀ name w, s.workspaces.get? name = some w →
    ∃ most, (Number.int most).overflows = false ∧ w.debounce.Within most

namespace Scheduler.Measured

theorem new {settings : SchedulerSettings Number} (limits : ∃ most, settings.Bounded most) :
    Measured { settings } :=
  ⟨limits, nofun⟩

variable {s : Scheduler Number}

theorem comparable (measured : s.Measured) : s.settings.Comparable := by
  obtain ⟨most, bounded⟩ := measured.limits
  exact bounded.comparable

theorem configure (measured : s.Measured) {settings : SchedulerSettings Number}
    (limits : ∃ most, settings.Bounded most) : (s.configure settings).Measured :=
  ⟨limits, measured.stored⟩

theorem set (measured : s.Measured) (name : String) {w : Workspace Number}
    (within : ∃ most, (Number.int most).overflows = false ∧ w.debounce.Within most) :
    (s.set name w).Measured := by
  refine ⟨measured.limits, ?_⟩
  intro other found there
  unfold Scheduler.set at there
  by_cases same : other = name
  · rw [same, Table.get?_set_self] at there
    cases there
    exact within
  · rw [Table.get?_set_of_ne _ _ same] at there
    exact measured.stored other found there

theorem workspace (measured : s.Measured) (name : String) :
    ∃ most, (Number.int most).overflows = false ∧ (s.workspace name).debounce.Within most := by
  unfold Scheduler.workspace
  cases found : s.workspaces.get? name with
  | none =>
    obtain ⟨most, bounded⟩ := measured.limits
    exact ⟨most, bounded.small, bounded.base⟩
  | some w => exact measured.stored name w found

/-- The interval for which an analysis is held back has a double. -/
theorem debounce (measured : s.Measured) (name : String) : (s.debounce name).overflows = false := by
  obtain ⟨most, bounded⟩ := measured.limits
  have base := bounded.base.overflows bounded.small
  unfold Scheduler.debounce
  cases found : s.workspaces.get? name with
  | none => exact base
  | some w =>
    obtain ⟨any, small, within⟩ := measured.stored name w found
    dsimp only
    rcases Interval.max_cases w.debounce s.settings.baseDebounce with same | same
    · rw [same]
      exact within.overflows small
    · rw [same]
      exact base

theorem acquire (measured : s.Measured) (name : String) (ticket : Nat) :
    (s.acquire name ticket).1.Measured := by
  obtain ⟨any, small, within⟩ := measured.workspace name
  obtain ⟨most, bounded⟩ := measured.limits
  unfold Scheduler.acquire
  dsimp only
  split
  case h_5 =>
    generalize joined : ({ s.workspace name with
      waiters := (s.workspace name).waiters ++ [{ ticket := some ticket }] } : Workspace Number) = w
    have within' : w.debounce.Within any := joined ▸ within
    obtain ⟨debounce, adapted, bound⟩ := Workspace.adapt_within bounded within'
    unfold joinLine
    dsimp only
    rw [joined, adapted]
    exact measured.set name ⟨most, bounded.small, bound⟩
  all_goals exact measured.set name ⟨any, small, within⟩

theorem release (measured : s.Measured) (name : String) (latency : Number) :
    (s.release name (some latency)).scheduler.Measured := by
  obtain ⟨any, small, within⟩ := measured.workspace name
  obtain ⟨most, bounded⟩ := measured.limits
  have kept (w : Workspace Number) : w.handOver.1.debounce = w.debounce := by
    unfold Workspace.handOver
    split <;> rfl
  unfold Scheduler.release
  dsimp only [Option.map_some, Option.getD_some]
  generalize handed : ((s.workspace name).complete latency).handOver.1 = w
  have within' : w.debounce.Within any := by
    rw [← handed, kept]
    exact within
  obtain ⟨debounce, adapted, bound⟩ := Workspace.adapt_within bounded within'
  rw [adapted]
  exact measured.set name ⟨most, bounded.small, bound⟩

end Scheduler.Measured

end LiveLint
