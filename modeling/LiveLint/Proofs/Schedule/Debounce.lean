import LiveLint.Proofs.Schedule.Slots
import Mathlib.Data.Nat.Log
import Mathlib.Data.Rat.Floor
import Mathlib.Tactic.Linarith

/-!
# Intervals that follow the load

Under load the interval of a workspace is doubled up to the longest, without load it is halved down to the
base, and both have a floor of a quarter of a second in between. With exact intervals the three bounds can
be ordered in any way: the interval stays between the base and the longest, moves in the right direction,
and after as many adaptations as it takes to double an eighth of a second beyond the longest it has arrived
at the end it moves to. A longest interval that is lowered holds from the next adaptation on.
-/

namespace LiveLint

inductive SchedulerMove (α : Type) where
  | acquire (name : String) (ticket : Nat)
  | release (name : String) (latency : Option α)
  /-- A request in line is given up. -/
  | giveUp (name : String) (ticket : Nat)
  /-- A request that was given up leaves the line. -/
  | withdraw (name : String) (ticket : Nat)
  /-- A request that was given up after it got its slot passes the slot on. -/
  | passOn (name : String)
  | configure (settings : SchedulerSettings α)

/-- The move does not change the limits. -/
def SchedulerMove.Keeps {α : Type} (settings : SchedulerSettings α) : SchedulerMove α → Prop
  | .configure given => given = settings
  | _ => True

theorem SchedulerMove.keeps_or {α : Type} (m : SchedulerMove α) (settings : SchedulerSettings α) :
    m.Keeps settings ∨ ∃ given, m = .configure given := by
  cases m with
  | configure given => exact Or.inr ⟨given, rfl⟩
  | _ => exact Or.inl trivial

namespace Scheduler

variable {α : Type} [Interval α]

def perform (s : Scheduler α) : SchedulerMove α → Scheduler α
  | .acquire name ticket => (s.acquire name ticket).1
  | .release name latency => (s.release name latency).scheduler
  | .giveUp name ticket => s.giveUp name ticket
  | .withdraw name ticket => s.withdraw name ticket
  | .passOn name => (s.passOn name).1
  | .configure settings => s.configure settings

def run (s : Scheduler α) (moves : List (SchedulerMove α)) : Scheduler α := moves.foldl perform s

/-- The interval of a workspace. One that was never used has the base. -/
def interval (s : Scheduler α) (name : String) : α := (s.workspace name).debounce

/-- The workspace whose interval a move adapts, as it is when the load is looked at. -/
def adapting? (s : Scheduler α) : SchedulerMove α → Option (String × Workspace α)
  | .acquire name ticket =>
    let w := s.workspace name
    match w.isOpen s.settings, w.isFull s.settings with
    | .ok false, .ok false => some (name, { w with waiters := w.waiters ++ [{ ticket := some ticket }] })
    | _, _ => none
  | .release name latency =>
    some (name, ((latency.map (s.workspace name).complete).getD (s.workspace name)).handOver.1)
  | _ => none

/-- Whether there is much to do when a move adapts the interval of a workspace; nothing if it does not. -/
def load? (s : Scheduler α) (name : String) (m : SchedulerMove α) : Option Bool :=
  match s.adapting? m with
  | some (other, w) => if other = name then (w.isLoaded s.settings).toOption else none
  | none => none

/-- What the adaptations of the interval of a workspace find, one after the other. -/
def loads (s : Scheduler α) (name : String) : List (SchedulerMove α) → List Bool
  | [] => []
  | m :: rest => (s.load? name m).toList ++ (s.perform m).loads name rest

theorem interval_set_self (s : Scheduler α) (name : String) (w : Workspace α) :
    (s.set name w).interval name = w.debounce := by
  simp only [interval, workspace_set_self]

theorem interval_set_of_ne (s : Scheduler α) {name other : String} (w : Workspace α)
    (ne : other ≠ name) : (s.set name w).interval other = s.interval other := by
  simp only [interval, workspace_set_of_ne s w ne]

/-- Setting a workspace to a state with the same interval changes no interval. -/
theorem interval_set_same (s : Scheduler α) (name : String) {w : Workspace α}
    (same : w.debounce = s.interval name) (other : String) :
    (s.set name w).interval other = s.interval other := by
  by_cases here : other = name
  · rw [here, interval_set_self, same]
  · exact interval_set_of_ne s w here

/-- With other limits a workspace keeps its interval. One that was never used has the other base. -/
theorem interval_configure (s : Scheduler α) (settings : SchedulerSettings α) (name : String) :
    (s.configure settings).interval name = s.interval name ∨
      (s.configure settings).interval name = settings.baseDebounce := by
  simp only [interval, workspace, configure]
  cases s.workspaces.get? name with
  | none => exact Or.inr rfl
  | some w => exact Or.inl rfl

end Scheduler

/-!
## Exact intervals

Intervals are rational numbers from here on.
-/

/-- Exact intervals. -/
instance : Interval ℚ where
  lt x y := decide (x < y)
  le x y := decide (x ≤ y)
  zero := 0
  leastLoaded := 250
  double x := x * 2
  half x := x / 2
  seconds x := x / 1000
  approach old new := old + 3 / 10 * (new - old)
  between start stop := (stop - start) * 1000
  typeName _ := "float"

theorem Interval.max_eq (x y : ℚ) : Interval.max x y = Max.max x y := by
  change (if decide (x < y) = true then y else x) = _
  by_cases less : x < y
  · simp [less, less.le]
  · simp [less, not_lt.1 less]

theorem Interval.min_eq (x y : ℚ) : Interval.min x y = Min.min x y := by
  change (if decide (y < x) = true then y else x) = _
  by_cases less : y < x
  · simp [less, less.le]
  · simp [less, not_lt.1 less]

namespace SchedulerSettings

/-- The longest interval there may be, zero if there is no such limit. -/
def longest (s : SchedulerSettings ℚ) : ℚ :=
  match s.maxDebounce with
  | .amount x => x
  | .unordered _ => 0

structure Ordered (s : SchedulerSettings ℚ) : Prop where
  limit : s.maxDebounce = .amount s.longest
  nonneg : 0 ≤ s.baseDebounce
  base_le : s.baseDebounce ≤ s.longest

/-- The interval that comes after one, under load or without. -/
def adapted (s : SchedulerSettings ℚ) (loaded : Bool) (x : ℚ) : ℚ :=
  if loaded then min (max (max (x * 2) 250) s.baseDebounce) s.longest
  else if max 250 s.baseDebounce ≤ x / 2 then x / 2 else s.baseDebounce

/-- Under load an adaptation leads to nothing above the longest interval. -/
theorem adapted_le_longest (s : SchedulerSettings ℚ) (x : ℚ) : s.adapted true x ≤ s.longest := by
  simp [adapted]

/-- Under load an interval is at least doubled, and at least a quarter of a second, up to the longest. -/
theorem min_le_adapted (s : SchedulerSettings ℚ) {x least : ℚ} (grown : least ≤ x * 2 ∨ least ≤ 250) :
    min least s.longest ≤ s.adapted true x := by
  have le : least ≤ max (max (x * 2) 250) s.baseDebounce := by
    rcases grown with doubled | quarter
    · exact doubled.trans ((le_max_left _ _).trans (le_max_left _ _))
    · exact quarter.trans ((le_max_right _ _).trans (le_max_left _ _))
  simpa only [adapted, if_true] using min_le_min_right s.longest le

/-- Without load an interval is halved or becomes the base. -/
theorem adapted_idle (s : SchedulerSettings ℚ) (x : ℚ) :
    s.adapted false x = s.baseDebounce ∨
      s.adapted false x = x / 2 ∧ 250 ≤ x / 2 ∧ s.baseDebounce ≤ x / 2 := by
  simp only [adapted, Bool.false_eq_true, if_false]
  by_cases halves : max 250 s.baseDebounce ≤ x / 2
  · rw [if_pos halves]
    exact Or.inr ⟨rfl, (le_max_left _ _).trans halves, (le_max_right _ _).trans halves⟩
  · rw [if_neg halves]
    exact Or.inl rfl

/-- Under load no interval is shortened that is not above the longest. -/
theorem le_adapted (s : SchedulerSettings ℚ) {x : ℚ} (nonneg : 0 ≤ x) (le : x ≤ s.longest) :
    x ≤ s.adapted true x := by
  have grown : min x s.longest ≤ s.adapted true x := s.min_le_adapted (Or.inl (by linarith))
  rwa [min_eq_left le] at grown

namespace Ordered

variable {s : SchedulerSettings ℚ} (ordered : s.Ordered) {x : ℚ}

include ordered

/-- An adaptation leads to nothing below the base, whatever the interval was before. -/
theorem base_le_adapted (loaded : Bool) (x : ℚ) : s.baseDebounce ≤ s.adapted loaded x := by
  cases loaded with
  | true => simp [adapted, ordered.base_le]
  | false =>
    rcases s.adapted_idle x with same | ⟨half, -, base⟩
    · exact same.ge
    · exact half ▸ base

/-- Without load no interval is lengthened that is not below the base. -/
theorem adapted_le (base : s.baseDebounce ≤ x) : s.adapted false x ≤ x := by
  have nonneg := ordered.nonneg
  rcases s.adapted_idle x with same | ⟨half, -, -⟩
  · exact same ▸ base
  · linarith

/-- The base is kept without load. -/
theorem adapted_base : s.adapted false s.baseDebounce = s.baseDebounce :=
  le_antisymm (ordered.adapted_le le_rfl) (ordered.base_le_adapted false _)

end Ordered

/-- The interval after some adaptations, with the loads that they find. -/
def settled (s : SchedulerSettings ℚ) (loads : List Bool) (x : ℚ) : ℚ :=
  loads.foldl (fun x loaded => s.adapted loaded x) x

theorem settled_append (s : SchedulerSettings ℚ) (front back : List Bool) (x : ℚ) :
    s.settled (front ++ back) x = s.settled back (s.settled front x) := by
  simp [settled]

theorem settled_replicate_succ (s : SchedulerSettings ℚ) (n : Nat) (loaded : Bool) (x : ℚ) :
    s.settled (List.replicate (n + 1) loaded) x =
      s.adapted loaded (s.settled (List.replicate n loaded) x) := by
  rw [List.replicate_succ', settled_append]
  rfl

/-- Adaptations never lead out of the limits. -/
theorem Ordered.settled_within {s : SchedulerSettings ℚ} (ordered : s.Ordered) (loads : List Bool) {x : ℚ}
    (base : s.baseDebounce ≤ x) (longest : x ≤ s.longest) :
    s.baseDebounce ≤ s.settled loads x ∧ s.settled loads x ≤ s.longest := by
  induction loads generalizing x with
  | nil => exact ⟨base, longest⟩
  | cons loaded rest ih =>
    refine ih (ordered.base_le_adapted loaded x) ?_
    cases loaded with
    | true => exact s.adapted_le_longest x
    | false => exact (ordered.adapted_le base).trans longest

/-- So many adaptations lead to an end: doubled so many times, an eighth of a second is longer than the
longest interval. -/
def settling (s : SchedulerSettings ℚ) : Nat := Nat.log 2 ⌊s.longest / 125⌋₊ + 1

theorem longest_lt (s : SchedulerSettings ℚ) : s.longest < 125 * 2 ^ s.settling := by
  have whole : s.longest / 125 < (⌊s.longest / 125⌋₊ + 1 : ℕ) := by
    exact_mod_cast Nat.lt_floor_add_one (s.longest / 125)
  have power : ⌊s.longest / 125⌋₊ + 1 ≤ 2 ^ s.settling := Nat.lt_pow_succ_log_self (by decide) _
  have enough : ((⌊s.longest / 125⌋₊ + 1 : ℕ) : ℚ) ≤ 2 ^ s.settling := by exact_mod_cast power
  linarith

theorem settled_loaded_le (s : SchedulerSettings ℚ) {n : Nat} (some : 0 < n) (x : ℚ) :
    s.settled (List.replicate n true) x ≤ s.longest := by
  obtain ⟨n, rfl⟩ := Nat.exists_eq_succ_of_ne_zero some.ne'
  rw [settled_replicate_succ]
  exact s.adapted_le_longest _

/-- Under load every adaptation doubles what the interval is at least, up to the longest. -/
theorem min_le_settled (s : SchedulerSettings ℚ) {n : Nat} (some : 0 < n) (x : ℚ) :
    min (125 * 2 ^ n) s.longest ≤ s.settled (List.replicate n true) x := by
  induction n with
  | zero => omega
  | succ n ih =>
    rw [settled_replicate_succ]
    rcases Nat.eq_zero_or_pos n with rfl | positive
    · exact s.min_le_adapted (Or.inr (by norm_num))
    · have before := ih positive
      generalize s.settled (List.replicate n true) x = y at before
      rcases min_le_iff.1 before with power | full
      · refine s.min_le_adapted (Or.inl ?_)
        rw [pow_succ]
        linarith
      · have kept : min s.longest s.longest ≤ s.adapted true y := s.min_le_adapted <| by
          rcases le_total s.longest 250 with short | long
          · exact Or.inr short
          · exact Or.inl (by linarith)
        rw [min_self] at kept
        exact (min_le_right _ _).trans kept

/-- After enough adaptations under load the interval is the longest. -/
theorem settled_loaded (s : SchedulerSettings ℚ) {n : Nat} (enough : s.settling ≤ n) (x : ℚ) :
    s.settled (List.replicate n true) x = s.longest := by
  have positive : 0 < n := Nat.lt_of_lt_of_le (Nat.succ_pos _) enough
  have power : (2 : ℚ) ^ s.settling ≤ 2 ^ n := pow_le_pow_right₀ (by norm_num) enough
  have longest := s.longest_lt
  have least := s.min_le_settled positive x
  rw [min_eq_right (by linarith)] at least
  exact le_antisymm (s.settled_loaded_le positive x) least

/-- Without load every adaptation halves the interval, unless it is the base or becomes it. -/
theorem Ordered.settled_mul_le {s : SchedulerSettings ℚ} (ordered : s.Ordered) (n : Nat) {x : ℚ} :
    s.settled (List.replicate n false) x = s.baseDebounce ∨
      s.settled (List.replicate n false) x * 2 ^ n ≤ x ∧
        (0 < n → 250 ≤ s.settled (List.replicate n false) x) := by
  induction n with
  | zero => exact Or.inr ⟨by simp [settled], by omega⟩
  | succ n ih =>
    rw [settled_replicate_succ]
    generalize s.settled (List.replicate n false) x = y at ih
    rcases ih with rfl | ⟨halved, -⟩
    · exact Or.inl ordered.adapted_base
    · rcases s.adapted_idle y with base | ⟨half, least, -⟩
      · exact Or.inl base
      · refine Or.inr ⟨?_, fun _ => half ▸ least⟩
        rw [half, pow_succ]
        linarith

/-- After enough adaptations without load the interval is the base. -/
theorem Ordered.settled_idle {s : SchedulerSettings ℚ} (ordered : s.Ordered) {n : Nat} {x : ℚ}
    (longest : x ≤ s.longest) (enough : s.settling ≤ n) :
    s.settled (List.replicate n false) x = s.baseDebounce := by
  refine (ordered.settled_mul_le n).resolve_right ?_
  rintro ⟨halved, least⟩
  have power : (2 : ℚ) ^ s.settling ≤ 2 ^ n := pow_le_pow_right₀ (by norm_num) enough
  have positive : (0 : ℚ) < 2 ^ n := by positivity
  have below := s.longest_lt
  have above := least (Nat.lt_of_lt_of_le (Nat.succ_pos _) enough)
  nlinarith

end SchedulerSettings

namespace Workspace

theorem debounce_handOver {α : Type} [Interval α] (w : Workspace α) : w.handOver.1.debounce = w.debounce := by
  unfold handOver
  split <;> rfl

/-- Adapting the interval fails where the load cannot be told. Otherwise it changes nothing else. -/
theorem adapt_cases {settings : SchedulerSettings ℚ} (ordered : settings.Ordered) (w : Workspace ℚ) :
    (∃ f, w.isLoaded settings = .error f ∧ w.adapt settings = .error f) ∨
      ∃ loaded, w.isLoaded settings = .ok loaded ∧
        w.adapt settings = .ok { w with debounce := settings.adapted loaded w.debounce } := by
  unfold adapt
  cases w.isLoaded settings with
  | error f => exact Or.inl ⟨f, rfl, rfl⟩
  | ok loaded =>
    refine Or.inr ⟨loaded, rfl, ?_⟩
    cases loaded with
    | true =>
      simp only [bind, Except.bind, pure, Except.pure, grown, ordered.limit, Limit.cap_amount,
        Interval.max_eq, Interval.min_eq, if_true, SchedulerSettings.adapted]
      rfl
    | false =>
      simp only [bind, Except.bind, pure, Except.pure, shrunk, Interval.max_eq, Bool.false_eq_true,
        if_false, SchedulerSettings.adapted]
      change Except.ok { w with debounce := if decide _ = true then _ else _ } = _
      simp only [decide_eq_true_eq]
      rfl

end Workspace

namespace Scheduler

variable {s : Scheduler ℚ}

theorem settings_perform (s : Scheduler ℚ) {m : SchedulerMove ℚ} (keeps : m.Keeps s.settings) :
    (s.perform m).settings = s.settings := by
  cases m with
  | configure given => exact keeps
  | acquire name ticket =>
    simp only [perform, acquire]
    split
    case h_5 =>
      simp only [joinLine]
      split <;> rfl
    all_goals rfl
  | release name latency =>
    simp only [perform, release]
    split <;> rfl
  | _ => rfl

/-- Setting a workspace to what an adaptation leaves, if it does not fail, adapts its interval to the
load. -/
theorem interval_set_adapt (ordered : s.settings.Ordered) {other : String} {w stored : Workspace ℚ}
    (same : w.debounce = s.interval other)
    (adapts : w.adapt s.settings = .ok stored ∨
      (∃ f, w.adapt s.settings = .error f) ∧ stored.debounce = w.debounce) (name : String) :
    (s.set other stored).interval name =
      match (if other = name then (w.isLoaded s.settings).toOption else none) with
      | some loaded => s.settings.adapted loaded (s.interval name)
      | none => s.interval name := by
  by_cases here : other = name
  · subst here
    rw [if_pos rfl, interval_set_self]
    rcases w.adapt_cases ordered with ⟨f, load, failed⟩ | ⟨loaded, load, adapted⟩
    · rcases adapts with done | ⟨-, kept⟩
      · rw [failed] at done
        cases done
      · rw [load, kept, same]
        rfl
    · rcases adapts with done | ⟨⟨f, failed⟩, -⟩
      · rw [adapted] at done
        cases done
        rw [load, ← same]
        rfl
      · rw [adapted] at failed
        cases failed
  · rw [if_neg here, interval_set_of_ne s stored (Ne.symm here)]

/-- A move adapts an interval to the load that it finds, and leaves all others as they are. -/
theorem interval_perform (ordered : s.settings.Ordered) (name : String) {m : SchedulerMove ℚ}
    (keeps : m.Keeps s.settings) :
    (s.perform m).interval name =
      match s.load? name m with
      | some loaded => s.settings.adapted loaded (s.interval name)
      | none => s.interval name := by
  cases m with
  | configure given =>
    obtain rfl : given = s.settings := keeps
    rfl
  | giveUp other ticket =>
    refine s.interval_set_same other ?_ name
    rfl
  | withdraw other ticket =>
    refine s.interval_set_same other ?_ name
    rfl
  | passOn other =>
    refine s.interval_set_same other ?_ name
    exact (s.workspace other).debounce_handOver
  | acquire other ticket =>
    have unchanged : ∀ running overflowed, (s.set other { s.workspace other with
        running, overflowed }).interval name = s.interval name := by
      intro running overflowed
      refine s.interval_set_same other ?_ name
      rfl
    simp only [perform, acquire, load?, adapting?]
    split
    case h_5 isOpen isFull =>
      have joined : Workspace.debounce { s.workspace other with
          waiters := (s.workspace other).waiters ++ [{ ticket := some ticket }] } = s.interval other := rfl
      simp only [isOpen, isFull, joinLine]
      split
      · next stored done => exact interval_set_adapt ordered joined (Or.inl done) name
      · next f failed =>
        refine interval_set_adapt ordered joined (Or.inr ⟨⟨f, failed⟩, ?_⟩) name
        rfl
    case h_1 isOpen => simp only [isOpen, unchanged]
    case h_2 isOpen => simp only [isOpen, unchanged]
    case h_3 isOpen isFull => simp only [isOpen, isFull, unchanged]
    case h_4 isOpen isFull => simp only [isOpen, isFull, unchanged]
  | release other latency =>
    have kept : ((latency.map (s.workspace other).complete).getD (s.workspace other)).handOver.1.debounce =
        s.interval other := by
      rw [Workspace.debounce_handOver]
      cases latency <;> rfl
    simp only [perform, release, load?, adapting?]
    split
    · next stored done => exact interval_set_adapt ordered kept (Or.inl done) name
    · next f failed => exact interval_set_adapt ordered kept (Or.inr ⟨⟨f, failed⟩, rfl⟩) name

/-- Moves that leave the limits as they are adapt an interval to the loads that they find. -/
theorem interval_run (ordered : s.settings.Ordered) (name : String) {moves : List (SchedulerMove ℚ)}
    (keeps : ∀ m ∈ moves, m.Keeps s.settings) :
    (s.run moves).settings = s.settings ∧
      (s.run moves).interval name = s.settings.settled (s.loads name moves) (s.interval name) := by
  induction moves generalizing s with
  | nil => exact ⟨rfl, rfl⟩
  | cons m rest ih =>
    have kept := keeps m List.mem_cons_self
    have same := settings_perform s kept
    have moved := interval_perform ordered name kept
    obtain ⟨settings, interval⟩ := ih (s := s.perform m) (same ▸ ordered) fun other known => by
      rw [same]
      exact keeps other (List.mem_cons_of_mem m known)
    refine ⟨settings.trans same, interval.trans ?_⟩
    rw [same, moved, loads, SchedulerSettings.settled_append]
    cases s.load? name m <;> rfl

/-- Intervals under limits that stay as they are: they are never below the base, an adaptation moves them in
the direction of the load, and after enough adaptations in one direction they are at its end. -/
theorem interval_relaxes_and_saturates {settings : SchedulerSettings ℚ} (ordered : settings.Ordered)
    {moves : List (SchedulerMove ℚ)} (fixed : ∀ m ∈ moves, m.Keeps settings) (name : String) :
    let s := run { settings } moves
    settings.baseDebounce ≤ s.interval name ∧
      (∀ m, m.Keeps settings →
        (s.load? name m = some true → s.interval name ≤ (s.perform m).interval name) ∧
          (s.load? name m = some false → (s.perform m).interval name ≤ s.interval name)) ∧
      ∀ more, (∀ m ∈ more, m.Keeps settings) → settings.settling ≤ (s.loads name more).length →
        ((∀ loaded ∈ s.loads name more, loaded = false) →
          (s.run more).interval name = settings.baseDebounce) ∧
        ((∀ loaded ∈ s.loads name more, loaded = true) →
          (s.run more).interval name = settings.longest) := by
  intro s
  obtain ⟨same, interval⟩ := interval_run (s := { settings }) ordered name fixed
  have limits : s.settings = settings := same
  have ordered' : s.settings.Ordered := limits ▸ ordered
  obtain ⟨base, longest⟩ : settings.baseDebounce ≤ s.interval name ∧ s.interval name ≤ settings.longest := by
    rw [show s.interval name = _ from interval]
    exact ordered.settled_within _ le_rfl ordered.base_le
  refine ⟨base, fun m keeps => ?_, fun more keeps enough => ?_⟩
  · have moved := interval_perform ordered' name (limits ▸ keeps)
    rw [limits] at moved
    constructor
    · intro loaded
      rw [moved, loaded]
      exact settings.le_adapted (ordered.nonneg.trans base) longest
    · intro idle
      rw [moved, idle]
      exact ordered.adapted_le base
  · obtain ⟨-, later⟩ := interval_run ordered' name (limits ▸ keeps)
    rw [limits] at later
    constructor
    · intro idle
      rw [later, List.eq_replicate_of_mem idle]
      exact ordered.settled_idle longest enough
    · intro loaded
      rw [later, List.eq_replicate_of_mem loaded]
      exact settings.settled_loaded enough _

/-- Three long analyses lengthen the interval to the longest. After a short one there is still much to do on
the average, after three more there was nothing to do long enough to be back at the base. -/
theorem interval_relaxes_and_saturates_long_then_short :
    let settings : SchedulerSettings ℚ :=
      { baseDebounce := 100, maxDebounce := .amount 600, latencyThreshold := .amount 1000 }
    let long : List (SchedulerMove ℚ) := List.replicate 3 (.release "w" (some 2000))
    let short : List (SchedulerMove ℚ) := List.replicate 3 (.release "w" (some 0))
    let s := run { settings } (long ++ [.release "w" (some 0)])
    settings.settling = 3 ∧ (run { settings } long).interval "w" = 600 ∧
      s.loads "w" short = [false, false, false] ∧ (s.run short).interval "w" = 100 := by
  intro settings long short s
  have ordered : settings.Ordered := ⟨rfl, by decide, by decide⟩
  have enough : settings.settling = 3 := by decide +kernel
  have start := @interval_relaxes_and_saturates settings ordered [] nofun "w"
  have later := @interval_relaxes_and_saturates settings ordered
    (long ++ [.release "w" (some 0)]) (by simp [long, SchedulerMove.Keeps]) "w"
  have loaded : (Scheduler.loads { settings } "w" long) = [true, true, true] := by decide +kernel
  have idle : s.loads "w" short = [false, false, false] := by decide +kernel
  refine ⟨enough, ?_, idle, ?_⟩
  · refine (start.2.2 long (by simp [long, SchedulerMove.Keeps]) ?_).2 ?_ <;> simp [run, loaded, enough]
  · refine (later.2.2 short (by simp [short, SchedulerMove.Keeps]) ?_).1 ?_ <;>
      simp only [s] at idle <;> simp [idle, enough]

end Scheduler

/-!
## Limits that change

The base holds as soon as it is set. A longest interval that is lowered holds as soon as the interval is
adapted under load or has come down to the base; without load it may be above for a while.
-/

/-- A scheduler with a note on the interval of one workspace. -/
structure DebounceLog where
  workspace : String
  scheduler : Scheduler ℚ
  /-- The limits in force when the interval was last adapted under load, or was the base. -/
  since : SchedulerSettings ℚ

namespace DebounceLog

def start (workspace : String) (settings : SchedulerSettings ℚ) : DebounceLog :=
  { workspace, scheduler := { settings }, since := settings }

def limits (l : DebounceLog) : SchedulerSettings ℚ := l.scheduler.settings

def interval (l : DebounceLog) : ℚ := l.scheduler.interval l.workspace

def delay (l : DebounceLog) : ℚ := l.scheduler.debounceSeconds l.workspace

def perform (l : DebounceLog) (m : SchedulerMove ℚ) : DebounceLog :=
  let s := l.scheduler.perform m
  let set := l.scheduler.load? l.workspace m = some true ∨ s.interval l.workspace = s.settings.baseDebounce
  { l with scheduler := s, since := if set then s.settings else l.since }

def run (l : DebounceLog) (moves : List (SchedulerMove ℚ)) : DebounceLog := moves.foldl perform l

/-- The limits are in order, and the interval is one that the noted ones allow. -/
structure Bounded (l : DebounceLog) : Prop where
  limits : l.limits.Ordered
  since : l.since.Ordered
  nonneg : 0 ≤ l.interval
  le_longest : l.interval ≤ l.since.longest

theorem bounded_start (workspace : String) {settings : SchedulerSettings ℚ} (ordered : settings.Ordered) :
    (start workspace settings).Bounded where
  limits := ordered
  since := ordered
  nonneg := ordered.nonneg
  le_longest := ordered.base_le

/-- After a move the limits are in order if those that it sets are. -/
theorem ordered_perform {s : Scheduler ℚ} (ordered : s.settings.Ordered) {m : SchedulerMove ℚ}
    (given : ∀ settings, m = .configure settings → settings.Ordered) :
    (s.perform m).settings.Ordered := by
  rcases m.keeps_or s.settings with keeps | ⟨settings, rfl⟩
  · exact Scheduler.settings_perform s keeps ▸ ordered
  · exact given settings rfl

/-- A move makes an interval the base, or brings it below the longest because of the load, or does not
lengthen it. -/
theorem interval_cases {s : Scheduler ℚ} (ordered : s.settings.Ordered) (name : String)
    (nonneg : 0 ≤ s.interval name) (m : SchedulerMove ℚ) :
    (s.perform m).interval name = (s.perform m).settings.baseDebounce ∨
      0 ≤ (s.perform m).interval name ∧
        if s.load? name m = some true then (s.perform m).interval name ≤ (s.perform m).settings.longest
        else (s.perform m).interval name ≤ s.interval name := by
  rcases m.keeps_or s.settings with keeps | ⟨settings, rfl⟩
  · rw [Scheduler.settings_perform s keeps, Scheduler.interval_perform ordered name keeps]
    cases s.load? name m with
    | none => exact Or.inr ⟨nonneg, by simp⟩
    | some loaded =>
      have above := ordered.nonneg.trans (ordered.base_le_adapted loaded (s.interval name))
      cases loaded with
      | true => exact Or.inr ⟨above, by simp [s.settings.adapted_le_longest]⟩
      | false =>
        rcases s.settings.adapted_idle (s.interval name) with base | ⟨half, -, -⟩
        · exact Or.inl base
        · refine Or.inr ⟨above, ?_⟩
          simp only [Option.some.injEq, Bool.false_eq_true, if_false, half]
          linarith
  · rcases Scheduler.interval_configure s settings name with same | base
    · exact Or.inr ⟨same ▸ nonneg, same.le⟩
    · exact Or.inl base

theorem Bounded.perform {l : DebounceLog} (bounded : l.Bounded) {m : SchedulerMove ℚ}
    (given : ∀ settings, m = .configure settings → settings.Ordered) : (l.perform m).Bounded := by
  have ordered : (l.scheduler.perform m).settings.Ordered := ordered_perform bounded.limits given
  by_cases set : l.scheduler.load? l.workspace m = some true ∨
      (l.scheduler.perform m).interval l.workspace = (l.scheduler.perform m).settings.baseDebounce
  · have since : (l.perform m).since = (l.scheduler.perform m).settings := if_pos set
    rcases interval_cases bounded.limits l.workspace bounded.nonneg m with base | ⟨nonneg, le⟩
    · exact ⟨ordered, since ▸ ordered, ordered.nonneg.trans base.ge,
        since ▸ base.le.trans ordered.base_le⟩
    · refine ⟨ordered, since ▸ ordered, nonneg, since ▸ ?_⟩
      rcases set with loaded | base
      · rwa [if_pos loaded] at le
      · exact base.le.trans ordered.base_le
  · have since : (l.perform m).since = l.since := if_neg set
    obtain ⟨idle, other⟩ := not_or.1 set
    obtain ⟨nonneg, le⟩ := (interval_cases bounded.limits l.workspace bounded.nonneg m).resolve_left other
    rw [if_neg idle] at le
    exact ⟨ordered, since ▸ bounded.since, nonneg, since ▸ le.trans bounded.le_longest⟩

theorem workspace_run (l : DebounceLog) (moves : List (SchedulerMove ℚ)) :
    (l.run moves).workspace = l.workspace := by
  induction moves generalizing l with
  | nil => rfl
  | cons m rest ih => exact ih (l.perform m)

theorem Bounded.run {l : DebounceLog} (bounded : l.Bounded) {moves : List (SchedulerMove ℚ)}
    (given : ∀ settings, .configure settings ∈ moves → settings.Ordered) : (l.run moves).Bounded := by
  induction moves generalizing l with
  | nil => exact bounded
  | cons m rest ih =>
    refine ih (bounded.perform ?_) fun settings known => given settings (List.mem_cons_of_mem m known)
    rintro settings rfl
    exact given settings List.mem_cons_self

/-- Neither the limits in force nor the noted ones allow more than any limits did. -/
theorem longest_run {l : DebounceLog} {most : ℚ} {moves : List (SchedulerMove ℚ)}
    (given : ∀ settings, .configure settings ∈ moves → settings.longest ≤ most)
    (limits : l.limits.longest ≤ most) (since : l.since.longest ≤ most) :
    (l.run moves).limits.longest ≤ most ∧ (l.run moves).since.longest ≤ most := by
  induction moves generalizing l with
  | nil => exact ⟨limits, since⟩
  | cons m rest ih =>
    have now : (l.perform m).limits.longest ≤ most := by
      rcases m.keeps_or l.scheduler.settings with keeps | ⟨settings, rfl⟩
      · have same : (l.perform m).limits = l.limits := Scheduler.settings_perform l.scheduler keeps
        rwa [same]
      · exact given settings List.mem_cons_self
    refine ih (fun settings known => given settings (List.mem_cons_of_mem m known)) now ?_
    simp only [perform]
    split
    · exact now
    · exact since

/-- An analysis is held back for the interval, or for the base if that is longer now. -/
theorem delay_eq (l : DebounceLog) : l.delay = max l.interval l.limits.baseDebounce / 1000 := by
  change l.scheduler.debounce l.workspace / 1000 = _
  simp only [Scheduler.debounce, interval, Scheduler.interval, Scheduler.workspace, limits]
  cases l.scheduler.workspaces.get? l.workspace with
  | none => simp
  | some w => simp [Interval.max_eq]

theorem Bounded.delay_le {l : DebounceLog} (bounded : l.Bounded) :
    l.delay ≤ max l.since.longest l.limits.baseDebounce / 1000 := by
  have le := max_le_max_right l.limits.baseDebounce bounded.le_longest
  rw [delay_eq]
  linarith

/-- Where neither the limits in force nor the noted ones allow more than some interval, the delay does not. -/
theorem Bounded.delay_le_of {l : DebounceLog} (bounded : l.Bounded) {most : ℚ}
    (since : l.since.longest ≤ most) (limits : l.limits.longest ≤ most) : l.delay ≤ most / 1000 := by
  have base : l.limits.baseDebounce ≤ most := bounded.limits.base_le.trans limits
  have allowed : max l.since.longest l.limits.baseDebounce ≤ most := max_le since base
  have le := bounded.delay_le
  linarith

/-- The delay under limits that change: it is never below the base in force, and never above the longest
interval of the limits that were in force when the interval was last adapted under load or was the base. So
it keeps to the longest interval in force if that was not lowered since, and at the latest when it is
adapted under load again; and it is never above all the limits that there were. -/
theorem delay_within_limits {settings : SchedulerSettings ℚ} (ordered : settings.Ordered) (workspace : String)
    {moves : List (SchedulerMove ℚ)}
    (given : ∀ limits, .configure limits ∈ moves → limits.Ordered) :
    let l := (start workspace settings).run moves
    l.limits.baseDebounce / 1000 ≤ l.delay ∧
      l.delay ≤ max l.since.longest l.limits.baseDebounce / 1000 ∧
      (l.since.longest ≤ l.limits.longest → l.delay ≤ l.limits.longest / 1000) ∧
      (∀ m, m.Keeps l.limits → l.scheduler.load? workspace m = some true →
        (l.perform m).delay ≤ l.limits.longest / 1000) ∧
      ∀ most, settings.longest ≤ most → (∀ limits, .configure limits ∈ moves → limits.longest ≤ most) →
        l.delay ≤ most / 1000 := by
  intro l
  have bounded : l.Bounded := (bounded_start workspace ordered).run given
  refine ⟨?_, bounded.delay_le, fun kept => bounded.delay_le_of kept le_rfl, fun m keeps loaded => ?_, ?_⟩
  · have base := le_max_right l.interval l.limits.baseDebounce
    rw [delay_eq]
    linarith
  · have limits : (l.perform m).limits = l.limits := Scheduler.settings_perform l.scheduler keeps
    have name : l.workspace = workspace := workspace_run _ moves
    have since : (l.perform m).since = (l.perform m).limits := if_pos (Or.inl (name ▸ loaded))
    have after : (l.perform m).Bounded := by
      refine bounded.perform ?_
      rintro settings rfl
      exact keeps ▸ bounded.limits
    exact after.delay_le_of (by rw [since, limits]) (by rw [limits])
  · intro most first all
    obtain ⟨limits, since⟩ := longest_run (l := start workspace settings) all first first
    exact bounded.delay_le_of since limits

/-- The longest interval is lowered when the interval has grown to half a second. The delay stays at half a
second until there is much to do again. -/
theorem delay_within_limits_lowered :
    let settings (longest : ℚ) : SchedulerSettings ℚ :=
      { baseDebounce := 100, maxDebounce := .amount longest, latencyThreshold := .amount 1000 }
    let long : SchedulerMove ℚ := .release "w" (some 5000)
    let l := (start "w" (settings 30000)).run [long, long, .configure (settings 300)]
    l.since.longest = 30000 ∧ 1 / 10 ≤ l.delay ∧ l.delay = 1 / 2 ∧ l.delay ≤ 30 ∧
      (l.perform long).delay ≤ 3 / 10 := by
  intro settings long l
  have ordered {longest : ℚ} (enough : 100 ≤ longest) : (settings longest).Ordered :=
    ⟨rfl, by norm_num [settings], enough⟩
  have given (limits : SchedulerSettings ℚ)
      (known : .configure limits ∈ [long, long, .configure (settings 300)]) : limits = settings 300 := by
    simpa [long] using known
  have first : (settings 30000).Ordered := ordered (by norm_num)
  obtain ⟨base, -, -, loaded, most⟩ := delay_within_limits first "w" fun limits known =>
    given limits known ▸ ordered (by norm_num)
  have limits : l.limits = settings 300 := rfl
  have noted : l.since.longest = 30000 := by decide +kernel
  have slow : l.delay = 1 / 2 := by decide +kernel
  refine ⟨noted, ?_, slow, ?_, ?_⟩
  · exact (by norm_num : (1 : ℚ) / 10 ≤ 100 / 1000).trans base
  · refine (most 30000 le_rfl fun limits known => ?_).trans (by norm_num)
    rw [given limits known]
    exact (by norm_num : (300 : ℚ) ≤ 30000)
  · refine (loaded long trivial (by decide +kernel)).trans ?_
    rw [limits]
    exact (by norm_num : (300 : ℚ) / 1000 ≤ 3 / 10)

end DebounceLog

end LiveLint
