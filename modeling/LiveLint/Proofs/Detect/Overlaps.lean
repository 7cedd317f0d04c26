import LiveLint.Proofs.Detect.Below
import LiveLint.Proofs.Detect.Repetitions
import Mathlib.Data.List.Pairwise

/-!
# Where reports of repeated code overlap

Every repeated window is part of one run only, and a run goes on for as long as the next window is repeated and
its first copy is the next one too. A report covers all lines of the windows of its run, so the reports of two
runs share lines if the second begins before the last window of the first has ended: the end of the first and the
beginning of the second are then repeated together, but at different places.
-/

namespace LiveLint.Duplicate

/-- Lines take part in the order of their numbers. -/
theorem significantFrom_pairwise (profile : Option Profile) (broken : List (Int × Int)) (number : Nat)
    (before : Option Line) (raws : List (List Char)) :
    (significantFrom profile broken number before raws).Pairwise (·.number < ·.number) := by
  induction raws generalizing number before with
  | nil => exact .nil
  | cons raw rest ih =>
    have first (text : Option String) (before : Option Line) :
        (⟨number, text⟩ :: significantFrom profile broken (number + 1) before rest).Pairwise
          (·.number < ·.number) :=
      .cons (fun line member => le_number_of_mem member) (ih (number + 1) before)
    unfold significantFrom
    split
    · split
      · exact ih (number + 1) before
      · exact first none _
    · dsimp only
      split
      · exact ih (number + 1) before
      · exact first (some _) _

variable {lines : List Line} {size : Nat}

theorem lineNumber_lt (increasing : lines.Pairwise (·.number < ·.number)) {i j : Nat} (lt : i < j)
    (inside : j < lines.length) : lineNumber lines.toArray i < lineNumber lines.toArray j := by
  unfold lineNumber
  rw [List.getElem?_toArray, List.getElem?_toArray, List.getElem?_eq_getElem (Nat.lt_trans lt inside),
    List.getElem?_eq_getElem inside]
  exact List.pairwise_iff_getElem.1 increasing i j (Nat.lt_trans lt inside) inside lt

theorem lineNumber_le_iff (increasing : lines.Pairwise (·.number < ·.number)) {i j : Nat}
    (here : i < lines.length) (there : j < lines.length) :
    lineNumber lines.toArray i ≤ lineNumber lines.toArray j ↔ i ≤ j := by
  rcases Nat.lt_trichotomy i j with less | rfl | more
  · have := lineNumber_lt increasing less there
    omega
  · exact iff_of_true (Nat.le_refl _) (Nat.le_refl _)
  · have := lineNumber_lt increasing more here
    omega

def Run.stop (run : Run) (size : Nat) : Nat := run.start.later + run.count + size - 2

/-- A report begins with the first and ends with the last line of its run. -/
theorem report_range (source : Array (List Char)) {run : Run} (within : run.Within size lines.length) :
    (report source lines.toArray size run).range.startLine = lineNumber lines.toArray run.start.later ∧
      (report source lines.toArray size run).range.endLine = lineNumber lines.toArray (run.stop size) := by
  have stop : placeOf lines.toArray.size (run.start.later + (run.count + (size : Int) - 1) - 1) =
      run.stop size := by
    have := within.length
    unfold placeOf Run.stop
    rw [if_pos (by omega)]
    omega
  refine ⟨rfl, ?_⟩
  rw [← stop]
  rfl

/-!
## Where runs end
-/

def Run.next (run : Run) : Repetition := ⟨run.start.later + run.count, run.start.first + run.count⟩

theorem Run.isContinuedBy_iff {run : Run} {r : Repetition} : run.isContinuedBy r = true ↔ r = run.next := by
  unfold isContinuedBy next
  rw [Bool.and_eq_true, beq_iff_eq, beq_iff_eq, Repetition.mk.injEq]

/-- A run that is collected is not continued by what comes after it, since repetitions come in order. -/
theorem next_not_mem_of_mem_runsFrom {run found : Run} {rs : List Repetition}
    (ordered : rs.Pairwise (·.later < ·.later)) (behind : ∀ r ∈ rs, run.start.later + run.count ≤ r.later)
    (among : found ∈ runsFrom run rs) :
    run.start.later + run.count ≤ found.start.later + found.count ∧ found.next ∉ rs := by
  induction rs generalizing run with
  | nil =>
    rw [List.mem_singleton.1 among]
    exact ⟨Nat.le_refl _, List.not_mem_nil⟩
  | cons r rest ih =>
    have here := behind r (List.mem_cons_self ..)
    have later : ∀ r' ∈ rest, r.later + 1 ≤ r'.later := fun r' => List.rel_of_pairwise_cons ordered
    unfold runsFrom at among
    split at among
    · next continued =>
      obtain rfl := Run.isContinuedBy_iff.1 continued
      obtain ⟨le, other⟩ := ih ordered.of_cons later among
      have first : found.next ≠ run.next := fun same => by
        have := congrArg Repetition.later same
        unfold Run.next at this
        dsimp only at this le
        omega
      exact ⟨Nat.le_of_succ_le le, List.not_mem_cons_of_ne_of_not_mem first other⟩
    · next stopped =>
      rcases List.mem_cons.1 among with rfl | among
      · refine ⟨Nat.le_refl _, List.not_mem_cons_of_ne_of_not_mem (fun same => ?_) fun member => ?_⟩
        · exact stopped (Run.isContinuedBy_iff.2 same.symm)
        · have := later _ member
          unfold Run.next at this
          dsimp only at this
          omega
      · obtain ⟨le, other⟩ := ih ordered.of_cons later among
        dsimp only at le
        have first : found.next ≠ r := fun same => by
          have := congrArg Repetition.later same
          unfold Run.next at this
          dsimp only at this
          omega
        exact ⟨by omega, List.not_mem_cons_of_ne_of_not_mem first other⟩

theorem next_not_mem_of_mem_runs {found : Run} {rs : List Repetition} (ordered : rs.Pairwise (·.later < ·.later))
    (among : found ∈ runs rs) : found.next ∉ rs := by
  cases rs with
  | nil => cases among
  | cons r rest =>
    obtain ⟨le, other⟩ := next_not_mem_of_mem_runsFrom ordered.of_cons
      (fun r' => List.rel_of_pairwise_cons ordered) among
    refine List.not_mem_cons_of_ne_of_not_mem (fun same => ?_) other
    have := congrArg Repetition.later same
    unfold Run.next at this
    dsimp only at this le
    omega

/-- No window belongs to both of two runs. -/
def Run.Apart (a b : Run) : Prop :=
  a.start.later + a.count ≤ b.start.later ∨ b.start.later + b.count ≤ a.start.later

instance Run.symm_apart : Std.Symm Run.Apart := ⟨fun _ _ => Or.symm⟩

/-- Runs of which each begins behind the one before are apart, in whatever order they are taken. -/
theorem apart_of_mem {found : List Run}
    (disjoint : found.Pairwise fun a b => a.start.later + a.count ≤ b.start.later) {a b : Run} (here : a ∈ found)
    (there : b ∈ found) (different : a ≠ b) : a.Apart b := by
  have apart : found.Pairwise Run.Apart := disjoint.imp Or.inl
  exact apart.forall here there different

/-!
## Reports
-/

/-- Every repeated window is reported once. Reports come in order, and a run ends only where the next window is
not repeated or has its first copy elsewhere. Two reports share lines exactly if the second run begins before the
last window of the first ends, and then only lines behind the first line of that window and ahead of the last
line of the window with which the second begins. -/
structure Once (lines : List Line) (size : Nat) (found : List Run) (range : Run → SourceRange) : Prop where
  once : ∀ i, Repeats lines size i →
    ∃! run, run ∈ found ∧ run.start.later ≤ i ∧ i < run.start.later + run.count
  maximal : ∀ run ∈ found, Repeats lines size (run.start.later + run.count) →
    ¬IsLeast {j | Alike lines size (run.start.later + run.count) j} (run.start.first + run.count)
  ordered : found.Pairwise fun a b =>
    (range a).startLine < (range b).startLine ∧ (range a).endLine < (range b).endLine
  overlap : found.Pairwise fun a b =>
    (range b).startLine ≤ (range a).endLine ↔ b.start.later + 1 < a.start.later + a.count + size
  shared : found.Pairwise fun a b => ∀ i < lines.length,
    (range b).startLine ≤ lineNumber lines.toArray i → (lineNumber lines.toArray i : Int) ≤ (range a).endLine →
      a.start.later + a.count ≤ i ∧ i + 1 < b.start.later + size

/-- Two runs of which the second begins behind the windows of the first: what their reports cover. -/
theorem reports_of_apart (increasing : lines.Pairwise (·.number < ·.number)) (source : Array (List Char))
    (positive : 1 ≤ size) {a b : Run} (within : a.Within size lines.length)
    (within' : b.Within size lines.length) (count : 1 ≤ a.count) (count' : 1 ≤ b.count)
    (apart : a.start.later + a.count ≤ b.start.later) :
    let first := (report source lines.toArray size a).range
    let second := (report source lines.toArray size b).range
    (first.startLine < second.startLine ∧ first.endLine < second.endLine) ∧
      (second.startLine ≤ first.endLine ↔ b.start.later + 1 < a.start.later + a.count + size) ∧
      ∀ i < lines.length, second.startLine ≤ lineNumber lines.toArray i →
        (lineNumber lines.toArray i : Int) ≤ first.endLine →
          a.start.later + a.count ≤ i ∧ i + 1 < b.start.later + size := by
  obtain ⟨start, stop⟩ := report_range source within
  obtain ⟨start', stop'⟩ := report_range source within'
  have ends := within.later
  have ends' := within'.later
  have last : a.stop size < lines.length := by unfold Run.stop; omega
  have last' : b.stop size < lines.length := by unfold Run.stop; omega
  have begins : b.start.later < lines.length := by omega
  dsimp only
  rw [start, stop, start', stop']
  refine ⟨⟨?_, ?_⟩, ?_, fun i inside le le' => ?_⟩
  · exact Int.ofNat_lt.2 (lineNumber_lt increasing (by omega) begins)
  · exact Int.ofNat_lt.2 (lineNumber_lt increasing (by unfold Run.stop; omega) last')
  · rw [Int.ofNat_le, lineNumber_le_iff increasing begins last]
    unfold Run.stop
    omega
  · rw [Int.ofNat_le, lineNumber_le_iff increasing begins inside] at le
    rw [Int.ofNat_le, lineNumber_le_iff increasing inside last] at le'
    unfold Run.stop at le'
    omega

/-- Repeated code is reported once: whatever the number of lines that must be repeated, each repeated window is
part of exactly one run, the reports of the runs come in order, and they overlap only where the windows of
different runs do. -/
theorem exists_once {settings : Settings} (s : Subject)
    (threshold : settings.duplicateMinLines.whole? = some (size : Int)) (positive : 1 ≤ size) :
    ∃ found, find settings s = .ok (found.map (report s.lines.toArray (significant s).toArray size)) ∧
      Once (significant s) size found fun run =>
        (report s.lines.toArray (significant s).toArray size run).range := by
  have increasing : (significant s).Pairwise (·.number < ·.number) := significantFrom_pairwise ..
  have apart : (repeatedRuns (significant s) size).Pairwise fun a b => a.start.later + a.count ≤ b.start.later :=
    runs_pairwise (repetitions_pairwise positive)
  have reports := apart.imp_of_mem fun here there apart =>
    reports_of_apart increasing s.lines.toArray positive (within_of_mem_runs (by omega) here)
      (within_of_mem_runs (by omega) there) (madeOf_of_mem_runs here).positive
      (madeOf_of_mem_runs there).positive apart
  refine ⟨_, find_eq_repeatedRuns s threshold positive, ?_⟩
  constructor
  case once =>
    intro i repeats
    obtain ⟨run, among, inside⟩ := (repeats_iff_exists_run positive).1 repeats
    refine ⟨run, ⟨among, inside⟩, fun other ⟨among', inside'⟩ => ?_⟩
    by_contra different
    have either := apart_of_mem apart among among' (Ne.symm different)
    unfold Run.Apart at either
    omega
  case maximal =>
    intro run among repeats least
    refine next_not_mem_of_mem_runs (repetitions_pairwise positive) among ((mem_repetitions positive).2 ?_)
    have := (member_of_mem_repeatedRuns positive among (madeOf_of_mem_runs among).positive).2.2
    exact ⟨repeats.comparable, least, by unfold Run.next; dsimp only; omega⟩
  case ordered => exact reports.imp And.left
  case overlap => exact reports.imp fun both => both.2.1
  case shared => exact reports.imp fun both => both.2.2

/-- Both copies are found, and each is reported in one go. -/
theorem repeatedRuns_interleaved : repeatedRuns (significant interleaved) 2 = [⟨⟨6, 0⟩, 1⟩, ⟨⟨7, 3⟩, 1⟩] := by
  unfold repeatedRuns
  rw [repetitions_windows (by decide), significant_interleaved]
  decide +kernel

/-- The first copy is reported up to the line with which the second begins. -/
theorem exists_once_interleaved :
    ∃ found, find { duplicateMinLines := 2 } interleaved =
        .ok (found.map (report interleaved.lines.toArray (significant interleaved).toArray (2 : Nat))) ∧
      Once (significant interleaved) 2 found fun run =>
        (report interleaved.lines.toArray (significant interleaved).toArray (2 : Nat) run).range :=
  exists_once interleaved rfl (by decide)

/-- Line 8 is the last line of the first and the first line of the second report. -/
theorem overlapping_interleaved :
    ∃ found, find { duplicateMinLines := 2 } interleaved = .ok found ∧
      ¬found.Pairwise fun m m' =>
        m.range.endLine < m'.range.startLine ∨ m'.range.endLine < m.range.startLine := by
  refine ⟨_, find_eq_repeatedRuns interleaved rfl (by decide : 1 ≤ 2), ?_⟩
  rw [repeatedRuns_interleaved, significant_interleaved]
  decide +kernel

end LiveLint.Duplicate
