import LiveLint.Proofs.Revision.Gaps
import LiveLint.Proofs.Revision.Lives
import LiveLint.Proofs.Revision.Splices
import Mathlib.Data.List.Nodup
import Mathlib.Tactic.Tauto

/-!
# The revisions of a life

A ledger keeps, beside a tracker, the revisions that the tracker returned for each file since the file
was last forgotten. As long as only returned revisions are marked, these have the numbers from one on,
the last of them is the latest revision, and the last analyzed one is among them. So the number that a
new revision gives as its base is that of a returned one, and the edit that comes with it leads from
that revision's text to the new one.
-/

namespace LiveLint

namespace Tracker

/-- The changed lines of a new text, where every range is made of two numbers. -/
def requireLines (base latest : Option Revision) (text : String)
    (ranges : Option (List HostRange)) : Except Fault (List LineRange) :=
  let cs := text.toList
  match ranges, base, latest with
  | some ranges, some b, some l =>
    if b.serial == l.serial then HostRange.requireNormal ranges (cs.count '\n' + 1)
    else Diff.requiredRanges (some b.text.toList) cs
  | _, base, _ => Diff.requiredRanges (base.map (·.text.toList)) cs

/-- Adds the next revision of a file, where every changed range is made of two numbers. -/
def requireNext (t : Tracker) (file text : String) (ranges : Option (List HostRange))
    (language : String) : Except Fault (Tracker × Revision) := do
  let changed ← requireLines (t.base? file) (t.latest.get? file) text ranges
  let r := { t.next file text ranges language with changed }
  return ({ t with latest := t.latest.set file r, serial := t.serial + 1 }, r)

/-- Records a state of a file, where every changed range is made of two numbers. Two numbers that make
no range end the attempt. -/
def requireRecord (t : Tracker) (file text : String) (ranges : Option (List HostRange))
    (language : String) : Except Fault (Tracker × Revision) :=
  match t.latest.get? file with
  | some latest =>
    if repeats latest text ranges language then .ok (t, latest)
    else t.requireNext file text ranges language
  | none => t.requireNext file text ranges language

theorem requireLines_eq (base latest : Option Revision) (text : String)
    (ranges : Option (List HostRange)) :
    requireLines base latest text ranges = .ok (changedLines base latest text ranges) := by
  cases ranges with
  | none => exact Diff.requiredRanges_eq _ _
  | some ranges =>
    cases base with
    | none => exact Diff.requiredRanges_eq none _
    | some b =>
      cases latest with
      | none => exact Diff.requiredRanges_eq (some b.text.toList) _
      | some l =>
        dsimp only [requireLines, changedLines]
        split
        · exact HostRange.requireNormal_eq _ _
        · exact Diff.requiredRanges_eq _ _

/-- Recording a text never fails. -/
theorem requireRecord_eq (t : Tracker) (file text : String) (ranges : Option (List HostRange))
    (language : String) :
    t.requireRecord file text ranges language = .ok (t.record file text ranges language) := by
  have next : t.requireNext file text ranges language =
      .ok ({ t with
              latest := t.latest.set file (t.next file text ranges language)
              serial := t.serial + 1 },
            t.next file text ranges language) := by
    unfold requireNext
    rw [requireLines_eq]
    rfl
  unfold requireRecord record
  cases t.latest.get? file with
  | none => exact next
  | some latest =>
    dsimp only
    split
    · rfl
    · exact next

/-- The last analyzed revision is replaced only by one with a greater number, unless the file is
forgotten. -/
theorem analyzed_apply_grows {t : Tracker} {file : String} {a : Revision}
    (found : t.analyzed.get? file = some a) {step : TrackerStep}
    (kept : TrackerStep.forget file ≠ step) :
    ∃ newer, (t.apply step).analyzed.get? file = some newer ∧ a.number ≤ newer.number := by
  cases step with
  | record other text ranges language =>
    refine ⟨a, ?_, Nat.le_refl _⟩
    dsimp only [Tracker.apply]
    rw [analyzed_record]
    exact found
  | markAnalyzed r =>
    dsimp only [Tracker.apply]
    by_cases own : file = r.file
    · unfold markAnalyzed
      split
      · exact ⟨a, found, Nat.le_refl _⟩
      · next ahead =>
        rw [← own, found] at ahead
        have less : a.number < r.number := by simpa using ahead
        refine ⟨r, ?_, Nat.le_of_lt less⟩
        rw [own]
        exact Table.get?_set_self _ _ _
    · refine ⟨a, ?_, Nat.le_refl _⟩
      rw [analyzed_markAnalyzed_of_ne t own]
      exact found
  | forget other =>
    have ne : file ≠ other := fun same => kept (by rw [same])
    refine ⟨a, ?_, Nat.le_refl _⟩
    exact (Table.get?_erase_of_ne _ ne).trans found

theorem analyzed_run_grows {t : Tracker} {file : String} {a : Revision}
    (found : t.analyzed.get? file = some a) {steps : List TrackerStep}
    (kept : TrackerStep.forget file ∉ steps) :
    ∃ newer, (t.run steps).analyzed.get? file = some newer ∧ a.number ≤ newer.number := by
  induction steps generalizing t a with
  | nil => exact ⟨a, found, Nat.le_refl _⟩
  | cons step rest ih =>
    rw [List.mem_cons, not_or] at kept
    obtain ⟨next, found', le⟩ := analyzed_apply_grows found kept.1
    obtain ⟨newer, found'', le'⟩ := ih found' kept.2
    exact ⟨newer, found'', Nat.le_trans le le'⟩

end Tracker

/-- A tracker, and for each file the different revisions that it returned since the file was last
forgotten, in the order of their first return. -/
structure Ledger where
  tracker : Tracker := {}
  returned : String → List Revision := fun _ => []

namespace Ledger

def apply (l : Ledger) (step : TrackerStep) : Ledger where
  tracker := l.tracker.apply step
  returned other :=
    match step with
    | .record file text ranges language =>
      let r := (l.tracker.record file text ranges language).2
      if other = file ∧ r ∉ l.returned file then l.returned file ++ [r] else l.returned other
    | .markAnalyzed _ => l.returned other
    | .forget file => if other = file then [] else l.returned other

def run (l : Ledger) (steps : List TrackerStep) : Ledger := steps.foldl apply l

/-- A step marks only a revision that was returned since its file was last forgotten. -/
def Allows (l : Ledger) : TrackerStep → Prop
  | .markAnalyzed r => r ∈ l.returned r.file
  | _ => True

/-- Each step marks only a revision that was returned since its file was last forgotten. -/
def AllowsAll (l : Ledger) : List TrackerStep → Prop
  | [] => True
  | step :: rest => l.Allows step ∧ (l.apply step).AllowsAll rest

instance (l : Ledger) (step : TrackerStep) : Decidable (l.Allows step) :=
  match step with
  | .markAnalyzed r => inferInstanceAs (Decidable (r ∈ l.returned r.file))
  | .record .. => inferInstanceAs (Decidable True)
  | .forget _ => inferInstanceAs (Decidable True)

instance decidableAllowsAll (l : Ledger) (steps : List TrackerStep) : Decidable (l.AllowsAll steps) :=
  match steps with
  | [] => inferInstanceAs (Decidable True)
  | step :: rest =>
    have := decidableAllowsAll (l.apply step) rest
    inferInstanceAs (Decidable (l.Allows step ∧ (l.apply step).AllowsAll rest))

/-- The present life of a file: its revisions have the numbers from one on without gap or repetition,
the last of them is the latest one, and the last analyzed one is one of them, so that its number does
not exceed the latest. -/
structure Life (l : Ledger) (file : String) : Prop where
  filed : ∀ r ∈ l.returned file, r.file = file
  numbers : (l.returned file).map (·.number) = List.range' 1 (l.returned file).length
  latest : l.tracker.latest.get? file = (l.returned file).getLast?
  analyzed : ∀ a, l.tracker.analyzed.get? file = some a →
    a ∈ l.returned file ∧
      ∃ newest, l.tracker.latest.get? file = some newest ∧ a.number ≤ newest.number

/-- A revision is new to a ledger: it has the next number, its base is the last analyzed revision, or
the latest one before any analysis, or none, and its edit leads from the text of its base to the new
one, if there is a base and the texts differ. -/
structure Adds (l : Ledger) (file text : String) (r : Revision) : Prop where
  number : r.number = (l.returned file).length + 1
  base_analyzed : ∀ a, l.tracker.analyzed.get? file = some a → r.base = a.number
  base_latest : l.tracker.analyzed.get? file = none →
    ∀ newest, l.tracker.latest.get? file = some newest → r.base = newest.number
  base_none : l.tracker.analyzed.get? file = none → l.tracker.latest.get? file = none → r.base = 0
  base_returned : r.base ≠ 0 → ∃ b ∈ l.returned file, b.number = r.base
  edit_none : r.base = 0 → r.edit = none
  edit_same : ∀ b ∈ l.returned file, b.number = r.base → b.text = text → r.edit = none
  edit_turns : ∀ b ∈ l.returned file, b.number = r.base → b.text ≠ text →
    ∃ e, r.edit = some e ∧ e.Turns (Text.Utf8.encode b.text.toList) (Text.Utf8.encode text.toList)

/-- Recording a text again: it is the latest one, there are no ranges, and the language is left out or
the same. -/
def Again (l : Ledger) (file text : String) (ranges : Option (List HostRange)) (language : String)
    (newest : Revision) : Prop :=
  l.tracker.latest.get? file = some newest ∧ newest.text = text ∧ ranges = none ∧
    (language = "" ∨ language = newest.language)

/-- Recording a text never fails. Recording the latest one again returns the latest revision and changes
nothing, everything else adds a revision. -/
structure Records (l : Ledger) (file text : String) (ranges : Option (List HostRange))
    (language : String) : Prop where
  never_fails : l.tracker.requireRecord file text ranges language =
    .ok (l.tracker.record file text ranges language)
  repeated : ∀ newest, l.Again file text ranges language newest →
    l.tracker.record file text ranges language = (l.tracker, newest)
  added : (¬ ∃ newest, l.Again file text ranges language newest) →
    l.Adds file text (l.tracker.record file text ranges language).2

variable {l : Ledger} {file : String}

theorem tracker_run (l : Ledger) (steps : List TrackerStep) :
    (l.run steps).tracker = l.tracker.run steps := by
  induction steps generalizing l with
  | nil => rfl
  | cons step rest ih => exact ih (l.apply step)

theorem life_empty (file : String) : Life {} file := by
  constructor
  case filed => exact nofun
  case numbers => rfl
  case latest => rfl
  case analyzed => exact nofun

namespace Life

/-- The numbers of the returned revisions lie between one and their count. -/
theorem bounds (life : l.Life file) {r : Revision} (member : r ∈ l.returned file) :
    1 ≤ r.number ∧ r.number ≤ (l.returned file).length := by
  have number : r.number ∈ (l.returned file).map (·.number) := List.mem_map_of_mem member
  rw [life.numbers, List.mem_range'_1] at number
  omega

/-- Returned revisions with one number are one revision. -/
theorem eq_of_number (life : l.Life file) {r s : Revision} (member : r ∈ l.returned file)
    (member' : s ∈ l.returned file) (number : r.number = s.number) : r = s := by
  have distinct : ((l.returned file).map (·.number)).Nodup := by
    rw [life.numbers]
    exact List.nodup_range'
  exact List.inj_on_of_nodup_map distinct member member' number

/-- The number of the latest revision is the count of the returned ones. -/
theorem latest_number (life : l.Life file) {newest : Revision}
    (found : l.tracker.latest.get? file = some newest) :
    newest ∈ l.returned file ∧ newest.number = (l.returned file).length := by
  rw [life.latest] at found
  refine ⟨List.mem_of_getLast? found, ?_⟩
  have last : ((l.returned file).map (·.number)).getLast? = some newest.number := by
    rw [List.getLast?_map, found]
    rfl
  rw [life.numbers, List.getLast?_range'] at last
  split at last
  · cases last
  · have count := Option.some.inj last
    omega

/-- The base of the next revision is one of the returned ones. -/
theorem base_mem (life : l.Life file) {b : Revision} (found : l.tracker.base? file = some b) :
    b ∈ l.returned file := by
  unfold Tracker.base? at found
  cases marked : l.tracker.analyzed.get? file with
  | none =>
    rw [marked, Option.none_or] at found
    exact (life.latest_number found).1
  | some a =>
    rw [marked, Option.some_or] at found
    cases found
    exact (life.analyzed b marked).1

/-- The next revision has the number after the last one. -/
theorem next_number (life : l.Life file) (text : String) (ranges : Option (List HostRange))
    (language : String) :
    (l.tracker.next file text ranges language).number = (l.returned file).length + 1 := by
  unfold Tracker.next
  cases found : l.tracker.latest.get? file with
  | none =>
    rw [life.latest, List.getLast?_eq_none_iff] at found
    rw [found]
    rfl
  | some newest =>
    rw [← (life.latest_number found).2]
    rfl

/-- A life is told by what is known of its file. -/
theorem congr {l' : Ledger} (life : l.Life file)
    (returned : l'.returned file = l.returned file)
    (latest : l'.tracker.latest.get? file = l.tracker.latest.get? file)
    (analyzed : l'.tracker.analyzed.get? file = l.tracker.analyzed.get? file) : l'.Life file := by
  constructor
  case filed =>
    rw [returned]
    exact life.filed
  case numbers =>
    rw [returned]
    exact life.numbers
  case latest =>
    rw [returned, latest]
    exact life.latest
  case analyzed =>
    rw [returned, latest, analyzed]
    exact life.analyzed

/-- Recording a text prolongs the life of its file, or leaves it as it is. -/
theorem record (life : l.Life file) (text : String) (ranges : Option (List HostRange))
    (language : String) : (l.apply (.record file text ranges language)).Life file := by
  rcases l.tracker.record_cases file text ranges language with ⟨newest, found, _, same⟩ | added
  · have member := (life.latest_number found).1
    refine life.congr ?_ ?_ ?_
    · simp [apply, same, member]
    · simp [apply, Tracker.apply, same]
    · simp [apply, Tracker.apply, same]
  · generalize fresh : l.tracker.next file text ranges language = r at added
    have filed : r.file = file := by
      rw [← fresh]
      rfl
    have number : r.number = (l.returned file).length + 1 := by
      rw [← fresh]
      exact life.next_number text ranges language
    have new : r ∉ l.returned file := by
      intro member
      have := life.bounds member
      omega
    have returned : (l.apply (.record file text ranges language)).returned file =
        l.returned file ++ [r] := by
      simp [apply, added, new]
    have latest : (l.apply (.record file text ranges language)).tracker.latest.get? file =
        some r := by
      simp only [apply, Tracker.apply, added]
      exact Table.get?_set_self _ _ _
    constructor
    case filed =>
      rw [returned]
      intro s member
      rcases List.mem_append.1 member with old | own
      · exact life.filed s old
      · rw [List.mem_singleton.1 own]
        exact filed
    case numbers =>
      rw [returned, List.map_append, life.numbers, List.length_append, List.length_singleton,
        List.range'_1_concat, List.map_singleton, number, Nat.add_comm 1]
    case latest => rw [returned, latest, List.getLast?_concat]
    case analyzed =>
      intro a found
      have before : l.tracker.analyzed.get? file = some a := by
        simpa only [apply, Tracker.apply, Tracker.analyzed_record] using found
      have member := (life.analyzed a before).1
      rw [returned]
      refine ⟨List.mem_append_left _ member, r, latest, ?_⟩
      have := life.bounds member
      omega

/-- Marking a returned revision keeps the life of its file. -/
theorem markAnalyzed {r : Revision} (life : l.Life r.file) (allowed : r ∈ l.returned r.file) :
    (l.apply (.markAnalyzed r)).Life r.file := by
  have latest : (l.apply (.markAnalyzed r)).tracker.latest = l.tracker.latest :=
    Tracker.latest_markAnalyzed l.tracker r
  constructor
  case filed => exact life.filed
  case numbers => exact life.numbers
  case latest =>
    rw [latest]
    exact life.latest
  case analyzed =>
    intro a found
    rw [latest]
    dsimp only [apply, Tracker.apply, Tracker.markAnalyzed] at found
    split at found
    · exact life.analyzed a found
    · rw [Table.get?_set_self] at found
      cases found
      have bounds := life.bounds allowed
      cases newest : l.tracker.latest.get? r.file with
      | none =>
        rw [life.latest, List.getLast?_eq_none_iff] at newest
        rw [newest] at allowed
        cases allowed
      | some last =>
        refine ⟨allowed, last, rfl, ?_⟩
        rw [(life.latest_number newest).2]
        exact bounds.2

/-- Every step that is allowed keeps the life of a file in order. -/
theorem apply (life : l.Life file) {step : TrackerStep} (allowed : l.Allows step) :
    (l.apply step).Life file := by
  cases step with
  | record other text ranges language =>
    by_cases own : file = other
    · subst other
      exact life.record text ranges language
    · refine life.congr ?_ ?_ ?_
      · simp [Ledger.apply, own]
      · exact Tracker.latest_record_of_ne l.tracker text ranges language own
      · simp [Ledger.apply, Tracker.apply, Tracker.analyzed_record]
  | markAnalyzed r =>
    by_cases own : file = r.file
    · subst file
      exact life.markAnalyzed allowed
    · refine life.congr rfl ?_ ?_
      · simp [Ledger.apply, Tracker.apply, Tracker.latest_markAnalyzed]
      · exact Tracker.analyzed_markAnalyzed_of_ne l.tracker own
  | forget other =>
    by_cases own : file = other
    · subst other
      have returned : (l.apply (.forget file)).returned file = [] := by simp [Ledger.apply]
      constructor
      case filed => simp [returned]
      case numbers => simp [returned]
      case latest =>
        rw [returned]
        exact Tracker.latest_forget_self l.tracker file
      case analyzed =>
        intro a found
        have none : (l.apply (.forget file)).tracker.analyzed.get? file = none :=
          Table.get?_erase_self _ _
        rw [none] at found
        cases found
    · refine life.congr ?_ ?_ ?_
      · simp [Ledger.apply, own]
      · exact Tracker.latest_forget_of_ne l.tracker own
      · exact Table.get?_erase_of_ne _ own

theorem run (life : l.Life file) {steps : List TrackerStep} (allowed : l.AllowsAll steps) :
    (l.run steps).Life file := by
  induction steps generalizing l with
  | nil => exact life
  | cons step rest ih => exact ih (life.apply allowed.1) allowed.2

/-- The next revision of a file whose life is in order is new, with the right base and edit. -/
theorem adds_next (life : l.Life file) (text : String) (ranges : Option (List HostRange))
    (language : String) : l.Adds file text (l.tracker.next file text ranges language) := by
  have number := life.next_number text ranges language
  generalize fresh : l.tracker.next file text ranges language = r at number
  have base : r.base = ((l.tracker.base? file).map (·.number)).getD 0 := by
    rw [← fresh]
    rfl
  have edit : r.edit = (l.tracker.base? file).bind fun b =>
      ByteEdit.betweenTexts? b.text.toList text.toList := by
    rw [← fresh]
    rfl
  -- The number of the base tells which of the returned revisions it is.
  have from_base {b : Revision} (member : b ∈ l.returned file) (number : b.number = r.base) :
      l.tracker.base? file = some b := by
    cases found : l.tracker.base? file with
    | none =>
      rw [base, found, Option.map_none, Option.getD_none] at number
      have bounds := life.bounds member
      omega
    | some b' =>
      rw [base, found, Option.map_some, Option.getD_some] at number
      rw [life.eq_of_number member (life.base_mem found) number]
  constructor
  case number => exact number
  case base_analyzed =>
    intro a marked
    rw [base, Tracker.base?, marked]
    rfl
  case base_latest =>
    intro unmarked newest found
    rw [base, Tracker.base?, unmarked, found]
    rfl
  case base_none =>
    intro unmarked unknown
    rw [base, Tracker.base?, unmarked, unknown]
    rfl
  case base_returned =>
    intro some_base
    cases found : l.tracker.base? file with
    | none =>
      rw [base, found] at some_base
      exact absurd rfl some_base
    | some b =>
      refine ⟨b, life.base_mem found, ?_⟩
      rw [base, found]
      rfl
  case edit_none =>
    intro zero
    cases found : l.tracker.base? file with
    | none => rw [edit, found, Option.bind_none]
    | some b =>
      have bounds := life.bounds (life.base_mem found)
      rw [base, found, Option.map_some, Option.getD_some] at zero
      omega
  case edit_same =>
    intro b member number same
    rw [edit, from_base member number, Option.bind_some, ByteEdit.betweenTexts?_eq_none_iff, same]
  case edit_turns =>
    intro b member number differs
    rw [edit, from_base member number, Option.bind_some]
    cases found : ByteEdit.betweenTexts? b.text.toList text.toList with
    | none =>
      rw [ByteEdit.betweenTexts?_eq_none_iff, String.toList_inj] at found
      exact absurd found differs
    | some e => exact ⟨e, rfl, ByteEdit.turns_of_betweenTexts? found⟩

/-- What recording a text does to a file whose life is in order. -/
theorem records (life : l.Life file) (text : String) (ranges : Option (List HostRange))
    (language : String) : l.Records file text ranges language := by
  have again_iff (newest : Revision) : l.Again file text ranges language newest ↔
      l.tracker.latest.get? file = some newest ∧
        Tracker.repeats newest text ranges language = true := by
    simp only [Again, Tracker.repeats, Bool.and_eq_true, Bool.or_eq_true, beq_iff_eq,
      Option.isNone_iff_eq_none, String.isEmpty_iff, eq_comm (a := language)]
    tauto
  constructor
  case never_fails => exact Tracker.requireRecord_eq l.tracker file text ranges language
  case repeated =>
    intro newest again
    obtain ⟨found, repeats⟩ := (again_iff newest).1 again
    simp [Tracker.record, found, repeats]
  case added =>
    intro changes
    rcases l.tracker.record_cases file text ranges language with ⟨newest, found, repeats, _⟩ | added
    · exact absurd ⟨newest, (again_iff newest).2 ⟨found, repeats⟩⟩ changes
    · rw [added]
      exact life.adds_next text ranges language

end Life

/-- Whatever was recorded, marked and forgotten, as long as only returned revisions were marked: the
life of every file is in order, its last analyzed revision only ever moves on while the file is not
forgotten, and recording a text does what it should. -/
theorem lives_in_order (steps : List TrackerStep) (allowed : ({} : Ledger).AllowsAll steps)
    (file : String) :
    let l := ({} : Ledger).run steps
    l.Life file ∧
    (∀ more, TrackerStep.forget file ∉ more → ∀ a, l.tracker.analyzed.get? file = some a →
      ∃ newer, (l.run more).tracker.analyzed.get? file = some newer ∧ a.number ≤ newer.number) ∧
    ∀ text ranges language, l.Records file text ranges language := by
  intro l
  have life : l.Life file := (life_empty file).run allowed
  refine ⟨life, ?_, life.records⟩
  intro more kept a found
  rw [tracker_run]
  exact Tracker.analyzed_run_grows found kept

/-- A file is recorded twice, the second revision is marked and then, too late, the first one. -/
def lateMark : List TrackerStep :=
  let first := (Tracker.record {} "a" "x = 1").2
  let second := ((Tracker.record {} "a" "x = 1").1.record "a" "x = 2").2
  [.record "a" "x = 1" none "", .record "a" "x = 2" none "", .markAnalyzed second,
    .markAnalyzed first]

/-- The late mark changes nothing: the next revision is compared with the second one. -/
theorem lives_in_order_late_mark :
    let l := ({} : Ledger).run lateMark
    ({} : Ledger).AllowsAll lateMark ∧ l.Life "a" ∧
      (l.tracker.analyzed.get? "a").map (·.number) = some 2 ∧
      l.Records "a" "x = 3" none "" ∧ (l.tracker.record "a" "x = 3").2.base = 2 := by
  have allowed : ({} : Ledger).AllowsAll lateMark := by decide +kernel
  obtain ⟨life, -, records⟩ := lives_in_order lateMark allowed "a"
  exact ⟨allowed, life, by decide +kernel, records "x = 3" none "", by decide +kernel⟩

end Ledger

end LiveLint
