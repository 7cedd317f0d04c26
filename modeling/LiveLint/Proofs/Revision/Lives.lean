import LiveLint.Proofs.Revision.Tracking

/-!
# Lives of a file

Forgetting a file ends a life of it, and recording it again begins another one, in which the numbers
of revisions start over. Revisions are compared by number only. A revision of an earlier life is
therefore taken for the current one as soon as the present life has reached its number, and in no
other case is a revision current that is not the latest one.
-/

namespace LiveLint

inductive TrackerStep where
  | record (file text : String) (ranges : Option (List HostRange)) (language : String)
  | markAnalyzed (r : Revision)
  | forget (file : String)

namespace Tracker

def apply (t : Tracker) : TrackerStep → Tracker
  | .record file text ranges language => (t.record file text ranges language).1
  | .markAnalyzed r => (t.markAnalyzed r).1
  | .forget file => t.forget file

def run (t : Tracker) (steps : List TrackerStep) : Tracker := steps.foldl apply t

/-- Revisions were recorded earlier than the tracker will record the next one. -/
def Dated (t : Tracker) : Prop :=
  ∀ file latest, t.latest.get? file = some latest → latest.serial < t.serial

/-- A revision was recorded before all that the present life of its file knows. -/
def Outlived (t : Tracker) (r : Revision) : Prop :=
  r.serial < t.serial ∧
    ∀ latest, t.latest.get? r.file = some latest → r.serial < latest.serial

theorem Keyed.apply {t : Tracker} (keyed : t.Keyed) (step : TrackerStep) : (t.apply step).Keyed := by
  cases step with
  | record file text ranges language => exact keyed.record file text ranges language
  | markAnalyzed r => exact keyed.markAnalyzed r
  | forget file => exact keyed.forget file

theorem Keyed.run {t : Tracker} (keyed : t.Keyed) (steps : List TrackerStep) :
    (t.run steps).Keyed := by
  induction steps generalizing t with
  | nil => exact keyed
  | cons step rest ih => exact ih (keyed.apply step)

theorem dated_empty : Dated {} := by
  intro file latest found
  cases found

theorem Dated.apply {t : Tracker} (dated : t.Dated) (step : TrackerStep) : (t.apply step).Dated := by
  intro other latest found
  cases step with
  | record file text ranges language =>
    dsimp only [Tracker.apply] at found ⊢
    by_cases same : other = file
    · subst other
      rw [latest_record_self] at found
      cases found
      rcases t.record_cases file text ranges language with ⟨old, held, _, unchanged⟩ | added
      · rw [unchanged]
        exact dated file old held
      · rw [added]
        exact Nat.lt_succ_self t.serial
    · rw [latest_record_of_ne t text ranges language same] at found
      have before := dated other latest found
      rcases t.record_cases file text ranges language with ⟨_, _, _, unchanged⟩ | added
      · rw [unchanged]
        exact before
      · rw [added]
        exact Nat.lt_succ_of_lt before
  | markAnalyzed r =>
    dsimp only [Tracker.apply] at found ⊢
    rw [latest_markAnalyzed] at found
    rw [serial_markAnalyzed]
    exact dated other latest found
  | forget file =>
    dsimp only [Tracker.apply] at found ⊢
    by_cases same : other = file
    · rw [same, latest_forget_self] at found
      cases found
    · rw [latest_forget_of_ne t same] at found
      exact dated other latest found

theorem Dated.run {t : Tracker} (dated : t.Dated) (steps : List TrackerStep) :
    (t.run steps).Dated := by
  induction steps generalizing t with
  | nil => exact dated
  | cons step rest ih => exact ih (dated.apply step)

theorem serial_le_apply (t : Tracker) (step : TrackerStep) : t.serial ≤ (t.apply step).serial := by
  cases step with
  | record file text ranges language =>
    dsimp only [Tracker.apply]
    rcases t.record_cases file text ranges language with ⟨_, _, _, unchanged⟩ | added
    · exact Nat.le_of_eq (by rw [unchanged])
    · rw [added]
      exact Nat.le_succ t.serial
  | markAnalyzed r => exact Nat.le_of_eq (serial_markAnalyzed t r).symm
  | forget file => exact Nat.le_refl t.serial

/-- A known revision stays known unless its file is forgotten. -/
theorem Knows.apply {t : Tracker} {r : Revision} (known : t.Knows r) {step : TrackerStep}
    (kept : TrackerStep.forget r.file ≠ step) : (t.apply step).Knows r := by
  cases step with
  | record file text ranges language => exact known.record file text ranges language
  | markAnalyzed marked => exact known.markAnalyzed marked
  | forget file =>
    refine known.forget ?_
    intro same
    exact kept (by rw [same])

theorem Knows.run {t : Tracker} {r : Revision} (known : t.Knows r) {steps : List TrackerStep}
    (kept : TrackerStep.forget r.file ∉ steps) : (t.run steps).Knows r := by
  induction steps generalizing t with
  | nil => exact known
  | cons step rest ih =>
    rw [List.mem_cons, not_or] at kept
    exact ih (known.apply kept.1) kept.2

/-- What was outlived stays so: a revision that is recorded later has a greater serial. -/
theorem Outlived.apply {t : Tracker} {r : Revision} (outlived : t.Outlived r) (step : TrackerStep) :
    (t.apply step).Outlived r := by
  obtain ⟨older, all⟩ := outlived
  refine ⟨Nat.lt_of_lt_of_le older (serial_le_apply t step), ?_⟩
  intro latest found
  cases step with
  | record file text ranges language =>
    dsimp only [Tracker.apply] at found
    by_cases same : r.file = file
    · rw [same, latest_record_self] at found
      cases found
      rcases t.record_cases file text ranges language with ⟨old, held, _, unchanged⟩ | added
      · rw [unchanged]
        exact all old (same ▸ held)
      · rw [added]
        exact older
    · rw [latest_record_of_ne t text ranges language same] at found
      exact all latest found
  | markAnalyzed marked =>
    dsimp only [Tracker.apply] at found
    rw [latest_markAnalyzed] at found
    exact all latest found
  | forget file =>
    dsimp only [Tracker.apply] at found
    by_cases same : r.file = file
    · rw [same, latest_forget_self] at found
      cases found
    · rw [latest_forget_of_ne t same] at found
      exact all latest found

theorem Outlived.run {t : Tracker} {r : Revision} (outlived : t.Outlived r)
    (steps : List TrackerStep) : (t.run steps).Outlived r := by
  induction steps generalizing t with
  | nil => exact outlived
  | cons step rest ih => exact ih (outlived.apply step)

/-- Once its file was forgotten, a revision is outlived for good. -/
theorem outlived_run {t : Tracker} {r : Revision} (older : r.serial < t.serial)
    {steps : List TrackerStep} (forgotten : TrackerStep.forget r.file ∈ steps) :
    (t.run steps).Outlived r := by
  induction steps generalizing t with
  | nil => cases forgotten
  | cons step rest ih =>
    by_cases now : TrackerStep.forget r.file = step
    · have outlived : (t.apply step).Outlived r := by
        rw [← now]
        refine ⟨older, ?_⟩
        intro latest found
        dsimp only [Tracker.apply] at found
        rw [latest_forget_self] at found
        cases found
      exact outlived.run rest
    · have later : TrackerStep.forget r.file ∈ rest := by
        rcases List.mem_cons.1 forgotten with same | later
        · exact absurd same now
        · exact later
      exact ih (Nat.lt_of_lt_of_le older (serial_le_apply t step)) later

/-- A revision of an earlier life is never the latest one; it is current exactly if the present life
has reached its number. -/
theorem Outlived.isCurrent_iff {t : Tracker} {r : Revision} (outlived : t.Outlived r) :
    t.isCurrent r = true ↔
      ∃ latest, t.latest.get? r.file = some latest ∧ latest ≠ r ∧ latest.number = r.number := by
  unfold isCurrent
  cases found : t.latest.get? r.file with
  | none => simp
  | some latest =>
    have younger := outlived.2 latest found
    have other : latest ≠ r := by
      intro same
      rw [same] at younger
      exact Nat.lt_irrefl _ younger
    simp [other]

/-- What recording returned belongs to the life that has just been prolonged. -/
theorem recorded_known (before : List TrackerStep) (file text : String)
    (ranges : Option (List HostRange)) (language : String) :
    let recorded := (run {} before).record file text ranges language
    recorded.2.file = file ∧ recorded.1.Knows recorded.2 ∧ recorded.2.serial < recorded.1.serial := by
  have keyed : (run {} before).Keyed := keyed_empty.run before
  have dated : (run {} before).Dated := dated_empty.run before
  have later : (apply (run {} before) (.record file text ranges language)).Dated := dated.apply _
  exact ⟨keyed.file_record file text ranges language, keyed.knows_record file text ranges language,
    later file _ (latest_record_self _ file text ranges language)⟩

/-- As long as its file is not forgotten, a revision is current exactly if it is the latest one. After
that it is current, with another text or another language than the latest revision, exactly if the
file was recorded again and its numbers have reached that of the revision: only the number is
compared, and the numbers of a new life start over. -/
theorem current_only_if_latest_iff (before after : List TrackerStep) (file text : String)
    (ranges : Option (List HostRange)) (language : String) :
    let recorded := (run {} before).record file text ranges language
    let r := recorded.2
    let now := recorded.1.run after
    (TrackerStep.forget file ∉ after →
      (now.isCurrent r = true ↔ now.latest.get? file = some r)) ∧
    ((now.isCurrent r = true →
        ∃ latest, now.latest.get? file = some latest ∧ latest.text = r.text ∧
          latest.language = r.language) ↔
      ¬ (TrackerStep.forget file ∈ after ∧
          ∃ latest, now.latest.get? file = some latest ∧ latest.number = r.number ∧
            (latest.text ≠ r.text ∨ latest.language ≠ r.language))) := by
  intro recorded r now
  obtain ⟨filed, known, older⟩ := recorded_known before file text ranges language
  have kept : TrackerStep.forget file ∉ after →
      (now.isCurrent r = true ↔ now.latest.get? file = some r) := by
    intro kept
    have still : now.Knows r := known.run (by rw [filed]; exact kept)
    rw [still.isCurrent_iff, filed]
  refine ⟨kept, ?_⟩
  by_cases forgotten : TrackerStep.forget file ∈ after
  · have outlived : now.Outlived r := outlived_run older (by rw [filed]; exact forgotten)
    have current := outlived.isCurrent_iff
    rw [filed] at current
    constructor
    · rintro law ⟨-, latest, found, number, differs⟩
      have other : latest ≠ r := by
        rintro rfl
        rcases differs with differs | differs <;> exact differs rfl
      obtain ⟨same, again, texts, languages⟩ := law (current.2 ⟨latest, found, other, number⟩)
      rw [found] at again
      cases again
      rcases differs with differs | differs
      · exact differs texts
      · exact differs languages
    · intro agrees isCurrent
      obtain ⟨latest, found, -, number⟩ := current.1 isCurrent
      refine ⟨latest, found, Decidable.byContradiction ?_, Decidable.byContradiction ?_⟩
      · intro differs
        exact agrees ⟨forgotten, latest, found, number, Or.inl differs⟩
      · intro differs
        exact agrees ⟨forgotten, latest, found, number, Or.inr differs⟩
  · constructor
    · rintro - ⟨again, -⟩
      exact forgotten again
    · rintro - isCurrent
      exact ⟨r, (kept forgotten).1 isCurrent, rfl, rfl⟩

/-- A file is closed and opened again with another text: its first revision is still current. -/
example :
    let r := (record {} "a" "x = 1").2
    let now := run (record {} "a" "x = 1").1 [.forget "a", .record "a" "y = 2" none ""]
    now.isCurrent r = true ∧ (now.latest.get? "a").map (·.text) = some "y = 2" := by
  decide +kernel

end Tracker

end LiveLint
