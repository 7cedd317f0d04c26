import LiveLint.Revision.Tracker

/-!
# What a tracker remembers

The effect of recording, marking and forgetting on the latest revision of each file. A revision is
known to a tracker if it belongs to the present life of its file: it is the latest revision, or the
latest one has a greater number. Within one life the numbers tell revisions apart, so that a known
revision is current exactly if it is the latest one.
-/

namespace LiveLint.Tracker

/-- A newer revision of the same file has been recorded. -/
def Overtaken (t : Tracker) (r : Revision) : Prop :=
  ∃ latest, t.latest.get? r.file = some latest ∧ r.number < latest.number

/-- Every latest revision is one of the file it is filed under. -/
def Keyed (t : Tracker) : Prop :=
  ∀ file latest, t.latest.get? file = some latest → latest.file = file

/-- A revision belongs to the present life of its file. -/
def Knows (t : Tracker) (r : Revision) : Prop :=
  ∃ latest, t.latest.get? r.file = some latest ∧ (latest = r ∨ r.number < latest.number)

/-- Recording either repeats the latest revision and changes nothing, or adds the next one. -/
theorem record_cases (t : Tracker) (file text : String) (ranges : Option (List HostRange))
    (language : String) :
    (∃ latest, t.latest.get? file = some latest ∧ repeats latest text ranges language = true ∧
        t.record file text ranges language = (t, latest)) ∨
      t.record file text ranges language =
        ({ t with
            latest := t.latest.set file (t.next file text ranges language)
            serial := t.serial + 1 },
          t.next file text ranges language) := by
  unfold record
  cases found : t.latest.get? file with
  | none => exact Or.inr rfl
  | some latest =>
    by_cases again : repeats latest text ranges language = true
    · exact Or.inl ⟨latest, rfl, again, if_pos again⟩
    · exact Or.inr (if_neg again)

/-- What was recorded has the text that was given. -/
theorem text_record (t : Tracker) (file text : String) (ranges : Option (List HostRange))
    (language : String) : (t.record file text ranges language).2.text = text := by
  rcases t.record_cases file text ranges language with ⟨latest, _, again, same⟩ | added
  · rw [same]
    simp only [repeats, Bool.and_eq_true, beq_iff_eq] at again
    exact again.1.2
  · rw [added]
    rfl

/-- What was recorded is the latest revision afterwards. -/
theorem latest_record_self (t : Tracker) (file text : String) (ranges : Option (List HostRange))
    (language : String) :
    (t.record file text ranges language).1.latest.get? file =
      some (t.record file text ranges language).2 := by
  rcases t.record_cases file text ranges language with ⟨latest, found, _, same⟩ | added
  · rw [same]
    exact found
  · rw [added]
    exact Table.get?_set_self _ _ _

theorem latest_record_of_ne (t : Tracker) {file other : String} (text : String)
    (ranges : Option (List HostRange)) (language : String) (ne : other ≠ file) :
    (t.record file text ranges language).1.latest.get? other = t.latest.get? other := by
  rcases t.record_cases file text ranges language with ⟨_, _, _, same⟩ | added
  · rw [same]
  · rw [added]
    exact Table.get?_set_of_ne _ _ ne

theorem analyzed_record (t : Tracker) (file text : String) (ranges : Option (List HostRange))
    (language : String) : (t.record file text ranges language).1.analyzed = t.analyzed := by
  rcases t.record_cases file text ranges language with ⟨_, _, _, same⟩ | added
  · rw [same]
  · rw [added]

theorem latest_markAnalyzed (t : Tracker) (r : Revision) :
    (t.markAnalyzed r).1.latest = t.latest := by
  unfold markAnalyzed
  split <;> rfl

theorem serial_markAnalyzed (t : Tracker) (r : Revision) :
    (t.markAnalyzed r).1.serial = t.serial := by
  unfold markAnalyzed
  split <;> rfl

theorem latest_forget_self (t : Tracker) (file : String) :
    (t.forget file).latest.get? file = none :=
  Table.get?_erase_self _ _

theorem latest_forget_of_ne (t : Tracker) {file other : String} (ne : other ≠ file) :
    (t.forget file).latest.get? other = t.latest.get? other :=
  Table.get?_erase_of_ne _ ne

theorem Keyed.file_record {t : Tracker} (keyed : t.Keyed) (file text : String)
    (ranges : Option (List HostRange)) (language : String) :
    (t.record file text ranges language).2.file = file := by
  rcases t.record_cases file text ranges language with ⟨latest, found, _, same⟩ | added
  · rw [same]
    exact keyed file latest found
  · rw [added]
    rfl

theorem Keyed.record {t : Tracker} (keyed : t.Keyed) (file text : String)
    (ranges : Option (List HostRange)) (language : String) :
    (t.record file text ranges language).1.Keyed := by
  intro other latest found
  by_cases same : other = file
  · subst other
    rw [latest_record_self] at found
    cases found
    exact keyed.file_record file text ranges language
  · rw [latest_record_of_ne t text ranges language same] at found
    exact keyed other latest found

theorem Keyed.markAnalyzed {t : Tracker} (keyed : t.Keyed) (r : Revision) :
    (t.markAnalyzed r).1.Keyed := by
  intro file latest found
  rw [latest_markAnalyzed] at found
  exact keyed file latest found

theorem Keyed.forget {t : Tracker} (keyed : t.Keyed) (file : String) : (t.forget file).Keyed := by
  intro other latest found
  by_cases same : other = file
  · subst other
    rw [latest_forget_self] at found
    cases found
  · rw [latest_forget_of_ne t same] at found
    exact keyed other latest found

theorem keyed_empty : Keyed {} := by
  intro file latest found
  cases found

/-- What was recorded is known. -/
theorem Keyed.knows_record {t : Tracker} (keyed : t.Keyed) (file text : String)
    (ranges : Option (List HostRange)) (language : String) :
    (t.record file text ranges language).1.Knows (t.record file text ranges language).2 := by
  refine ⟨_, ?_, Or.inl rfl⟩
  rw [keyed.file_record file text ranges language]
  exact latest_record_self t file text ranges language

/-- Recording a text keeps the latest revision of any file or replaces it by one with a greater
number. -/
theorem latest_record_grows {t : Tracker} {other : String} {latest : Revision}
    (found : t.latest.get? other = some latest) (file text : String)
    (ranges : Option (List HostRange)) (language : String) :
    ∃ newer, (t.record file text ranges language).1.latest.get? other = some newer ∧
      (newer = latest ∨ latest.number < newer.number) := by
  by_cases same : other = file
  · subst other
    rcases t.record_cases file text ranges language with ⟨_, _, _, unchanged⟩ | added
    · rw [unchanged]
      exact ⟨latest, found, Or.inl rfl⟩
    · refine ⟨t.next file text ranges language, ?_, Or.inr ?_⟩
      · rw [added]
        exact Table.get?_set_self _ _ _
      · have number : (t.next file text ranges language).number = latest.number + 1 := by
          simp only [next, found, Option.map_some, Option.getD_some]
        rw [number]
        exact Nat.lt_succ_self _
  · refine ⟨latest, ?_, Or.inl rfl⟩
    rw [latest_record_of_ne t text ranges language same]
    exact found

/-- A revision that is known stays known when a text is recorded. -/
theorem Knows.record {t : Tracker} {r : Revision} (known : t.Knows r) (file text : String)
    (ranges : Option (List HostRange)) (language : String) :
    (t.record file text ranges language).1.Knows r := by
  obtain ⟨latest, found, place⟩ := known
  obtain ⟨newer, found', grown⟩ := latest_record_grows found file text ranges language
  refine ⟨newer, found', ?_⟩
  rcases grown with rfl | greater
  · exact place
  · rcases place with rfl | less
    · exact Or.inr greater
    · exact Or.inr (Nat.lt_trans less greater)

/-- A revision that was overtaken stays so when a text is recorded. -/
theorem Overtaken.record {t : Tracker} {r : Revision} (overtaken : t.Overtaken r)
    (file text : String) (ranges : Option (List HostRange)) (language : String) :
    (t.record file text ranges language).1.Overtaken r := by
  obtain ⟨latest, found, less⟩ := overtaken
  obtain ⟨newer, found', grown⟩ := latest_record_grows found file text ranges language
  refine ⟨newer, found', ?_⟩
  rcases grown with rfl | greater
  · exact less
  · exact Nat.lt_trans less greater

theorem Overtaken.markAnalyzed {t : Tracker} {r : Revision} (overtaken : t.Overtaken r)
    (marked : Revision) : (t.markAnalyzed marked).1.Overtaken r := by
  obtain ⟨latest, found, less⟩ := overtaken
  exact ⟨latest, by rw [latest_markAnalyzed]; exact found, less⟩

theorem Knows.markAnalyzed {t : Tracker} {r : Revision} (known : t.Knows r) (marked : Revision) :
    (t.markAnalyzed marked).1.Knows r := by
  obtain ⟨latest, found, place⟩ := known
  exact ⟨latest, by rw [latest_markAnalyzed]; exact found, place⟩

theorem Knows.forget {t : Tracker} {r : Revision} (known : t.Knows r) {file : String}
    (ne : r.file ≠ file) : (t.forget file).Knows r := by
  obtain ⟨latest, found, place⟩ := known
  exact ⟨latest, by rw [latest_forget_of_ne t ne]; exact found, place⟩

/-- A known revision passes the check exactly if it is the latest one itself. -/
theorem Knows.isCurrent_iff {t : Tracker} {r : Revision} (known : t.Knows r) :
    t.isCurrent r = true ↔ t.latest.get? r.file = some r := by
  obtain ⟨latest, found, place⟩ := known
  unfold isCurrent
  rw [found, Option.any_some, beq_iff_eq, Option.some.injEq]
  constructor
  · intro number
    rcases place with same | less
    · exact same
    · omega
  · intro same
    rw [same]

/-- A known revision that fails the check was followed by one with a greater number. -/
theorem Knows.overtaken {t : Tracker} {r : Revision} (known : t.Knows r)
    (stale : t.isCurrent r = false) : t.Overtaken r := by
  obtain ⟨latest, found, place⟩ := known
  refine ⟨latest, found, ?_⟩
  rcases place with same | less
  · have current : t.isCurrent r = true := by
      unfold isCurrent
      rw [found, same, Option.any_some, beq_self_eq_true]
    rw [current] at stale
    cases stale
  · exact less

/-- A known revision that is current and is marked is the last analyzed one of its file, because no
revision that was analyzed before has a greater number. -/
theorem analyzed_markAnalyzed_self {t : Tracker} {r : Revision}
    (filed : ∀ a, t.analyzed.get? r.file = some a → a.file = r.file ∧ t.Knows a)
    (latest : t.latest.get? r.file = some r) :
    (t.markAnalyzed r).1.analyzed.get? r.file = some r := by
  unfold markAnalyzed
  cases before : t.analyzed.get? r.file with
  | none => exact Table.get?_set_self _ _ _
  | some a =>
    obtain ⟨file, newest, found, place⟩ := filed a before
    rw [file, latest] at found
    cases found
    split
    · next reached =>
      rw [Option.any_some, decide_eq_true_iff] at reached
      rcases place with same | less
      · rw [← same] at before
        exact before
      · exact absurd reached (Nat.not_le_of_lt less)
    · exact Table.get?_set_self _ _ _

theorem analyzed_markAnalyzed_of_ne (t : Tracker) {r : Revision} {other : String}
    (ne : other ≠ r.file) : (t.markAnalyzed r).1.analyzed.get? other = t.analyzed.get? other := by
  unfold markAnalyzed
  split
  · rfl
  · exact Table.get?_set_of_ne _ _ ne

end LiveLint.Tracker
