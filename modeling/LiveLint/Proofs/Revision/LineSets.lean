import LiveLint.Proofs.Revision.Partners

/-!
# Sets of lines

A list of ranges stands for the lines that it covers. Among all lists that cover the same lines there is one
whose ranges are in order and keep a distance, and merging finds it: it loses no line, adds none and closes no
gap. So what is merged depends on nothing but the lines. The ranges of a host are merged in this way once they
are cut to the lines of a text.
-/

namespace LiveLint

namespace LineRange

/-- A line lies in one of some ranges. -/
def Covered (rs : List LineRange) (line : Nat) : Prop := ∃ r ∈ rs, r.Covers line

/-- Ranges in increasing order, with a line between neighbours that none of them covers. -/
def Spaced (rs : List LineRange) : Prop := rs.Pairwise fun r s => r.stop + 1 < s.start

/-- The canonical form of a set of lines. -/
structure CanonicalOf (lines : Nat → Prop) (rs : List LineRange) : Prop where
  spaced : Spaced rs
  covered : ∀ line, Covered rs line ↔ lines line

section Covered

variable {r : LineRange} {rs : List LineRange} {line : Nat}

theorem covered_nil : ¬Covered [] line := by
  rintro ⟨_, member, -⟩
  cases member

theorem covered_cons : Covered (r :: rs) line ↔ r.Covers line ∨ Covered rs line := by
  simp only [Covered, List.mem_cons, exists_eq_or_imp]

theorem covers_start (r : LineRange) : r.Covers r.start := ⟨Nat.le_refl _, r.start_le_stop⟩

/-- Whatever ranges with a distance cover behind the first one begins behind the line after it. -/
theorem Spaced.lt_of_covered (spaced : Spaced (r :: rs)) (covered : Covered rs line) : r.stop + 1 < line := by
  obtain ⟨s, member, from_start, -⟩ := covered
  exact Nat.lt_of_lt_of_le ((List.pairwise_cons.1 spaced).1 s member) from_start

/-- The line behind the first of some ranges with a distance is not covered. -/
theorem Spaced.not_covered (spaced : Spaced (r :: rs)) : ¬Covered (r :: rs) (r.stop + 1) := by
  intro covered
  rcases covered_cons.1 covered with here | behind
  · exact absurd here.2 (Nat.not_succ_le_self _)
  · exact absurd (spaced.lt_of_covered behind) (Nat.lt_irrefl _)

/-- Of some ranges with a distance, the first one begins with the first line that is covered. -/
theorem Spaced.start_le (spaced : Spaced (r :: rs)) (covered : Covered (r :: rs) line) : r.start ≤ line := by
  rcases covered_cons.1 covered with here | behind
  · exact here.1
  · have := spaced.lt_of_covered behind
    have := r.start_le_stop
    omega

/-- All lines of the first range are covered, and no later line is unless the range is as long as it can be. -/
theorem Spaced.stop_le {s : LineRange} {ss : List LineRange} (spaced : Spaced (r :: rs))
    (same : ∀ line, Covered (r :: rs) line ↔ Covered (s :: ss) line) (start : s.start = r.start) :
    s.stop ≤ r.stop := by
  refine Nat.le_of_not_lt fun longer => ?_
  have next : s.Covers (r.stop + 1) := by
    have := r.start_le_stop
    exact ⟨by omega, longer⟩
  exact spaced.not_covered ((same _).2 (covered_cons.2 (Or.inl next)))

/-- Ranges with a distance are determined by the lines that they cover. -/
theorem Spaced.eq_of_covered {rs ss : List LineRange} (spaced : Spaced rs) (spaced' : Spaced ss)
    (same : ∀ line, Covered rs line ↔ Covered ss line) : rs = ss := by
  induction rs generalizing ss with
  | nil =>
    cases ss with
    | nil => rfl
    | cons s ss => exact absurd ((same s.start).2 (covered_cons.2 (Or.inl s.covers_start))) covered_nil
  | cons r rs ih =>
    cases ss with
    | nil => exact absurd ((same r.start).1 (covered_cons.2 (Or.inl r.covers_start))) covered_nil
    | cons s ss =>
      have start : r.start = s.start := Nat.le_antisymm
        (spaced.start_le ((same _).2 (covered_cons.2 (Or.inl s.covers_start))))
        (spaced'.start_le ((same _).1 (covered_cons.2 (Or.inl r.covers_start))))
      have stop : r.stop = s.stop := Nat.le_antisymm
        (spaced'.stop_le (fun line => (same line).symm) start) (spaced.stop_le same start.symm)
      have first : r = s := by
        cases r
        cases s
        cases start
        cases stop
        rfl
      subst first
      -- The lines of the rest are those behind the first range.
      have behind (line : Nat) : Covered rs line ↔ Covered ss line := by
        constructor
        · intro covered
          have less := spaced.lt_of_covered covered
          rcases covered_cons.1 ((same line).1 (covered_cons.2 (Or.inr covered))) with here | there
          · exact absurd here.2 (by omega)
          · exact there
        · intro covered
          have less := spaced'.lt_of_covered covered
          rcases covered_cons.1 ((same line).2 (covered_cons.2 (Or.inr covered))) with here | there
          · exact absurd here.2 (by omega)
          · exact there
      rw [ih (List.pairwise_cons.1 spaced).2 (List.pairwise_cons.1 spaced').2 behind]

/-- A set of lines has one canonical form. -/
theorem CanonicalOf.unique {lines : Nat → Prop} {ss : List LineRange} (form : CanonicalOf lines rs)
    (form' : CanonicalOf lines ss) : rs = ss :=
  form.spaced.eq_of_covered form'.spaced fun line => (form.covered line).trans (form'.covered line).symm

end Covered

/-! ## What merging does -/

/-- Two ranges that overlap or touch have together the lines of the joined one. -/
theorem covers_of_covers_join {r s : LineRange} {line : Nat} (touch : s.start ≤ r.stop + 1)
    (covers : (r.join s).Covers line) : r.Covers line ∨ s.Covers line := by
  obtain ⟨start, stop⟩ := covers
  dsimp only [join] at start stop
  rcases Nat.lt_or_ge r.stop line with later | early
  · exact Or.inr ⟨by omega, by omega⟩
  · exact Or.inl ⟨start, early⟩

/-- Joining neighbours covers no further line. -/
theorem covered_of_covered_mergeOrdered {rs : List LineRange} {line : Nat}
    (covered : Covered (mergeOrdered rs) line) : Covered rs line := by
  fun_induction mergeOrdered rs with
  | case1 => exact covered
  | case2 => exact covered
  | case3 first second rest touch ih =>
    rcases covered_cons.1 (ih covered) with joined | later
    · rcases covers_of_covers_join touch joined with here | next
      · exact covered_cons.2 (Or.inl here)
      · exact covered_cons.2 (Or.inr (covered_cons.2 (Or.inl next)))
    · exact covered_cons.2 (Or.inr (covered_cons.2 (Or.inr later)))
  | case4 first second rest apart ih =>
    rcases covered_cons.1 covered with here | behind
    · exact covered_cons.2 (Or.inl here)
    · exact covered_cons.2 (Or.inr (ih behind))

/-- Joining neighbours makes no range begin before the first one. -/
theorem le_start_of_mem_mergeOrdered {rs : List LineRange} {low : Nat} (above : ∀ r ∈ rs, low ≤ r.start) :
    ∀ m ∈ mergeOrdered rs, low ≤ m.start := by
  fun_induction mergeOrdered rs with
  | case1 => exact above
  | case2 => exact above
  | case3 first second rest touch ih =>
    simp only [List.mem_cons, forall_eq_or_imp] at above
    exact ih (List.forall_mem_cons.2 ⟨above.1, above.2.2⟩)
  | case4 first second rest apart ih =>
    obtain ⟨here, behind⟩ := List.forall_mem_cons.1 above
    exact List.forall_mem_cons.2 ⟨here, ih behind⟩

/-- Once neighbours that overlap or touch are joined, all ranges keep a distance. -/
theorem spaced_mergeOrdered {rs : List LineRange} (ordered : rs.Pairwise (·.start ≤ ·.start)) :
    Spaced (mergeOrdered rs) := by
  fun_induction mergeOrdered rs with
  | case1 => exact .nil
  | case2 only => exact List.pairwise_singleton _ only
  | case3 first second rest touch ih =>
    simp only [List.pairwise_cons, List.mem_cons, forall_eq_or_imp] at ordered
    exact ih (List.pairwise_cons.2 ⟨ordered.1.2, ordered.2.2⟩)
  | case4 first second rest apart ih =>
    obtain ⟨-, behind⟩ := List.pairwise_cons.1 ordered
    refine List.pairwise_cons.2 ⟨?_, ih behind⟩
    have above : ∀ r ∈ second :: rest, second.start ≤ r.start :=
      List.forall_mem_cons.2 ⟨Nat.le_refl _, (List.pairwise_cons.1 behind).1⟩
    intro m member
    have := le_start_of_mem_mergeOrdered above m member
    omega

theorem canonicalOf_merge (rs : List LineRange) : CanonicalOf (Covered rs) (merge rs) := by
  refine ⟨spaced_mergeOrdered (pairwise_mergeSort_le rs), fun line => ⟨fun covered => ?_, ?_⟩⟩
  · obtain ⟨r, member, covers⟩ := covered_of_covered_mergeOrdered covered
    exact ⟨r, List.mem_mergeSort.1 member, covers⟩
  · rintro ⟨r, member, covers⟩
    exact covers_merge member covers

/-- Two lists of ranges are merged into the same exactly if they cover the same lines. -/
theorem merge_eq_merge_iff {rs ss : List LineRange} :
    merge rs = merge ss ↔ ∀ line, Covered rs line ↔ Covered ss line := by
  constructor
  · intro same line
    rw [← (canonicalOf_merge rs).covered, same, (canonicalOf_merge ss).covered]
  · intro same
    refine (canonicalOf_merge rs).unique ⟨(canonicalOf_merge ss).spaced, fun line => ?_⟩
    exact ((canonicalOf_merge ss).covered line).trans (same line).symm

end LineRange

namespace HostRange

/-- A number moved into the bounds from a low one to a high one. -/
def within (low high n : Int) : Int := max low (min n high)

/-- The lines of a host's range once its first line is moved among the lines of a text and its last line among
those from the first on. A text without lines counts as one line. -/
def Selects (lineCount : Int) (r : HostRange) (line : Nat) : Prop :=
  within 1 (max lineCount 1) r.bounds.1 ≤ line ∧
    line ≤ within (within 1 (max lineCount 1) r.bounds.1) (max lineCount 1) r.bounds.2

theorem covers_clamp_iff (lineCount : Int) (r : HostRange) (line : Nat) :
    (r.clamp lineCount.toNat).Covers line ↔ r.Selects lineCount line := by
  have upper : ((max lineCount.toNat 1 : Nat) : Int) = max lineCount 1 := by omega
  have start : ((r.clamp lineCount.toNat).start : Int) = within 1 (max lineCount 1) r.bounds.1 := by
    refine (cast_min_max_toNat _ _ _).trans ?_
    rw [upper, within]
    omega
  have stop : ((r.clamp lineCount.toNat).stop : Int) =
      within (within 1 (max lineCount 1) r.bounds.1) (max lineCount 1) r.bounds.2 := by
    refine (cast_min_max_toNat _ _ _).trans ?_
    have le : within 1 (max lineCount 1) r.bounds.1 ≤ max lineCount 1 := by
      unfold within
      omega
    change min (max r.bounds.2 ((r.clamp lineCount.toNat).start : Int)) _ = _
    rw [upper, start]
    generalize within 1 (max lineCount 1) r.bounds.1 = first at le ⊢
    unfold within
    omega
  unfold LineRange.Covers Selects
  rw [← stop, ← start, Int.ofNat_le, Int.ofNat_le]

/-- Normalized ranges are the canonical form of the lines that a host selects. -/
theorem canonicalOf_normalize (ranges : List HostRange) (lineCount : Int) :
    LineRange.CanonicalOf (fun line => ∃ r ∈ ranges, r.Selects lineCount line)
      (normalize ranges lineCount.toNat) := by
  obtain ⟨spaced, covered⟩ := LineRange.canonicalOf_merge (ranges.map (clamp lineCount.toNat))
  refine ⟨spaced, fun line => (covered line).trans ?_⟩
  constructor
  · rintro ⟨_, member, covers⟩
    obtain ⟨r, given, rfl⟩ := List.mem_map.1 member
    exact ⟨r, given, (covers_clamp_iff lineCount r line).1 covers⟩
  · rintro ⟨r, given, selects⟩
    exact ⟨_, List.mem_map_of_mem given, (covers_clamp_iff lineCount r line).2 selects⟩

end HostRange

/-- Merging brings a list of ranges into the canonical form of the lines that they cover: the ranges are in
order with an uncovered line between neighbours and cover the same lines. No other list has this form, so that
merging again changes nothing, order and repetition do not matter, and two lists give the same exactly if they
cover the same lines. The ranges of a host can always be normalized, whatever their numbers are and however many
lines there are, and this gives the canonical form of the lines that they select. -/
theorem LineRange.merge_is_canonical (rs ss : List LineRange) (ranges : List HostRange) (lineCount : Int) :
    CanonicalOf (Covered rs) (merge rs) ∧
      (∀ other, CanonicalOf (Covered rs) other → other = merge rs) ∧
      merge (merge rs) = merge rs ∧
      ((∀ r, r ∈ rs ↔ r ∈ ss) → merge rs = merge ss) ∧
      (merge rs = merge ss ↔ ∀ line, Covered rs line ↔ Covered ss line) ∧
      HostRange.requireNormal ranges lineCount.toNat = .ok (HostRange.normalize ranges lineCount.toNat) ∧
      CanonicalOf (fun line => ∃ r ∈ ranges, r.Selects lineCount line)
        (HostRange.normalize ranges lineCount.toNat) := by
  refine ⟨canonicalOf_merge rs, ?_, ?_, ?_, merge_eq_merge_iff, HostRange.requireNormal_eq _ _,
    HostRange.canonicalOf_normalize ranges lineCount⟩
  · intro other form
    exact form.unique (canonicalOf_merge rs)
  · exact merge_eq_merge_iff.2 (canonicalOf_merge rs).covered
  · intro members
    refine merge_eq_merge_iff.2 fun line => ?_
    unfold Covered
    simp only [members]

/-- Ranges that touch, in another order and with a repetition. -/
theorem LineRange.merge_is_canonical_reordered :
    (∀ r : LineRange, r ∈ [⟨3, 3, by decide, by decide⟩, ⟨1, 2, by decide, by decide⟩] ↔
        r ∈ [⟨1, 2, by decide, by decide⟩, ⟨3, 3, by decide, by decide⟩, ⟨1, 2, by decide, by decide⟩]) ∧
      merge [⟨3, 3, by decide, by decide⟩, ⟨1, 2, by decide, by decide⟩] =
        merge [⟨1, 2, by decide, by decide⟩, ⟨3, 3, by decide, by decide⟩, ⟨1, 2, by decide, by decide⟩] := by
  have members (r : LineRange) : r ∈ [⟨3, 3, by decide, by decide⟩, ⟨1, 2, by decide, by decide⟩] ↔
      r ∈ [⟨1, 2, by decide, by decide⟩, ⟨3, 3, by decide, by decide⟩, ⟨1, 2, by decide, by decide⟩] := by
    simp only [List.mem_cons, List.not_mem_nil, or_false]
    exact ⟨fun among => among.elim (fun last => Or.inr (Or.inl last)) Or.inl,
      fun among => among.elim Or.inr id⟩
  exact ⟨members, (merge_is_canonical _ _ [] 0).2.2.2.1 members⟩

/-! ## Changed lines -/

namespace Diff

/-- Compared with no lines, all lines have changed. -/
theorem marked_of_nil {lines : List (List Char)} (some_line : 0 < lines.length) :
    LineRange.merge ((gaps [] lines).filterMap (·.lines? lines.length)) =
      [⟨1, lines.length, by omega, some_line⟩] := by
  obtain ⟨line, rest, rfl⟩ := List.exists_cons_of_ne_nil (List.length_pos_iff.1 some_line)
  have gap : gaps [] (line :: rest) = [⟨0, 0 + (line :: rest).length⟩] := rfl
  have all : Gap.lines? (line :: rest).length ⟨0, 0 + (line :: rest).length⟩ =
      some ⟨1, (line :: rest).length, by omega, some_line⟩ := by
    unfold Gap.lines?
    rw [dif_pos (by simp)]
    simp
  unfold LineRange.merge
  rw [gap, List.filterMap_cons_some all, List.filterMap_nil, List.mergeSort_singleton, LineRange.mergeOrdered]

/-- Without an old text, the lines are compared with none. -/
theorem changedRanges_none (new : List Char) : changedRanges none new = changedRanges (some []) new := by
  have nothing : Text.paragraphs [] = [] := rfl
  unfold changedRanges
  dsimp only
  rw [nothing]
  split
  · next some_line => exact (marked_of_nil some_line).symm
  · next no_line =>
    rw [List.eq_nil_of_length_eq_zero (Nat.eq_zero_of_not_pos no_line)]
    simp [gaps, gapsFrom_nil, LineRange.merge, LineRange.mergeOrdered]

/-- In a text with lines every gap marks some of them. -/
theorem Gap.lines?_ne_none {lineCount : Nat} (lines : 0 < lineCount) (g : Gap) : g.lines? lineCount ≠ none := by
  unfold lines?
  split
  · exact Option.some_ne_none _
  · exact Option.some_ne_none _

/-- Nothing is merged into no range but no range. -/
theorem merge_eq_nil_iff {rs : List LineRange} : LineRange.merge rs = [] ↔ rs = [] := by
  constructor
  · intro none_left
    cases rs with
    | nil => rfl
    | cons r rest =>
      obtain ⟨m, member, -⟩ := LineRange.covers_merge List.mem_cons_self r.covers_start
      rw [none_left] at member
      cases member
  · rintro rfl
    simp [LineRange.merge, LineRange.mergeOrdered]

/-- The gaps between two lists of lines mark nothing exactly if the lists are the same or the new one is
empty. -/
theorem marked_eq_nil_iff {old new : List (List Char)} :
    LineRange.merge ((gaps old new).filterMap (·.lines? new.length)) = [] ↔ old = new ∨ new = [] := by
  rw [merge_eq_nil_iff, List.filterMap_eq_nil_iff]
  constructor
  · intro unmarked
    by_cases lines : new = []
    · exact Or.inr lines
    · refine Or.inl (gaps_eq_nil_iff.1 (List.eq_nil_iff_forall_not_mem.2 fun g member => ?_))
      exact Gap.lines?_ne_none (List.length_pos_iff.2 lines) g (unmarked g member)
  · rintro (rfl | rfl) g member
    · rw [gaps_self] at member
      cases member
    · have ends := bounds_of_mem_gaps member
      rw [List.length_nil] at ends
      exact Gap.lines?_of_not_marks (by simp [Gap.marks]; omega)

/-- For every old and new text the changed ranges can be made, are in order with an uncovered line between
neighbours, and lie among the lines of the new text. Every line outside of them has a partner among the lines of
the old text that is the same, with the partners in the order of the lines. There is no changed range only if the
lines are the same or the new text has none. Where there is no old text, it has no lines. -/
theorem changedRanges_exact (old : Option (List Char)) (new : List Char) :
    requiredRanges old new = .ok (changedRanges old new) ∧
      LineRange.Spaced (changedRanges old new) ∧
      let before := Text.paragraphs (old.getD [])
      let lines := Text.paragraphs new
      Accounts before lines lines.length (changedRanges old new) ∧
        (changedRanges old new = [] ↔ before = lines ∨ lines = []) := by
  let before := Text.paragraphs (old.getD [])
  let lines := Text.paragraphs new
  refine ⟨requiredRanges_eq old new, ?_⟩
  have same : changedRanges old new =
      LineRange.merge ((gaps before lines).filterMap (·.lines? lines.length)) := by
    cases old with
    | none => exact changedRanges_none new
    | some old => rfl
  rw [same]
  exact ⟨(LineRange.canonicalOf_merge _).spaced, accounts_gaps before lines, marked_eq_nil_iff⟩

end Diff

end LiveLint
