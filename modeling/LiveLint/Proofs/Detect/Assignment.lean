import LiveLint.Detect.Match
import Mathlib.Data.List.Sort

/-!
# Identities of one kind

Matches are sorted by range and kind, and numbered among those at the same place. The order is total, the
sort keeps equals as they came, and a place names its kind: so the matches of one kind get the same
identities, in the same order, whatever matches of other kinds are sorted and numbered with them.
-/

namespace LiveLint

namespace SourceRange

theorem le_iff {r s : SourceRange} :
    r.le s = true ↔
      r.startLine < s.startLine ∨ r.startLine = s.startLine ∧ (r.startCol < s.startCol ∨
        r.startCol = s.startCol ∧ (r.endLine < s.endLine ∨ r.endLine = s.endLine ∧ r.endCol ≤ s.endCol)) := by
  unfold le placeLe
  simp only [bne_iff_ne, Bool.or_eq_true]
  split
  all_goals simp only [Bool.or_eq_true, Bool.and_eq_true, decide_eq_true_eq, beq_iff_eq]; omega

theorem le_total (r s : SourceRange) : r.le s = true ∨ s.le r = true := by
  rw [le_iff, le_iff]
  omega

theorem le_refl (r : SourceRange) : r.le r = true :=
  (le_total r r).elim id id

theorem le_trans {r s t : SourceRange} (first : r.le s = true) (second : s.le t = true) :
    r.le t = true := by
  rw [le_iff] at *
  omega

theorem le_antisymm {r s : SourceRange} (first : r.le s = true) (second : s.le r = true) : r = s := by
  rw [le_iff] at *
  have same : r.startLine = s.startLine ∧ r.startCol = s.startCol ∧ r.endLine = s.endLine ∧
      r.endCol = s.endCol := by omega
  cases r
  cases s
  simp_all

end SourceRange

namespace Identity

theorem matchLe_iff {m n : Match} :
    matchLe m n = true ↔ m.range.le n.range = true ∧ (m.range = n.range → m.kind ≤ n.kind) := by
  unfold matchLe
  split
  · next same =>
    have same := eq_of_beq same
    rw [same, decide_eq_true_eq]
    exact ⟨fun le => ⟨SourceRange.le_refl _, fun _ => le⟩, fun le => le.2 rfl⟩
  · next apart =>
    have apart : m.range ≠ n.range := fun same => apart (beq_iff_eq.2 same)
    exact ⟨fun le => ⟨le, fun same => absurd same apart⟩, And.left⟩

theorem matchLe_total (m n : Match) : (matchLe m n || matchLe n m) = true := by
  rw [Bool.or_eq_true, matchLe_iff, matchLe_iff]
  by_cases same : m.range = n.range
  · rw [same]
    rcases String.le_total m.kind n.kind with le | le
    · exact Or.inl ⟨SourceRange.le_refl _, fun _ => le⟩
    · exact Or.inr ⟨SourceRange.le_refl _, fun _ => le⟩
  · rcases SourceRange.le_total m.range n.range with le | le
    · exact Or.inl ⟨le, fun same' => absurd same' same⟩
    · exact Or.inr ⟨le, fun same' => absurd same'.symm same⟩

theorem matchLe_trans (l m n : Match) (first : matchLe l m = true) (second : matchLe m n = true) :
    matchLe l n = true := by
  rw [matchLe_iff] at *
  refine ⟨SourceRange.le_trans first.1 second.1, ?_⟩
  intro same
  -- A range between two equal ones is that range.
  have middle : l.range = m.range := SourceRange.le_antisymm first.1 (same ▸ second.1)
  exact String.le_trans (first.2 middle) (second.2 (middle.symm.trans same))

end Identity

/-- A list is cut in one way where its members stop being smaller than some other. -/
theorem cut_unique {α : Type} {smaller : α → Bool} {before after before' after' : List α}
    (is_smaller : ∀ y ∈ before, smaller y = true) (larger : ∀ y ∈ after, smaller y = false)
    (is_smaller' : ∀ y ∈ before', smaller y = true) (larger' : ∀ y ∈ after', smaller y = false)
    (same : before ++ after = before' ++ after') : before = before' ∧ after = after' := by
  have first : ∀ {front back : List α}, (∀ y ∈ front, smaller y = true) →
      (∀ y ∈ back, smaller y = false) → (front ++ back).filter smaller = front := by
    intro front back all none
    rw [List.filter_append, List.filter_eq_self.2 all,
      List.filter_eq_nil_iff.2 fun y member => by rw [none y member]; exact Bool.false_ne_true,
      List.append_nil]
  have fronts : before = before' := by
    rw [← first is_smaller larger, same, first is_smaller' larger']
  exact ⟨fronts, List.append_cancel_left (fronts ▸ same)⟩

section Sorting

variable {α : Type} {le : α → α → Bool}
  (trans : ∀ a b c, le a b = true → le b c = true → le a c = true)
  (total : ∀ a b, (le a b || le b a) = true)

include trans total

/-- A sorted list with one more member is the sorted list, cut in front of the members that are not smaller
than the new one. -/
theorem mergeSort_cut (x : α) (xs : List α) :
    ∃ before after, (x :: xs).mergeSort le = before ++ x :: after ∧ xs.mergeSort le = before ++ after ∧
      (∀ y ∈ before, (!le x y) = true) ∧ ∀ y ∈ after, (!le x y) = false := by
  obtain ⟨before, after, sorted, others, smaller⟩ := List.mergeSort_cons trans total x xs
  refine ⟨before, after, sorted, others, smaller, ?_⟩
  intro y member
  have pairwise := List.pairwise_mergeSort trans total (x :: xs)
  rw [sorted] at pairwise
  rw [(List.pairwise_cons.1 (List.pairwise_append.1 pairwise).2.1).1 y member, Bool.not_true]

/-- Sorting by a total order, with equals left as they came, sorts any selection. -/
theorem filter_mergeSort (keep : α → Bool) (xs : List α) :
    (xs.mergeSort le).filter keep = (xs.filter keep).mergeSort le := by
  induction xs with
  | nil => rw [List.mergeSort_nil, List.filter_nil, List.mergeSort_nil]
  | cons x rest ih =>
    obtain ⟨before, after, sorted, others, smaller, larger⟩ := mergeSort_cut trans total x rest
    rw [sorted, List.filter_append]
    rw [others, List.filter_append] at ih
    by_cases kept : keep x
    · rw [List.filter_cons_of_pos kept, List.filter_cons_of_pos kept]
      obtain ⟨before', after', sorted', others', smaller', larger'⟩ :=
        mergeSort_cut trans total x (rest.filter keep)
      obtain ⟨same, same'⟩ := cut_unique (fun y member => smaller y (List.mem_filter.1 member).1)
        (fun y member => larger y (List.mem_filter.1 member).1) smaller' larger' (ih.trans others')
      rw [sorted', same, same']
    · rw [List.filter_cons_of_neg kept, List.filter_cons_of_neg kept, ih]

end Sorting

namespace Identity

def placeOf (lines : List (List Char)) (functions : List NamedFunction) (m : Match) : Place :=
  (m.kind, scope m.range functions, anchor lines m.range.startLine)

/-- What becomes of a match, given the places of the matches before. -/
def occurrenceOf (file language : String) (lines : List (List Char)) (functions : List NamedFunction)
    (seen : List Place) (m : Match) : Occurrence where
  identity :=
    digest file m.kind (scope m.range functions) (anchor lines m.range.startLine)
      (seen.count (placeOf lines functions m))
  file
  language
  kind := m.kind
  range := m.range
  severity := m.severity
  scope := scope m.range functions
  metadata := m.metadata

theorem assignFrom_cons (file language : String) (lines : List (List Char))
    (functions : List NamedFunction) (seen : List Place) (m : Match) (rest : List Match) :
    assignFrom file language lines functions seen (m :: rest) =
      occurrenceOf file language lines functions seen m ::
        assignFrom file language lines functions (placeOf lines functions m :: seen) rest :=
  rfl

/-- Ordinals count places, and a place names its kind, so that matches of other kinds do not matter. -/
theorem filter_assignFrom (file language : String) (lines : List (List Char))
    (functions : List NamedFunction) (kind : String) {seen seen' : List Place} (ms : List Match)
    (same : ∀ place : Place, place.1 = kind → seen.count place = seen'.count place) :
    (assignFrom file language lines functions seen ms).filter (·.kind == kind) =
      assignFrom file language lines functions seen' (ms.filter (·.kind == kind)) := by
  induction ms generalizing seen seen' with
  | nil => rfl
  | cons m rest ih =>
    rw [assignFrom_cons]
    by_cases is_kind : m.kind = kind
    · rw [List.filter_cons_of_pos (by exact beq_iff_eq.2 is_kind),
        List.filter_cons_of_pos (by exact beq_iff_eq.2 is_kind), assignFrom_cons, ih]
      · unfold occurrenceOf
        rw [same _ is_kind]
      · intro place of_kind
        rw [List.count_cons, List.count_cons, same place of_kind]
    · rw [List.filter_cons_of_neg (by exact fun of_kind => is_kind (eq_of_beq of_kind)),
        List.filter_cons_of_neg (by exact fun of_kind => is_kind (eq_of_beq of_kind))]
      refine ih ?_
      intro place of_kind
      rw [List.count_cons_of_ne, same place of_kind]
      rintro rfl
      exact is_kind of_kind

/-- The occurrences of one kind are those that the matches of that kind make up alone. -/
theorem filter_assign (file language : String) (lines : List (List Char))
    (functions : List NamedFunction) (kind : String) (ms : List Match) :
    (assign file language lines ms functions).filter (·.kind == kind) =
      assign file language lines (ms.filter (·.kind == kind)) functions := by
  unfold assign
  rw [filter_assignFrom file language lines functions kind _ fun _ _ => rfl,
    filter_mergeSort matchLe_trans matchLe_total]

/-- Every occurrence is what becomes of a match. -/
theorem exists_occurrenceOf_of_mem_assign {file language : String} {lines : List (List Char)}
    {functions : List NamedFunction} {ms : List Match} {o : Occurrence}
    (member : o ∈ assign file language lines ms functions) :
    ∃ m ∈ ms, ∃ seen, o = occurrenceOf file language lines functions seen m := by
  have from_sorted : ∀ (seen : List Place) (ms : List Match), o ∈ assignFrom file language lines functions seen ms →
      ∃ m ∈ ms, ∃ seen, o = occurrenceOf file language lines functions seen m := by
    intro seen ms member
    induction ms generalizing seen with
    | nil => cases member
    | cons m rest ih =>
      rw [assignFrom_cons] at member
      rcases List.mem_cons.1 member with same | member
      · exact ⟨m, List.mem_cons_self .., seen, same⟩
      · obtain ⟨m', among, same⟩ := ih _ member
        exact ⟨m', List.mem_cons_of_mem _ among, same⟩
  obtain ⟨m, among, same⟩ := from_sorted _ _ member
  exact ⟨m, List.mem_mergeSort.1 among, same⟩

/-- Every occurrence has the kind of a match. -/
theorem exists_match_of_mem_assign {file language : String} {lines : List (List Char)}
    {functions : List NamedFunction} {ms : List Match} {o : Occurrence}
    (member : o ∈ assign file language lines ms functions) :
    ∃ m ∈ ms, o.kind = m.kind ∧ o.range = m.range := by
  obtain ⟨m, among, seen, rfl⟩ := exists_occurrenceOf_of_mem_assign member
  exact ⟨m, among, rfl, rfl⟩

end Identity

end LiveLint
