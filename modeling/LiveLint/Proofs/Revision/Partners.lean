import LiveLint.Proofs.Revision.Gaps

/-!
# Partners of unchanged elements

The block that is found between two lists is the same in both. So every element of the new list that lies
in no gap has a partner in the old one, and the partners are in the order of the elements. Ranges that are
merged still cover every line they covered before, so that a line outside of all changed ranges of a text
has a partner among the lines of the old text. And no difference is missed: two lists have no gap between them
exactly if they are the same.
-/

namespace LiveLint

namespace LineRange

theorem covers_join_left {r s : LineRange} {line : Nat} (covers : r.Covers line) :
    (r.join s).Covers line :=
  ⟨covers.1, Nat.le_trans covers.2 (Nat.le_max_left ..)⟩

theorem covers_join_right {r s : LineRange} {line : Nat} (ordered : r.start ≤ s.start)
    (covers : s.Covers line) : (r.join s).Covers line :=
  ⟨Nat.le_trans ordered covers.1, Nat.le_trans covers.2 (Nat.le_max_right ..)⟩

/-- Joining neighbours loses no line. -/
theorem covers_mergeOrdered {rs : List LineRange} (ordered : rs.Pairwise (·.start ≤ ·.start))
    {r : LineRange} (member : r ∈ rs) {line : Nat} (covers : r.Covers line) :
    ∃ m ∈ mergeOrdered rs, m.Covers line := by
  fun_induction mergeOrdered rs generalizing r with
  | case1 => cases member
  | case2 only => exact ⟨r, member, covers⟩
  | case3 first second rest touch ih =>
    simp only [List.pairwise_cons, List.mem_cons, forall_eq_or_imp] at ordered
    have joined : (first.join second :: rest).Pairwise (·.start ≤ ·.start) :=
      List.pairwise_cons.2 ⟨ordered.1.2, ordered.2.2⟩
    rcases List.mem_cons.1 member with rfl | member
    · exact ih joined List.mem_cons_self (covers_join_left covers)
    rcases List.mem_cons.1 member with rfl | later
    · exact ih joined List.mem_cons_self (covers_join_right ordered.1.1 covers)
    · exact ih joined (List.mem_cons_of_mem _ later) covers
  | case4 first second rest apart ih =>
    rcases List.mem_cons.1 member with rfl | later
    · exact ⟨r, List.mem_cons_self, covers⟩
    · obtain ⟨m, found, there⟩ := ih (List.pairwise_cons.1 ordered).2 later covers
      exact ⟨m, List.mem_cons_of_mem first found, there⟩

/-- Joining neighbours reaches no further than they do. -/
theorem stop_le_mergeOrdered {rs : List LineRange} {n : Nat} (inside : ∀ r ∈ rs, r.stop ≤ n) :
    ∀ m ∈ mergeOrdered rs, m.stop ≤ n := by
  fun_induction mergeOrdered rs with
  | case1 => exact inside
  | case2 => exact inside
  | case3 first second rest touch ih =>
    simp only [List.mem_cons, forall_eq_or_imp] at inside
    refine ih ?_
    intro m member
    rcases List.mem_cons.1 member with rfl | later
    · exact Nat.max_le.2 ⟨inside.1, inside.2.1⟩
    · exact inside.2.2 m later
  | case4 first second rest apart ih =>
    simp only [List.mem_cons, forall_eq_or_imp] at inside ⊢
    exact ⟨inside.1, ih (by simpa using inside.2)⟩

theorem start_le_of_le {r s : LineRange} (le : r.le s = true) : r.start ≤ s.start := by
  simp only [LineRange.le, Bool.or_eq_true, Bool.and_eq_true, decide_eq_true_iff, beq_iff_eq] at le
  omega

theorem pairwise_mergeSort_le (rs : List LineRange) :
    (rs.mergeSort LineRange.le).Pairwise (·.start ≤ ·.start) := by
  have le_trans (r s t : LineRange) (first : r.le s = true) (second : s.le t = true) :
      r.le t = true := by
    simp only [LineRange.le, Bool.or_eq_true, Bool.and_eq_true, decide_eq_true_iff, beq_iff_eq] at *
    omega
  have le_total (r s : LineRange) : (r.le s || s.le r) = true := by
    simp only [LineRange.le, Bool.or_eq_true, Bool.and_eq_true, decide_eq_true_iff, beq_iff_eq]
    omega
  exact (List.pairwise_mergeSort le_trans le_total rs).imp start_le_of_le

/-- Every line that a range covers is covered by the canonical form. -/
theorem covers_merge {rs : List LineRange} {r : LineRange} (member : r ∈ rs) {line : Nat}
    (covers : r.Covers line) : ∃ m ∈ merge rs, m.Covers line :=
  covers_mergeOrdered (pairwise_mergeSort_le rs) (List.mem_mergeSort.2 member) covers

theorem stop_le_merge {rs : List LineRange} {n : Nat} (inside : ∀ r ∈ rs, r.stop ≤ n) :
    ∀ m ∈ merge rs, m.stop ≤ n :=
  stop_le_mergeOrdered fun r member => inside r (List.mem_mergeSort.1 member)

end LineRange

namespace Diff

section Partners

variable {α : Type} [DecidableEq α]

/-- A block lies in both lists and has the same elements there. -/
def Block.Common (b : Block) (old new : List α) : Prop :=
  ∀ k < b.size, ∃ x, old[b.old + k]? = some x ∧ new[b.new + k]? = some x

/-- What a row says of each place of the new list: a run from the beginning of the old list on. -/
def RunsAgree (old new : List α) (row : List Nat) : Prop :=
  ∀ j size, row[j]? = some size → Block.Common ⟨0, j, size⟩ old new

omit [DecidableEq α] in
theorem RunsAgree.tail {old : List α} {y : α} {new : List α} {row : List Nat}
    (agree : RunsAgree old (y :: new) row) : RunsAgree old new row.tail := by
  intro j size found k less
  rw [List.getElem?_tail] at found
  obtain ⟨x, there, here⟩ := agree (j + 1) size found k less
  exact ⟨x, there, by simpa only [Nat.add_right_comm j 1 k, List.getElem?_cons_succ] using here⟩

/-- A run that begins with an element more is the run behind that element, prolonged by one. -/
theorem RunsAgree.runsWith {x : α} {old new : List α} {below : List Nat}
    (agree : RunsAgree old new below) : RunsAgree (x :: old) new (runsWith x new below) := by
  induction new generalizing below with
  | nil =>
    intro j size found
    simp [Diff.runsWith] at found
  | cons y rest ih =>
    intro j size found k less
    cases j with
    | zero =>
      simp only [Diff.runsWith, List.getElem?_cons_zero, Option.some.injEq] at found
      split at found
      · next same =>
        cases k with
        | zero => exact ⟨x, rfl, by simp [same]⟩
        | succ k =>
          cases first : below.tail with
          | nil =>
            rw [first, List.headD_nil] at found
            dsimp only at less
            omega
          | cons s more =>
            rw [first, List.headD_cons] at found
            have less' : k < s := by
              dsimp only at less
              omega
            obtain ⟨z, there, here⟩ := agree.tail 0 s (by rw [first]; rfl) k less'
            refine ⟨z, ?_, ?_⟩
            · simpa using there
            · simpa using here
      · dsimp only at less
        omega
    | succ j =>
      simp only [Diff.runsWith, List.getElem?_cons_succ] at found
      obtain ⟨z, there, here⟩ := ih agree.tail j size found k less
      refine ⟨z, there, ?_⟩
      simpa only [Nat.add_right_comm j 1 k, List.getElem?_cons_succ] using here

/-- All runs agree with both lists, and so does the longest common block. -/
theorem common_scan (new old : List α) :
    RunsAgree old new (scan new old).1 ∧ (scan new old).2.Common old new := by
  induction old with
  | nil =>
    constructor
    · intro j size found
      simp [scan] at found
    · intro k less
      simp [scan] at less
  | cons x rest ih =>
    obtain ⟨runs, block⟩ := ih
    have row : RunsAgree (x :: rest) new (runsWith x new (scan new rest).1) := runs.runsWith
    refine ⟨row, ?_⟩
    intro k less
    simp only [scan] at less ⊢
    split at less <;> rename_i longer
    · rw [if_pos longer]
      exact row _ _ (getElem?_longestOf (Nat.zero_lt_of_lt less)) k less
    · rw [if_neg longer]
      obtain ⟨y, there, here⟩ := block k less
      refine ⟨y, ?_, here⟩
      simpa only [Nat.add_right_comm _ 1 k, List.getElem?_cons_succ] using there

theorem longest?_common {old new : List α} {b : Block} (found : longest? old new = some b) :
    0 < b.size ∧ b.Common old new := by
  unfold longest? at found
  dsimp only at found
  split at found
  · cases found
  · next size =>
    cases found
    exact ⟨Nat.pos_of_ne_zero size, (common_scan new old).2⟩

/-- Each of some places of a new list has a partner in the old one with the same element, and the partners
are in the order of the places. -/
structure Partners (old new : List α) (kept : Nat → Prop) (partner : Nat → Nat) : Prop where
  same : ∀ j, kept j → ∃ x, old[partner j]? = some x ∧ new[j]? = some x
  increasing : ∀ j k, kept j → kept k → j < k → partner j < partner k

/-- A place of the new list that lies in none of some gaps, which are counted from a place. -/
def Kept (place : Nat) (new : List α) (gs : List Gap) (j : Nat) : Prop :=
  j < new.length ∧ ∀ g ∈ gs, ¬ (g.start ≤ place + j ∧ place + j < g.stop)

omit [DecidableEq α] in
/-- Partners before a common block, in it and behind it make up partners for the whole. -/
theorem Partners.around {old new : List α} {b : Block} (common : b.Common old new)
    {before behind kept : Nat → Prop} {p q : Nat → Nat}
    (first : Partners (old.take b.old) (new.take b.new) before p)
    (last : Partners (old.drop (b.old + b.size)) (new.drop (b.new + b.size)) behind q)
    (kept_before : ∀ j, kept j → j < b.new → before j)
    (kept_behind : ∀ j, kept (b.new + b.size + j) → behind j) :
    Partners old new kept fun j =>
      if j < b.new then p j
      else if j < b.new + b.size then b.old + (j - b.new)
      else b.old + b.size + q (j - (b.new + b.size)) := by
  have behind_of {j : Nat} (keep : kept j) (le : b.new + b.size ≤ j) :
      behind (j - (b.new + b.size)) :=
    kept_behind _ (by rwa [Nat.add_sub_cancel' le])
  have partner_lt {j : Nat} (keep : kept j) (less : j < b.new) : p j < b.old := by
    obtain ⟨x, there, -⟩ := first.same j (kept_before j keep less)
    have inside := (List.getElem?_eq_some_iff.1 there).1
    rw [List.length_take] at inside
    omega
  constructor
  case same =>
    intro j keep
    split
    · next less =>
      obtain ⟨x, there, here⟩ := first.same j (kept_before j keep less)
      rw [List.getElem?_take_of_lt (partner_lt keep less)] at there
      rw [List.getElem?_take_of_lt less] at here
      exact ⟨x, there, here⟩
    · next not_before =>
      split
      · next inside =>
        obtain ⟨x, there, here⟩ := common (j - b.new) (by omega)
        rw [Nat.add_sub_cancel' (by omega)] at here
        exact ⟨x, there, here⟩
      · next not_inside =>
        obtain ⟨x, there, here⟩ := last.same _ (behind_of keep (by omega))
        rw [List.getElem?_drop] at there here
        rw [Nat.add_sub_cancel' (by omega)] at here
        exact ⟨x, there, here⟩
  case increasing =>
    intro j k keep keep' less
    by_cases early : k < b.new
    · rw [if_pos early, if_pos (by omega)]
      exact first.increasing j k (kept_before j keep (by omega)) (kept_before k keep' early) less
    · by_cases late : b.new + b.size ≤ j
      · have grows := last.increasing _ _ (behind_of keep late) (behind_of keep' (by omega))
          (by omega)
        rw [if_neg (by omega), if_neg (by omega), if_neg (by omega), if_neg (by omega)]
        omega
      · rw [if_neg early]
        by_cases first_part : j < b.new
        · have := partner_lt keep first_part
          rw [if_pos first_part]
          split <;> omega
        · rw [if_neg first_part, if_pos (by omega)]
          split <;> omega

/-- Whatever lies in no gap has a partner, as long as there is fuel for every element. -/
theorem exists_partners_gapsFrom {fuel place : Nat} {old new : List α} (enough : old.length < fuel) :
    ∃ partner, Partners old new (Kept place new (gapsFrom fuel place old new)) partner := by
  induction fuel generalizing place old new with
  | zero => omega
  | succ fuel ih =>
    unfold gapsFrom
    cases found : longest? old new with
    | none =>
      -- Nothing is common: the one gap holds all of the new list.
      have nothing_kept (j : Nat) : ¬ Kept place new
          (if old.isEmpty && new.isEmpty then [] else [⟨place, place + new.length⟩]) j := by
        rintro ⟨less, outside⟩
        split at outside
        · next empty =>
          rw [Bool.and_eq_true, List.isEmpty_iff, List.isEmpty_iff] at empty
          rw [empty.2] at less
          cases less
        · exact outside _ List.mem_cons_self ⟨Nat.le_add_right .., Nat.add_lt_add_left less place⟩
      exact ⟨id, fun j keep => absurd keep (nothing_kept j),
        fun j _ keep => absurd keep (nothing_kept j)⟩
    | some b =>
      obtain ⟨pos, common⟩ := longest?_common found
      obtain ⟨x, there, -⟩ := common 0 pos
      have inside := (List.getElem?_eq_some_iff.1 there).1
      have before_fits : (old.take b.old).length < fuel := by
        rw [List.length_take]
        omega
      have behind_fits : (old.drop (b.old + b.size)).length < fuel := by
        rw [List.length_drop]
        omega
      obtain ⟨p, first⟩ := @ih place _ (new.take b.new) before_fits
      obtain ⟨q, last⟩ := @ih (place + b.new + b.size) _ (new.drop (b.new + b.size)) behind_fits
      refine ⟨_, Partners.around common first last ?_ ?_⟩
      · rintro j ⟨less, outside⟩ early
        refine ⟨by rw [List.length_take]; omega, fun g member => ?_⟩
        exact outside g (List.mem_append_left _ member)
      · rintro j ⟨less, outside⟩
        refine ⟨by rw [List.length_drop]; omega, fun g member => ?_⟩
        have apart := outside g (List.mem_append_right _ member)
        rwa [show place + (b.new + b.size + j) = place + b.new + b.size + j by omega] at apart

/-- Whatever lies in no gap between two lists has a partner. -/
theorem exists_partners (old new : List α) :
    ∃ partner, Partners old new (Kept 0 new (gaps old new)) partner :=
  exists_partners_gapsFrom (Nat.lt_succ_self _)

/-- The lines that a gap marks are lines of the text. -/
theorem Gap.stop_le_of_lines? {lineCount : Nat} {g : Gap} (ends : g.stop ≤ lineCount) {r : LineRange}
    (marked : g.lines? lineCount = some r) : r.stop ≤ lineCount := by
  unfold lines? at marked
  split at marked
  · cases marked
    exact ends
  · split at marked
    · cases marked
      dsimp only
      omega
    · cases marked

/-- A gap marks all its own lines. -/
theorem Gap.exists_lines? (lineCount : Nat) {g : Gap} {j : Nat} (start : g.start ≤ j)
    (stop : j < g.stop) : ∃ r, g.lines? lineCount = some r ∧ r.Covers (j + 1) := by
  refine ⟨⟨g.start + 1, g.stop, by omega, by omega⟩, ?_, Nat.succ_le_succ start, stop⟩
  rw [lines?, dif_pos (by omega)]

end Partners

/-! ## Lists without gaps -/

section Complete

variable {α : Type} [DecidableEq α]

/-- A run is one longer than the run behind its first element. -/
theorem getElem?_runsWith (x : α) (new : List α) (below : List Nat) (j : Nat) :
    (runsWith x new below)[j]? = new[j]?.map fun y => if x = y then below[j + 1]?.getD 0 + 1 else 0 := by
  induction new generalizing below j with
  | nil => rfl
  | cons y rest ih =>
    cases j with
    | zero =>
      have next : below.tail.headD 0 = below[1]?.getD 0 := by
        rw [List.headD_eq_head?_getD, List.head?_eq_getElem?, List.getElem?_tail]
      rw [Diff.runsWith, List.getElem?_cons_zero, List.getElem?_cons_zero, Option.map_some, next]
    | succ j => rw [Diff.runsWith, List.getElem?_cons_succ, List.getElem?_cons_succ, ih, List.getElem?_tail]

/-- Where the whole old list stands in the new one, the run is at least as long. -/
theorem exists_run_of_prefix {old new : List α} {j : Nat} (nonempty : old ≠ []) (agree : old <+: new.drop j) :
    ∃ size, (scan new old).1[j]? = some size ∧ old.length ≤ size := by
  induction old generalizing j with
  | nil => exact absurd rfl nonempty
  | cons x rest ih =>
    obtain ⟨more, split⟩ := agree
    have here : new[j]? = some x := by
      rw [← List.head?_drop, ← split]
      rfl
    have behind : rest <+: new.drop (j + 1) := by
      rw [← List.tail_drop, ← split]
      exact List.prefix_append rest more
    refine ⟨(scan new rest).1[j + 1]?.getD 0 + 1, ?_, ?_⟩
    · change (runsWith x new (scan new rest).1)[j]? = _
      rw [getElem?_runsWith, here, Option.map_some, if_pos rfl]
    · cases rest with
      | nil => exact Nat.le_add_left ..
      | cons y more =>
        obtain ⟨size, found, le⟩ := ih (List.cons_ne_nil _ _) behind
        rw [found]
        exact Nat.succ_le_succ le

/-- No run of a row is longer than the longest one. -/
theorem le_longestOf {row : List Nat} {size : Nat} (member : size ∈ row) : size ≤ (longestOf row).2 := by
  have greatest : (0 :: row).max? = some (row.foldl max 0) := List.max?_cons'
  exact (List.max?_eq_some_iff.1 greatest).2 size (List.mem_cons_of_mem 0 member)

/-- A list has all of itself in common with itself. -/
theorem longest?_self {xs : List α} (nonempty : xs ≠ []) : longest? xs xs = some ⟨0, 0, xs.length⟩ := by
  obtain ⟨x, rest, rfl⟩ := List.exists_cons_of_ne_nil nonempty
  obtain ⟨size, first, le⟩ := exists_run_of_prefix (j := 0) nonempty (List.prefix_refl (x :: rest))
  have long := Nat.le_trans le (le_longestOf (List.mem_of_getElem? first))
  have pos : 0 < (longestOf (scan (x :: rest) (x :: rest)).1).2 :=
    Nat.lt_of_lt_of_le (Nat.zero_lt_succ rest.length) long
  have fits := (ends_scan (x :: rest) (x :: rest)).1 _ _ (getElem?_longestOf pos)
  have place : (longestOf (scan (x :: rest) (x :: rest)).1).1 = 0 := by omega
  have whole : (longestOf (scan (x :: rest) (x :: rest)).1).2 = (x :: rest).length := by omega
  have later : (scan (x :: rest) rest).2.size ≤ (x :: rest).length := by
    rcases Nat.eq_zero_or_pos (scan (x :: rest) rest).2.size with zero | some_size
    · omega
    · have := (ends_scan (x :: rest) rest).2 some_size
      omega
  have chosen : (scan (x :: rest) (x :: rest)).2 = ⟨0, (longestOf (scan (x :: rest) (x :: rest)).1).1,
      (longestOf (scan (x :: rest) (x :: rest)).1).2⟩ := if_pos (Nat.le_trans later long)
  unfold longest?
  rw [chosen, place, whole]
  exact if_neg (Nat.succ_ne_zero _)

theorem gapsFrom_nil (fuel place : Nat) : gapsFrom fuel place ([] : List α) [] = [] := by
  cases fuel with
  | zero => rfl
  | succ fuel => rfl

/-- There is no gap between a list and itself. -/
theorem gaps_self (xs : List α) : gaps xs xs = [] := by
  by_cases nonempty : xs = []
  · rw [nonempty]
    exact gapsFrom_nil _ _
  · unfold gaps gapsFrom
    rw [longest?_self nonempty]
    simp only [List.take_zero, Nat.zero_add, List.drop_length, gapsFrom_nil, List.append_nil]

omit [DecidableEq α] in
/-- A common block is the same part of both lists. -/
theorem Block.Common.take_drop_eq {b : Block} {old new : List α} (common : b.Common old new) :
    (old.drop b.old).take b.size = (new.drop b.new).take b.size := by
  refine List.ext_getElem? fun k => ?_
  by_cases less : k < b.size
  · obtain ⟨x, there, here⟩ := common k less
    rw [List.getElem?_take_of_lt less, List.getElem?_take_of_lt less, List.getElem?_drop, List.getElem?_drop,
      there, here]
  · rw [List.getElem?_take_eq_none (Nat.le_of_not_lt less), List.getElem?_take_eq_none (Nat.le_of_not_lt less)]

/-- Two lists that no gap tells apart are the same. -/
theorem eq_of_gapsFrom_eq_nil {fuel place : Nat} {old new : List α} (enough : old.length < fuel)
    (none_found : gapsFrom fuel place old new = []) : old = new := by
  induction fuel generalizing place old new with
  | zero => omega
  | succ fuel ih =>
    unfold gapsFrom at none_found
    cases found : longest? old new with
    | none =>
      rw [found] at none_found
      dsimp only at none_found
      split at none_found
      · next empty =>
        rw [Bool.and_eq_true, List.isEmpty_iff, List.isEmpty_iff] at empty
        rw [empty.1, empty.2]
      · cases none_found
    | some b =>
      rw [found] at none_found
      obtain ⟨before, behind⟩ := List.append_eq_nil_iff.1 none_found
      obtain ⟨pos, common⟩ := longest?_common found
      obtain ⟨x, there, -⟩ := common 0 pos
      have inside := (List.getElem?_eq_some_iff.1 there).1
      have fits : (old.take b.old).length < fuel := by
        rw [List.length_take]
        omega
      have fits' : (old.drop (b.old + b.size)).length < fuel := by
        rw [List.length_drop]
        omega
      calc old = old.take b.old ++ ((old.drop b.old).take b.size ++ old.drop (b.old + b.size)) := by
            rw [← List.drop_drop, List.take_append_drop, List.take_append_drop]
        _ = new.take b.new ++ ((new.drop b.new).take b.size ++ new.drop (b.new + b.size)) := by
            rw [ih fits before, ih fits' behind, common.take_drop_eq]
        _ = new := by rw [← List.drop_drop, List.take_append_drop, List.take_append_drop]

/-- There is no gap between two lists exactly if they are the same. -/
theorem gaps_eq_nil_iff {old new : List α} : gaps old new = [] ↔ old = new := by
  constructor
  · exact eq_of_gapsFrom_eq_nil (Nat.lt_succ_self _)
  · rintro rfl
    exact gaps_self old

end Complete

/-! ## Lines outside of the changed ranges -/

/-- How a new list of lines, as far as a count, came out of an old one. The changed ranges lie among these
lines, and every line outside of them has a partner: an old line that is the same, with the partners in the
order of the lines. -/
structure Accounts (old new : List (List Char)) (count : Nat) (changed : List LineRange) : Prop where
  within : ∀ r ∈ changed, r.stop ≤ count
  partners : ∃ partner : Nat → Nat,
    (∀ line, 1 ≤ line → line ≤ count → (∀ r ∈ changed, ¬ r.Covers line) →
      1 ≤ partner line ∧
        ∃ text, old[partner line - 1]? = some text ∧ new[line - 1]? = some text) ∧
    ∀ line line', 1 ≤ line → line < line' → line' ≤ count →
      (∀ r ∈ changed, ¬ r.Covers line) → (∀ r ∈ changed, ¬ r.Covers line') →
        partner line < partner line'

/-- The ranges that the gaps mark account for all lines of the new list. -/
theorem accounts_gaps (old new : List (List Char)) :
    Accounts old new new.length
      (LineRange.merge ((gaps old new).filterMap (·.lines? new.length))) := by
  have kept {line : Nat} (first : 1 ≤ line) (last : line ≤ new.length)
      (outside : ∀ r ∈ LineRange.merge ((gaps old new).filterMap (·.lines? new.length)),
        ¬ r.Covers line) : Kept 0 new (gaps old new) (line - 1) := by
    refine ⟨by omega, ?_⟩
    rintro g member ⟨start, stop⟩
    rw [Nat.zero_add] at start stop
    obtain ⟨r, marked, covers⟩ := Gap.exists_lines? new.length start stop
    rw [Nat.sub_add_cancel first] at covers
    obtain ⟨m, merged, there⟩ :=
      LineRange.covers_merge (List.mem_filterMap.2 ⟨g, member, marked⟩) covers
    exact outside m merged there
  obtain ⟨partner, same, increasing⟩ := exists_partners old new
  constructor
  case within =>
    refine LineRange.stop_le_merge ?_
    intro r member
    obtain ⟨g, found, marked⟩ := List.mem_filterMap.1 member
    exact Gap.stop_le_of_lines? (bounds_of_mem_gaps found).2 marked
  case partners =>
    refine ⟨fun line => partner (line - 1) + 1, ?_, ?_⟩
    · intro line first last outside
      exact ⟨Nat.succ_le_succ (Nat.zero_le _), same _ (kept first last outside)⟩
    · intro line line' first less last outside outside'
      exact Nat.succ_lt_succ (increasing _ _ (kept first (by omega) outside)
        (kept (by omega) last outside') (by omega))

/-- Lists that begin with the old and the new lines are accounted for by the same ranges. -/
theorem Accounts.of_prefix {old new old' new' : List (List Char)} {changed : List LineRange}
    (accounts : Accounts old new new.length changed) (longer : old <+: old') (longer' : new <+: new') :
    Accounts old' new' new.length changed := by
  obtain ⟨within, partner, same, increasing⟩ := accounts
  refine ⟨within, partner, ?_, increasing⟩
  intro line first last outside
  obtain ⟨pos, text, there, here⟩ := same line first last outside
  obtain ⟨_, rfl⟩ := longer
  obtain ⟨_, rfl⟩ := longer'
  refine ⟨pos, text, ?_, ?_⟩
  · rwa [List.getElem?_append_left (List.getElem?_eq_some_iff.1 there).1]
  · rwa [List.getElem?_append_left (List.getElem?_eq_some_iff.1 here).1]

end Diff

end LiveLint
