import LiveLint.Proofs.Scan.Masks
import LiveLint.Scan.Draft
import LiveLint.Scan.Forward
import LiveLint.Text.Basic

/-!
# Where searches end

A closing bracket stands behind the one it closes, and a search that begins at an offset ends no earlier.
-/

namespace LiveLint

/-!
## Lines and offsets

The line of an offset is found by counting newlines. It grows with the offset, and no offset lies below
the last line. Masking keeps the newlines, so that a masked text has the lines of its source.
-/

namespace Text

theorem lines_newline_cons (cs : List Char) : lines ('\n' :: cs) = [] :: lines cs := by
  rw [lines, List.splitOn_cons_eq_if_modifyHead, if_pos (beq_self_eq_true '\n'), ← lines]

theorem lines_cons_of_ne {c : Char} (other : c ≠ '\n') (cs : List Char) :
    lines (c :: cs) = (lines cs).modifyHead (c :: ·) := by
  rw [lines, List.splitOn_cons_eq_if_modifyHead, if_neg (by simpa using other), ← lines]

theorem length_lines (cs : List Char) : (lines cs).length = cs.count '\n' + 1 := by
  induction cs with
  | nil => rfl
  | cons c rest ih =>
    by_cases newline : c = '\n'
    · rw [newline, lines_newline_cons, List.count_cons_self, List.length_cons, ih]
    · rw [lines_cons_of_ne newline, List.count_cons_of_ne newline, List.length_modifyHead, ih]

/-- A line in front of a text is its first line. -/
theorem lines_below {line : List Char} (free : '\n' ∉ line) (cs : List Char) :
    lines (line ++ '\n' :: cs) = line :: lines cs := by
  induction line with
  | nil => exact lines_newline_cons cs
  | cons c rest ih =>
    obtain ⟨other, free⟩ := List.ne_and_not_mem_of_not_mem_cons free
    rw [List.cons_append, lines_cons_of_ne other.symm, ih free, List.modifyHead_cons]

theorem newline_not_mem_lines {cs text : List Char} (member : text ∈ lines cs) : '\n' ∉ text := by
  unfold lines at member
  induction cs generalizing text with
  | nil =>
    rw [List.splitOn_nil, List.mem_singleton] at member
    rw [member]
    exact List.not_mem_nil
  | cons c rest ih =>
    rw [List.splitOn_cons_eq_if_modifyHead] at member
    by_cases newline : (c == '\n') = true
    · rw [if_pos newline] at member
      rcases List.mem_cons.1 member with rfl | later
      · exact List.not_mem_nil
      · exact ih later
    · rw [if_neg newline] at member
      cases pieces : rest.splitOn '\n' with
      | nil =>
        rw [pieces] at member
        cases member
      | cons first others =>
        rw [pieces, List.modifyHead_cons] at member
        rcases List.mem_cons.1 member with rfl | later
        · intro inside
          rcases List.mem_cons.1 inside with same | inside
          · exact newline (beq_iff_eq.2 same.symm)
          · exact ih (pieces ▸ List.mem_cons_self ..) inside
        · exact ih (pieces ▸ List.mem_cons_of_mem first later)

end Text

namespace Position

theorem line_advance (p : Position) (cs : List Char) :
    (p.advance cs).line = p.line + cs.count '\n' := by
  induction cs generalizing p with
  | nil => rfl
  | cons c rest ih =>
    unfold advance
    rw [List.count_cons]
    by_cases newline : (c == '\n') = true
    · rw [if_pos newline, if_pos newline, ih, Nat.add_right_comm]
      rfl
    · rw [if_neg newline, if_neg newline, ih]
      rfl

theorem line_ofOffset (cs : List Char) (offset : Nat) :
    (ofOffset cs offset).line = 1 + (cs.take offset).count '\n' :=
  line_advance ⟨1, 0⟩ (cs.take offset)

theorem one_le_line_ofOffset (cs : List Char) (offset : Nat) : 1 ≤ (ofOffset cs offset).line := by
  rw [line_ofOffset]
  exact Nat.le_add_right 1 _

/-- A later offset lies on no earlier line. -/
theorem line_ofOffset_mono (cs : List Char) {i j : Nat} (le : i ≤ j) :
    (ofOffset cs i).line ≤ (ofOffset cs j).line := by
  rw [line_ofOffset, line_ofOffset]
  have shorter : cs.take i <+: cs.take j := List.take_prefix_take_left le
  exact Nat.add_le_add_left (shorter.sublist.count_le '\n') 1

theorem line_ofOffset_le (cs : List Char) (offset : Nat) :
    (ofOffset cs offset).line ≤ (Text.lines cs).length := by
  rw [line_ofOffset, Text.length_lines, Nat.add_comm]
  exact Nat.succ_le_succ ((List.take_prefix offset cs).sublist.count_le '\n')

end Position

namespace Mask

/-- A masked text has as many lines as its source. -/
theorem length_lines_mask (profile : Profile) (cs : List Char) :
    (Text.lines (mask profile cs)).length = (Text.lines cs).length := by
  rw [Text.length_lines, Text.length_lines, count_of_leaves (leaves_mask profile cs)]

end Mask

/-!
## Brackets and searches
-/

namespace Brackets

theorem pairFrom_lt (cs : List Char) (i : Nat) (opened : List (Nat × Char))
    (before : ∀ o ∈ opened, o.1 < i) : ∀ pair ∈ (pairFrom i opened cs).pairs, pair.1 < pair.2 := by
  induction cs generalizing i opened with
  | nil =>
    unfold pairFrom
    exact nofun
  | cons c rest ih =>
    have later (o : Nat × Char) (member : o ∈ opened) : o.1 < i + 1 :=
      Nat.lt_succ_of_lt (before o member)
    unfold pairFrom
    split
    · refine ih (i + 1) _ ?_
      intro o member
      rcases List.mem_cons.1 member with rfl | old
      · exact Nat.lt_succ_self i
      · exact later o old
    · split
      · exact ih (i + 1) opened later
      · split
        · next j b outer =>
          have outside (o : Nat × Char) (member : o ∈ outer) : o.1 < i + 1 :=
            later o (List.mem_cons_of_mem _ member)
          split
          · intro pair member
            rcases List.mem_cons.1 member with rfl | old
            · exact before (j, b) (List.mem_cons_self ..)
            · exact ih (i + 1) outer outside pair old
          · exact ih (i + 1) _ later
        · exact ih (i + 1) [] nofun

/-- A bracket is closed behind the place where it was opened. -/
theorem lt_of_closer? {masked : List Char} {i j : Nat} (found : (pair masked).closer? i = some j) :
    i < j := by
  obtain ⟨before, behind, split, -⟩ := List.lookup_eq_some_iff.1 found
  refine pairFrom_lt masked 0 [] nofun (i, j) ?_
  change (i, j) ∈ (pair masked).pairs
  rw [split]
  exact List.mem_append_right _ (List.mem_cons_self ..)

theorem mem_insertLine {n m : Nat} {lines : List Nat} (member : m ∈ insertLine n lines) :
    m = n ∨ m ∈ lines := by
  induction lines with
  | nil => exact Or.inl (List.mem_singleton.1 member)
  | cons l rest ih =>
    unfold insertLine at member
    split at member
    · exact List.mem_cons.1 member
    · split at member
      · exact Or.inr member
      · rcases List.mem_cons.1 member with rfl | later
        · exact Or.inr (List.mem_cons_self ..)
        · rcases ih later with new | old
          · exact Or.inl new
          · exact Or.inr (List.mem_cons_of_mem l old)

/-- Lines with an unpaired bracket are lines of the text. -/
theorem bounds_of_mem_errorLines {masked : List Char} {b : Brackets} {line : Nat}
    (member : line ∈ b.errorLines masked) : 1 ≤ line ∧ line ≤ (Text.lines masked).length := by
  unfold errorLines at member
  generalize b.unpaired = offsets at member
  induction offsets with
  | nil => cases member
  | cons offset rest ih =>
    rw [List.foldr_cons] at member
    rcases mem_insertLine member with rfl | old
    · exact ⟨Position.one_le_line_ofOffset masked offset, Position.line_ofOffset_le masked offset⟩
    · exact ih old

end Brackets

namespace Forward

theorem le_of_nextCode? {masked : List Char} {start i : Nat}
    (found : nextCode? masked start = some i) : start ≤ i := by
  obtain ⟨n, -, rfl⟩ := Option.map_eq_some_iff.1 found
  exact Nat.le_add_right start n

theorem le_of_brace? {masked : List Char} {start i : Nat} (found : brace? masked start = some i) :
    start ≤ i := by
  have from_place (cs : List Char) (place : Nat) (found : braceFrom? place cs = some i) :
      place ≤ i := by
    induction cs generalizing place with
    | nil => cases found
    | cons c rest ih =>
      unfold braceFrom? at found
      split at found
      · cases found
        exact Nat.le_refl _
      · split at found
        · cases found
        · exact Nat.le_of_succ_le (ih _ found)
  exact from_place _ _ found

theorem le_of_find? {masked target : List Char} {start i : Nat}
    (found : find? masked target start = some i) : start ≤ i := by
  have from_place (cs : List Char) (place : Nat) (found : findFrom? target place cs = some i) :
      place ≤ i := by
    induction cs generalizing place with
    | nil =>
      unfold findFrom? at found
      split at found
      · cases found
        exact Nat.le_refl _
      · cases found
    | cons c rest ih =>
      unfold findFrom? at found
      split at found
      · cases found
        exact Nat.le_refl _
      · exact Nat.le_of_succ_le (ih _ found)
  exact from_place _ _ found

theorem le_statementEnd (masked : List Char) (b : Brackets) (start : Nat) :
    start ≤ statementEnd masked b start := by
  have from_place (cs : List Char) (last : Option Char) (skip place : Nat) :
      place ≤ statementEndFrom b last skip place cs := by
    induction cs generalizing last skip place with
    | nil =>
      unfold statementEndFrom
      exact Nat.le_refl _
    | cons c rest ih =>
      cases skip with
      | succ skip => exact Nat.le_of_succ_le (ih last skip (place + 1))
      | zero =>
        unfold statementEndFrom
        split
        · exact Nat.le_of_succ_le (ih _ _ (place + 1))
        · split
          · exact Nat.le_refl _
          · split
            · exact Nat.le_succ _
            · split
              · exact Nat.le_refl _
              · exact Nat.le_of_succ_le (ih _ _ (place + 1))
  exact from_place _ none 0 start

theorem le_of_headerColon? {masked : List Char} {b : Brackets} {start i : Nat}
    (found : headerColon? masked b start = some i) : start ≤ i := by
  have from_place (cs : List Char) (skip place : Nat)
      (found : headerColonFrom? b skip place cs = some i) : place ≤ i := by
    induction cs generalizing skip place with
    | nil =>
      unfold headerColonFrom? at found
      cases found
    | cons c rest ih =>
      cases skip with
      | succ skip => exact Nat.le_of_succ_le (ih skip _ found)
      | zero =>
        unfold headerColonFrom? at found
        split at found
        · split at found
          · exact Nat.le_of_succ_le (ih _ _ found)
          · cases found
        · split at found
          · cases found
            exact Nat.le_refl _
          · split at found
            · cases found
            · exact Nat.le_of_succ_le (ih _ _ found)
  exact from_place _ 0 start found

end Forward

end LiveLint
