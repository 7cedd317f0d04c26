import LiveLint.Proofs.Scan.Spans
import Mathlib.Algebra.GroupWithZero.Nat

/-!
# Positions of offsets

Positions are ordered by line and column, and the position of an offset grows with the offset. An offset
behind the first line of a text has the position that it has in the rest of the text, one line further down;
so an offset inside of a line is known by the lines before.
-/

namespace LiveLint

namespace Position

theorem le_iff {p q : Position} :
    p.le q = true ↔ p.line < q.line ∨ p.line = q.line ∧ p.col ≤ q.col := by
  unfold le
  simp only [Bool.or_eq_true, Bool.and_eq_true, decide_eq_true_eq, beq_iff_eq]

theorem le_refl (p : Position) : p.le p = true :=
  le_iff.2 (Or.inr ⟨rfl, Nat.le_refl _⟩)

theorem le_total (p q : Position) : p.le q = true ∨ q.le p = true := by
  rw [le_iff, le_iff]
  omega

theorem le_trans {p q r : Position} (first : p.le q = true) (second : q.le r = true) : p.le r = true := by
  rw [le_iff] at *
  omega

theorem le_antisymm {p q : Position} (first : p.le q = true) (second : q.le p = true) : p = q := by
  rw [le_iff] at *
  cases p
  cases q
  simp only [mk.injEq] at *
  omega

theorem line_le_of_le {p q : Position} (le : p.le q = true) : p.line ≤ q.line := by
  rw [le_iff] at le
  omega

def lowered (n : Nat) (p : Position) : Position := ⟨p.line + n, p.col⟩

theorem advance_cons (p : Position) (c : Char) (rest : List Char) :
    p.advance (c :: rest) =
      if c == '\n' then advance ⟨p.line + 1, 0⟩ rest else advance ⟨p.line, p.col + 1⟩ rest :=
  rfl

theorem advance_append (p : Position) (first second : List Char) :
    p.advance (first ++ second) = (p.advance first).advance second := by
  induction first generalizing p with
  | nil => rfl
  | cons c rest ih =>
    rw [List.cons_append, advance_cons, advance_cons]
    split <;> exact ih _

/-- Without newlines only the column grows. -/
theorem advance_of_not_mem (p : Position) {cs : List Char} (free : '\n' ∉ cs) :
    p.advance cs = ⟨p.line, p.col + cs.length⟩ := by
  induction cs generalizing p with
  | nil => rfl
  | cons c rest ih =>
    obtain ⟨other, free⟩ := List.ne_and_not_mem_of_not_mem_cons free
    rw [advance_cons, if_neg (by rw [beq_iff_eq]; exact other.symm), ih _ free, List.length_cons,
      Nat.add_right_comm, Nat.add_assoc]

theorem advance_lowered (n : Nat) (p : Position) (cs : List Char) :
    (p.lowered n).advance cs = (p.advance cs).lowered n := by
  induction cs generalizing p with
  | nil => rfl
  | cons c rest ih =>
    rw [advance_cons, advance_cons]
    split
    · rw [← ih]
      unfold lowered
      rw [Nat.add_right_comm]
    · exact ih ⟨p.line, p.col + 1⟩

theorem le_advance (p : Position) (cs : List Char) : p.le (p.advance cs) = true := by
  induction cs generalizing p with
  | nil => exact le_refl p
  | cons c rest ih =>
    rw [advance_cons]
    split
    · exact le_trans (le_iff.2 (Or.inl (Nat.lt_succ_self _))) (ih _)
    · have next : p.le ⟨p.line, p.col + 1⟩ = true := le_iff.2 (Or.inr ⟨rfl, Nat.le_succ _⟩)
      exact le_trans next (ih _)

/-- A later offset has no earlier position. -/
theorem ofOffset_mono (cs : List Char) {i j : Nat} (le : i ≤ j) :
    (ofOffset cs i).le (ofOffset cs j) = true := by
  obtain ⟨n, rfl⟩ := Nat.exists_eq_add_of_le le
  unfold ofOffset
  rw [List.take_add, advance_append]
  exact le_advance _ _

/-- Behind a first line all positions are those in the rest of the text, one line further down. -/
theorem ofOffset_behind_line {first : List Char} (free : '\n' ∉ first) (rest : List Char) (i : Nat) :
    ofOffset (first ++ '\n' :: rest) (first.length + 1 + i) = (ofOffset rest i).lowered 1 := by
  unfold ofOffset
  have cut : (first ++ '\n' :: rest).take (first.length + 1 + i) = first ++ '\n' :: rest.take i := by
    rw [Nat.add_assoc, List.take_length_add_append, Nat.add_comm 1 i, List.take_succ_cons]
  rw [cut, advance_append, advance_of_not_mem _ free, advance_cons, if_pos (beq_self_eq_true _)]
  exact advance_lowered 1 ⟨1, 0⟩ (rest.take i)

end Position

theorem Span.contains_iff {outer inner : Span} :
    outer.contains inner = true ↔ outer.start.le inner.start = true ∧ inner.stop.le outer.stop = true := by
  unfold contains
  rw [Bool.and_eq_true]

theorem Span.contains_trans {a b c : Span} (first : a.contains b = true) (second : b.contains c = true) :
    a.contains c = true := by
  rw [contains_iff] at *
  exact ⟨Position.le_trans first.1 second.1, Position.le_trans second.2 first.2⟩

namespace Text

def lineStart (before : List (List Char)) : Nat := (before.map (·.length + 1)).sum

theorem lineStart_cons (text : List Char) (rest : List (List Char)) :
    lineStart (text :: rest) = text.length + 1 + lineStart rest := by
  unfold lineStart
  rw [List.map_cons, List.sum_cons]

/-- The first line of a text that has others ends with a newline, and the others are the lines of what
follows. -/
theorem lines_eq_cons {cs first : List Char} {rest : List (List Char)} (more : rest ≠ [])
    (split : lines cs = first :: rest) :
    ∃ behind, cs = first ++ '\n' :: behind ∧ lines behind = rest := by
  have joined : ['\n'].intercalate (lines cs) = cs := List.intercalate_splitOn '\n'
  have free : ∀ text ∈ rest, '\n' ∉ text := by
    intro text member
    exact newline_not_mem_lines (split ▸ List.mem_cons_of_mem first member)
  refine ⟨['\n'].intercalate rest, ?_, List.splitOn_intercalate '\n' free more⟩
  rw [← joined, split, List.intercalate_cons_of_ne_nil more]
  simp

/-- A text begins with its first line. -/
theorem exists_of_lines_eq_cons {cs first : List Char} {rest : List (List Char)}
    (split : lines cs = first :: rest) : ∃ behind, cs = first ++ behind := by
  cases rest with
  | nil =>
    have joined : ['\n'].intercalate (lines cs) = cs := List.intercalate_splitOn '\n'
    rw [split] at joined
    exact ⟨[], by rw [← joined]; simp⟩
  | cons next others =>
    obtain ⟨behind, cut, -⟩ := lines_eq_cons (List.cons_ne_nil next others) split
    exact ⟨_, cut⟩

/-- An offset inside of a line is known by the lines before and the column. -/
theorem ofOffset_lineStart {cs text : List Char} {before after : List (List Char)}
    (split : lines cs = before ++ text :: after) {col : Nat} (le : col ≤ text.length) :
    Position.ofOffset cs (lineStart before + col) = ⟨before.length + 1, col⟩ := by
  induction before generalizing cs with
  | nil =>
    have among : text ∈ lines cs := split ▸ List.mem_cons_self ..
    have free := newline_not_mem_lines among
    obtain ⟨behind, rfl⟩ := exists_of_lines_eq_cons split
    unfold Position.ofOffset lineStart
    rw [List.map_nil, List.sum_nil, Nat.zero_add, List.take_append_of_le_length le,
      Position.advance_of_not_mem _ fun member => free (List.mem_of_mem_take member)]
    simp [le]
  | cons first others ih =>
    obtain ⟨behind, rfl, rest⟩ := lines_eq_cons (by simp) split
    have among : first ∈ lines (first ++ '\n' :: behind) := split ▸ List.mem_cons_self ..
    have free := newline_not_mem_lines among
    rw [lineStart_cons, Nat.add_assoc, Position.ofOffset_behind_line free, ih rest]
    rfl

end Text

end LiveLint
