import LiveLint.Proofs.Scan.Colons
import LiveLint.Proofs.Scan.Constructs
import LiveLint.Proofs.Scan.Rounds

/-!
# Searches by index stay in range

The offsets of lines are searched by halving, brackets are paired with a stack of offsets, and the searches for code,
for the end of a statement and for the colon of a header go on from offset to offset. What they fetch lies inside of
the text, each of them comes to its end, and they find what the searches over the rest of the text find.
-/

namespace LiveLint

/-!
## Bounds
-/

namespace Brackets

variable {m : List Char}

/-- A closer stands inside of the text. -/
theorem lt_length_of_closer? {i j : Nat} (found : (pair m).closer? i = some j) : j < m.length := by
  obtain ⟨c, there, -⟩ := (matched_pair m).closes (i, j) (closer?_eq_some_iff.1 found)
  exact (List.getElem?_eq_some_iff.1 there).1

theorem unpaired_lt (cs : List Char) (i : Nat) (opened : List (Nat × Char)) (before : ∀ o ∈ opened, o.1 < i) :
    ∀ offset ∈ (pairFrom i opened cs).unpaired, offset < i + cs.length := by
  induction cs generalizing i opened with
  | nil =>
    intro offset member
    obtain ⟨o, among, rfl⟩ := List.mem_map.1 member
    exact before o among
  | cons c rest ih =>
    have next (opened : List (Nat × Char)) (before : ∀ o ∈ opened, o.1 < i + 1) :
        ∀ offset ∈ (pairFrom (i + 1) opened rest).unpaired, offset < i + (c :: rest).length := by
      intro offset member
      have inside := ih (i + 1) opened before offset member
      rw [List.length_cons]
      omega
    have left (opened : List (Nat × Char)) (before : ∀ o ∈ opened, o.1 < i + 1) :
        ∀ offset ∈ i :: (pairFrom (i + 1) opened rest).unpaired, offset < i + (c :: rest).length := by
      refine List.forall_mem_cons.2 ⟨?_, next opened before⟩
      rw [List.length_cons]
      omega
    have later : ∀ o ∈ opened, o.1 < i + 1 := fun o member => Nat.lt_succ_of_lt (before o member)
    unfold pairFrom
    split
    · refine next _ fun o member => ?_
      rcases List.mem_cons.1 member with rfl | old
      · exact Nat.lt_succ_self i
      · exact later o old
    · split
      · exact next opened later
      · split
        · split
          · exact next _ fun o member => later o (List.mem_cons_of_mem _ member)
          · exact left _ later
        · exact left [] (List.forall_mem_nil _)

/-- A bracket in no pair stands inside of the text. -/
theorem lt_length_of_unpaired {offset : Nat} (member : offset ∈ (pair m).unpaired) : offset < m.length := by
  have inside := unpaired_lt m 0 [] (List.forall_mem_nil _) offset member
  rwa [Nat.zero_add] at inside

end Brackets

namespace Forward

variable {m : List Char}

/-- Code that is found stands inside of the text. -/
theorem lt_length_of_nextCode? {i j : Nat} (found : nextCode? m i = some j) : j < m.length := by
  obtain ⟨n, there, rfl⟩ := Option.map_eq_some_iff.1 found
  have inside := (List.findIdx?_eq_some_iff_getElem.1 there).1
  rw [List.length_drop] at inside
  omega

/-- The colon of a header stands inside of the text. -/
theorem lt_length_of_headerColon? {start colon : Nat}
    (found : headerColon? m (Brackets.pair m) start = some colon) : colon < m.length := by
  by_cases inside : start < m.length
  · rw [headerColon?_step (List.getElem?_eq_getElem inside)] at found
    split at found
    · obtain ⟨j, closed, found⟩ := Option.bind_eq_some_iff.1 found
      have behind := Brackets.lt_of_closer? closed
      exact lt_length_of_headerColon? found
    · split at found
      · cases found
        exact inside
      · split at found
        · cases found
        · exact lt_length_of_headerColon? found
  · rw [headerColon?_eq_none (List.getElem?_eq_none_iff.2 (Nat.le_of_not_lt inside))] at found
    cases found
termination_by m.length - start

/-- A statement ends inside of the text or at its end. -/
theorem statementEnd_le (b : Brackets) {start : Nat} (inside : start ≤ m.length) :
    statementEnd m b start ≤ m.length := by
  have from_place (cs : List Char) (last : Option Char) (skip i : Nat) :
      statementEndFrom b last skip i cs ≤ i + cs.length := by
    induction cs generalizing last skip i with
    | nil =>
      unfold statementEndFrom
      exact Nat.le_refl _
    | cons c rest ih =>
      rw [List.length_cons]
      cases skip with
      | succ skip =>
        have later := ih last skip (i + 1)
        rw [statementEndFrom]
        omega
      | zero =>
        unfold statementEndFrom
        split
        · next closer j _ _ =>
          have later := ih (some closer) (j - i) (i + 1)
          omega
        · split
          · omega
          · split
            · omega
            · split
              · omega
              · have later := ih (if Text.isBlank c then last else some c) 0 (i + 1)
                omega
  have whole := from_place (m.drop start) none 0 start
  rw [List.length_drop] at whole
  unfold statementEnd
  omega

end Forward

namespace Text

theorem lineStart_concat (before : List (List Char)) (text : List Char) :
    lineStart (before ++ [text]) = lineStart before + text.length + 1 := by
  simp [lineStart, Nat.add_assoc]

theorem lineStart_take_succ {lines : List (List Char)} {k : Nat} {text : List Char} (here : lines[k]? = some text) :
    lineStart (lines.take (k + 1)) = lineStart (lines.take k) + text.length + 1 := by
  rw [List.take_add_one, here]
  exact lineStart_concat _ text

theorem lineStart_take_mono (lines : List (List Char)) {j k : Nat} (le : j ≤ k) :
    lineStart (lines.take j) ≤ lineStart (lines.take k) := by
  obtain ⟨more, split⟩ := List.take_prefix_take_left (l := lines) le
  unfold lineStart
  rw [← split, List.map_append, List.sum_append]
  exact Nat.le_add_right _ _

end Text

namespace Indexed

open Text

variable {m : List Char}

/-!
## Lines and offsets
-/

theorem length_offsetsFrom (i : Nat) (cs : List Char) : (offsetsFrom i cs).length + 1 = (lines cs).length := by
  rw [length_lines]
  induction cs generalizing i with
  | nil => rfl
  | cons c rest ih =>
    unfold offsetsFrom
    by_cases newline : (c == '\n') = true
    · rw [if_pos newline, List.length_cons, ih, beq_iff_eq.1 newline, List.count_cons_self]
    · rw [if_neg newline, ih, List.count_cons_of_ne fun same => newline (beq_iff_eq.2 same)]

theorem length_lineOffsets (m : List Char) : (lineOffsets m).length = (lines m).length :=
  length_offsetsFrom 0 m

theorem getElem?_offsetsFrom (i : Nat) (cs : List Char) {k : Nat} (inside : k + 1 < (lines cs).length) :
    (offsetsFrom i cs)[k]? = some (i + lineStart ((lines cs).take (k + 1))) := by
  induction cs generalizing i k with
  | nil => simp [lines] at inside
  | cons c rest ih =>
    unfold offsetsFrom
    by_cases newline : c = '\n'
    · rw [newline, lines_newline_cons] at inside ⊢
      rw [if_pos (beq_self_eq_true _), List.take_succ_cons, lineStart_cons, List.length_nil]
      cases k with
      | zero => rfl
      | succ k =>
        rw [List.length_cons] at inside
        rw [List.getElem?_cons_succ, ih (i + 1) (by omega)]
        congr 1
        omega
    · rw [lines_cons_of_ne newline] at inside ⊢
      rw [List.length_modifyHead] at inside
      rw [if_neg fun same => newline (beq_iff_eq.1 same), ih (i + 1) inside]
      cases pieces : lines rest with
      | nil =>
        rw [pieces] at inside
        cases inside
      | cons first others =>
        rw [List.modifyHead_cons, List.take_succ_cons, List.take_succ_cons, lineStart_cons, lineStart_cons,
          List.length_cons]
        congr 1
        omega

/-- The offset at which a line begins. -/
theorem getElem?_lineOffsets {k : Nat} (inside : k < (lines m).length) :
    (lineOffsets m)[k]? = some (lineStart ((lines m).take k)) := by
  unfold lineOffsets
  cases k with
  | zero => rfl
  | succ k =>
    rw [List.getElem?_cons_succ, getElem?_offsetsFrom 0 m inside, Nat.zero_add]

/-- The position of every offset of a text is found. -/
theorem locate_eq {offset : Nat} (inside : offset ≤ m.length) :
    locate (lineOffsets m) offset = .ok (.ofOffset m offset) := by
  obtain ⟨before, text, after, col, split, le, rfl⟩ := exists_place inside
  have length := length_lineOffsets m
  have among : before.length < (lines m).length := by
    rw [split, List.length_append, List.length_cons]
    omega
  have front : (lines m).take before.length = before := by rw [split, List.take_left]
  have here : (lines m)[before.length]? = some text := by rw [split, List.getElem?_append_right (Nat.le_refl _)]; simp
  -- A line begins at or before the offset if and only if it is not behind the line of the offset.
  have begins {k : Nat} (line : k < (lines m).length) :
      lineStart ((lines m).take k) ≤ lineStart before + col ↔ k ≤ before.length := by
    constructor
    · intro early
      refine Nat.le_of_not_lt fun behind => ?_
      have later := lineStart_take_mono (lines m) (Nat.succ_le_of_lt behind)
      rw [lineStart_take_succ here, front] at later
      omega
    · intro early
      have earlier := lineStart_take_mono (lines m) early
      rw [front] at earlier
      omega
  have found : loop (halve (lineOffsets m) (lineStart before + col)) (lineOffsets m).length
      (0, (lineOffsets m).length - 1) = .ok before.length := by
    refine loop_eq (fun s => s.1 ≤ before.length ∧ before.length ≤ s.2 ∧ s.2 < (lines m).length)
      (fun s => s.2 - s.1) (fun _ => before.length) ?_ ⟨Nat.zero_le _, ?_, ?_⟩ ?_
    · rintro ⟨low, high⟩ ⟨above, below, inside⟩
      dsimp only at above below inside
      unfold halve
      dsimp only
      by_cases more : low < high
      · have middle : (low + high + 1) / 2 < (lines m).length := by omega
        rw [if_neg (by omega), fetch_eq (getElem?_lineOffsets middle)]
        dsimp only [pure, Except.pure, bind, Except.bind]
        by_cases early : (low + high + 1) / 2 ≤ before.length
        · rw [if_pos ((begins middle).2 early)]
          exact Or.inr ⟨_, rfl, ⟨early, below, inside⟩, by dsimp only; omega, rfl⟩
        · rw [if_neg (mt (begins middle).1 early)]
          exact Or.inr ⟨_, rfl, ⟨above, by dsimp only; omega, by dsimp only; omega⟩, by dsimp only; omega, rfl⟩
      · rw [if_pos (by omega)]
        exact Or.inl (congrArg (Except.ok <| Sum.inr ·) (by omega))
    all_goals dsimp only; omega
  unfold locate
  rw [found]
  dsimp only [pure, Except.pure, bind, Except.bind]
  rw [fetch_eq (getElem?_lineOffsets among), front, ofOffset_lineStart split le]
  dsimp only
  rw [Nat.add_sub_cancel_left]

theorem span_eq {start stop : Nat} (first : start ≤ m.length) (last : stop ≤ m.length) :
    span (lineOffsets m) start stop = .ok (.ofOffsets m start stop) := by
  unfold span
  rw [locate_eq first, locate_eq last]
  rfl

/-!
## Brackets
-/

/-- Pairing with a stack of offsets reads the openers that are still open. -/
theorem pairFrom_eq (i : Nat) (opened : List (Nat × Char)) (cs : List Char)
    (opens : ∀ o ∈ opened, m[o.1]? = some o.2) (here : m.drop i = cs) :
    pairFrom m i (opened.map (·.1)) cs = .ok (Brackets.pairFrom i opened cs) := by
  induction cs generalizing i opened with
  | nil => rfl
  | cons c rest ih =>
    have there : m[i]? = some c := by
      rw [← Nat.add_zero i, ← List.getElem?_drop, here]
      rfl
    have behind : m.drop (i + 1) = rest := by
      rw [← List.drop_drop, here]
      rfl
    unfold pairFrom Brackets.pairFrom
    split
    · exact ih (i + 1) ((i, c) :: opened) (List.forall_mem_cons.2 ⟨there, opens⟩) behind
    · cases openerOf? c with
      | none => exact ih (i + 1) opened opens behind
      | some opener =>
        have rest_paired := ih (i + 1) opened opens behind
        cases opened with
        | nil =>
          rw [List.map_nil] at rest_paired ⊢
          dsimp only
          rw [rest_paired]
          rfl
        | cons o outer =>
          obtain ⟨top, outside⟩ := List.forall_mem_cons.1 opens
          rw [List.map_cons] at rest_paired ⊢
          dsimp only
          rw [fetch_eq top, rest_paired, ih (i + 1) outer outside behind]
          dsimp only [pure, Except.pure, bind, Except.bind]
          split <;> rfl

theorem pair_eq (m : List Char) : pairFrom m 0 [] m = .ok (Brackets.pair m) := pairFrom_eq 0 [] m nofun rfl

theorem errorLines_eq (m : List Char) :
    errorLines (lineOffsets m) (Brackets.pair m) = .ok ((Brackets.pair m).errorLines m) := by
  have located : (Brackets.pair m).unpaired.mapM (locate (lineOffsets m)) =
      .ok ((Brackets.pair m).unpaired.map (Position.ofOffset m)) :=
    mapM_eq fun offset member => locate_eq (Nat.le_of_lt (Brackets.lt_length_of_unpaired member))
  unfold errorLines
  rw [located]
  dsimp only [pure, Except.pure, bind, Except.bind]
  rw [List.foldr_map]
  rfl

theorem errorLine_eq (lines : List (List Char)) {line : Nat} (first : 1 ≤ line) :
    errorLine lines line = .ok (.errorLine lines line) := by
  unfold errorLine Sketch.errorLine
  by_cases inside : line ≤ lines.length
  · rw [if_pos inside, lineAt_eq first inside]
    rfl
  · have beyond : lines[line - 1]? = none := List.getElem?_eq_none_iff.2 (by omega)
    rw [if_neg inside, beyond]
    rfl

/-!
## Looking forward
-/

theorem nextCode?_eq (m : List Char) (start : Nat) : nextCode? m start = .ok (Forward.nextCode? m start) := by
  refine loop_eq (fun _ => True) (m.length - ·) (Forward.nextCode? m) (fun i _ => ?_) trivial (by omega)
  unfold codeRound Forward.nextCode?
  by_cases inside : i < m.length
  · obtain ⟨c, rest, here, fetched, behind⟩ := exists_drop_eq inside
    rw [if_neg (by omega), fetched, here, List.findIdx?_cons]
    dsimp only [pure, Except.pure, bind, Except.bind]
    cases isBlank c with
    | true =>
      refine Or.inr ⟨i + 1, rfl, trivial, by omega, ?_⟩
      rw [behind]
      cases rest.findIdx? (!isBlank ·) with
      | none => rfl
      | some n => exact congrArg some (Nat.add_right_comm i 1 n)
    | false => exact Or.inl rfl
  · rw [if_pos (by omega), List.drop_eq_nil_of_le (by omega)]
    exact Or.inl rfl

theorem brace?_eq (m : List Char) (start : Nat) : brace? m start = .ok (Forward.brace? m start) := by
  refine loop_eq (fun _ => True) (m.length - ·) (Forward.brace? m) (fun i _ => ?_) trivial (by omega)
  unfold braceRound Forward.brace?
  by_cases inside : i < m.length
  · obtain ⟨c, rest, here, fetched, behind⟩ := exists_drop_eq inside
    rw [if_neg (by omega), fetched, here, Forward.braceFrom?]
    dsimp only [pure, Except.pure, bind, Except.bind]
    split
    · exact Or.inl rfl
    · split
      · exact Or.inl rfl
      · exact Or.inr ⟨i + 1, rfl, trivial, by omega, by rw [behind]⟩
  · rw [if_pos (by omega), List.drop_eq_nil_of_le (by omega)]
    exact Or.inl rfl

theorem headerColon?_eq (m : List Char) (start : Nat) :
    headerColon? m (Brackets.pair m) start = .ok (Forward.headerColon? m (Brackets.pair m) start) := by
  refine loop_eq (fun _ => True) (m.length - ·) (Forward.headerColon? m (Brackets.pair m)) (fun i _ => ?_) trivial
    (by omega)
  unfold colonRound
  by_cases inside : i < m.length
  · obtain ⟨fetched, here⟩ := exists_fetch inside
    rw [if_neg (by omega), fetched, Forward.headerColon?_step here]
    dsimp only [pure, Except.pure, bind, Except.bind]
    split
    · cases closed : (Brackets.pair m).closer? i with
      | none => exact Or.inl rfl
      | some j =>
        have behind := Brackets.lt_of_closer? closed
        rw [partner_eq closed]
        exact Or.inr ⟨j + 1, rfl, trivial, by omega, rfl⟩
    · split
      · exact Or.inl rfl
      · split
        · exact Or.inl rfl
        · exact Or.inr ⟨i + 1, rfl, trivial, by omega, rfl⟩
  · rw [if_pos (by omega), Forward.headerColon?_eq_none (List.getElem?_eq_none_iff.2 (by omega))]
    exact Or.inl rfl

/-- To step over some characters of a statement means to go on behind them. -/
theorem statementEndFrom_skip (b : Brackets) (last : Option Char) (skip i : Nat) (cs : List Char)
    (inside : skip ≤ cs.length) :
    Forward.statementEndFrom b last skip i cs = Forward.statementEndFrom b last 0 (i + skip) (cs.drop skip) := by
  induction skip generalizing i cs with
  | zero => rfl
  | succ skip ih =>
    cases cs with
    | nil => cases inside
    | cons c rest =>
      rw [Forward.statementEndFrom, ih _ _ (Nat.le_of_succ_le_succ inside), List.drop_succ_cons, Nat.add_right_comm,
        Nat.add_assoc]

/-- A character that is no paired opener ends a statement or is read over. -/
theorem statementEndFrom_of_unpaired {b : Brackets} {last : Option Char} {i : Nat} {c : Char} {rest : List Char}
    (unpaired : closerOf? c = none ∨ b.closer? i = none) :
    Forward.statementEndFrom b last 0 i (c :: rest) =
      if isCloser c then i
      else if c == ';' then i + 1
      else if c == '\n' && last.any (!Forward.continues.contains ·) then i
      else Forward.statementEndFrom b (if isBlank c then last else some c) 0 (i + 1) rest := by
  rw [Forward.statementEndFrom]
  rcases unpaired with none_there | none_there
  · rw [none_there]
  · rw [none_there]
    cases closerOf? c <;> rfl

theorem statementEnd_eq {start : Nat} (inside : start ≤ m.length) :
    statementEnd m (Brackets.pair m) start = .ok (Forward.statementEnd m (Brackets.pair m) start) := by
  refine loop_eq (fun s : Nat × Option Char => s.1 ≤ m.length) (fun s => m.length - s.1)
    (fun s => Forward.statementEndFrom (Brackets.pair m) s.2 0 s.1 (m.drop s.1)) ?_ inside (by dsimp only; omega)
  rintro ⟨i, last⟩ reached
  dsimp only at reached
  unfold statementRound
  dsimp only
  by_cases inside : i < m.length
  · obtain ⟨c, rest, here, fetched, behind⟩ := exists_drop_eq inside
    rw [if_neg (by omega), fetched, here]
    dsimp only [pure, Except.pure, bind, Except.bind]
    by_cases paired : (isOpener c && ((Brackets.pair m).closer? i).isSome) = true
    · rw [if_pos paired]
      obtain ⟨opens, closes⟩ := Bool.and_eq_true_iff.1 paired
      obtain ⟨closer, opener⟩ := Option.isSome_iff_exists.1 opens
      obtain ⟨j, closed⟩ := Option.isSome_iff_exists.1 closes
      have later := Brackets.lt_of_closer? closed
      have far := Brackets.lt_length_of_closer? closed
      have length : m.length = i + rest.length + 1 := by
        have dropped := congrArg List.length here
        rw [List.length_drop, List.length_cons] at dropped
        omega
      have skipped := statementEndFrom_skip (Brackets.pair m) (some closer) (j - i) (i + 1) rest (by omega)
      rw [← behind, List.drop_drop, show i + 1 + (j - i) = j + 1 by omega, behind] at skipped
      rw [Forward.statementEndFrom, partner_eq closed, opener, closed]
      exact Or.inr ⟨_, rfl, by dsimp only; omega, by dsimp only; omega, skipped.symm⟩
    · have unpaired : closerOf? c = none ∨ (Brackets.pair m).closer? i = none := by
        rw [Bool.and_eq_true] at paired
        rcases not_and_or.1 paired with opens | closes
        · exact Or.inl (Option.not_isSome_iff_eq_none.1 opens)
        · exact Or.inr (Option.not_isSome_iff_eq_none.1 closes)
      rw [if_neg paired, statementEndFrom_of_unpaired unpaired]
      split
      · exact Or.inl rfl
      · split
        · exact Or.inl rfl
        · split
          · exact Or.inl rfl
          · exact Or.inr ⟨_, rfl, by dsimp only; omega, by dsimp only; omega, by rw [behind]⟩
  · have done : i = m.length := by omega
    rw [if_pos (by omega), done, List.drop_length]
    exact Or.inl rfl

/-!
## Parameters
-/

/-- There is always something in front of the first separator. -/
theorem getElem?_splitOn (x : Char) (cs : List Char) : (cs.splitOn x)[0]? = some (cs.takeWhile (· != x)) := by
  induction cs with
  | nil => rfl
  | cons c rest ih =>
    rw [List.splitOn_cons_eq_if_modifyHead]
    by_cases here : (c == x) = true
    · rw [if_pos here, List.takeWhile_cons_of_neg (by simpa using here)]
      rfl
    · rw [if_neg here, List.takeWhile_cons_of_pos (by simpa using here)]
      cases pieces : rest.splitOn x with
      | nil =>
        rw [pieces] at ih
        cases ih
      | cons first others =>
        rw [pieces] at ih
        cases ih
        rfl

theorem label_eq (part : List Char) : label part = .ok (Parameters.label part) := by
  unfold label
  rw [fetch_eq (getElem?_splitOn ':' part)]
  dsimp only [pure, Except.pure, bind, Except.bind]
  rw [fetch_eq (getElem?_splitOn '=' _)]
  rfl

theorem countParameters_eq (profile : Profile) (text : List Char) :
    countParameters profile text = .ok (Parameters.count profile text) := by
  unfold countParameters
  rw [mapM_eq fun part _ => label_eq part]
  dsimp only [pure, Except.pure, bind, Except.bind]
  rw [List.filter_map, List.length_map]
  rfl

end Indexed

end LiveLint
