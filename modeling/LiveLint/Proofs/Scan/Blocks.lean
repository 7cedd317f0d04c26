import LiveLint.Proofs.Scan.OutlinesBelow

/-!
# Indented blocks

The block of a header begins with the next line that has code and goes as far as all lines with code are deeper
than the header. The search for its end keeps what is known of the lines that it has read, so it ends at the
last line of the block.
-/

namespace LiveLint

namespace Text

def HasCode (text : List Char) : Prop := ∃ c ∈ text, isBlank c = false

theorem trim_isEmpty_iff {text : List Char} : (trim text).isEmpty = true ↔ ¬HasCode text := by
  rw [List.isEmpty_iff]
  constructor
  · rintro empty ⟨c, member, inky⟩
    rw [isBlank_of_trim empty c member] at inky
    cases inky
  · intro none_inky
    have blank : ∀ c ∈ text, isBlank c = true := fun c member =>
      Bool.of_not_eq_false fun inky => none_inky ⟨c, member, inky⟩
    unfold trim trimLeft
    rw [List.dropWhile_eq_nil_iff.2 blank]
    rfl

/-- Whether a line, counted from one, is there and has code. -/
def CodeAt (lines : List (List Char)) (n : Nat) : Prop := ∃ text ∈ lines[n - 1]?, HasCode text

/-- A line is the next one with code behind another line. -/
structure NextCode (lines : List (List Char)) (line n : Nat) : Prop where
  behind : line < n
  code : CodeAt lines n
  blank : ∀ m, line < m → m < n → ¬CodeAt lines m

theorem exists_nextCode {lines : List (List Char)} {line m : Nat} (behind : line < m) (code : CodeAt lines m) :
    ∃ n ≤ m, NextCode lines line n := by
  induction m using Nat.strongRecOn with
  | ind m ih =>
    by_cases blank : ∀ k, line < k → k < m → ¬CodeAt lines k
    · exact ⟨m, Nat.le_refl m, behind, code, blank⟩
    · simp only [not_forall, not_not] at blank
      obtain ⟨k, behind', lt, code'⟩ := blank
      obtain ⟨n, le, next⟩ := ih k lt behind' code'
      exact ⟨n, Nat.le_trans le (Nat.le_of_lt lt), next⟩

theorem NextCode.le_of_code {lines : List (List Char)} {line n m : Nat} (next : NextCode lines line n)
    (behind : line < m) (code : CodeAt lines m) : n ≤ m :=
  Nat.le_of_not_lt fun lt => next.blank m behind lt code

theorem NextCode.unique {lines : List (List Char)} {line n m : Nat} (next : NextCode lines line n)
    (next' : NextCode lines line m) : n = m :=
  Nat.le_antisymm (next.le_of_code next'.behind next'.code) (next'.le_of_code next.behind next.code)

end Text

namespace Scan.Indent

open Text

/-- The block below a line: it begins with the next line that has code and ends with the last line that has code
before one that is not deeper than the header. -/
structure Block (lines : List (List Char)) (header line first last : Nat) : Prop where
  begins : NextCode lines line first
  le : first ≤ last
  last_code : CodeAt lines last
  deeper : ∀ n, first ≤ n → n ≤ last → ∀ text ∈ lines[n - 1]?, HasCode text → header < width text
  ends : ∀ n, NextCode lines last n → ∀ text ∈ lines[n - 1]?, width text ≤ header

/-- What is known of the lines behind a header, up to a line: all that have code are deeper, and the last of these
is remembered. -/
structure ReadTo (lines : List (List Char)) (header start line : Nat) (last : Option Nat) : Prop where
  le : start ≤ line
  deeper : ∀ n, start < n → n ≤ line → ∀ text ∈ lines[n - 1]?, HasCode text → header < width text
  last_code : ∀ l ∈ last, start < l ∧ l ≤ line ∧ CodeAt lines l
  latest : ∀ n, start < n → n ≤ line → CodeAt lines n → ∃ l ∈ last, n ≤ l

variable {lines : List (List Char)} {header start line : Nat} {last : Option Nat}

/-- A line without code changes nothing. -/
theorem ReadTo.blank (read : ReadTo lines header start line last) {text : List Char}
    (here : lines[line]? = some text) (blank : ¬HasCode text) : ReadTo lines header start (line + 1) last := by
  have not_here : ∀ n, n ≤ line + 1 → (∃ text ∈ lines[n - 1]?, HasCode text) → start < n → n ≤ line := by
    rintro n le ⟨text', there, code⟩ behind
    refine Nat.le_of_lt_succ (Nat.lt_of_le_of_ne le fun same => blank ?_)
    rw [same, Nat.succ_sub_one, here, Option.mem_some] at there
    rwa [there]
  refine ⟨Nat.le_succ_of_le read.le, ?_, ?_, ?_⟩
  · intro n behind le text' there code
    exact read.deeper n behind (not_here n le ⟨text', there, code⟩ behind) text' there code
  · intro l remembered
    obtain ⟨behind, le, code⟩ := read.last_code l remembered
    exact ⟨behind, Nat.le_succ_of_le le, code⟩
  · intro n behind le code
    exact read.latest n behind (not_here n le code behind) code

/-- A deeper line with code is the last one from then on. -/
theorem ReadTo.deep (read : ReadTo lines header start line last) {text : List Char}
    (here : lines[line]? = some text) (code : HasCode text) (deep : header < width text) :
    ReadTo lines header start (line + 1) (some (line + 1)) := by
  refine ⟨Nat.le_succ_of_le read.le, ?_, ?_, ?_⟩
  · intro n behind le text' there code'
    rcases Nat.eq_or_lt_of_le le with rfl | earlier
    · rw [Nat.add_sub_cancel, here, Option.mem_some] at there
      rwa [← there]
    · exact read.deeper n behind (Nat.le_of_lt_succ earlier) text' there code'
  · rintro l ⟨⟩
    exact ⟨Nat.lt_succ_of_le read.le, Nat.le_refl _, text, here, code⟩
  · intro n behind le _
    exact ⟨line + 1, rfl, le⟩

/-- The search for the end of a block stops behind the last line, or in front of one with code that is not
deeper. -/
theorem exists_readTo_blockEnd (read : ReadTo lines header start line last) :
    ∃ stop, ReadTo lines header start stop (blockEnd header (line + 1) last (lines.drop line)) ∧
      ∀ text ∈ lines[stop]?, HasCode text ∧ width text ≤ header := by
  induction rest : lines.drop line generalizing line last with
  | nil =>
    refine ⟨line, read, fun text there => ?_⟩
    rw [List.getElem?_eq_none (List.drop_eq_nil_iff.1 rest)] at there
    cases there
  | cons text others ih =>
    have here : lines[line]? = some text := by rw [← List.head?_drop, rest, List.head?_cons]
    have later : lines.drop (line + 1) = others := by
      rw [← List.drop_drop, rest]
      rfl
    unfold blockEnd
    split
    · next blank => exact ih (read.blank here (trim_isEmpty_iff.1 blank)) later
    · next inked =>
      have code : HasCode text := not_not.1 (mt trim_isEmpty_iff.2 inked)
      split
      · next shallow =>
        refine ⟨line, read, fun text' there => ?_⟩
        rw [here, Option.mem_some] at there
        exact there ▸ ⟨code, shallow⟩
      · next deep => exact ih (read.deep here code (Nat.lt_of_not_le deep)) later

/-- The end that is found is the end of the block. -/
theorem block_of_blockEnd {first l : Nat} (next : NextCode lines start first)
    (found : blockEnd header (start + 1) none (lines.drop start) = some l) :
    Block lines header start first l := by
  have begun : ReadTo lines header start start none := ⟨Nat.le_refl _, by omega, nofun, by omega⟩
  obtain ⟨stop, read, ended⟩ := exists_readTo_blockEnd begun
  rw [found] at read
  obtain ⟨behind, le, code⟩ := read.last_code l rfl
  have first_le := next.le_of_code behind code
  refine ⟨next, first_le, code, ?_, ?_⟩
  · intro n from_first to_last
    exact read.deeper n (Nat.lt_of_lt_of_le next.behind from_first) (Nat.le_trans to_last le)
  · intro n beyond text there
    -- The lines up to the place where the search stopped have no code behind the last one.
    have past : stop < n := by
      by_contra early
      obtain ⟨_, ⟨⟩, le'⟩ := read.latest n (Nat.lt_trans behind beyond.behind) (Nat.le_of_not_lt early) beyond.code
      exact absurd beyond.behind (Nat.not_lt_of_le le')
    have inside : stop < lines.length := by
      have := (List.getElem?_eq_some_iff.1 there).1
      omega
    have here := ended lines[stop] (List.getElem?_eq_getElem inside)
    have same : n = stop + 1 := by
      refine Nat.le_antisymm (beyond.le_of_code (Nat.lt_succ_of_le le) ?_) past
      exact ⟨lines[stop], List.getElem?_eq_getElem inside, here.1⟩
    rw [same, Nat.add_sub_cancel] at there
    exact (ended text there).2

/-- A block has an end if the next line with code is deeper than the header. -/
theorem blockEnd_ne_none {first : Nat} (next : NextCode lines start first)
    (deep : ∀ text ∈ lines[first - 1]?, header < width text) :
    blockEnd header (start + 1) none (lines.drop start) ≠ none := by
  intro none_found
  have begun : ReadTo lines header start start none := ⟨Nat.le_refl _, by omega, nofun, by omega⟩
  obtain ⟨stop, read, ended⟩ := exists_readTo_blockEnd begun
  rw [none_found] at read
  obtain ⟨text, there, code⟩ := next.code
  have past : stop < first := by
    by_contra early
    obtain ⟨_, ⟨⟩, _⟩ := read.latest first next.behind (Nat.le_of_not_lt early) ⟨text, there, code⟩
  have inside : stop < lines.length := by
    have := (List.getElem?_eq_some_iff.1 there).1
    omega
  have here := ended lines[stop] (List.getElem?_eq_getElem inside)
  have same : first = stop + 1 := by
    refine Nat.le_antisymm (next.le_of_code (Nat.lt_succ_of_le read.le) ?_) past
    exact ⟨lines[stop], List.getElem?_eq_getElem inside, here.1⟩
  have shallow := here.2
  have := deep lines[stop] (by rw [same, Nat.add_sub_cancel]; exact List.getElem?_eq_getElem inside)
  omega

theorem exists_block {first : Nat} (next : NextCode lines start first)
    (deep : ∀ text ∈ lines[first - 1]?, header < width text) : ∃ last, Block lines header start first last := by
  obtain ⟨last, found⟩ := Option.ne_none_iff_exists'.1 (blockEnd_ne_none next deep)
  exact ⟨last, block_of_blockEnd next found⟩

/-- What is behind a colon: code on its line, which is the body then, or an indented block below it. -/
inductive BodyBehind (lines : List (List Char)) (header : Nat) (colon : Position) (body : Sketch) : Prop where
  | line {text : List Char} (here : lines[colon.line - 1]? = some text)
      (code : HasCode (text.drop (colon.col + 1)))
      (span : body.span = ⟨⟨colon.line, colon.col + 1 + leadingBlanks (text.drop (colon.col + 1))⟩,
        ⟨colon.line, (trimRight text).length⟩⟩)
  | block {first last : Nat} (blank : ∀ text ∈ lines[colon.line - 1]?, ¬HasCode (text.drop (colon.col + 1)))
      (block : Block lines header colon.line first last)
      (span : body.span = ⟨⟨first, leadingBlanks ((lines[first - 1]?).getD [])⟩,
        ⟨last, (trimRight ((lines[last - 1]?).getD [])).length⟩⟩)

/-- To skip the lines without code leads to the next one that has code. -/
theorem nextCode_of_takeWhile {start : Nat}
    (more : ((lines.drop start).takeWhile fun text => (trim text).isEmpty).length < (lines.drop start).length) :
    NextCode lines start
      (start + 1 + ((lines.drop start).takeWhile fun text => (trim text).isEmpty).length) := by
  have parts := List.takeWhile_append_dropWhile (p := fun text => (trim text).isEmpty) (l := lines.drop start)
  have stops := List.head?_dropWhile_not (fun text => (trim text).isEmpty) (lines.drop start)
  have blank : ∀ text ∈ (lines.drop start).takeWhile fun text => (trim text).isEmpty, ¬HasCode text :=
    fun text member => trim_isEmpty_iff.1 (List.mem_takeWhile_imp (p := fun text => (trim text).isEmpty) member)
  generalize (lines.drop start).takeWhile (fun text => (trim text).isEmpty) = skipped at *
  generalize (lines.drop start).dropWhile (fun text => (trim text).isEmpty) = others at *
  have place (n : Nat) (behind : start < n) : lines[n - 1]? = (skipped ++ others)[n - 1 - start]? := by
    rw [parts, List.getElem?_drop]
    congr 1
    omega
  obtain ⟨text, rest, rfl⟩ : ∃ text rest, others = text :: rest := by
    refine List.exists_cons_of_ne_nil fun empty => ?_
    rw [← parts, empty, List.append_nil] at more
    exact Nat.lt_irrefl _ more
  refine ⟨by omega, ⟨text, ?_, ?_⟩, ?_⟩
  · rw [place _ (by omega), show start + 1 + skipped.length - 1 - start = skipped.length by omega,
      List.getElem?_append_right (Nat.le_refl _), Nat.sub_self, List.getElem?_cons_zero]
    rfl
  · refine not_not.1 (mt trim_isEmpty_iff.2 ?_)
    simpa using stops
  · rintro m behind lt ⟨text', there, code⟩
    rw [place m behind, List.getElem?_append_left (by omega)] at there
    exact blank text' (List.mem_of_getElem? there) code

variable {colon : Position} {body : Sketch}

/-- A body that is found is what is behind the colon. -/
theorem bodyBehind_of_body? (there : colon.line ≤ lines.length) (first : 1 ≤ colon.line)
    (found : body? lines colon header = some body) : BodyBehind lines header colon body := by
  unfold body? at found
  dsimp only at found
  have here : lines[colon.line - 1]? = some ((lines[colon.line - 1]?).getD []) := by
    rw [List.getElem?_eq_getElem (by omega), Option.getD_some]
  split at found
  · next code =>
    cases found
    rw [Bool.not_eq_true', ← Bool.not_eq_true, trim_isEmpty_iff, not_not] at code
    exact .line here code rfl
  · next blank =>
    rw [Bool.not_eq_true', ← Bool.not_eq_true, trim_isEmpty_iff, not_not] at blank
    split at found
    · cases found
    · next last ended =>
      cases found
      have more : ((lines.drop colon.line).takeWhile fun text => (trim text).isEmpty).length <
          (lines.drop colon.line).length := by
        rcases bounds_of_blockEnd ended with none_yet | ⟨lower, upper⟩
        · cases none_yet
        · omega
      refine .block (fun text is => ?_) (block_of_blockEnd (nextCode_of_takeWhile more) ended) rfl
      rw [here, Option.mem_some] at is
      rwa [← is]

/-- A header has a body if the next line with code behind its colon is deeper. -/
theorem body?_ne_none {first : Nat} (next : NextCode lines colon.line first)
    (deep : ∀ text ∈ lines[first - 1]?, header < width text) : body? lines colon header ≠ none := by
  unfold body?
  dsimp only
  split
  · exact Option.some_ne_none _
  · split
    · next none_found => exact absurd none_found (blockEnd_ne_none next deep)
    · exact Option.some_ne_none _

end Scan.Indent

end LiveLint
