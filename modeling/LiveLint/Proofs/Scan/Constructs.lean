import LiveLint.Proofs.Scan.Blocks
import LiveLint.Proofs.Scan.Colons
import LiveLint.Proofs.Scan.Headers
import LiveLint.Proofs.Scan.Shapes

/-!
# Where constructs with indented blocks lie

Whatever is found in a text with indented blocks begins and ends with code. It lies on one line, between two
paired brackets, or it is a header with its body behind a colon; a header goes on in another line only inside of
brackets. No two headers stand on one line.
-/

namespace LiveLint

/-!
## Offsets and lines
-/

namespace Text

variable {cs text : List Char} {before after : List (List Char)}

/-- Every offset of a text lies in one of its lines or at the end of it. -/
theorem exists_place {i : Nat} (inside : i ≤ cs.length) :
    ∃ before text after col, lines cs = before ++ text :: after ∧ col ≤ text.length ∧ i = lineStart before + col := by
  induction pieces : lines cs generalizing cs i with
  | nil =>
    have length := length_lines cs
    rw [pieces] at length
    cases length
  | cons first rest ih =>
    by_cases here : i ≤ first.length
    · exact ⟨[], first, rest, i, rfl, here, (Nat.zero_add i).symm⟩
    · obtain ⟨behind, rfl, rest_eq⟩ : ∃ behind, cs = first ++ '\n' :: behind ∧ lines behind = rest := by
        refine lines_eq_cons (fun empty => here ?_) pieces
        have joined : ['\n'].intercalate (lines cs) = cs := List.intercalate_splitOn '\n'
        rw [pieces, empty, List.intercalate_singleton] at joined
        rwa [joined]
      rw [List.length_append, List.length_cons] at inside
      obtain ⟨before, text, after, col, split, le, there⟩ :=
        ih (i := i - (first.length + 1)) (by omega) rest_eq
      refine ⟨first :: before, text, after, col, by rw [split, List.cons_append], le, ?_⟩
      rw [lineStart_cons]
      omega

/-- The characters of a line are those behind its first offset. -/
theorem getElem?_lineStart (split : lines cs = before ++ text :: after) {col : Nat} (lt : col < text.length) :
    cs[lineStart before + col]? = text[col]? := by
  induction before generalizing cs with
  | nil =>
    obtain ⟨behind, rfl⟩ := exists_of_lines_eq_cons split
    rw [show lineStart [] + col = col from Nat.zero_add col, List.getElem?_append_left lt]
  | cons first others ih =>
    obtain ⟨behind, rfl, rest⟩ := lines_eq_cons (by simp) split
    rw [lineStart_cons, Nat.add_assoc, List.getElem?_append_right (by omega),
      show first.length + 1 + (lineStart others + col) - first.length = lineStart others + col + 1 by omega,
      List.getElem?_cons_succ, ih rest]

/-- A line ends with a newline or with the text. -/
theorem getElem?_lineEnd (split : lines cs = before ++ text :: after) :
    ∀ c ∈ cs[lineStart before + text.length]?, c = '\n' := by
  induction before generalizing cs with
  | nil =>
    rw [show lineStart [] + text.length = text.length from Nat.zero_add _]
    rcases after with - | ⟨next, others⟩
    · have joined : ['\n'].intercalate (lines cs) = cs := List.intercalate_splitOn '\n'
      rw [split, List.nil_append, List.intercalate_singleton] at joined
      rw [← joined, List.getElem?_eq_none (Nat.le_refl _)]
      exact nofun
    · obtain ⟨behind, rfl, -⟩ := lines_eq_cons (List.cons_ne_nil next others) split
      rw [List.getElem?_append_right (Nat.le_refl _), Nat.sub_self]
      rintro c ⟨⟩
      rfl
  | cons first others ih =>
    obtain ⟨behind, rfl, rest⟩ := lines_eq_cons (by simp) split
    rw [lineStart_cons, Nat.add_assoc, List.getElem?_append_right (by omega),
      show first.length + 1 + (lineStart others + text.length) - first.length =
        lineStart others + text.length + 1 by omega, List.getElem?_cons_succ]
    exact ih rest

/-- A character other than a newline stands in a line. -/
theorem exists_line_of_getElem? {i : Nat} {c : Char} (there : cs[i]? = some c) (other : c ≠ '\n') :
    ∃ before text after col, lines cs = before ++ text :: after ∧ i = lineStart before + col ∧
      text[col]? = some c := by
  obtain ⟨before, text, after, col, split, le, rfl⟩ :=
    exists_place (Nat.le_of_lt (List.getElem?_eq_some_iff.1 there).1)
  refine ⟨before, text, after, col, split, rfl, ?_⟩
  rcases Nat.eq_or_lt_of_le le with rfl | lt
  · exact absurd (getElem?_lineEnd split c there) other
  · rw [← getElem?_lineStart split lt]
    exact there

/-- The line behind some others has their number and one more. -/
theorem getElem?_line (split : lines cs = before ++ text :: after) :
    (lines cs)[before.length + 1 - 1]? = some text := by
  rw [split, Nat.add_sub_cancel, List.getElem?_append_right (Nat.le_refl _), Nat.sub_self, List.getElem?_cons_zero]

end Text

namespace Position

/-- Between two offsets on different lines there is a newline at the end of each line from the first one on. -/
theorem exists_newline (cs : List Char) {i j n : Nat} (le : i ≤ j) (first : (ofOffset cs i).line ≤ n)
    (last : n < (ofOffset cs j).line) :
    ∃ k, i ≤ k ∧ k < j ∧ cs[k]? = some '\n' ∧ (ofOffset cs k).line = n ∧ (ofOffset cs (k + 1)).line = n + 1 := by
  induction j, le using Nat.le_induction with
  | base => exact absurd last (Nat.not_lt_of_le first)
  | succ j le ih =>
    by_cases earlier : n < (ofOffset cs j).line
    · obtain ⟨k, from_first, before, newline, here, next⟩ := ih earlier
      exact ⟨k, from_first, Nat.lt_succ_of_lt before, newline, here, next⟩
    · have step : (ofOffset cs (j + 1)).line =
          (ofOffset cs j).line + (cs[j]?.toList).count '\n' := by
        rw [line_ofOffset, line_ofOffset, List.take_add_one, List.count_append, Nat.add_assoc]
      rw [step] at last
      have newline : cs[j]? = some '\n' := by
        cases there : cs[j]? with
        | none =>
          rw [there] at last
          exact absurd last earlier
        | some c =>
          rw [there, Option.toList_some, List.count_singleton] at last
          split at last
          · next same => rw [eq_of_beq same]
          · exact absurd last earlier
      rw [newline] at last step
      change n < (ofOffset cs j).line + 1 at last
      change _ = (ofOffset cs j).line + 1 at step
      exact ⟨j, le, Nat.lt_succ_self j, newline, by omega, by omega⟩

end Position

/-!
## Findings
-/

theorem isBlank_of_isOpener {c : Char} (opener : isOpener c = true) : Text.isBlank c = false := by
  unfold isOpener closerOf? at opener
  split at opener
  case h_4 => cases opener
  all_goals rfl

theorem isBlank_of_isCloser {c : Char} (closer : isCloser c = true) : Text.isBlank c = false := by
  unfold isCloser openerOf? at closer
  split at closer
  case h_4 => cases closer
  all_goals rfl

namespace Text

/-- Behind the blanks that a line begins with there is code, if it has any. -/
theorem code_at_leadingBlanks {text : List Char} (code : HasCode text) :
    ∃ x, text[leadingBlanks text]? = some x ∧ isBlank x = false := by
  obtain ⟨c, member, inky⟩ := code
  have stops := List.head?_dropWhile_not isBlank text
  cases rest : text.dropWhile isBlank with
  | nil =>
    rw [List.dropWhile_eq_nil_iff.1 rest c member] at inky
    cases inky
  | cons x others =>
    rw [rest] at stops
    refine ⟨x, ?_, by simpa using stops⟩
    have parts : text.takeWhile isBlank ++ x :: others = text := by
      rw [← rest, List.takeWhile_append_dropWhile]
    calc text[leadingBlanks text]?
        = (text.takeWhile isBlank ++ x :: others)[(text.takeWhile isBlank).length]? := by
          rw [parts]
          rfl
      _ = some x := by rw [List.getElem?_append_right (Nat.le_refl _), Nat.sub_self, List.getElem?_cons_zero]

/-- The place of a character of code is on a line, and the next offset has the next place there. -/
theorem code_at_ofOffset {cs : List Char} {i : Nat} {c : Char} (there : cs[i]? = some c) (inky : isBlank c = false) :
    ∃ text ∈ (lines cs)[(Position.ofOffset cs i).line - 1]?, text[(Position.ofOffset cs i).col]? = some c ∧
      Position.ofOffset cs (i + 1) = ⟨(Position.ofOffset cs i).line, (Position.ofOffset cs i).col + 1⟩ := by
  have other : c ≠ '\n' := by
    rintro rfl
    cases inky
  obtain ⟨before, text, after, col, split, rfl, here⟩ := exists_line_of_getElem? there other
  have lt := (List.getElem?_eq_some_iff.1 here).1
  have place := ofOffset_lineStart split (Nat.le_of_lt lt)
  have next := ofOffset_lineStart split (Nat.succ_le_of_lt lt)
  rw [place, Nat.add_assoc]
  exact ⟨text, getElem?_line split, here, next⟩

/-- No code stands in the blanks that a line begins with. -/
theorem leadingBlanks_le {text : List Char} {i : Nat} {x : Char} (here : text[i]? = some x)
    (inky : isBlank x = false) : leadingBlanks text ≤ i := by
  by_contra early
  have lt : i < (text.takeWhile isBlank).length := Nat.lt_of_not_le early
  have parts := List.takeWhile_append_dropWhile (p := isBlank) (l := text)
  rw [← parts, List.getElem?_append_left lt] at here
  rw [List.mem_takeWhile_imp (List.mem_of_getElem? here)] at inky
  cases inky

end Text

namespace Scan.Indent

open Text Text.Pattern

/-- A span begins with a character of code and ends no later than the code of its last line. -/
structure OnCode (lines : List (List Char)) (span : Span) : Prop where
  starts : ∃ text ∈ lines[span.start.line - 1]?, ∃ x, text[span.start.col]? = some x ∧ isBlank x = false
  stops : ∃ text ∈ lines[span.stop.line - 1]?, span.stop.col ≤ (trimRight text).length

theorem BodyBehind.onCode {lines : List (List Char)} {header : Nat} {colon : Position} {body : Sketch}
    (behind : BodyBehind lines header colon body) : OnCode lines body.span := by
  cases behind with
  | @line text here code span =>
    obtain ⟨x, there, inky⟩ := code_at_leadingBlanks code
    rw [List.getElem?_drop] at there
    rw [span]
    exact ⟨⟨text, here, x, there, inky⟩, ⟨text, here, Nat.le_refl _⟩⟩
  | @block first last blank block span =>
    obtain ⟨text, here, code⟩ := block.begins.code
    obtain ⟨text', here', -⟩ := block.last_code
    rw [Option.mem_def] at here here'
    rw [span, here, here']
    obtain ⟨x, there, inky⟩ := code_at_leadingBlanks code
    exact ⟨⟨text, here, x, there, inky⟩, ⟨text', here', Nat.le_refl _⟩⟩

/-- A header on a line behind some others, with its body behind a colon. All newlines between the two stand inside
of brackets. -/
structure Headed (s : Source) (before : List (List Char)) (text : List Char) (colon : Nat)
    (owner body : Sketch) : Prop where
  line : ∃ after, s.lines = before ++ text :: after
  code : HasCode text
  span : owner.span = ⟨⟨before.length + 1, leadingBlanks text⟩, body.span.stop⟩
  le_colon : lineStart before ≤ colon
  newlines : ∀ k, lineStart before ≤ k → k < colon → s.masked[k]? = some '\n' → s.brackets.Around 0 k
  behind : BodyBehind s.lines (width text) (.ofOffset s.masked colon) body

/-- What is found with a body begins and ends with code. -/
theorem Headed.onCode {s : Source} {before : List (List Char)} {text : List Char} {colon : Nat}
    {owner body : Sketch} (headed : Headed s before text colon owner body) : OnCode s.lines owner.span := by
  obtain ⟨after, line⟩ := headed.line
  obtain ⟨x, there, inky⟩ := code_at_leadingBlanks headed.code
  rw [headed.span]
  refine ⟨⟨text, ?_, x, there, inky⟩, headed.behind.onCode.stops⟩
  rw [line, Nat.add_sub_cancel, List.getElem?_append_right (Nat.le_refl _), Nat.sub_self, List.getElem?_cons_zero]
  rfl

/-- What stands between paired brackets, with the brackets, begins and ends with code. -/
theorem onCode_of_pair {s : Source} (of : s.OfText) {pair : Nat × Nat} (member : pair ∈ s.brackets.pairs) :
    OnCode s.lines (.ofOffsets s.masked pair.1 (pair.2 + 1)) := by
  rw [of.brackets] at member
  obtain ⟨c, there, opener⟩ := (Brackets.matched_pair s.masked).opens pair member
  obtain ⟨d, there', closer⟩ := (Brackets.matched_pair s.masked).closes pair member
  have inky := isBlank_of_isOpener opener
  have inky' := isBlank_of_isCloser closer
  obtain ⟨text, among, here, -⟩ := code_at_ofOffset there inky
  obtain ⟨text', among', here', next⟩ := code_at_ofOffset there' inky'
  rw [of.lines]
  refine ⟨⟨text, among, c, here, inky⟩, ⟨text', ?_, ?_⟩⟩
  · unfold Span.ofOffsets
    rw [next]
    exact among'
  · unfold Span.ofOffsets
    rw [next]
    exact lt_length_trimRight here' inky'

/-- Where a finding lies: on one line, between brackets, or as a header with a body. -/
inductive Laid (s : Source) : Finding → Prop where
  | flat {sketch : Sketch} (line : sketch.span.stop.line = sketch.span.start.line)
      (on : OnCode s.lines sketch.span) : Laid s (.plain sketch)
  | between {sketch : Sketch} {pair : Nat × Nat} (member : pair ∈ s.brackets.pairs)
      (span : sketch.span = .ofOffsets s.masked pair.1 (pair.2 + 1)) : Laid s (.plain sketch)
  | block {owner body : Sketch} {before : List (List Char)} {text : List Char} {colon : Nat}
      (headed : Headed s before text colon owner body) : Laid s (.block owner body)

variable {profile : Profile} {s : Source} {before after : List (List Char)} {text : List Char} {hit : Hit}

theorem HeaderLine.hasCode (header : HeaderLine text hit) : HasCode text := by
  by_contra none_inky
  have blank : ∀ c ∈ text, isBlank c = true := fun c member =>
    Bool.of_not_eq_false fun inky => none_inky ⟨c, member, inky⟩
  have all : leadingBlanks text = text.length := by
    unfold leadingBlanks
    rw [List.takeWhile_eq_self_iff.2 blank]
  have := header.lt_stop
  have := header.stop_le
  omega

/-- A header with the body behind the colon that ends it. -/
theorem headed_of_headerBody (of : s.OfText) (line : s.lines = before ++ text :: after)
    (header : HeaderLine text hit) {start : Nat} (behind : lineStart before + hit.stop ≤ start)
    (newlines : ∀ k, lineStart before + hit.stop ≤ k → k < start → s.masked[k]? = some '\n' →
      s.brackets.Around 0 k)
    {body : Sketch}
    (found : (do
      let colon ← Forward.headerColon? s.masked s.brackets start
      body? s.lines (.ofOffset s.masked colon) (expandTabs (hit.text text .indent)).length) = some body) :
    ∃ colon, Forward.headerColon? s.masked s.brackets start = some colon ∧ ∀ owner : Sketch,
      owner.span = ⟨⟨before.length + 1, (hit.text text .indent).length⟩, body.span.stop⟩ →
      Headed s before text colon owner body := by
  obtain ⟨colon, seen, found⟩ := Option.bind_eq_some_iff.1 found
  have lines := of.lines
  have brackets := of.brackets
  rw [← header.width_eq] at found
  have ends := Forward.endsHeader_of_passed (Forward.passed_self s.masked start) (brackets ▸ seen)
  have from_start := ends.le
  refine ⟨colon, seen, fun owner span => ?_⟩
  rw [header.indent] at span
  refine ⟨⟨after, line⟩, header.hasCode, span, by omega, ?_, ?_⟩
  · intro k from_line lt newline
    by_cases in_line : k < lineStart before + text.length
    · -- No line has a newline in it.
      have there := getElem?_lineStart (lines ▸ line) (show k - lineStart before < text.length by omega)
      rw [show lineStart before + (k - lineStart before) = k by omega, newline] at there
      have among : text ∈ Text.lines s.masked := by
        rw [← lines, line]
        exact List.mem_append_right _ (List.mem_cons_self ..)
      have free : '\n' ∉ text := newline_not_mem_lines among
      exact absurd (List.mem_of_getElem? there.symm) free
    · have := header.stop_le
      by_cases early : k < start
      · exact newlines k (by omega) early newline
      · obtain ⟨pair, member, -, around⟩ := ends.first k (Nat.le_of_not_lt early) lt (Or.inr newline)
        exact ⟨pair, brackets ▸ member, Nat.zero_le _, around⟩
  · refine bodyBehind_of_body? ?_ (Position.one_le_line_ofOffset s.masked colon) found
    rw [lines]
    exact Position.line_ofOffset_le s.masked colon

/-- The code of a line, from its first character to its last one. -/
theorem onCode_of_line {lines : List (List Char)} {n : Nat} (here : lines[n - 1]? = some text) (code : HasCode text) :
    OnCode lines ⟨⟨n, leadingBlanks text⟩, ⟨n, (trimRight text).length⟩⟩ := by
  obtain ⟨x, there, inky⟩ := code_at_leadingBlanks code
  exact ⟨⟨text, here, x, there, inky⟩, ⟨text, here, Nat.le_refl _⟩⟩

theorem laid_of_mem_functionAt (of : s.OfText) (line : s.lines = before ++ text :: after)
    (found : hit? functionHeader text = some hit) {f : Finding}
    (member : f ∈ functionAt profile s (before.length + 1) (lineStart before) text hit) : Laid s f := by
  have header := (headerLine_of_functionHeader found).1
  have here : s.lines[before.length + 1 - 1]? = some text := by
    rw [of.lines]
    exact getElem?_line (of.lines ▸ line)
  unfold functionAt at member
  dsimp only at member
  split at member
  · cases member
  · next close closed =>
    have paired : (lineStart before + hit.stop - 1, close) ∈ s.brackets.pairs := by
      rw [of.brackets] at closed ⊢
      exact Brackets.closer?_eq_some_iff.1 closed
    have opened := closed
    rw [of.brackets] at opened
    have behind := Brackets.lt_of_closer? opened
    have some_hit := header.lt_stop
    split at member
    · rw [List.mem_singleton.1 member]
      refine .flat rfl ?_
      unfold Sketch.errorLine
      rw [here]
      exact onCode_of_line here header.hasCode
    · next body seen =>
      have newlines : ∀ k, lineStart before + hit.stop ≤ k → k < close + 1 → s.masked[k]? = some '\n' →
          s.brackets.Around 0 k := by
        intro k from_paren before_close newline
        refine ⟨_, paired, Nat.zero_le _, by dsimp only; omega, ?_⟩
        refine Nat.lt_of_le_of_ne (Nat.le_of_lt_succ before_close) ?_
        rintro rfl
        rw [of.brackets] at paired
        obtain ⟨c, there, closer⟩ := (Brackets.matched_pair s.masked).closes _ paired
        dsimp only at there
        rw [newline] at there
        cases there
        exact absurd closer (by decide)
      rcases List.mem_cons.1 member with rfl | member
      · obtain ⟨colon, -, headed⟩ := headed_of_headerBody of line header (by omega) newlines seen
        exact .block (headed _ rfl)
      · rw [List.mem_singleton.1 member]
        exact .between paired rfl

theorem laid_of_mem_loopAt (of : s.OfText) (line : s.lines = before ++ text :: after)
    (found : hit? loopHeader text = some hit) {f : Finding}
    (member : f ∈ loopAt s (before.length + 1) (lineStart before) text hit) : Laid s f := by
  unfold loopAt at member
  dsimp only at member
  split at member
  · cases member
  · next body seen =>
    rw [List.mem_singleton.1 member]
    obtain ⟨colon, -, headed⟩ := headed_of_headerBody of line (headerLine_of_loopHeader found).1
      (Nat.le_refl _) (by omega) seen
    exact .block (headed _ rfl)

/-- What is found on a line is found in the text. -/
theorem mem_findings_of_line (line : s.lines = before ++ text :: after) {f : Finding}
    (member : f ∈ lineFindings profile s (before.length + 1) (lineStart before) text) : f ∈ findings profile s := by
  have from_line (above : List (List Char)) (first offset : Nat)
      (member : f ∈ lineFindings profile s (first + above.length) (offset + lineStart above) text) :
      f ∈ findingsFrom profile s first offset (above ++ text :: after) := by
    induction above generalizing first offset with
    | nil => exact List.mem_append_left _ member
    | cons next others ih =>
      refine List.mem_append_right _ (ih (first + 1) (offset + next.length + 1) ?_)
      rw [lineStart_cons, List.length_cons] at member
      rwa [show first + 1 + others.length = first + (others.length + 1) by omega,
        show offset + next.length + 1 + lineStart others = offset + (next.length + 1 + lineStart others) by omega]
  unfold findings
  rw [line]
  refine from_line before 1 0 ?_
  rwa [Nat.add_comm 1, Nat.zero_add]

theorem laid_of_mem_findings (of : s.OfText) {f : Finding} (member : f ∈ findings profile s) : Laid s f := by
  obtain ⟨before, text, after, line, member⟩ := exists_line_of_mem_findings member
  unfold lineFindings at member
  split at member
  · next header => exact laid_of_mem_functionAt of line header member
  · split at member
    · next header => exact laid_of_mem_loopAt of line header member
    · unfold constantAt at member
      split at member
      · next found =>
        split at member
        · rw [List.mem_singleton.1 member]
          have code : HasCode text := by
            by_contra none_inky
            have blank : BlankLine text := by
              refine ⟨fun c member => Bool.of_not_eq_false fun inky => none_inky ⟨c, member, inky⟩, ?_⟩
              have among : text ∈ Text.lines s.masked := by
                rw [← of.lines, line]
                exact List.mem_append_right _ (List.mem_cons_self ..)
              exact newline_not_mem_lines among
            have is_inked : constant.inked = true := by decide +kernel
            rw [hit?_blank is_inked blank] at found
            cases found
          refine .flat rfl (onCode_of_line ?_ code)
          rw [of.lines]
          exact getElem?_line (of.lines ▸ line)
        · cases member
      · cases member

end Scan.Indent

theorem Scan.Leaves.PatternOf.bold_tight {kind : NodeKind} {p : Text.Pattern} (pattern : PatternOf kind p) :
    p.bold = true ∧ p.tight = true := by
  cases pattern with
  | call style => cases style <;> decide +kernel
  | number | comparison => decide +kernel

/-- Leaves lie on one line. -/
theorem Scan.Leaves.laid_of_mem_findings {profile : Profile} {s : Indent.Source} {f : Finding}
    (member : f ∈ findings profile s.lines) : Indent.Laid s f := by
  cases found_of_mem_findings member with
  | @leaf n text p hit sketch line pattern among span =>
    have on := Text.Pattern.onCode_of_mem_hits pattern.bold_tight.1 pattern.bold_tight.2 among
    refine .flat (by rw [span]) ?_
    rw [span]
    exact ⟨⟨text, line, on.starts⟩, ⟨text, line, on.stop_le⟩⟩

/-!
## Drafts
-/

/-- What was found together. -/
def Finding.sketches : Finding → List Sketch
  | .plain sketch => [sketch]
  | .block owner body => [owner, body]

/-- Whether something is a function or a loop that begins on a line. -/
def Sketch.opens (n : Nat) (s : Sketch) : Bool := (s.kind == .function || s.kind == .loop) && s.span.start.line == n

theorem Sketch.opens_iff {n : Nat} {s : Sketch} :
    s.opens n = true ↔ (s.kind = .function ∨ s.kind = .loop) ∧ s.span.start.line = n := by
  unfold opens
  rw [Bool.and_eq_true, Bool.or_eq_true, beq_iff_eq, beq_iff_eq, beq_iff_eq]

namespace Draft

theorem number_sketches (n : Nat) (findings : List Finding) :
    (number n findings).map (·.toSketch) = findings.flatMap Finding.sketches := by
  induction findings generalizing n with
  | nil => rfl
  | cons f rest ih =>
    cases f with
    | plain sketch => rw [number, List.map_cons, ih, List.flatMap_cons, Finding.sketches, List.singleton_append]
    | block owner body =>
      rw [number, List.map_cons, List.map_cons, ih, List.flatMap_cons, Finding.sketches, List.cons_append,
        List.singleton_append]

/-- What a numbered draft was found as. -/
theorem found_of_mem_number {n : Nat} {findings : List Finding} {d : Draft} (member : d ∈ number n findings) :
    .plain d.toSketch ∈ findings ∨
      (∃ b ∈ number n findings, d.body = some b.id ∧ .block d.toSketch b.toSketch ∈ findings) ∨
      ∃ o ∈ number n findings, o.body = some d.id ∧ .block o.toSketch d.toSketch ∈ findings := by
  induction findings generalizing n with
  | nil => cases member
  | cons f rest ih =>
    have later {n' : Nat} (more : ∀ x ∈ number n' rest, x ∈ number n (f :: rest)) (member : d ∈ number n' rest) :
        .plain d.toSketch ∈ f :: rest ∨
          (∃ b ∈ number n (f :: rest), d.body = some b.id ∧ .block d.toSketch b.toSketch ∈ f :: rest) ∨
          ∃ o ∈ number n (f :: rest), o.body = some d.id ∧ .block o.toSketch d.toSketch ∈ f :: rest := by
      rcases ih member with plain | ⟨b, among, named, found⟩ | ⟨o, among, named, found⟩
      · exact Or.inl (List.mem_cons_of_mem f plain)
      · exact Or.inr (Or.inl ⟨b, more b among, named, List.mem_cons_of_mem f found⟩)
      · exact Or.inr (Or.inr ⟨o, more o among, named, List.mem_cons_of_mem f found⟩)
    cases f with
    | plain sketch =>
      rcases List.mem_cons.1 member with rfl | member
      · exact Or.inl (List.mem_cons_self ..)
      · exact later (fun x among => List.mem_cons_of_mem _ among) member
    | block owner body =>
      rcases List.mem_cons.1 member with rfl | member
      · refine Or.inr (Or.inl ⟨⟨body, n + 1, none⟩, ?_, rfl, List.mem_cons_self ..⟩)
        exact List.mem_cons_of_mem _ (List.mem_cons_self ..)
      · rcases List.mem_cons.1 member with rfl | member
        · exact Or.inr (Or.inr ⟨⟨owner, n, some (n + 1)⟩, List.mem_cons_self .., rfl, List.mem_cons_self ..⟩)
        · exact later (fun x among => List.mem_cons_of_mem _ (List.mem_cons_of_mem _ among)) member

end Draft

namespace Scan.Indent

open Text.Pattern

variable {profile : Profile} {s : Source} {line offset : Nat} {text : List Char}

/-- A function with its body and its parameters has one header. -/
theorem countP_opens_lineFindings (profile : Profile) (s : Source) (line offset n : Nat) (text : List Char) :
    ((lineFindings profile s line offset text).flatMap Finding.sketches).countP (·.opens n) ≤
      if line = n then 1 else 0 := by
  have other_kind {sketch : Sketch} (kind : sketch.kind ≠ .function ∧ sketch.kind ≠ .loop) :
      ¬sketch.opens n = true := by
    rw [Sketch.opens_iff]
    exact fun opens => opens.1.elim kind.1 kind.2
  have one_opens {owner : Sketch} {others : List Sketch} (here : owner.span.start.line = line)
      (plain : ∀ sketch ∈ others, ¬sketch.opens n = true) :
      (owner :: others).countP (·.opens n) ≤ if line = n then 1 else 0 := by
    rw [List.countP_cons, List.countP_eq_zero.2 plain, Nat.zero_add]
    split
    · next opens =>
      rw [if_pos (here.symm.trans (Sketch.opens_iff.1 opens).2)]
    · exact Nat.zero_le _
  have body_kind {colon : Nat} {header : Nat} {body : Sketch}
      (found : body? s.lines (.ofOffset s.masked colon) header = some body) : ¬body.opens n = true := by
    have kind := (shape_of_body? found).1
    exact other_kind (by rw [kind]; decide)
  unfold lineFindings
  split
  · unfold functionAt
    dsimp only
    split
    · exact Nat.zero_le _
    · split
      · exact one_opens rfl (List.forall_mem_nil _)
      · next body found =>
        obtain ⟨colon, -, found⟩ := Option.bind_eq_some_iff.1 found
        refine one_opens rfl fun sketch member => ?_
        rcases List.mem_cons.1 member with rfl | member
        · exact body_kind found
        · rw [List.mem_singleton.1 member]
          exact other_kind ⟨NodeKind.noConfusion, NodeKind.noConfusion⟩
  · split
    · unfold loopAt
      dsimp only
      split
      · exact Nat.zero_le _
      · next body found =>
        obtain ⟨colon, -, found⟩ := Option.bind_eq_some_iff.1 found
        refine one_opens rfl fun sketch member => ?_
        rw [List.mem_singleton.1 member]
        exact body_kind found
    · unfold constantAt
      split
      · split
        · exact one_opens rfl (List.forall_mem_nil _)
        · exact Nat.zero_le _
      · exact Nat.zero_le _

theorem countP_opens_findings (profile : Profile) (s : Source) (n : Nat) :
    ((findings profile s).flatMap Finding.sketches).countP (·.opens n) ≤ 1 := by
  have from_line (texts : List (List Char)) (line offset : Nat) :
      ((findingsFrom profile s line offset texts).flatMap Finding.sketches).countP (·.opens n) ≤
        if line ≤ n then 1 else 0 := by
    induction texts generalizing line offset with
    | nil => exact Nat.zero_le _
    | cons text rest ih =>
      rw [findingsFrom, List.flatMap_append, List.countP_append]
      have here := countP_opens_lineFindings profile s line offset n text
      have later := ih (line + 1) (offset + text.length + 1)
      split at here <;> split at later <;> split <;> omega
  exact Nat.le_trans (from_line s.lines 1 0) (by split <;> omega)

end Scan.Indent

end LiveLint
