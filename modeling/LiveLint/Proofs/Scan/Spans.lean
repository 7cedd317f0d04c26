import LiveLint.Proofs.Scan.Matches
import LiveLint.Proofs.Scan.Searches
import LiveLint.Scan.Outline

/-!
# Where findings lie

Every finding of the scanner lies on lines of the text, and it begins on no later line than it ends.
-/

namespace LiveLint

/-- A span lies on the first lines of a text, so many of them, and does not run backwards. -/
structure Span.On (n : Nat) (s : Span) : Prop where
  one_le_start : 1 ≤ s.start.line
  start_le_stop : s.start.line ≤ s.stop.line
  stop_le : s.stop.line ≤ n

/-- A finding lies on the first lines of a text, as does its body if it has one. -/
def Finding.On (n : Nat) : Finding → Prop
  | .plain sketch => sketch.span.On n
  | .block owner body => owner.span.On n ∧ body.span.On n

/-- What lies on one line lies on the lines up to it. -/
theorem Span.on_of_line {n line : Nat} (first : 1 ≤ line) (last : line ≤ n) (col col' : Nat) :
    Span.On n ⟨⟨line, col⟩, ⟨line, col'⟩⟩ :=
  ⟨first, Nat.le_refl line, last⟩

/-- What lies between two offsets of a text lies on its lines. -/
theorem Span.on_ofOffsets (cs : List Char) {i j : Nat} (le : i ≤ j) :
    (Span.ofOffsets cs i j).On (Text.lines cs).length :=
  ⟨Position.one_le_line_ofOffset cs i, Position.line_ofOffset_mono cs le,
    Position.line_ofOffset_le cs j⟩

/-- An owner begins no later than its body and ends with it. -/
theorem Span.On.owner {n : Nat} {body : Span} (on : body.On n) {start : Position}
    (first : 1 ≤ start.line) (le : start.line ≤ body.start.line) : Span.On n ⟨start, body.stop⟩ :=
  ⟨first, Nat.le_trans le on.start_le_stop, on.stop_le⟩

theorem Draft.on_of_mem_number {n : Nat} {findings : List Finding} (on : ∀ f ∈ findings, f.On n)
    (k : Nat) {d : Draft} (member : d ∈ Draft.number k findings) : d.span.On n := by
  induction findings generalizing k with
  | nil => cases member
  | cons f rest ih =>
    have later (k : Nat) (member : d ∈ Draft.number k rest) : d.span.On n :=
      ih (fun f member => on f (List.mem_cons_of_mem _ member)) k member
    have here := on f (List.mem_cons_self ..)
    cases f with
    | plain sketch =>
      rcases List.mem_cons.1 member with rfl | member
      · exact here
      · exact later _ member
    | block owner body =>
      rcases List.mem_cons.1 member with rfl | member
      · exact here.1
      · rcases List.mem_cons.1 member with rfl | member
        · exact here.2
        · exact later _ member

namespace Scan

namespace Leaves

/-- The patterns of leaves, by what they are found as. -/
inductive PatternOf : NodeKind → Text.Pattern → Prop where
  | number : PatternOf .number Scan.number
  | call (style : BlockStyle) : PatternOf .call (Leaves.call style)
  | comparison : PatternOf .comparison looseEquality

/-- A leaf is a match of one of the patterns on one of the lines. -/
inductive Found (lines : List (List Char)) : Finding → Prop where
  | leaf {n : Nat} {text : List Char} {p : Text.Pattern} {hit : Text.Pattern.Hit} {sketch : Sketch}
      (line : lines[n]? = some text) (pattern : PatternOf sketch.kind p)
      (among : hit ∈ Text.Pattern.hits p text)
      (span : sketch.span = ⟨⟨n + 1, hit.start⟩, ⟨n + 1, hit.stop⟩⟩) : Found lines (.plain sketch)

theorem found_of_mem_lineFindings {profile : Profile} {lines : List (List Char)} {n : Nat} {text : List Char}
    (line : lines[n]? = some text) {f : Finding} (member : f ∈ lineFindings profile (n + 1) text) :
    Found lines f := by
  unfold lineFindings at member
  rcases List.mem_append.1 member with member | comparison
  · rcases List.mem_append.1 member with number | call
    · obtain ⟨hit, among, rfl⟩ := List.mem_map.1 number
      exact .leaf line .number among rfl
    · obtain ⟨hit, among, found⟩ := List.mem_filterMap.1 call
      dsimp only at found
      split at found
      · cases found
        exact .leaf line (.call _) among rfl
      · cases found
  · split at comparison
    · cases comparison
    · obtain ⟨hit, among, rfl⟩ := List.mem_map.1 comparison
      exact .leaf line .comparison among rfl

theorem found_of_mem_findings {profile : Profile} {lines : List (List Char)} {f : Finding}
    (member : f ∈ findings profile lines) : Found lines f := by
  have from_line (before texts : List (List Char)) (split : lines = before ++ texts)
      (member : f ∈ findingsFrom profile (before.length + 1) texts) : Found lines f := by
    induction texts generalizing before with
    | nil => cases member
    | cons text rest ih =>
      rcases List.mem_append.1 member with here | later
      · have line : lines[before.length]? = some text := by
          rw [split, List.getElem?_append_right (Nat.le_refl _), Nat.sub_self, List.getElem?_cons_zero]
        exact found_of_mem_lineFindings line here
      · refine ih (before ++ [text]) ?_ ?_
        · rw [split, List.append_assoc, List.singleton_append]
        · rwa [List.length_append, List.length_singleton]
  exact from_line [] lines rfl member

theorem on_of_mem_findings {profile : Profile} {lines : List (List Char)} {f : Finding}
    (member : f ∈ findings profile lines) : f.On lines.length := by
  cases found_of_mem_findings member with
  | @leaf n text p hit sketch line _ _ span =>
    obtain ⟨bound, -⟩ := List.getElem?_eq_some_iff.1 line
    change sketch.span.On lines.length
    rw [span]
    exact Span.on_of_line (Nat.le_add_left 1 _) bound _ _

end Leaves

namespace Indent

theorem bounds_of_blockEnd {header line l : Nat} {last : Option Nat} {texts : List (List Char)}
    (found : blockEnd header line last texts = some l) :
    last = some l ∨
      line + (texts.takeWhile fun text => (Text.trim text).isEmpty).length ≤ l ∧
        l < line + texts.length := by
  induction texts generalizing line last with
  | nil => exact Or.inl found
  | cons text rest ih =>
    unfold blockEnd at found
    rw [List.length_cons]
    by_cases blank : (Text.trim text).isEmpty = true
    · rw [if_pos blank] at found
      rw [List.takeWhile_cons, if_pos blank, List.length_cons]
      rcases ih found with same | ⟨lower, upper⟩
      · exact Or.inl same
      · exact Or.inr (by omega)
    · rw [if_neg blank] at found
      rw [List.takeWhile_cons, if_neg blank, List.length_nil]
      split at found
      · exact Or.inl found
      · rcases ih found with same | ⟨lower, upper⟩
        · cases same
          exact Or.inr (by omega)
        · exact Or.inr (by omega)

/-- The body of a header begins no earlier than on the line of its colon. -/
theorem on_of_body? {lines : List (List Char)} {colon : Position} {header : Nat} {body : Sketch}
    (first : 1 ≤ colon.line) (last : colon.line ≤ lines.length)
    (found : body? lines colon header = some body) :
    body.span.On lines.length ∧ colon.line ≤ body.span.start.line := by
  unfold body? at found
  dsimp only at found
  split at found
  · cases found
    exact ⟨Span.on_of_line first last _ _, Nat.le_refl _⟩
  · split at found
    · cases found
    · next l ended =>
      cases found
      rcases bounds_of_blockEnd ended with none_yet | ⟨lower, upper⟩
      · cases none_yet
      · rw [List.length_drop] at upper
        refine ⟨⟨?_, ?_, ?_⟩, ?_⟩ <;> dsimp only <;> omega

variable {profile : Profile} {s : Source} {line offset : Nat}

/-- What was computed from a masked text. -/
structure Source.OfText (s : Source) : Prop where
  lines : s.lines = Text.lines s.masked
  brackets : s.brackets = Brackets.pair s.masked

/-- A body whose colon stands behind an offset begins no earlier than on the line of the offset. -/
theorem on_of_headerBody (of : s.OfText) {start header : Nat} {body : Sketch}
    (found : (do
      let colon ← Forward.headerColon? s.masked s.brackets start
      body? s.lines (.ofOffset s.masked colon) header) = some body) :
    body.span.On s.lines.length ∧
      (Position.ofOffset s.masked start).line ≤ body.span.start.line := by
  obtain ⟨colon, seen, found⟩ := Option.bind_eq_some_iff.1 found
  have last : (Position.ofOffset s.masked colon).line ≤ s.lines.length := by
    rw [of.lines]
    exact Position.line_ofOffset_le s.masked colon
  obtain ⟨on, after⟩ := on_of_body? (Position.one_le_line_ofOffset s.masked colon) last found
  exact ⟨on, Nat.le_trans (Position.line_ofOffset_mono s.masked (Forward.le_of_headerColon? seen)) after⟩

theorem on_of_mem_functionAt (of : s.OfText) {text : List Char} {hit : Text.Pattern.Hit} (first : 1 ≤ line)
    (last : line ≤ s.lines.length) (begins : line ≤ (Position.ofOffset s.masked offset).line)
    {f : Finding} (member : f ∈ functionAt profile s line offset text hit) : f.On s.lines.length := by
  unfold functionAt at member
  dsimp only at member
  split at member
  · cases member
  · next close closed =>
    rw [of.brackets] at closed
    have inside := Brackets.lt_of_closer? closed
    split at member
    · rw [List.mem_singleton.1 member]
      exact Span.on_of_line first last _ _
    · next body found =>
      obtain ⟨on, after⟩ := on_of_headerBody of found
      have later : (Position.ofOffset s.masked offset).line ≤
          (Position.ofOffset s.masked (close + 1)).line :=
        Position.line_ofOffset_mono s.masked (by omega)
      rcases List.mem_cons.1 member with rfl | member
      · exact ⟨on.owner first (Nat.le_trans begins (Nat.le_trans later after)), on⟩
      · rw [List.mem_singleton.1 member, of.lines]
        exact Span.on_ofOffsets s.masked (by omega)

theorem on_of_mem_loopAt (of : s.OfText) {text : List Char} {hit : Text.Pattern.Hit} (first : 1 ≤ line)
    (begins : line ≤ (Position.ofOffset s.masked offset).line)
    {f : Finding} (member : f ∈ loopAt s line offset text hit) : f.On s.lines.length := by
  unfold loopAt at member
  dsimp only at member
  split at member
  · cases member
  · next body found =>
    obtain ⟨on, after⟩ := on_of_headerBody of found
    have later : (Position.ofOffset s.masked offset).line ≤
        (Position.ofOffset s.masked (offset + hit.stop)).line :=
      Position.line_ofOffset_mono s.masked (Nat.le_add_right ..)
    rw [List.mem_singleton.1 member]
    exact ⟨on.owner first (Nat.le_trans begins (Nat.le_trans later after)), on⟩

theorem on_of_mem_lineFindings (of : s.OfText) {text : List Char} (first : 1 ≤ line)
    (last : line ≤ s.lines.length) (begins : line ≤ (Position.ofOffset s.masked offset).line)
    {f : Finding} (member : f ∈ lineFindings profile s line offset text) : f.On s.lines.length := by
  unfold lineFindings at member
  split at member
  · exact on_of_mem_functionAt of first last begins member
  · split at member
    · exact on_of_mem_loopAt of first begins member
    · unfold constantAt at member
      split at member
      · split at member
        · rw [List.mem_singleton.1 member]
          exact Span.on_of_line first last _ _
        · cases member
      · cases member

end Indent

end Scan

end LiveLint
