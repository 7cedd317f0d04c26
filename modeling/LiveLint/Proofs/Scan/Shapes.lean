import LiveLint.Proofs.Scan.Offsets
import LiveLint.Proofs.Scan.Outlines

/-!
# Shapes of findings

Functions and loops are found with a body, which ends where they end; nothing else is a function, a loop or a
body. Among indented blocks a body ends with the text of a line, and a header without a body is found as an
error on its line. No other finding is an error.
-/

namespace LiveLint

/-- A function or a loop with its body: it begins no later than the body and ends with it. -/
structure Sketch.Owns (owner body : Sketch) : Prop where
  kind : owner.kind = .function ∨ owner.kind = .loop
  body_kind : body.kind = .other
  start_le : owner.span.start.le body.span.start = true
  stop_eq : owner.span.stop = body.span.stop

/-- Kinds of constructs that have no body and are none. -/
def NodeKind.isLeaf : NodeKind → Bool
  | .number | .declaration | .enumeration | .call | .comparison | .parameters => true
  | .function | .loop | .error | .other => false

/-- What a finding can be: an error, something that has no body and is none, or an owner with its body. -/
inductive Finding.Shaped (error body : Sketch → Prop) : Finding → Prop where
  | error {s : Sketch} (kind : s.kind = .error) (why : error s) : Shaped error body (.plain s)
  | leaf {s : Sketch} (kind : s.kind.isLeaf = true) : Shaped error body (.plain s)
  | block {o b : Sketch} (owns : o.Owns b) (is_body : body b) : Shaped error body (.block o b)

theorem Finding.Shaped.mono {error error' body body' : Sketch → Prop} {f : Finding}
    (shaped : f.Shaped error body) (errors : ∀ s, error s → error' s) (bodies : ∀ s, body s → body' s) :
    f.Shaped error' body' := by
  cases shaped with
  | error kind why => exact .error kind (errors _ why)
  | leaf kind => exact .leaf kind
  | block owns is_body => exact .block owns (bodies _ is_body)

namespace Scan

theorem Leaves.PatternOf.isLeaf {kind : NodeKind} {p : Text.Pattern} (pattern : PatternOf kind p) :
    kind.isLeaf = true := by
  cases pattern <;> rfl

theorem Leaves.shaped_of_mem_findings {profile : Profile} {lines : List (List Char)}
    {error body : Sketch → Prop} {f : Finding} (member : f ∈ findings profile lines) :
    f.Shaped error body := by
  cases found_of_mem_findings member with
  | leaf _ pattern _ _ => exact .leaf pattern.isLeaf

namespace Brace

variable {profile : Profile} {s : Source} {error : Sketch → Prop}

theorem shaped_of_mem_functions (of : s.OfText) {f : Finding} (member : f ∈ functions profile s) :
    f.Shaped error fun _ => True := by
  obtain ⟨c, paren, close, brace, last, found, function, here⟩ := exists_of_mem_functions member
  obtain ⟨name, rfl⟩ := function.found_eq
  have in_order := function.in_order of
  rcases List.mem_cons.1 here with rfl | here
  · exact .block ⟨Or.inl rfl, rfl, Position.ofOffset_mono s.masked (by omega), rfl⟩ trivial
  · rw [List.mem_singleton.1 here]
    exact .leaf rfl

theorem shaped_of_mem_findings (of : s.OfText) {f : Finding} (member : f ∈ findings profile s) :
    f.Shaped error fun _ => True := by
  unfold findings at member
  dsimp only at member
  simp only [List.mem_append] at member
  rcases member with (((function | loop) | declaration) | enumeration) | field
  · exact shaped_of_mem_functions of function
  · obtain ⟨start, first, last, head, -, rfl⟩ := exists_of_mem_loops of loop
    exact .block ⟨Or.inr rfl, rfl, Position.ofOffset_mono s.masked head, rfl⟩ trivial
  · obtain ⟨start, stop, -, rfl⟩ := exists_of_mem_declarations declaration
    exact .leaf rfl
  · obtain ⟨start, stop, -, rfl⟩ := exists_of_mem_enumerations of enumeration
    exact .leaf rfl
  · obtain ⟨line, text, -, found⟩ := exists_of_mem_fields of field
    obtain ⟨hit, -, rfl⟩ := Option.map_eq_some_iff.1 found
    exact .leaf rfl

end Brace

namespace Indent

open Text Text.Pattern

variable {profile : Profile} {s : Source}

/-- A function header on a line: the bracket of its parameters closes, but there is no body behind it. -/
structure Bodiless (s : Source) (before : List (List Char)) (text : List Char) (hit : Hit) (close : Nat) :
    Prop where
  line : ∃ after, s.lines = before ++ text :: after
  header : hit? functionHeader text = some hit
  closed : s.brackets.closer? (lineStart before + hit.stop - 1) = some close
  no_body : ∀ colon, Forward.headerColon? s.masked s.brackets (close + 1) = some colon →
    body? s.lines (.ofOffset s.masked colon) (expandTabs (hit.text text .indent)).length = none

/-- A line has a function header without a body. -/
def Unfinished (s : Source) (line : Nat) : Prop :=
  ∃ before text hit close, line = before.length + 1 ∧ Bodiless s before text hit close

/-- A body ends with the text of its last line. -/
def EndsLine (lines : List (List Char)) (body : Sketch) : Prop :=
  body.span.stop.col = (trimRight ((lines[body.span.stop.line - 1]?).getD [])).length

theorem shape_of_body? {lines : List (List Char)} {colon : Position} {header : Nat} {body : Sketch}
    (found : body? lines colon header = some body) :
    body.kind = .other ∧ EndsLine lines body ∧ colon.le body.span.start = true := by
  unfold body? at found
  dsimp only at found
  split at found
  · cases found
    refine ⟨rfl, rfl, Position.le_iff.2 (Or.inr ⟨rfl, ?_⟩)⟩
    dsimp only
    omega
  · split at found
    · cases found
    · cases found
      refine ⟨rfl, rfl, Position.le_iff.2 (Or.inl ?_)⟩
      dsimp only
      omega

/-- A header on a line with the body behind a colon that stands no further left than the header ends. -/
theorem owns_of_headerBody (of : s.OfText) {before after : List (List Char)} {text : List Char}
    (line : s.lines = before ++ text :: after) {hit : Hit} (ordered : hit.Ordered) {start header : Nat}
    (behind : lineStart before + hit.stop ≤ start) {body : Sketch}
    (found : (do
      let colon ← Forward.headerColon? s.masked s.brackets start
      body? s.lines (.ofOffset s.masked colon) header) = some body) :
    EndsLine s.lines body ∧ ∀ owner : Sketch, owner.kind = .function ∨ owner.kind = .loop →
      owner.span = ⟨⟨before.length + 1, (hit.text text .indent).length⟩, body.span.stop⟩ →
      owner.Owns body := by
  obtain ⟨colon, seen, found⟩ := Option.bind_eq_some_iff.1 found
  obtain ⟨body_kind, ends, after_colon⟩ := shape_of_body? found
  have column : (hit.text text .indent).length ≤ hit.stop ∧ (hit.text text .indent).length ≤ text.length := by
    unfold Hit.text
    split
    · next start stop part =>
      have inside := ordered.part_le_stop .indent _ part
      unfold slice
      rw [List.length_take, List.length_drop]
      omega
    · exact ⟨Nat.zero_le _, Nat.zero_le _⟩
  rw [of.lines] at line
  have placed := ofOffset_lineStart line column.2
  have le_colon := Forward.le_of_headerColon? seen
  have le := Position.ofOffset_mono s.masked
    (show lineStart before + (hit.text text .indent).length ≤ colon by omega)
  rw [placed] at le
  refine ⟨ends, ?_⟩
  intro owner kind span
  refine ⟨kind, body_kind, ?_, ?_⟩
  · rw [span]
    exact Position.le_trans le after_colon
  · rw [span]

theorem shaped_of_mem_functionAt (of : s.OfText) {before after : List (List Char)} {text : List Char}
    (line : s.lines = before ++ text :: after) {hit : Hit} (header : hit? functionHeader text = some hit)
    {f : Finding}
    (member : f ∈ functionAt profile s (before.length + 1) (lineStart before) text hit) :
    f.Shaped (fun e => ∃ n, e = .errorLine s.lines n ∧ Unfinished s n) (EndsLine s.lines) := by
  have ordered := ordered_of_hitAt header
  unfold functionAt at member
  dsimp only at member
  split at member
  · cases member
  · next close closed =>
    have opened := closed
    rw [of.brackets] at opened
    have behind := Brackets.lt_of_closer? opened
    split at member
    · next none_found =>
      rw [List.mem_singleton.1 member]
      refine .error rfl ⟨_, rfl, before, text, hit, close, rfl, ⟨after, line⟩, header, closed, ?_⟩
      intro colon seen
      rw [seen] at none_found
      exact none_found
    · next body found =>
      rcases List.mem_cons.1 member with rfl | member
      · obtain ⟨ends, owns⟩ := owns_of_headerBody of line ordered (by omega) found
        exact .block (owns _ (Or.inl rfl) rfl) ends
      · rw [List.mem_singleton.1 member]
        exact .leaf rfl

theorem shaped_of_mem_loopAt (of : s.OfText) {before after : List (List Char)} {text : List Char}
    (line : s.lines = before ++ text :: after) {hit : Hit} (header : hit? loopHeader text = some hit)
    {f : Finding} (member : f ∈ loopAt s (before.length + 1) (lineStart before) text hit)
    {error : Sketch → Prop} : f.Shaped error (EndsLine s.lines) := by
  unfold loopAt at member
  dsimp only at member
  split at member
  · cases member
  · next body found =>
    rw [List.mem_singleton.1 member]
    obtain ⟨ends, owns⟩ := owns_of_headerBody of line (ordered_of_hitAt header) (Nat.le_refl _) found
    exact .block (owns _ (Or.inr rfl) rfl) ends

theorem shaped_of_mem_findings (of : s.OfText) {f : Finding} (member : f ∈ findings profile s) :
    f.Shaped (fun e => ∃ n, e = .errorLine s.lines n ∧ Unfinished s n) (EndsLine s.lines) := by
  obtain ⟨before, text, after, line, member⟩ := exists_line_of_mem_findings member
  unfold lineFindings at member
  split at member
  · next header => exact shaped_of_mem_functionAt of line header member
  · split at member
    · next header => exact shaped_of_mem_loopAt of line header member
    · unfold constantAt at member
      split at member
      · split at member
        · rw [List.mem_singleton.1 member]
          exact .leaf rfl
        · cases member
      · cases member

end Indent

end Scan

end LiveLint
