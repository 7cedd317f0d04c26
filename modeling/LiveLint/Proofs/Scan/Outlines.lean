import LiveLint.Proofs.Scan.Offsets

/-!
# Outlines

Every branch of an outline comes from a finding of the scanner and lies on lines of the source. What
stands below a branch lies on lines of the branch.
-/

/-!
## Where findings lie between curly brackets

Functions, loops, declarations, enumerations and fields of languages with curly brackets lie on the lines
of the text.
-/

namespace LiveLint.Scan.Brace

open Text Text.Pattern

variable {profile : Profile} {s : Source}

/-- What was computed from a masked text. -/
structure Source.OfText (s : Source) : Prop where
  lines : s.lines = Text.lines s.masked
  brackets : s.brackets = Brackets.pair s.masked

theorem Source.OfText.lt_of_closer? (of : s.OfText) {i j : Nat}
    (closed : s.brackets.closer? i = some j) : i < j := by
  rw [of.brackets] at closed
  exact Brackets.lt_of_closer? closed

theorem Source.OfText.on_ofOffsets (of : s.OfText) {i j : Nat} (le : i ≤ j) :
    (Span.ofOffsets s.masked i j).On s.lines.length := by
  rw [of.lines]
  exact Span.on_ofOffsets s.masked le

/-- The name of a candidate stands no further left than the candidate begins. -/
def Candidate.Ordered (c : Candidate) : Prop := ∀ name, c.name = some name → c.start ≤ name.2

theorem ordered_candidate {text : List Char} {offset : Nat} {hit : Hit} (ordered : hit.Ordered) :
    (candidate text offset hit).Ordered := by
  intro name named
  unfold candidate at named ⊢
  dsimp only at named ⊢
  split at named
  · next start stop part =>
    dsimp only at named
    split at named
    · cases named
    · cases named
      exact Nat.add_le_add_left (ordered.start_le_part .name _ part) offset
  · cases named

theorem exists_line_of_mem_lineCandidates {p : Text.Pattern} {offset : Nat} {lines : List (List Char)} {c : Candidate}
    (member : c ∈ lineCandidates p offset lines) : ∃ before text after hit, lines = before ++ text :: after ∧
      hit? p text = some hit ∧ c = candidate text (offset + lineStart before) hit := by
  induction lines generalizing offset with
  | nil => cases member
  | cons text rest ih =>
    rcases List.mem_append.1 member with here | later
    · obtain ⟨hit, found, rfl⟩ := Option.map_eq_some_iff.1 (Option.mem_toList.1 here)
      exact ⟨[], text, rest, hit, rfl, found, rfl⟩
    · obtain ⟨before, text', after, hit, rfl, found, rfl⟩ := ih later
      refine ⟨text :: before, text', after, hit, rfl, found, ?_⟩
      rw [lineStart_cons]
      congr 1
      omega

theorem ordered_of_mem_candidates {form : Form} {c : Candidate} (member : c ∈ candidates s form) :
    c.Ordered := by
  have in_text {p : Text.Pattern} (member : c ∈ (hits p s.masked).map (candidate s.masked 0)) :
      c.Ordered := by
    obtain ⟨hit, found, rfl⟩ := List.mem_map.1 member
    exact ordered_candidate (ordered_of_mem_hits found)
  cases form with
  | keyword => exact in_text member
  | arrow => exact in_text member
  | method =>
    obtain ⟨_, _, _, hit, -, found, rfl⟩ := exists_line_of_mem_lineCandidates member
    exact ordered_candidate (ordered_of_hitAt found)

/-- The body of a function opens behind its parameters. -/
theorem le_of_bodyBrace? {form : Form} {close brace : Nat}
    (found : bodyBrace? s form close = some brace) : close ≤ brace := by
  have block (found : Forward.brace? s.masked (close + 1) = some brace) : close ≤ brace :=
    Nat.le_of_succ_le (Forward.le_of_brace? found)
  cases form with
  | keyword => exact block found
  | method => exact block found
  | arrow =>
    obtain ⟨arrow, sign, found⟩ := Option.bind_eq_some_iff.1 found
    obtain ⟨first, code, found⟩ := Option.bind_eq_some_iff.1 found
    split at found
    · cases found
      have behind := Forward.le_of_find? sign
      have after := Forward.le_of_nextCode? code
      omega
    · cases found

/-- A function that was found: its parameters close in front of the block, which closes behind. -/
structure FunctionFound (profile : Profile) (s : Source) (c : Candidate)
    (paren close brace last : Nat) (found : List Finding) : Prop where
  start_le : c.start ≤ paren
  closed : s.brackets.closer? paren = some close
  le_brace : close ≤ brace
  block : s.brackets.closer? brace = some last
  found_eq : ∃ name, found =
    [.block
        { kind := .function, type := "function",
          span := ⟨.ofOffset s.masked c.start, .ofOffset s.masked (last + 1)⟩, name,
          paramCount := Parameters.count profile (slice s.masked (paren + 1) close) }
        { kind := .other, type := "statement_block", span := .ofOffsets s.masked brace (last + 1) },
      .plain
        { kind := .parameters, type := "formal_parameters",
          span := .ofOffsets s.masked paren (close + 1) }]

/-- A function is found with the first bracket behind its name, which no other function has claimed. -/
theorem exists_of_functionAt? {form : Form} {taken : List Nat} {c : Candidate} (ordered : c.Ordered)
    {paren : Nat} {found : List Finding}
    (some_found : functionAt? profile s form taken c = some (paren, found)) :
    Forward.find? s.masked ['('] ((c.name.map (·.2)).getD c.start) = some paren ∧ paren ∉ taken ∧
      ∃ close brace last, FunctionFound profile s c paren close brace last found := by
  unfold functionAt? at some_found
  dsimp only at some_found
  split at some_found
  · cases some_found
  · obtain ⟨paren', seen, some_found⟩ := Option.bind_eq_some_iff.1 some_found
    split at some_found
    · cases some_found
    · next free =>
      obtain ⟨close, closed, some_found⟩ := Option.bind_eq_some_iff.1 some_found
      obtain ⟨brace, opened, some_found⟩ := Option.bind_eq_some_iff.1 some_found
      obtain ⟨last, ended, some_found⟩ := Option.bind_eq_some_iff.1 some_found
      cases some_found
      have start : c.start ≤ paren := by
        have behind := Forward.le_of_find? seen
        cases named : c.name with
        | none =>
          rw [named] at behind
          exact behind
        | some name =>
          rw [named] at behind
          exact Nat.le_trans (ordered name named) behind
      exact ⟨seen, fun member => free (List.contains_iff_mem.2 member), close, brace, last, start, closed,
        le_of_bodyBrace? opened, ended, _, rfl⟩

/-- The parts of a function stand one behind the other. -/
theorem FunctionFound.in_order (of : s.OfText) {c : Candidate} {paren close brace last : Nat}
    {found : List Finding} (function : FunctionFound profile s c paren close brace last found) :
    c.start ≤ paren ∧ paren < close ∧ close ≤ brace ∧ brace < last :=
  ⟨function.start_le, of.lt_of_closer? function.closed, function.le_brace, of.lt_of_closer? function.block⟩

/-- Whatever is found as a function is a part of a function that begins at one of the candidates. -/
theorem exists_of_mem_functions {f : Finding} (member : f ∈ functions profile s) :
    ∃ c paren close brace last found,
      FunctionFound profile s c paren close brace last found ∧ f ∈ found := by
  have each (candidates : List (Form × Candidate)) (ordered : ∀ c ∈ candidates, c.2.Ordered)
      (taken : List Nat) (member : f ∈ functionsFrom profile s taken candidates) :
      ∃ c paren close brace last found,
        FunctionFound profile s c paren close brace last found ∧ f ∈ found := by
    induction candidates generalizing taken with
    | nil => cases member
    | cons candidate rest ih =>
      obtain ⟨form, c⟩ := candidate
      have later := ih fun c member => ordered c (List.mem_cons_of_mem _ member)
      unfold functionsFrom at member
      split at member
      · next paren found some_found =>
        rcases List.mem_append.1 member with here | behind
        · obtain ⟨-, -, close, brace, last, function⟩ :=
            exists_of_functionAt? (ordered (form, c) (List.mem_cons_self ..)) some_found
          exact ⟨c, paren, close, brace, last, found, function, here⟩
        · exact later _ behind
      · exact later _ member
  refine each _ ?_ [] member
  intro c member
  obtain ⟨form, -, member⟩ := List.mem_flatMap.1 member
  obtain ⟨c, found, rfl⟩ := List.mem_map.1 member
  exact ordered_of_mem_candidates found

theorem on_of_mem_functions (of : s.OfText) {f : Finding} (member : f ∈ functions profile s) :
    f.On s.lines.length := by
  obtain ⟨c, paren, close, brace, last, found, function, here⟩ := exists_of_mem_functions member
  obtain ⟨name, rfl⟩ := function.found_eq
  have in_order := function.in_order of
  rcases List.mem_cons.1 here with rfl | here
  · exact ⟨of.on_ofOffsets (j := last + 1) (by omega), of.on_ofOffsets (by omega)⟩
  · rw [List.mem_singleton.1 here]
    exact of.on_ofOffsets (by omega)

/-- The body of a loop begins behind the beginning of its head. -/
theorem bounds_of_loopBody? (of : s.OfText) {hit : Hit} {first last : Nat}
    (found : loopBody? s hit = some (first, last)) : hit.start ≤ first ∧ first ≤ last := by
  unfold loopBody? at found
  split at found
  · obtain ⟨brace, seen, found⟩ := Option.bind_eq_some_iff.1 found
    obtain ⟨close, closed, found⟩ := Option.bind_eq_some_iff.1 found
    cases found
    exact ⟨Forward.le_of_find? seen, Nat.le_succ_of_le (Nat.le_of_lt (of.lt_of_closer? closed))⟩
  · obtain ⟨paren, seen, found⟩ := Option.bind_eq_some_iff.1 found
    obtain ⟨close, closed, found⟩ := Option.bind_eq_some_iff.1 found
    obtain ⟨next, code, found⟩ := Option.bind_eq_some_iff.1 found
    have head := Forward.le_of_find? seen
    have inside := of.lt_of_closer? closed
    have after := Forward.le_of_nextCode? code
    by_cases empty : (s.masked[next]? == some ';') = true
    · rw [if_pos empty] at found
      cases found
    · rw [if_neg empty] at found
      split at found
      · next block =>
        cases found
        exact ⟨by omega, Nat.le_succ_of_le (Nat.le_of_lt (of.lt_of_closer? block))⟩
      · cases found
        exact ⟨by omega, Forward.le_statementEnd ..⟩

/-- A loop runs from its head to the end of its body. -/
theorem exists_of_mem_loops (of : s.OfText) {f : Finding} (member : f ∈ loops s) :
    ∃ start first last, start ≤ first ∧ first ≤ last ∧ f =
      .block
        { kind := .loop, type := "loop", span := .ofOffsets s.masked start last }
        { kind := .other, type := "statement", span := .ofOffsets s.masked first last } := by
  obtain ⟨hit, -, found⟩ := List.mem_filterMap.1 member
  obtain ⟨⟨first, last⟩, body, rfl⟩ := Option.map_eq_some_iff.1 found
  obtain ⟨head, tail⟩ := bounds_of_loopBody? of body
  exact ⟨hit.start, first, last, head, tail, rfl⟩

theorem exists_of_mem_declarations {f : Finding} (member : f ∈ declarations s) :
    ∃ start stop, start ≤ stop ∧ f =
      .plain { kind := .declaration, type := "declaration", span := .ofOffsets s.masked start stop } := by
  obtain ⟨hit, -, rfl⟩ := List.mem_map.1 member
  exact ⟨hit.start, _, Forward.le_statementEnd .., rfl⟩

theorem exists_of_mem_enumerations (of : s.OfText) {f : Finding} (member : f ∈ enumerations s) :
    ∃ start stop, start ≤ stop ∧ f =
      .plain
        { kind := .enumeration, type := "enum_declaration", span := .ofOffsets s.masked start stop } := by
  obtain ⟨hit, found, ended⟩ := List.mem_filterMap.1 member
  obtain ⟨last, closed, rfl⟩ := Option.map_eq_some_iff.1 ended
  have ordered := (ordered_of_mem_hits found).start_le_stop
  have inside := of.lt_of_closer? closed
  exact ⟨hit.start, last + 1, by omega, rfl⟩

/-- A field stands on a line of the text. -/
theorem exists_of_mem_fields (of : s.OfText) {functions : List Finding} {f : Finding}
    (member : f ∈ fields s functions) :
    ∃ line text, (1 ≤ line ∧ line ≤ s.lines.length) ∧ fieldAt? line text = some f := by
  obtain ⟨hit, -, member⟩ := List.mem_flatMap.1 member
  split at member
  · cases member
  · next last closed =>
    obtain ⟨line, between, found⟩ := List.mem_filterMap.1 member
    obtain ⟨n, bound, rfl⟩ := List.mem_range'.1 between
    have below : (Position.ofOffset s.masked last).line ≤ s.lines.length := by
      rw [of.lines]
      exact Position.line_ofOffset_le s.masked last
    split at found
    · cases found
    · exact ⟨_, _, ⟨by omega, by omega⟩, found⟩

theorem on_of_mem_findings (of : s.OfText) {f : Finding} (member : f ∈ findings profile s) :
    f.On s.lines.length := by
  unfold findings at member
  dsimp only at member
  simp only [List.mem_append] at member
  rcases member with (((function | loop) | declaration) | enumeration) | field
  · exact on_of_mem_functions of function
  · obtain ⟨start, first, last, head, tail, rfl⟩ := exists_of_mem_loops of loop
    exact ⟨of.on_ofOffsets (Nat.le_trans head tail), of.on_ofOffsets tail⟩
  · obtain ⟨start, stop, le, rfl⟩ := exists_of_mem_declarations declaration
    exact of.on_ofOffsets le
  · obtain ⟨start, stop, le, rfl⟩ := exists_of_mem_enumerations of enumeration
    exact of.on_ofOffsets le
  · obtain ⟨line, text, ⟨above, below⟩, found⟩ := exists_of_mem_fields of field
    obtain ⟨hit, -, rfl⟩ := Option.map_eq_some_iff.1 found
    exact Span.on_of_line above below _ _

end LiveLint.Scan.Brace

/-!
## Where findings lie among indented blocks
-/

namespace LiveLint.Scan.Indent

open Text

variable {profile : Profile} {s : Source}

/-- Every finding comes from a line. -/
theorem exists_line_of_mem_findings {f : Finding} (member : f ∈ findings profile s) :
    ∃ before text after, s.lines = before ++ text :: after ∧
      f ∈ lineFindings profile s (before.length + 1) (lineStart before) text := by
  have from_line (texts : List (List Char)) (line offset : Nat)
      (member : f ∈ findingsFrom profile s line offset texts) :
      ∃ before text after, texts = before ++ text :: after ∧
        f ∈ lineFindings profile s (line + before.length) (offset + lineStart before) text := by
    induction texts generalizing line offset with
    | nil => cases member
    | cons text rest ih =>
      rcases List.mem_append.1 member with here | later
      · exact ⟨[], text, rest, rfl, here⟩
      · obtain ⟨before, text', after, split, found⟩ := ih _ _ later
        refine ⟨text :: before, text', after, by rw [split, List.cons_append], ?_⟩
        rw [lineStart_cons, List.length_cons]
        rw [show line + (before.length + 1) = line + 1 + before.length by omega,
          show offset + (text.length + 1 + lineStart before) =
            offset + text.length + 1 + lineStart before by omega]
        exact found
  obtain ⟨before, text, after, split, found⟩ := from_line s.lines 1 0 member
  rw [Nat.add_comm 1, Nat.zero_add] at found
  exact ⟨before, text, after, split, found⟩

theorem on_of_mem_findings (of : s.OfText) {f : Finding} (member : f ∈ findings profile s) :
    f.On s.lines.length := by
  obtain ⟨before, text, after, line, found⟩ := exists_line_of_mem_findings member
  have place := ofOffset_lineStart (of.lines ▸ line) (Nat.zero_le text.length)
  have begins : before.length + 1 ≤ (Position.ofOffset s.masked (lineStart before)).line := by
    rw [Nat.add_zero] at place
    rw [place]
  refine on_of_mem_lineFindings of (Nat.le_add_left 1 _) ?_ begins found
  rw [line, List.length_append, List.length_cons]
  omega

end LiveLint.Scan.Indent

/-! ## Outlines -/

namespace LiveLint

namespace Branch

mutual

/-- What stands below a branch lies inside of it, at every level. -/
def Nested : Branch → Prop
  | .mk d cs => NestedIn d.span cs

/-- Branches lie inside of a span, and what stands below each lies inside of that. -/
def NestedIn (span : Span) : List Branch → Prop
  | [] => True
  | b :: rest => span.contains b.draft.span = true ∧ b.Nested ∧ NestedIn span rest

end

end Branch

namespace Forest

/-- The branches of a forest come from the drafts it was built of. -/
theorem draft_mem_of_mem_build (drafts : List Draft) {b : Branch} (member : b ∈ build drafts) :
    b.draft ∈ drafts := by
  fun_induction build drafts with
  | case1 => cases member
  | case2 d rest error ih =>
    rcases List.mem_cons.1 member with rfl | later
    · exact List.mem_cons_self ..
    · exact List.mem_cons_of_mem d (ih later)
  | case3 d rest error ih₁ ih₂ =>
    rcases List.mem_cons.1 member with rfl | later
    · exact List.mem_cons_self ..
    · exact List.mem_cons_of_mem d ((List.dropWhile_sublist _).subset (ih₂ later))

theorem nestedIn_of_forall {span : Span} {cs : List Branch}
    (all : ∀ b ∈ cs, span.contains b.draft.span = true ∧ b.Nested) : Branch.NestedIn span cs := by
  induction cs with
  | nil => trivial
  | cons b rest ih =>
    obtain ⟨inside, nested⟩ := all b (List.mem_cons_self ..)
    exact ⟨inside, nested, ih fun c member => all c (List.mem_cons_of_mem b member)⟩

/-- In walking order a draft is followed by what it contains, so every branch holds what stands below
it. -/
theorem nested_of_mem_build (drafts : List Draft) {b : Branch} (member : b ∈ build drafts) :
    b.Nested := by
  fun_induction build drafts generalizing b with
  | case1 => cases member
  | case2 d rest error ih =>
    rcases List.mem_cons.1 member with rfl | later
    · trivial
    · exact ih later
  | case3 d rest error ih₁ ih₂ =>
    rcases List.mem_cons.1 member with rfl | later
    · refine nestedIn_of_forall ?_
      intro c below
      have draft := draft_mem_of_mem_build _ below
      have inside : ((rest.takeWhile (d.span.contains ·.span)).all (d.span.contains ·.span)) = true :=
        List.all_takeWhile
      exact ⟨List.all_eq_true.1 inside c.draft draft, ih₁ below⟩
    · exact ih₂ later

theorem mem_of_mem_ordered {drafts : List Draft} {d : Draft} (member : d ∈ ordered drafts) :
    d ∈ drafts := by
  unfold ordered at member
  obtain ⟨ranked, sorted, rfl⟩ := List.mem_map.1 member
  obtain ⟨d, found, rfl⟩ := List.mem_map.1 (List.mem_mergeSort.1 sorted)
  exact found

end Forest

namespace Outline

variable {profile : Profile} {text : List Char}

/-- Every draft lies on lines of the source. -/
theorem on_of_mem_drafts {d : Draft} (member : d ∈ drafts profile text) :
    d.span.On (Text.lines text).length := by
  have lines := Mask.length_lines_mask profile text
  unfold drafts at member
  dsimp only at member
  refine Draft.on_of_mem_number ?_ 0 member
  intro f found
  rw [← lines]
  rcases List.mem_append.1 found with found | leaf
  · rcases List.mem_append.1 found with error | construct
    · obtain ⟨line, bad, rfl⟩ := List.mem_map.1 error
      obtain ⟨first, last⟩ := Brackets.bounds_of_mem_errorLines bad
      exact Span.on_of_line first last _ _
    · split at construct
      · exact Scan.Indent.on_of_mem_findings ⟨rfl, rfl⟩ construct
      · exact Scan.Brace.on_of_mem_findings ⟨rfl, rfl⟩ construct
  · exact Scan.Leaves.on_of_mem_findings leaf

/-- Every branch of the outline lies on lines of the source, and holds what stands below it. -/
theorem on_of_mem_branches {b : Branch} (member : b ∈ branches profile text) :
    b.draft.span.On (Text.lines text).length ∧ b.Nested := by
  have draft := Forest.mem_of_mem_ordered (Forest.draft_mem_of_mem_build _ member)
  unfold kept at draft
  exact ⟨on_of_mem_drafts (List.mem_filter.1 draft).1, Forest.nested_of_mem_build _ member⟩

end Outline

end LiveLint
