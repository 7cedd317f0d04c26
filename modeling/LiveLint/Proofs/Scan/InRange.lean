import LiveLint.Proofs.Scan.Outlines
import LiveLint.Proofs.Scan.Ranges

/-!
# Scans by index stay in range

Everything the scanner looks for in a text begins and ends inside of it: matches lie in the text, brackets are looked
up only where they are in a pair, and the lines of a position are lines of the text. So a scan by index of any text
of a supported language has no lapse, and finds what the scanner finds.
-/

namespace LiveLint

namespace Indexed

open Text Text.Pattern

variable {m : List Char}

/-- What is computed once from a masked text. -/
abbrev Source.of (m : List Char) : Source := ⟨m, Text.lines m, lineOffsets m, Brackets.pair m⟩

/-- The partner of a bracket is looked up behind the check that it has one. -/
theorem ifPaired_eq {β : Type} {b : Brackets} {i : Nat} {without result : β} {next : Nat → Except Lapse β}
    (unpaired : b.closer? i = none → without = result) (paired : ∀ j, b.closer? i = some j → next j = .ok result) :
    (if (b.closer? i).isNone = true then pure without else partner b i >>= next) = .ok result := by
  cases closed : b.closer? i with
  | none => exact congrArg Except.ok (unpaired closed)
  | some j =>
    rw [if_neg nofun, partner_eq closed]
    exact paired j closed

theorem ifPaired_bind_eq {β : Type} {b : Brackets} {i : Nat} {next : Nat → Except Lapse (Option β)}
    {result : Nat → Option β} (each : ∀ j, b.closer? i = some j → next j = .ok (result j)) :
    (if (b.closer? i).isNone = true then pure none else partner b i >>= next) = .ok ((b.closer? i).bind result) := by
  refine ifPaired_eq (fun unpaired => ?_) fun j closed => ?_
  · rw [unpaired]
    rfl
  · rw [each j closed, closed]
    rfl

/-- A match begins inside of the text or at its end. -/
theorem start_le_length_of_mem_hits {p : Pattern} {hit : Hit} (member : hit ∈ hits p m) : hit.start ≤ m.length := by
  obtain ⟨front, before, rest, rfl, found⟩ := exists_place_of_mem_hits member
  obtain ⟨after, groups, accepted, -⟩ := attempt_forward p _ [] _ hit found
  cases accepted
  rw [List.length_append]
  exact Nat.le_add_right _ _

/-!
## Languages with blocks in curly brackets
-/

section Brace

open Scan.Brace

variable (profile : Profile)

/-- The same text for the scanner of these languages. -/
abbrev braces (m : List Char) : Scan.Brace.Source := ⟨m, lines m, Brackets.pair m⟩

theorem ofText_braces (m : List Char) : (braces m).OfText := ⟨rfl, rfl⟩

/-- Lines begin at the offsets with their indices. -/
theorem fetch_offset {before after : List (List Char)} {text : List Char} (split : lines m = before ++ text :: after) :
    fetch (lineOffsets m) before.length = .ok (lineStart before) := by
  have inside : before.length < (lines m).length := by
    rw [split, List.length_append, List.length_cons]
    omega
  refine fetch_eq ?_
  rw [getElem?_lineOffsets inside, split, List.take_left]

theorem lineCandidates_eq (p : Pattern) (before rest : List (List Char)) (split : lines m = before ++ rest) :
    lineCandidates p (lineOffsets m) before.length rest = .ok (Scan.Brace.lineCandidates p (lineStart before) rest) := by
  induction rest generalizing before with
  | nil => rfl
  | cons text rest ih =>
    have later := ih (before ++ [text]) (by rw [split, List.append_assoc]; rfl)
    have here : lineCandidate p (lineOffsets m) before.length text =
        .ok ((hit? p text).map (candidate text (lineStart before))).toList := by
      unfold lineCandidate
      cases hit? p text with
      | none => rfl
      | some hit =>
        dsimp only
        rw [fetch_offset split]
        rfl
    rw [List.length_append, List.length_singleton, lineStart_concat] at later
    unfold lineCandidates Scan.Brace.lineCandidates
    rw [here, later]
    rfl

theorem candidates_eq (m : List Char) (form : Form) :
    candidates (.of m) form = .ok (Scan.Brace.candidates (braces m) form) := by
  cases form with
  | keyword => rfl
  | arrow => rfl
  | method => exact lineCandidates_eq methodHeader [] (lines m) rfl

theorem bodyBrace?_eq (m : List Char) (form : Form) (close : Nat) :
    bodyBrace? (.of m) form close = .ok (Scan.Brace.bodyBrace? (braces m) form close) := by
  cases form with
  | keyword => exact brace?_eq m _
  | method => exact brace?_eq m _
  | arrow =>
    refine whenFound_eq fun arrow _ => ?_
    rw [nextCode?_eq]
    refine whenFound_eq fun brace found => ?_
    have found : Forward.nextCode? m (arrow + 2) = some brace := found
    obtain ⟨fetched, here⟩ := exists_fetch (Forward.lt_length_of_nextCode? found)
    show (do if (← fetch m brace) == '\x7b' then return some brace else return none) =
      Except.ok (if (m[brace]? == some '\x7b') = true then some brace else none)
    rw [fetched, here]
    dsimp only [pure, Except.pure, bind, Except.bind]
    rw [Option.some_beq_some]
    split <;> rfl

theorem functionAt?_eq (m : List Char) (form : Form) (taken : List Nat) {c : Candidate} (ordered : c.Ordered) :
    functionAt? profile (.of m) form taken c = .ok (Scan.Brace.functionAt? profile (braces m) form taken c) := by
  unfold functionAt? Scan.Brace.functionAt?
  dsimp only
  by_cases keyword : keywords.contains ((c.name.map (·.1)).getD "<anonymous>") = true
  · rw [if_pos keyword, if_pos keyword]
    rfl
  · rw [if_neg keyword, if_neg keyword]
    refine whenFound_eq fun paren seen => ?_
    have seen : Forward.find? m ['('] ((c.name.map (·.2)).getD c.start) = some paren := seen
    by_cases known : taken.contains paren = true
    · rw [if_pos known, if_pos known]
      rfl
    · rw [if_neg known, if_neg known]
      refine whenFound_eq fun close closed => ?_
      rw [bodyBrace?_eq]
      refine whenFound_eq fun brace opened => ?_
      have closed : (Brackets.pair m).closer? paren = some close := closed
      have behind := Brackets.lt_of_closer? closed
      have far := Brackets.lt_length_of_closer? closed
      have start : c.start ≤ paren := by
        refine Nat.le_trans ?_ (Forward.le_of_find? seen)
        cases named : c.name with
        | none => exact Nat.le_refl _
        | some name => exact ordered name named
      refine ifPaired_bind_eq (b := Brackets.pair m) fun last ended => ?_
      have later := Brackets.lt_of_closer? ended
      have inside := Brackets.lt_length_of_closer? ended
      rw [countParameters_eq, span_eq (by omega) (by omega), span_eq (by omega) (by omega), locate_eq (by omega)]
      rfl

theorem functionsFrom_eq (m : List Char) (taken : List Nat) (all : List (Form × Candidate))
    (ordered : ∀ c ∈ all, c.2.Ordered) :
    functionsFrom profile (.of m) taken all = .ok (Scan.Brace.functionsFrom profile (braces m) taken all) := by
  induction all generalizing taken with
  | nil => rfl
  | cons c rest ih =>
    obtain ⟨here, later⟩ := List.forall_mem_cons.1 ordered
    unfold functionsFrom Scan.Brace.functionsFrom
    rw [functionAt?_eq profile m c.1 taken here]
    dsimp only [bind, Except.bind]
    cases Scan.Brace.functionAt? profile (braces m) c.1 taken c.2 with
    | none => exact ih taken later
    | some found =>
      dsimp only
      rw [ih (found.1 :: taken) later]
      rfl

theorem functions_eq (m : List Char) : functions profile (.of m) = .ok (Scan.Brace.functions profile (braces m)) := by
  have all : gather (fun form => return (← candidates (.of m) form).map (form, ·)) [.keyword, .arrow, .method] =
      .ok ([Form.keyword, .arrow, .method].flatMap fun form =>
        (Scan.Brace.candidates (braces m) form).map (form, ·)) := by
    refine gather_eq fun form _ => ?_
    rw [candidates_eq]
    rfl
  unfold functions
  rw [all]
  refine functionsFrom_eq profile m [] _ fun c member => ?_
  obtain ⟨form, -, member⟩ := List.mem_flatMap.1 member
  obtain ⟨candidate, among, rfl⟩ := List.mem_map.1 member
  exact ordered_of_mem_candidates among

/-- The body of a loop is looked for behind its head, and it ends inside of the text or at its end. -/
theorem loopBody?_eq (m : List Char) (hit : Hit) :
    loopBody? (.of m) hit = .ok (Scan.Brace.loopBody? (braces m) hit) := by
  unfold loopBody? Scan.Brace.loopBody?
  by_cases plain : (hit.part? .keyword).isNone = true
  · rw [if_pos plain, if_pos plain]
    exact whenFound_eq fun brace _ => ifPaired_bind_eq (b := Brackets.pair m) fun last _ => rfl
  · rw [if_neg plain, if_neg plain]
    refine whenFound_eq fun paren _ => whenFound_eq fun close _ => ?_
    rw [nextCode?_eq]
    refine whenFound_eq fun next found => ?_
    have inside : next < m.length := Forward.lt_length_of_nextCode? found
    obtain ⟨fetched, here⟩ := exists_fetch inside
    dsimp only [Source.of, braces]
    rw [fetched, here, statementEnd_eq (Nat.le_of_lt inside), Option.some_beq_some, Option.some_beq_some]
    dsimp only [pure, Except.pure, bind, Except.bind]
    by_cases ended : (m[next] == ';') = true
    · rw [if_pos ended, if_pos ended]
      rfl
    · rw [if_neg ended, if_neg ended]
      cases closed : (Brackets.pair m).closer? next with
      | none =>
        cases m[next] == '\x7b' <;> rfl
      | some last =>
        rw [partner_eq closed]
        cases m[next] == '\x7b' <;> rfl

/-- The body of a loop ends inside of the text or at its end. -/
theorem le_length_of_loopBody? {hit : Hit} {first last : Nat}
    (found : Scan.Brace.loopBody? (braces m) hit = some (first, last)) : last ≤ m.length := by
  unfold Scan.Brace.loopBody? at found
  split at found
  · obtain ⟨brace, seen, found⟩ := Option.bind_eq_some_iff.1 found
    obtain ⟨close, closed, found⟩ := Option.bind_eq_some_iff.1 found
    cases found
    exact Brackets.lt_length_of_closer? closed
  · obtain ⟨paren, seen, found⟩ := Option.bind_eq_some_iff.1 found
    obtain ⟨close, closed, found⟩ := Option.bind_eq_some_iff.1 found
    obtain ⟨next, code, found⟩ := Option.bind_eq_some_iff.1 found
    by_cases empty : (m[next]? == some ';') = true
    · rw [if_pos empty] at found
      cases found
    · rw [if_neg empty] at found
      split at found
      · next block =>
        cases found
        exact Brackets.lt_length_of_closer? block
      · cases found
        exact Forward.statementEnd_le _ (Nat.le_of_lt (Forward.lt_length_of_nextCode? code))

theorem loops_eq (m : List Char) :
    gather (loopAt (.of m)) (hits loopHead m) = .ok (Scan.Brace.loops (braces m)) := by
  unfold loops
  rw [List.filterMap_eq_flatMap_toList]
  refine gather_eq fun hit _ => ?_
  unfold loopAt
  rw [loopBody?_eq]
  cases found : Scan.Brace.loopBody? (braces m) hit with
  | none => rfl
  | some body =>
    obtain ⟨head, tail⟩ := bounds_of_loopBody? (ofText_braces m) found
    have inside := le_length_of_loopBody? found
    dsimp only [pure, Except.pure, bind, Except.bind]
    rw [span_eq (by omega) inside, locate_eq (by omega)]
    rfl

theorem declarations_eq (m : List Char) :
    gather (declarationAt (.of m)) (hits declaration m) = .ok (Scan.Brace.declarations (braces m)) := by
  unfold declarations
  rw [List.map_eq_flatMap]
  refine gather_eq fun hit member => ?_
  have inside := start_le_length_of_mem_hits member
  unfold declarationAt
  rw [statementEnd_eq inside]
  dsimp only [pure, Except.pure, bind, Except.bind]
  rw [span_eq inside (Forward.statementEnd_le _ inside)]

theorem enumerations_eq (m : List Char) :
    gather (enumerationAt (.of m)) (hits enumeration m) = .ok (Scan.Brace.enumerations (braces m)) := by
  unfold enumerations
  rw [List.filterMap_eq_flatMap_toList]
  refine gather_eq fun hit member => ?_
  have inside := start_le_length_of_mem_hits member
  refine ifPaired_eq (b := Brackets.pair m) (fun unpaired => ?_) fun last ended => ?_
  · rw [unpaired]
    rfl
  · rw [span_eq inside (Brackets.lt_length_of_closer? ended), ended]
    rfl

/-- The lines inside of the body of a class are lines of the text. -/
theorem fields_eq (m : List Char) (functions : List Finding) :
    gather (fieldsAt (.of m) functions) (hits classHeader m) = .ok (Scan.Brace.fields (braces m) functions) := by
  refine gather_eq fun hit _ => ?_
  unfold fieldsAt
  dsimp only
  cases closed : (Brackets.pair m).closer? (hit.stop - 1) with
  | none => rfl
  | some last =>
    have behind := Brackets.lt_of_closer? closed
    have inside := Brackets.lt_length_of_closer? closed
    have final := Position.line_ofOffset_le m last
    rw [Option.isNone_some, if_neg Bool.false_ne_true, locate_eq (by omega), partner_eq closed]
    dsimp only [pure, Except.pure, bind, Except.bind]
    rw [locate_eq (by omega), List.filterMap_eq_flatMap_toList]
    refine gather_eq fun line among => ?_
    obtain ⟨n, bound, rfl⟩ := List.mem_range'.1 among
    split
    · rfl
    · rw [lineAt_eq (by omega) (by omega)]

theorem braceFindings_eq (m : List Char) :
    braceFindings profile (.of m) = .ok (Scan.Brace.findings profile (braces m)) := by
  unfold braceFindings
  rw [functions_eq, loops_eq, declarations_eq, enumerations_eq]
  dsimp only [pure, Except.pure, bind, Except.bind]
  rw [fields_eq]
  rfl

end Brace

/-!
## Languages with indented blocks
-/

section Indent

open Scan.Indent

variable (profile : Profile)

/-- The same text for the scanner of these languages. -/
abbrev indents (m : List Char) : Scan.Indent.Source := ⟨m, lines m, Brackets.pair m⟩

/-- The lines of a block are found from the index of any line on. What was found so far goes with the number of the
last line of it. -/
theorem blockBounds_eq {lines : List (List Char)} (header k : Nat) (found : Option (Nat × Nat))
    {texts : List (List Char)} (here : lines.drop k = texts) :
    blockBounds lines header found (List.range' k texts.length) =
      .ok ((blockEnd header (k + 1) (found.map (·.2 + 1)) texts).map fun last =>
        ((found.map (·.1)).getD (k + (texts.takeWhile fun text => (trim text).isEmpty).length), last - 1)) := by
  induction texts generalizing k found with
  | nil => cases found <;> rfl
  | cons text rest ih =>
    have at_line : lines[k]? = some text := by
      rw [← Nat.add_zero k, ← List.getElem?_drop, here]
      rfl
    have behind : lines.drop (k + 1) = rest := by
      rw [← List.drop_drop, here]
      rfl
    rw [List.length_cons, List.range'_succ]
    unfold blockBounds blockEnd
    rw [fetch_eq at_line, List.takeWhile_cons]
    dsimp only [pure, Except.pure, bind, Except.bind]
    split
    · rw [ih (k + 1) found behind, List.length_cons, Nat.add_right_comm, Nat.add_assoc]
    · split
      · cases found <;> rfl
      · rw [ih (k + 1) _ behind]
        rfl

/-- The line of a colon is a line of the text, and so are those of the block below it. -/
theorem body?_eq {colon : Nat} (inside : colon ≤ m.length) (header : Nat) :
    body? (.of m) colon header = .ok (Scan.Indent.body? (lines m) (.ofOffset m colon) header) := by
  have first := Position.one_le_line_ofOffset m colon
  have last := Position.line_ofOffset_le m colon
  have bounds := blockBounds_eq header _ none (Eq.refl ((lines m).drop (Position.ofOffset m colon).line))
  rw [List.length_drop, Option.map_none, Option.map_none, Option.getD_none] at bounds
  unfold body? Scan.Indent.body?
  rw [locate_eq inside]
  dsimp only [bind, Except.bind]
  rw [lineAt_eq first last]
  dsimp only
  split
  · rfl
  · rw [bounds]
    cases ended : blockEnd header ((Position.ofOffset m colon).line + 1) none
        ((lines m).drop (Position.ofOffset m colon).line) with
    | none => rfl
    | some final =>
      rcases bounds_of_blockEnd ended with none_yet | ⟨above, below⟩
      · cases none_yet
      · rw [List.length_drop] at below
        generalize ((lines m).drop (Position.ofOffset m colon).line).takeWhile _ = blanks at above ⊢
        have first_inside : (Position.ofOffset m colon).line + blanks.length < (lines m).length := by omega
        have last_inside : final - 1 < (lines m).length := by omega
        obtain ⟨top, top_eq⟩ := exists_fetch first_inside
        obtain ⟨bottom, bottom_eq⟩ := exists_fetch last_inside
        dsimp only [Option.map_some, whenFound]
        rw [top, bottom, Nat.add_right_comm _ 1, Nat.add_sub_cancel, top_eq, bottom_eq]
        dsimp only [pure, Except.pure]
        rw [Nat.sub_add_cancel (by omega)]
        rfl

theorem headerBody?_eq (m : List Char) (start header : Nat) :
    headerBody? (.of m) start header = .ok ((Forward.headerColon? m (Brackets.pair m) start).bind fun colon =>
      Scan.Indent.body? (lines m) (.ofOffset m colon) header) := by
  unfold headerBody?
  rw [headerColon?_eq]
  exact whenFound_eq fun colon found => body?_eq (Nat.le_of_lt (Forward.lt_length_of_headerColon? found)) header

variable {before after : List (List Char)} {text : List Char}

theorem indentedFunctionAt_eq (split : lines m = before ++ text :: after) (hit : Hit) :
    indentedFunctionAt profile (.of m) before.length text hit =
      .ok (functionAt profile (indents m) (before.length + 1) (lineStart before) text hit) := by
  unfold indentedFunctionAt functionAt
  rw [fetch_offset split]
  dsimp only [pure, Except.pure, bind, Except.bind]
  cases closed : (Brackets.pair m).closer? (lineStart before + hit.stop - 1) with
  | none => rfl
  | some close =>
    have behind := Brackets.lt_of_closer? closed
    have inside := Brackets.lt_length_of_closer? closed
    dsimp only
    rw [headerBody?_eq]
    cases (Forward.headerColon? m (Brackets.pair m) (close + 1)).bind fun colon =>
      Scan.Indent.body? (lines m) (.ofOffset m colon) (expandTabs (hit.text text .indent)).length with
    | none =>
      dsimp only
      rw [errorLine_eq _ (Nat.le_add_left 1 _)]
    | some body =>
      dsimp only
      rw [countParameters_eq, span_eq (by omega) inside]

theorem indentedLoopAt_eq (split : lines m = before ++ text :: after) (hit : Hit) :
    indentedLoopAt (.of m) before.length text hit =
      .ok (Scan.Indent.loopAt (indents m) (before.length + 1) (lineStart before) text hit) := by
  unfold indentedLoopAt Scan.Indent.loopAt
  rw [fetch_offset split]
  dsimp only [pure, Except.pure, bind, Except.bind]
  rw [headerBody?_eq]
  cases (Forward.headerColon? m (Brackets.pair m) (lineStart before + hit.stop)).bind fun colon =>
    Scan.Indent.body? (lines m) (.ofOffset m colon) (expandTabs (hit.text text .indent)).length <;> rfl

theorem lineFindings_eq (split : lines m = before ++ text :: after) :
    lineFindings profile (.of m) before.length text =
      .ok (Scan.Indent.lineFindings profile (indents m) (before.length + 1) (lineStart before) text) := by
  unfold lineFindings Scan.Indent.lineFindings
  cases hit? functionHeader text with
  | some hit => exact indentedFunctionAt_eq profile split hit
  | none =>
    dsimp only
    cases hit? loopHeader text with
    | some hit => exact indentedLoopAt_eq split hit
    | none => rfl

theorem indentFindingsFrom_eq (before rest : List (List Char)) (split : lines m = before ++ rest) :
    indentFindingsFrom profile (.of m) before.length rest =
      .ok (Scan.Indent.findingsFrom profile (indents m) (before.length + 1) (lineStart before) rest) := by
  induction rest generalizing before with
  | nil => rfl
  | cons text rest ih =>
    have later := ih (before ++ [text]) (by rw [split, List.append_assoc]; rfl)
    rw [List.length_append, List.length_singleton, lineStart_concat] at later
    unfold indentFindingsFrom Scan.Indent.findingsFrom
    rw [lineFindings_eq profile split, later]
    rfl

theorem indentFindings_eq (m : List Char) :
    indentFindingsFrom profile (.of m) 0 (lines m) = .ok (Scan.Indent.findings profile (indents m)) :=
  indentFindingsFrom_eq profile [] (lines m) rfl

end Indent

/-!
## The roots of a text
-/

/-- Nothing that is found in a text is read out of range. -/
theorem drafts_eq {profile : Profile} (solid : profile.hasSolidMarkers = true) (text : List Char) :
    drafts profile text = .ok (Outline.errorLines profile text, Outline.drafts profile text) := by
  unfold drafts
  rw [mask_eq solid]
  dsimp only [pure, Except.pure, bind, Except.bind]
  rw [pair_eq]
  dsimp only
  rw [errorLines_eq]
  dsimp only
  rw [mapM_eq fun line member => errorLine_eq _ (Brackets.bounds_of_mem_errorLines member).1]
  dsimp only
  rw [List.map_map]
  unfold Outline.errorLines Outline.drafts
  cases profile.blockStyle with
  | indent =>
    dsimp only
    rw [indentFindings_eq]
    rfl
  | brace =>
    dsimp only
    rw [braceFindings_eq]
    rfl

/-- A scan by index of any text has no lapse and finds what the scanner finds. -/
theorem scan_eq {profile : Profile} (solid : profile.hasSolidMarkers = true) (text : List Char) :
    scan profile text = .ok (RootSource.scanned profile text) := by
  unfold scan
  rw [drafts_eq solid]
  rfl

end Indexed

end LiveLint
