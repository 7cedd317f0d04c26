import LiveLint.Proofs.Scan.Behind
import LiveLint.Scan.Brace
import LiveLint.Scan.Indent
import LiveLint.Scan.Shared
import Mathlib.Data.List.Basic

/-!
# Findings below a blank line

What is found in a source is found again below a blank line, one line further down, and the line itself has
nothing to find.
-/

namespace LiveLint

def Sketch.lowered (n : Nat) (s : Sketch) : Sketch := { s with span := s.span.lowered n }

def Finding.lowered (n : Nat) : Finding → Finding
  | .plain sketch => .plain (sketch.lowered n)
  | .block owner body => .block (owner.lowered n) (body.lowered n)

/-- Below a line, the line of a number has the next one. -/
theorem Text.line_below {α : Type} (first : α) (lines : List α) {line : Nat} (positive : 1 ≤ line) :
    (first :: lines)[line + 1 - 1]? = lines[line - 1]? := by
  rw [Nat.add_sub_cancel, ← Nat.succ_pred_eq_of_pos positive]
  rfl

theorem Sketch.errorLine_below (first : List Char) (lines : List (List Char)) {line : Nat}
    (positive : 1 ≤ line) : errorLine (first :: lines) (line + 1) = (errorLine lines line).lowered 1 := by
  unfold errorLine
  rw [Text.line_below first lines positive]
  rfl

namespace Scan

open Text Text.Pattern

theorem refusesBlanks_isName : refusesBlanks isName = true :=
  refusesBlanks_iff.2 fun c blank => by
    have other : c ≠ '$' := by
      rintro rfl
      cases blank
    rw [isName, isWord_of_isBlank blank, Bool.false_or, beq_eq_false_iff_ne]
    exact other

namespace Leaves

theorem lineFindings_lowered (profile : Profile) (line : Nat) (text : List Char) :
    lineFindings profile (line + 1) text = (lineFindings profile line text).map (·.lowered 1) := by
  unfold lineFindings
  dsimp only
  rw [List.map_append, List.map_append, List.map_map, List.map_filterMap]
  congr 1
  · congr 1
    refine List.filterMap_congr fun hit _ => ?_
    split <;> rfl
  · split
    · rfl
    · rw [List.map_map]
      rfl

theorem lineFindings_blank (profile : Profile) (line : Nat) {text : List Char} (blank : BlankLine text) :
    lineFindings profile line text = [] := by
  have numbers : number.bold = true := by decide +kernel
  have calls : ∀ style, (call style).bold = true := by
    intro style
    cases style <;> decide +kernel
  have comparisons : looseEquality.bold = true := by decide +kernel
  unfold lineFindings
  rw [hits_blank numbers blank, hits_blank (calls _) blank, hits_blank comparisons blank]
  dsimp only [List.map_nil, List.filterMap_nil, List.nil_append]
  split <;> rfl

theorem findings_below (profile : Profile) {first : List Char} (blank : BlankLine first)
    (lines : List (List Char)) :
    findings profile (first :: lines) = (findings profile lines).map (·.lowered 1) := by
  have later (line : Nat) : findingsFrom profile (line + 1) lines =
      (findingsFrom profile line lines).map (·.lowered 1) := by
    induction lines generalizing line with
    | nil => rfl
    | cons text rest ih =>
      unfold findingsFrom
      rw [lineFindings_lowered, ih, List.map_append]
  unfold findings
  rw [findingsFrom, lineFindings_blank profile 1 blank, List.nil_append]
  exact later 1

end Leaves

namespace Brace

def Source.below (first : List Char) (s : Source) : Source :=
  ⟨first ++ '\n' :: s.masked, first :: s.lines, s.brackets.moved (first.length + 1)⟩

def Candidate.moved (n : Nat) (c : Candidate) : Candidate :=
  ⟨n + c.start, c.name.map fun (name, i) => (name, n + i)⟩

variable {first : List Char} (s : Source)

theorem candidate_moved (hit : Hit) :
    candidate (s.below first).masked 0 (hit.moved (first.length + 1)) =
      (candidate s.masked 0 hit).moved (first.length + 1) := by
  unfold candidate Source.below
  dsimp only
  rw [Hit.text_moved, Hit.part?_moved]
  cases hit.part? .name with
  | none =>
    dsimp only [Option.map_none, Candidate.moved, Hit.moved]
    rw [Nat.zero_add, Nat.zero_add]
  | some part =>
    dsimp only [Option.map_some, Candidate.moved, Hit.moved]
    rw [Nat.zero_add, Nat.zero_add, Nat.zero_add, Nat.zero_add]
    split <;> rfl

theorem lineCandidates_moved (p : Text.Pattern) (n offset : Nat) (lines : List (List Char)) :
    lineCandidates p (n + offset) lines = (lineCandidates p offset lines).map (·.moved n) := by
  have moved (text : List Char) (offset : Nat) (hit : Hit) :
      candidate text (n + offset) hit = (candidate text offset hit).moved n := by
    unfold candidate
    dsimp only
    cases hit.part? .name with
    | none =>
      dsimp only [Candidate.moved, Option.map_none]
      rw [Nat.add_assoc]
    | some part =>
      dsimp only [Candidate.moved]
      split
      · rw [Nat.add_assoc]
        rfl
      · rw [Nat.add_assoc, Nat.add_assoc]
        rfl
  induction lines generalizing offset with
  | nil => rfl
  | cons text rest ih =>
    unfold lineCandidates
    rw [List.map_append, ← ih]
    congr 1
    · cases hit? p text with
      | none => rfl
      | some hit => exact congrArg ([·]) (moved text offset hit)
    · rw [Nat.add_assoc n, Nat.add_assoc n]

theorem blind_patterns : ∀ p ∈ [keywordFunction, arrowFunction, loopHead, declaration, enumeration, classHeader],
    p.blind = true := by
  decide +kernel

theorem bold_patterns : ∀ p ∈ [keywordFunction, arrowFunction, loopHead, declaration, enumeration, classHeader],
    p.bold = true := by
  have arrow : arrowFunction.bold = true := by
    simp [arrowFunction, seq, run1, bold, refusesBlanks_isName]
  have others : ∀ p ∈ [keywordFunction, loopHead, declaration, enumeration, classHeader], p.bold = true := by
    decide +kernel
  simp only [List.mem_cons, List.not_mem_nil, or_false, forall_eq_or_imp, forall_eq] at others ⊢
  exact ⟨others.1, arrow, others.2⟩

/-- Each pattern that is looked for in the whole text finds the same below a blank line. -/
theorem hits_below (blank : BlankLine first) {p : Text.Pattern}
    (member : p ∈ [keywordFunction, arrowFunction, loopHead, declaration, enumeration, classHeader]) :
    hits p (s.below first).masked = (hits p s.masked).map (·.moved (first.length + 1)) :=
  hits_behind (bold_patterns p member) (blind_patterns p member) blank s.masked

theorem candidates_below (blank : BlankLine first) (form : Form) :
    candidates (s.below first) form = (candidates s form).map (·.moved (first.length + 1)) := by
  have in_text {p : Text.Pattern}
      (member : p ∈ [keywordFunction, arrowFunction, loopHead, declaration, enumeration, classHeader]) :
      (hits p (s.below first).masked).map (candidate (s.below first).masked 0) =
        ((hits p s.masked).map (candidate s.masked 0)).map (·.moved (first.length + 1)) := by
    rw [hits_below s blank member, List.map_map, List.map_map]
    exact List.map_congr_left fun hit _ => candidate_moved s hit
  cases form with
  | keyword => exact in_text (by simp)
  | arrow => exact in_text (by simp)
  | method =>
    have inked : methodHeader.inked = true := by
      simp [methodHeader, seq, run1, inked, refusesBlanks_isName]
    unfold candidates Source.below
    dsimp only
    rw [lineCandidates, hit?_blank inked blank, Nat.zero_add]
    exact lineCandidates_moved methodHeader (first.length + 1) 0 s.lines

theorem bodyBrace?_below (form : Form) (close : Nat) :
    bodyBrace? (s.below first) form (first.length + 1 + close) =
      (bodyBrace? s form close).map (first.length + 1 + ·) := by
  have block : Forward.brace? (s.below first).masked (first.length + 1 + close + 1) =
      (Forward.brace? s.masked (close + 1)).map (first.length + 1 + ·) :=
    Forward.brace?_behind first s.masked (close + 1)
  cases form with
  | keyword => exact block
  | method => exact block
  | arrow =>
    have next (arrow : Nat) : Forward.nextCode? (first ++ '\n' :: s.masked) (first.length + 1 + arrow + 2) =
        (Forward.nextCode? s.masked (arrow + 2)).map (first.length + 1 + ·) :=
      Forward.nextCode?_behind first s.masked (arrow + 2)
    unfold bodyBrace? Source.below
    dsimp only
    rw [Forward.find?_behind]
    simp only [Option.bind_eq_bind, Option.bind_map, Option.map_bind, Function.comp_def, next,
      getElem?_behind]
    refine congrArg (Option.bind _) (funext fun arrow => congrArg (Option.bind _) (funext fun brace => ?_))
    split <;> rfl

theorem functionAt?_below (blank : BlankLine first) (profile : Profile) (form : Form) (taken : List Nat)
    (c : Candidate) :
    functionAt? profile (s.below first) form (taken.map (first.length + 1 + ·)) (c.moved (first.length + 1)) =
      (functionAt? profile s form taken c).map fun (paren, found) =>
        (first.length + 1 + paren, found.map (·.lowered 1)) := by
  obtain ⟨start, name⟩ := c
  have same_name : ((Candidate.moved (first.length + 1) ⟨start, name⟩).name.map (·.1)).getD "<anonymous>" =
      (name.map (·.1)).getD "<anonymous>" := by
    cases name <;> rfl
  have same_start : ((Candidate.moved (first.length + 1) ⟨start, name⟩).name.map (·.2)).getD
      (Candidate.moved (first.length + 1) ⟨start, name⟩).start =
      first.length + 1 + (name.map (·.2)).getD start := by
    cases name <;> rfl
  have free (paren : Nat) : (taken.map (first.length + 1 + ·)).contains (first.length + 1 + paren) =
      taken.contains paren := by
    rw [Bool.eq_iff_iff, List.contains_iff_mem, List.contains_iff_mem]
    exact List.mem_map_of_injective fun _ _ => Nat.add_left_cancel
  unfold functionAt?
  dsimp only
  rw [same_name, same_start]
  split
  · rfl
  · simp only [Source.below, Forward.find?_behind, Option.bind_eq_bind, Option.bind_map, Option.map_bind,
      Function.comp_def, free]
    refine congrArg (Option.bind _) (funext fun paren => ?_)
    split
    · rfl
    · simp only [Brackets.closer?_moved, Option.bind_map, Option.map_bind, Function.comp_def]
      refine congrArg (Option.bind _) (funext fun close => ?_)
      change (bodyBrace? (s.below first) form (first.length + 1 + close)).bind _ = _
      rw [bodyBrace?_below]
      simp only [Brackets.closer?_moved, Option.bind_map, Function.comp_def]
      refine congrArg (Option.bind _) (funext fun brace => congrArg (Option.bind _) (funext fun last => ?_))
      simp only [Candidate.moved, Nat.add_assoc (first.length + 1), slice_behind, Span.ofOffsets_behind blank.free,
        Position.ofOffset_behind_line blank.free]
      rfl

theorem functionsFrom_below (blank : BlankLine first) (profile : Profile) (taken : List Nat)
    (cs : List (Form × Candidate)) :
    functionsFrom profile (s.below first) (taken.map (first.length + 1 + ·))
        (cs.map fun (form, c) => (form, c.moved (first.length + 1))) =
      (functionsFrom profile s taken cs).map (·.lowered 1) := by
  induction cs generalizing taken with
  | nil => rfl
  | cons candidate rest ih =>
    obtain ⟨form, c⟩ := candidate
    rw [List.map_cons, functionsFrom, functionsFrom, functionAt?_below s blank]
    cases functionAt? profile s form taken c with
    | none => exact ih taken
    | some function =>
      dsimp only [Option.map_some]
      rw [List.map_append, ← ih]
      rfl

theorem functions_below (blank : BlankLine first) (profile : Profile) :
    functions profile (s.below first) = (functions profile s).map (·.lowered 1) := by
  have all : ([Form.keyword, .arrow, .method].flatMap fun form =>
      (candidates (s.below first) form).map (form, ·)) =
      ([Form.keyword, .arrow, .method].flatMap fun form => (candidates s form).map (form, ·)).map
        fun (form, c) => (form, c.moved (first.length + 1)) := by
    simp only [candidates_below s blank, List.flatMap_cons, List.flatMap_nil, List.map_append, List.map_map,
      List.map_nil]
    rfl
  unfold functions
  rw [all]
  exact functionsFrom_below s blank profile [] _

theorem loopBody?_below (hit : Hit) :
    loopBody? (s.below first) (hit.moved (first.length + 1)) =
      (loopBody? s hit).map fun (i, j) => (first.length + 1 + i, first.length + 1 + j) := by
  have keyword : ((hit.moved (first.length + 1)).part? .keyword).isNone = (hit.part? .keyword).isNone := by
    rw [Hit.part?_moved, Option.isNone_map]
  unfold loopBody?
  rw [keyword]
  simp only [Source.below, Hit.moved, Forward.find?_behind, Brackets.closer?_moved, Option.bind_eq_bind,
    Option.bind_map, Function.comp_def]
  split
  · rw [Option.map_bind]
    refine congrArg (Option.bind _) (funext fun brace => ?_)
    rw [Function.comp_apply, Option.map_bind]
    rfl
  · rw [Option.map_bind]
    refine congrArg (Option.bind _) (funext fun paren => ?_)
    rw [Function.comp_apply, Option.map_bind]
    refine congrArg (Option.bind _) (funext fun close => ?_)
    have next : Forward.nextCode? (first ++ '\n' :: s.masked) (first.length + 1 + close + 1) =
        (Forward.nextCode? s.masked (close + 1)).map (first.length + 1 + ·) :=
      Forward.nextCode?_behind first s.masked (close + 1)
    rw [Function.comp_apply, Option.map_bind, next, Option.bind_map]
    refine congrArg (Option.bind _) (funext fun i => ?_)
    simp only [Function.comp_apply, getElem?_behind, Brackets.closer?_moved, Forward.statementEnd_behind]
    split
    · rfl
    · cases s.masked[i]? == some '\x7b' <;> cases s.brackets.closer? i <;> rfl

theorem loops_below (blank : BlankLine first) : loops (s.below first) = (loops s).map (·.lowered 1) := by
  unfold loops
  rw [hits_below s blank (by simp), List.filterMap_map, List.map_filterMap]
  refine List.filterMap_congr fun hit _ => ?_
  rw [Function.comp_apply, loopBody?_below, Option.map_map, Option.map_map]
  refine congrArg (Option.map · _) (funext fun body => ?_)
  simp only [Function.comp_apply, Source.below, Hit.moved, Span.ofOffsets_behind blank.free,
    Position.ofOffset_behind_line blank.free]
  rfl

theorem declarations_below (blank : BlankLine first) :
    declarations (s.below first) = (declarations s).map (·.lowered 1) := by
  unfold declarations
  rw [hits_below s blank (by simp), List.map_map, List.map_map]
  refine List.map_congr_left fun hit _ => ?_
  simp only [Function.comp_apply, Source.below, Hit.moved, Forward.statementEnd_behind,
    Span.ofOffsets_behind blank.free]
  rfl

/-- The last character of a match is moved with it. -/
theorem last_moved {p : Text.Pattern}
    (known : p ∈ [keywordFunction, arrowFunction, loopHead, declaration, enumeration, classHeader])
    {cs : List Char} {hit : Hit} (member : hit ∈ hits p cs) (n : Nat) :
    (hit.moved n).stop - 1 = n + (hit.stop - 1) := by
  obtain ⟨_, found⟩ := exists_hitAt_of_mem_hits member
  have lt := start_lt_stop (inked_of_bold (bold_patterns p known)) found
  unfold Hit.moved
  dsimp only
  omega

theorem enumerations_below (blank : BlankLine first) :
    enumerations (s.below first) = (enumerations s).map (·.lowered 1) := by
  have known : enumeration ∈ [keywordFunction, arrowFunction, loopHead, declaration, enumeration, classHeader] := by
    simp
  unfold enumerations
  rw [hits_below s blank known, List.filterMap_map, List.map_filterMap]
  refine List.filterMap_congr fun hit member => ?_
  rw [Function.comp_apply, last_moved known member]
  simp only [Source.below, Brackets.closer?_moved, Option.map_map]
  refine congrArg (Option.map · _) (funext fun last => ?_)
  simp only [Function.comp_apply, Hit.moved, Nat.add_assoc (first.length + 1), Span.ofOffsets_behind blank.free]
  rfl

theorem inFunction_lowered (functions : List Finding) (line : Nat) :
    inFunction (functions.map (·.lowered 1)) (line + 1) = inFunction functions line := by
  unfold inFunction
  rw [List.any_map]
  refine congrArg (List.any functions) (funext fun f => ?_)
  cases f with
  | plain _ => rfl
  | block owner body =>
    simp only [Function.comp_apply, Finding.lowered, Sketch.lowered, Span.lowered, Position.lowered,
      Nat.add_le_add_iff_right]

theorem fieldAt?_lowered (line : Nat) (text : List Char) :
    fieldAt? (line + 1) text = (fieldAt? line text).map (·.lowered 1) := by
  unfold fieldAt?
  rw [Option.map_map]
  rfl

theorem fields_below (blank : BlankLine first) (functions : List Finding) :
    fields (s.below first) (functions.map (·.lowered 1)) = (fields s functions).map (·.lowered 1) := by
  have known : classHeader ∈ [keywordFunction, arrowFunction, loopHead, declaration, enumeration, classHeader] := by
    simp
  unfold fields
  rw [hits_below s blank known, List.flatMap_map, List.map_flatMap]
  refine List.flatMap_congr fun hit member => ?_
  rw [last_moved known member]
  simp only [Source.below, Brackets.closer?_moved]
  cases s.brackets.closer? (hit.stop - 1) with
  | none => rfl
  | some last =>
    dsimp only [Option.map_some]
    rw [Position.ofOffset_behind_line blank.free, Position.ofOffset_behind_line blank.free, List.map_filterMap]
    generalize Position.ofOffset s.masked (hit.stop - 1) = opened
    generalize Position.ofOffset s.masked last = closed
    have inside : List.range' ((opened.lowered 1).line + 1) ((closed.lowered 1).line - (opened.lowered 1).line - 1) =
        (List.range' (opened.line + 1) (closed.line - opened.line - 1)).map (· + 1) := by
      unfold Position.lowered
      rw [Nat.add_sub_add_right, List.range'_succ_left]
    rw [inside, List.filterMap_map]
    refine List.filterMap_congr fun line among => ?_
    have positive : 1 ≤ line := by
      have := (List.mem_range'_1.1 among).1
      omega
    rw [Function.comp_apply, inFunction_lowered]
    split
    · rfl
    · rw [fieldAt?_lowered, line_below first s.lines positive]

theorem findings_below (blank : BlankLine first) (profile : Profile) :
    findings profile (s.below first) = (findings profile s).map (·.lowered 1) := by
  unfold findings
  dsimp only
  rw [functions_below s blank, loops_below s blank, declarations_below s blank, enumerations_below s blank,
    fields_below s blank]
  simp only [List.map_append]

end Brace

namespace Indent

/-- The source below a line. -/
def Source.below (first : List Char) (s : Source) : Source :=
  ⟨first ++ '\n' :: s.masked, first :: s.lines, s.brackets.moved (first.length + 1)⟩

theorem blockEnd_lowered (header line : Nat) (last : Option Nat) (texts : List (List Char)) :
    blockEnd header (line + 1) (last.map (· + 1)) texts = (blockEnd header line last texts).map (· + 1) := by
  induction texts generalizing line last with
  | nil => rfl
  | cons text rest ih =>
    unfold blockEnd
    split
    · exact ih (line + 1) last
    · split
      · rfl
      · exact ih (line + 1) (some line)

theorem body?_below (first : List Char) (lines : List (List Char)) {colon : Position}
    (positive : 1 ≤ colon.line) (header : Nat) :
    body? (first :: lines) (colon.lowered 1) header = (body? lines colon header).map (·.lowered 1) := by
  unfold body? Position.lowered
  dsimp only
  rw [line_below first lines positive]
  split
  · rfl
  · rw [List.drop_succ_cons]
    have ends := blockEnd_lowered header (colon.line + 1) none (lines.drop colon.line)
    rw [Option.map_none] at ends
    rw [ends]
    cases found : blockEnd header (colon.line + 1) none (lines.drop colon.line) with
    | none => rfl
    | some last =>
      have behind : 1 ≤ last := by
        rcases bounds_of_blockEnd found with none_yet | bounds
        · cases none_yet
        · omega
      dsimp only [Option.map_some]
      generalize ((lines.drop colon.line).takeWhile fun text => (trim text).isEmpty).length = skipped
      have next : 1 ≤ colon.line + 1 + skipped := by omega
      rw [Nat.add_right_comm (colon.line + 1) 1, line_below first lines next,
        line_below first lines behind]
      rfl

/-- The body of a header is found below a line as it is without it. -/
theorem headerBody_below {first : List Char} (free : '\n' ∉ first) (s : Source) (start header : Nat) :
    (do
      let colon ← Forward.headerColon? (s.below first).masked (s.below first).brackets (first.length + 1 + start)
      body? (s.below first).lines (.ofOffset (s.below first).masked colon) header) =
      Option.map (Sketch.lowered 1) (do
        let colon ← Forward.headerColon? s.masked s.brackets start
        body? s.lines (.ofOffset s.masked colon) header) := by
  simp only [Source.below, Forward.headerColon?_behind, Option.bind_eq_bind, Option.bind_map, Option.map_bind]
  refine congrArg (Option.bind _) (funext fun colon => ?_)
  rw [Function.comp_apply, Function.comp_apply, Position.ofOffset_behind_line free,
    body?_below first s.lines (Position.one_le_line_ofOffset s.masked colon)]

theorem functionAt_below {first : List Char} (free : '\n' ∉ first) (profile : Profile) (s : Source)
    {line : Nat} (positive : 1 ≤ line) (offset : Nat) (text : List Char) {hit : Hit}
    (consumed : hit.start < hit.stop) :
    functionAt profile (s.below first) (line + 1) (first.length + 1 + offset) text hit =
      (functionAt profile s line offset text hit).map (·.lowered 1) := by
  unfold functionAt
  dsimp only
  have paren : first.length + 1 + offset + hit.stop - 1 = first.length + 1 + (offset + hit.stop - 1) := by omega
  have closed : (s.below first).brackets.closer? (first.length + 1 + (offset + hit.stop - 1)) =
      (s.brackets.closer? (offset + hit.stop - 1)).map (first.length + 1 + ·) := Brackets.closer?_moved _ _ _
  rw [paren, closed]
  cases s.brackets.closer? (offset + hit.stop - 1) with
  | none => rfl
  | some close =>
    dsimp only [Option.map_some]
    rw [Nat.add_assoc (first.length + 1) close 1, headerBody_below free]
    generalize (do
      let colon ← Forward.headerColon? s.masked s.brackets (close + 1)
      body? s.lines (.ofOffset s.masked colon) _) = body
    cases body with
    | none =>
      simp only [Option.map_none, Source.below, Sketch.errorLine_below first s.lines positive]
      rfl
    | some body =>
      simp only [Option.map_some, Source.below, Nat.add_assoc (first.length + 1), slice_behind,
        Span.ofOffsets_behind free]
      rfl

theorem loopAt_below {first : List Char} (free : '\n' ∉ first) (s : Source) (line offset : Nat)
    (text : List Char) (hit : Hit) :
    loopAt (s.below first) (line + 1) (first.length + 1 + offset) text hit =
      (loopAt s line offset text hit).map (·.lowered 1) := by
  unfold loopAt
  dsimp only
  rw [Nat.add_assoc (first.length + 1) offset, headerBody_below free]
  generalize (do
    let colon ← Forward.headerColon? s.masked s.brackets (offset + hit.stop)
    body? s.lines (.ofOffset s.masked colon) _) = body
  cases body <;> rfl

theorem inked_patterns : ∀ p ∈ [functionHeader, loopHeader, constant], p.inked = true := by decide +kernel

theorem lineFindings_below {first : List Char} (free : '\n' ∉ first) (profile : Profile) (s : Source)
    {line : Nat} (positive : 1 ≤ line) (offset : Nat) (text : List Char) :
    lineFindings profile (s.below first) (line + 1) (first.length + 1 + offset) text =
      (lineFindings profile s line offset text).map (·.lowered 1) := by
  unfold lineFindings
  cases function : hit? functionHeader text with
  | some hit =>
    have consumed := start_lt_stop (inked_patterns functionHeader (by simp)) function
    exact functionAt_below free profile s positive offset text consumed
  | none =>
    cases hit? loopHeader text with
    | some hit => exact loopAt_below free s line offset text hit
    | none =>
      dsimp only
      unfold constantAt
      cases hit? constant text with
      | none => rfl
      | some hit =>
        dsimp only
        split <;> rfl

theorem findings_below {first : List Char} (blank : BlankLine first) (profile : Profile) (s : Source) :
    findings profile (s.below first) = (findings profile s).map (·.lowered 1) := by
  have later {line : Nat} (positive : 1 ≤ line) (offset : Nat) (lines : List (List Char)) :
      findingsFrom profile (s.below first) (line + 1) (first.length + 1 + offset) lines =
        (findingsFrom profile s line offset lines).map (·.lowered 1) := by
    induction lines generalizing line offset with
    | nil => rfl
    | cons text rest ih =>
      have next : first.length + 1 + offset + text.length + 1 = first.length + 1 + (offset + text.length + 1) := by
        omega
      unfold findingsFrom
      rw [lineFindings_below blank.free profile s positive, next, ih (Nat.le_succ_of_le positive), List.map_append]
  have none_here : lineFindings profile (s.below first) 1 0 first = [] := by
    unfold lineFindings constantAt
    rw [hit?_blank (inked_patterns functionHeader (by simp)) blank,
      hit?_blank (inked_patterns loopHeader (by simp)) blank, hit?_blank (inked_patterns constant (by simp)) blank]
  have start : findings profile (s.below first) =
      lineFindings profile (s.below first) 1 0 first ++
        findingsFrom profile (s.below first) (1 + 1) (0 + first.length + 1) s.lines := rfl
  rw [start, none_here, List.nil_append, Nat.zero_add]
  exact later (Nat.le_refl 1) 0 s.lines

end Indent

end Scan

end LiveLint
