import LiveLint.Language.Profile
import LiveLint.Proofs.Scan.FindingsBelow
import LiveLint.Proofs.Scan.Nesting

/-!
# Outlines below a line without code

A line that is blank or a line comment leaves nothing but blanks behind when it is masked, and what stands
below it is masked as it is without the line. So the drafts of a text below such a line are the drafts of the
text, one line further down and with the same numbers, and they are arranged in the same way.
-/

namespace LiveLint

/-- Whether a line has no code: it is blank or a line comment. -/
def Profile.isSilent (profile : Profile) (line : List Char) : Bool :=
  let text := Text.trim line
  text.isEmpty || Text.startsWith text profile.lineComment.toList

/-- Whether the markers of comments begin with characters that are not blank. -/
def Profile.hasMarkers (profile : Profile) : Bool :=
  profile.lineComment.toList.head?.any (!Text.isBlank ·) &&
    (profile.blockComment.isNone || (Mask.blockOpener profile).head?.any (!Text.isBlank ·))

/-- The supported languages have proper markers. -/
theorem Profile.hasMarkers_of_find? {language : String} {profile : Profile}
    (supported : find? language = some profile) : profile.hasMarkers = true := by
  have all : ∀ p ∈ [python, javascript, typescript, tsx], p.hasMarkers = true := by decide +kernel
  exact all profile (mem_of_find? supported)

namespace Text

theorem trimRight_prefix_self (cs : List Char) : trimRight cs <+: cs := by
  induction cs with
  | nil => exact List.prefix_refl _
  | cons c rest ih =>
    unfold trimRight
    split
    · next none_kept =>
      split
      · exact List.nil_prefix
      · exact List.cons_prefix_cons.2 ⟨rfl, List.nil_prefix⟩
    · exact List.cons_prefix_cons.2 ⟨rfl, ih⟩

theorem isBlank_of_trimRight {cs : List Char} (empty : trimRight cs = []) : ∀ c ∈ cs, isBlank c = true := by
  induction cs with
  | nil => exact nofun
  | cons c rest ih =>
    unfold trimRight at empty
    split at empty
    · next none_kept =>
      split at empty
      · next blank =>
        intro x member
        rcases List.mem_cons.1 member with rfl | member
        · exact blank
        · exact ih none_kept x member
      · cases empty
    · cases empty

theorem isBlank_of_trim {cs : List Char} (empty : trim cs = []) : ∀ c ∈ cs, isBlank c = true := by
  intro c member
  rw [← List.takeWhile_append_dropWhile (p := isBlank) (l := cs)] at member
  rcases List.mem_append.1 member with leading | other
  · exact List.mem_takeWhile_imp leading
  · exact isBlank_of_trimRight empty c other

/-- A line whose trimmed text begins with a marker has only blanks in front of the marker. -/
theorem exists_of_startsWith_trim {cs marker : List Char} (starts : startsWith (trim cs) marker = true) :
    ∃ blanks rest, (∀ c ∈ blanks, isBlank c = true) ∧ cs = blanks ++ (marker ++ rest) := by
  obtain ⟨rest, split⟩ := (List.isPrefixOf_iff_prefix.1 starts).trans (trimRight_prefix_self (trimLeft cs))
  refine ⟨cs.takeWhile isBlank, rest, fun c leading => List.mem_takeWhile_imp leading, ?_⟩
  rw [split]
  exact (List.takeWhile_append_dropWhile (p := isBlank) (l := cs)).symm

end Text

namespace Mask

variable {profile : Profile}

/-- Blank characters are masked as they are. -/
theorem opening_blank (markers : profile.hasMarkers = true) {c : Char} (blank : Text.isBlank c = true)
    (rest : List Char) : opening profile (c :: rest) = none := by
  have refused {marker : List Char} (proper : marker.head?.any (!Text.isBlank ·) = true) :
      Text.startsWith (c :: rest) marker = false := by
    cases marker with
    | nil => cases proper
    | cons d others =>
      have apart : d ≠ c := by
        rintro rfl
        rw [List.head?_cons, Option.any_some, blank] at proper
        cases proper
      unfold Text.startsWith
      rw [List.isPrefixOf_cons_cons, beq_eq_false_iff_ne.2 apart, Bool.false_and]
  obtain ⟨line, block⟩ := Bool.and_eq_true_iff.1 markers
  have no_quotes : (['\x27', '"', '\x60'].all (!Text.isBlank ·)) = true := by decide +kernel
  have no_quote : (quotes profile).contains c = false := by
    rw [Bool.eq_false_iff]
    intro quote
    have quote := List.contains_iff_mem.1 quote
    have among : c ∈ ['\x27', '"', '\x60'] := by
      unfold quotes at quote
      split at quote
      · exact quote
      · exact (List.prefix_append ['\x27', '"'] ['\x60']).subset quote
    have other := List.all_eq_true.1 no_quotes c among
    rw [blank] at other
    cases other
  have no_block : (profile.blockComment.isSome && Text.startsWith (c :: rest) (blockOpener profile)) = false := by
    rcases Bool.or_eq_true_iff.1 block with none_there | proper
    · rw [Option.isNone_iff_eq_none.1 none_there]
      rfl
    · rw [refused proper, Bool.and_false]
  unfold opening
  rw [refused line, if_neg Bool.false_ne_true, no_block, if_neg Bool.false_ne_true]
  dsimp only
  rw [no_quote, if_neg Bool.false_ne_true]

theorem maskFrom_blanks (markers : profile.hasMarkers = true) {blanks : List Char}
    (blank : ∀ c ∈ blanks, Text.isBlank c = true) (rest : List Char) :
    maskFrom profile .code 0 (blanks ++ rest) = blanks ++ maskFrom profile .code 0 rest := by
  induction blanks with
  | nil => rfl
  | cons c others ih =>
    rw [List.cons_append, maskFrom, opening_blank markers (blank c (List.mem_cons_self ..))]
    exact congrArg _ (ih fun x member => blank x (List.mem_cons_of_mem _ member))

/-- The rest of a line comment leaves spaces behind. -/
theorem maskFrom_lineComment {line : List Char} (free : '\n' ∉ line) {skip : Nat} (within : skip ≤ line.length)
    (rest : List Char) :
    maskFrom profile .lineComment skip (line ++ '\n' :: rest) =
      List.replicate line.length ' ' ++ '\n' :: maskFrom profile .code 0 rest := by
  induction line generalizing skip with
  | nil =>
    rw [Nat.le_zero.1 within, List.nil_append, maskFrom, if_pos (beq_self_eq_true _)]
    rfl
  | cons c others ih =>
    obtain ⟨other, free⟩ := List.ne_and_not_mem_of_not_mem_cons free
    have other : ¬(c == '\n') = true := by
      rw [beq_iff_eq]
      exact other.symm
    rw [List.cons_append, List.length_cons, List.replicate_succ, List.cons_append]
    cases skip with
    | zero => rw [maskFrom, if_neg other, ih free (Nat.zero_le _)]
    | succ skip =>
      rw [maskFrom, blank, if_neg other, ih free (Nat.le_of_succ_le_succ within)]

/-- A line without code is masked by blanks, and what stands below it as it is without the line. -/
theorem exists_mask_below (markers : profile.hasMarkers = true) {line : List Char} (free : '\n' ∉ line)
    (silent : profile.isSilent line = true) :
    ∃ first, Text.BlankLine first ∧ ∀ cs, mask profile (line ++ '\n' :: cs) = first ++ '\n' :: mask profile cs := by
  have newline (cs : List Char) : maskFrom profile .code 0 ('\n' :: cs) = '\n' :: mask profile cs := by
    rw [maskFrom, opening_blank markers Text.isBlank_newline]
    rfl
  rcases Bool.or_eq_true_iff.1 silent with empty | comment
  · have blank := Text.isBlank_of_trim (List.isEmpty_iff.1 empty)
    refine ⟨line, ⟨blank, free⟩, fun cs => ?_⟩
    unfold mask
    rw [maskFrom_blanks markers blank, newline]
    rfl
  · obtain ⟨blanks, rest, blank, rfl⟩ := Text.exists_of_startsWith_trim comment
    obtain ⟨proper, -⟩ := Bool.and_eq_true_iff.1 markers
    cases marker : profile.lineComment.toList with
    | nil =>
      rw [marker] at proper
      cases proper
    | cons c others =>
      rw [marker] at free comment
      have free_blanks : '\n' ∉ blanks := fun member => free (List.mem_append_left _ member)
      have free_rest : '\n' ∉ others ++ rest := fun member =>
        free (List.mem_append_right _ (List.mem_cons_of_mem _ member))
      have other : ¬(c == '\n') = true := by
        rw [beq_iff_eq]
        rintro rfl
        exact free (List.mem_append_right _ (List.mem_cons_self ..))
      refine ⟨blanks ++ ' ' :: List.replicate (others ++ rest).length ' ', ⟨?_, ?_⟩, fun cs => ?_⟩
      · intro x member
        rcases List.mem_append.1 member with leading | space
        · exact blank x leading
        · rw [List.eq_of_mem_replicate (n := (others ++ rest).length + 1) space]
          exact Text.isBlank_space
      · intro member
        rcases List.mem_append.1 member with leading | space
        · exact free_blanks leading
        · cases List.eq_of_mem_replicate (n := (others ++ rest).length + 1) space
      · have opened : opening profile (c :: (others ++ rest ++ '\n' :: cs)) =
            some (.lineComment, (c :: others).length) := by
          unfold opening
          rw [marker, if_pos]
          exact List.isPrefixOf_iff_prefix.2 ⟨rest ++ '\n' :: cs, by simp⟩
        unfold mask
        rw [List.append_assoc, maskFrom_blanks markers blank, List.cons_append, List.cons_append, maskFrom, opened]
        dsimp only
        rw [List.length_cons, Nat.add_sub_cancel, maskFrom_lineComment free_rest (by simp)]
        unfold Mask.blank
        rw [if_neg other]
        simp

end Mask

def Draft.lowered (n : Nat) (d : Draft) : Draft := { d with toSketch := d.toSketch.lowered n }

theorem Draft.number_lowered (k n : Nat) (findings : List Finding) :
    number k (findings.map (·.lowered n)) = (number k findings).map (·.lowered n) := by
  induction findings generalizing k with
  | nil => rfl
  | cons f rest ih =>
    cases f with
    | plain sketch => exact congrArg _ (ih (k + 1))
    | block owner body => exact congrArg (fun later => _ :: _ :: later) (ih (k + 2))

namespace Outline

variable {profile : Profile} {line : List Char}

theorem errorLines_below (markers : profile.hasMarkers = true) (free : '\n' ∉ line)
    (silent : profile.isSilent line = true) (text : List Char) :
    errorLines profile (line ++ '\n' :: text) = (errorLines profile text).map (· + 1) := by
  obtain ⟨first, blank, masked⟩ := Mask.exists_mask_below markers free silent
  unfold errorLines
  dsimp only
  rw [masked, Brackets.pair_behind blank, Brackets.errorLines_moved blank.free]

/-- The drafts of a text are the same below a line without code, one line further down. -/
theorem drafts_below (markers : profile.hasMarkers = true) (free : '\n' ∉ line)
    (silent : profile.isSilent line = true) (text : List Char) :
    drafts profile (line ++ '\n' :: text) = (drafts profile text).map (·.lowered 1) := by
  obtain ⟨first, blank, masked⟩ := Mask.exists_mask_below markers free silent
  unfold drafts
  dsimp only
  rw [masked, Brackets.pair_behind blank, Brackets.errorLines_moved blank.free, Text.lines_below blank.free,
    Scan.Leaves.findings_below profile blank]
  generalize Mask.mask profile text = cs
  have errors : (((Brackets.pair cs).errorLines cs).map (· + 1)).map
      (fun l => Finding.plain (.errorLine (first :: Text.lines cs) l)) =
      (((Brackets.pair cs).errorLines cs).map fun l => Finding.plain (.errorLine (Text.lines cs) l)).map
        (·.lowered 1) := by
    rw [List.map_map, List.map_map]
    refine List.map_congr_left fun l member => ?_
    rw [Function.comp_apply, Sketch.errorLine_below first _ (Brackets.bounds_of_mem_errorLines member).1]
    rfl
  rw [errors]
  cases profile.blockStyle with
  | indent =>
    dsimp only
    have same := Scan.Indent.findings_below blank profile ⟨cs, Text.lines cs, Brackets.pair cs⟩
    unfold Scan.Indent.Source.below at same
    rw [same, ← List.map_append, ← List.map_append, Draft.number_lowered]
  | brace =>
    dsimp only
    have same := Scan.Brace.findings_below ⟨cs, Text.lines cs, Brackets.pair cs⟩ blank profile
    unfold Scan.Brace.Source.below at same
    rw [same, ← List.map_append, ← List.map_append, Draft.number_lowered]

theorem kept_below (markers : profile.hasMarkers = true) (free : '\n' ∉ line)
    (silent : profile.isSilent line = true) (text : List Char) :
    kept profile (line ++ '\n' :: text) = (kept profile text).map (·.lowered 1) := by
  unfold kept
  rw [errorLines_below markers free silent, drafts_below markers free silent, List.filter_map]
  refine congrArg (List.map _) (List.filter_congr fun d _ => ?_)
  have same : ((errorLines profile text).map (· + 1)).contains (d.span.start.line + 1) =
      (errorLines profile text).contains d.span.start.line := by
    rw [Bool.eq_iff_iff, List.contains_iff_mem, List.contains_iff_mem]
    exact List.mem_map_of_injective fun _ _ => Nat.add_right_cancel
  exact congrArg (fun inside => d.isError || !inside) same

end Outline

theorem Position.lowered_inj {n : Nat} {p q : Position} : p.lowered n = q.lowered n ↔ p = q := by
  unfold lowered
  rw [mk.injEq]
  cases p
  cases q
  rw [mk.injEq]
  dsimp only
  omega

theorem Position.le_lowered (n : Nat) (p q : Position) : (p.lowered n).le (q.lowered n) = p.le q := by
  rw [Bool.eq_iff_iff, le_iff, le_iff]
  unfold lowered
  dsimp only
  omega

mutual

def Branch.lowered (n : Nat) : Branch → Branch
  | .mk d cs => .mk (d.lowered n) (Branch.lowerAll n cs)

def Branch.lowerAll (n : Nat) : List Branch → List Branch
  | [] => []
  | b :: rest => b.lowered n :: Branch.lowerAll n rest

end

theorem Branch.lowerAll_eq_map (n : Nat) (bs : List Branch) : lowerAll n bs = bs.map (·.lowered n) := by
  induction bs with
  | nil => rfl
  | cons b rest ih => exact congrArg _ ih

theorem Span.lowered_inj {n : Nat} {s t : Span} : s.lowered n = t.lowered n ↔ s = t := by
  unfold lowered
  rw [mk.injEq, Position.lowered_inj, Position.lowered_inj, ← mk.injEq]

theorem Span.contains_lowered (n : Nat) (s t : Span) : (s.lowered n).contains (t.lowered n) = s.contains t := by
  unfold contains lowered
  rw [Position.le_lowered, Position.le_lowered]

namespace Forest

theorem rank_lowered (n : Nat) (drafts : List Draft) (d : Draft) :
    rank (drafts.map (·.lowered n)) (d.lowered n) = rank drafts d := by
  have owner (d : Draft) : (drafts.map (·.lowered n)).find? (·.body == some (d.lowered n).id) =
      (drafts.find? (·.body == some d.id)).map (·.lowered n) := List.find?_map
  have within (steps : Nat) : rankWithin (drafts.map (·.lowered n)) steps (d.lowered n) = rankWithin drafts steps d := by
    induction steps generalizing d with
    | zero => rfl
    | succ steps ih =>
      unfold rankWithin
      rw [owner]
      cases drafts.find? (·.body == some d.id) with
      | none => rfl
      | some owner =>
        have same : (owner.span.lowered n == d.span.lowered n) = (owner.span == d.span) := by
          rw [Bool.eq_iff_iff, beq_iff_eq, beq_iff_eq, Span.lowered_inj]
        rw [Option.map_some]
        dsimp only
        rw [ih]
        exact congrArg (fun b : Bool => if b then rankWithin drafts steps owner + 1 else -2) same
  unfold rank
  rw [List.length_map]
  exact within _

theorem comesFirst_lowered (n : Nat) (i j : Int) (d e : Draft) :
    comesFirst (i, d.lowered n) (j, e.lowered n) = comesFirst (i, d) (j, e) := by
  rw [Bool.eq_iff_iff, comesFirst_iff, comesFirst_iff]
  unfold Draft.lowered Sketch.lowered Span.lowered
  dsimp only
  rw [Position.le_lowered, Position.le_lowered, Position.lowered_inj, Position.lowered_inj]

theorem ordered_lowered (n : Nat) (drafts : List Draft) :
    ordered (drafts.map (·.lowered n)) = (ordered drafts).map (·.lowered n) := by
  have ranked : (drafts.map (·.lowered n)).map (fun d => (rank (drafts.map (·.lowered n)) d, d)) =
      (drafts.map fun d => (rank drafts d, d)).map fun (i, d) => (i, d.lowered n) := by
    rw [List.map_map, List.map_map]
    refine List.map_congr_left fun d _ => ?_
    rw [Function.comp_apply, rank_lowered]
    rfl
  unfold ordered
  rw [ranked, ← List.map_mergeSort (r := comesFirst) fun x _ y _ => ?_, List.map_map, List.map_map]
  · rfl
  · exact (comesFirst_lowered n x.1 y.1 x.2 y.2).symm

theorem build_lowered (n : Nat) (drafts : List Draft) :
    build (drafts.map (·.lowered n)) = (build drafts).map (·.lowered n) := by
  have inside (d : Draft) : (fun x : Draft => (d.lowered n).span.contains x.span) ∘ Draft.lowered n =
      fun x : Draft => d.span.contains x.span :=
    funext fun x => Span.contains_lowered n d.span x.span
  fun_induction build drafts with
  | case1 =>
    rw [List.map_nil, build]
    rfl
  | case2 d rest error ih =>
    rw [List.map_cons, build_cons, if_pos (by exact error), ih]
    rfl
  | case3 d rest error ih₁ ih₂ =>
    rw [List.map_cons, build_cons, if_neg (by exact error), List.takeWhile_map, List.dropWhile_map, inside, ih₁,
      ih₂, ← Branch.lowerAll_eq_map]
    rfl

end Forest

/-- The outline of a text is the same below a line without code, one line further down. -/
theorem Outline.branches_below {profile : Profile} {line : List Char} (markers : profile.hasMarkers = true)
    (free : '\n' ∉ line) (silent : profile.isSilent line = true) (text : List Char) :
    branches profile (line ++ '\n' :: text) = (branches profile text).map (·.lowered 1) := by
  unfold branches Forest.arrange
  rw [kept_below markers free silent, Forest.ordered_lowered, Forest.build_lowered]

end LiveLint
