import LiveLint.Scan.Mask
import Mathlib.Data.List.Forall2
import Mathlib.Data.List.Infix

/-!
# What masking leaves of a text

Each character stays or becomes a space, and newlines stay. So a masked text has the layout of its source, and
what can be read in it without spaces stands at the same place in the source. A quote or a marker of a comment
that is read as code opens something and is masked with it, so none is left, and masking a second time finds
nothing to mask.
-/

namespace LiveLint

/-- Whether a marker has characters, none of them blank. -/
def Profile.isSolid (marker : List Char) : Bool := !marker.isEmpty && marker.all (!Text.isBlank ·)

/-- Whether what begins a comment is solid, and what ends a block comment is not empty. -/
def Profile.hasSolidMarkers (profile : Profile) : Bool :=
  isSolid profile.lineComment.toList &&
    (profile.blockComment.isNone ||
      isSolid (Mask.blockOpener profile) && !(Mask.blockCloser profile).isEmpty)

/-- The supported languages have solid markers. -/
theorem Profile.hasSolidMarkers_of_find? {language : String} {profile : Profile}
    (supported : find? language = some profile) : profile.hasSolidMarkers = true := by
  have all : ∀ p ∈ [python, javascript, typescript, tsx], p.hasSolidMarkers = true := by decide +kernel
  exact all profile (mem_of_find? supported)

namespace Mask

/-!
## Layout
-/

/-- What may stand in a masked text in place of a character: the character, or a space unless it is a newline. -/
def Leaves (c d : Char) : Prop := d = c ∨ c ≠ '\n' ∧ d = ' '

theorem leaves_self (c : Char) : Leaves c c := Or.inl rfl

theorem leaves_space {c : Char} (other : ¬(c == '\n') = true) : Leaves c ' ' :=
  Or.inr ⟨fun newline => other (beq_iff_eq.2 newline), rfl⟩

theorem leaves_blank (c : Char) : Leaves c (blank c) := by
  unfold blank
  split
  · next newline => exact Or.inl (beq_iff_eq.1 newline).symm
  · next other => exact leaves_space other

theorem Leaves.newline_iff {c d : Char} (leaves : Leaves c d) : d = '\n' ↔ c = '\n' := by
  rcases leaves with rfl | ⟨other, rfl⟩
  · exact Iff.rfl
  · exact ⟨fun space => absurd space (by decide), fun newline => absurd newline other⟩

/-- A string literal is not opened by a newline. -/
def Mode.Opened : Mode → Prop
  | .quotation quote _ => quote ≠ '\n'
  | _ => True

theorem code_opened : Mode.code.Opened := trivial

theorem opened_of_opening {profile : Profile} {cs : List Char} {mode : Mode} {length : Nat}
    (found : opening profile cs = some (mode, length)) : mode.Opened := by
  unfold opening at found
  split at found
  · cases found
    trivial
  · split at found
    · cases found
      trivial
    · split at found
      · cases found
      · split at found
        · next quote =>
          cases found
          intro newline
          rw [newline] at quote
          unfold quotes at quote
          split at quote <;> cases quote
        · cases found

/-- Masking keeps characters or leaves spaces in their places. -/
theorem leaves_maskFrom (profile : Profile) (mode : Mode) (skip : Nat) (cs : List Char)
    (opened : mode.Opened) : List.Forall₂ Leaves cs (maskFrom profile mode skip cs) := by
  induction cs generalizing mode skip with
  | nil =>
    unfold maskFrom
    exact .nil
  | cons c rest ih =>
    cases skip with
    | succ skip =>
      unfold maskFrom
      exact .cons (leaves_blank c) (ih mode skip opened)
    | zero =>
      cases mode with
      | code =>
        unfold maskFrom
        split
        · next found => exact .cons (leaves_blank c) (ih _ _ (opened_of_opening found))
        · exact .cons (leaves_self c) (ih .code 0 trivial)
      | lineComment =>
        unfold maskFrom
        split
        · next newline => exact .cons (Or.inl (beq_iff_eq.1 newline).symm) (ih .code 0 trivial)
        · next other => exact .cons (leaves_space other) (ih .lineComment 0 trivial)
      | blockComment =>
        unfold maskFrom
        split
        · exact .cons (leaves_blank c) (ih .code _ trivial)
        · exact .cons (leaves_blank c) (ih .blockComment 0 trivial)
      | quotation quote triple =>
        unfold maskFrom
        split
        · next escape =>
          rw [beq_iff_eq.1 escape]
          exact .cons (leaves_space (by decide)) (ih (.quotation quote triple) 1 opened)
        · split
          · next closing =>
            have first : c = quote := by
              unfold Text.startsWith delimiter at closing
              cases triple <;> simp_all
            have other : ¬(c == '\n') = true := fun newline => opened (first ▸ beq_iff_eq.1 newline)
            exact .cons (leaves_space other) (ih .code _ trivial)
          · split
            · next ended =>
              rw [Bool.and_eq_true] at ended
              exact .cons (Or.inl (beq_iff_eq.1 ended.1).symm) (ih .code 0 trivial)
            · exact .cons (leaves_blank c) (ih (.quotation quote triple) 0 opened)

theorem leaves_mask (profile : Profile) (cs : List Char) : List.Forall₂ Leaves cs (mask profile cs) :=
  leaves_maskFrom profile .code 0 cs trivial

section Leaves

variable {cs ds : List Char} (leaves : List.Forall₂ Leaves cs ds)

include leaves

theorem count_of_leaves : ds.count '\n' = cs.count '\n' := by
  induction leaves with
  | nil => rfl
  | @cons c d cs ds first _ ih =>
    have same : (d == '\n') = (c == '\n') := by
      rw [Bool.eq_iff_iff, beq_iff_eq, beq_iff_eq, first.newline_iff]
    rw [List.count_cons, List.count_cons, ih, same]

theorem getElem?_of_leaves (i : Nat) :
    (cs[i]? = none ∧ ds[i]? = none) ∨ ∃ c d, cs[i]? = some c ∧ ds[i]? = some d ∧ Leaves c d := by
  induction leaves generalizing i with
  | nil => exact Or.inl ⟨List.getElem?_nil, List.getElem?_nil⟩
  | cons first _ ih =>
    cases i with
    | zero => exact Or.inr ⟨_, _, rfl, rfl, first⟩
    | succ i => simpa only [List.getElem?_cons_succ] using ih i

/-- What is read in a masked text without spaces is read in the text. -/
theorem prefix_of_leaves {v : List Char} (read : v <+: ds) (solid : ∀ x ∈ v, x ≠ ' ') : v <+: cs := by
  induction leaves generalizing v with
  | nil => exact read
  | @cons c d cs ds first _ ih =>
    cases v with
    | nil => exact List.nil_prefix
    | cons x v =>
      obtain ⟨rfl, later⟩ := List.cons_prefix_cons.1 read
      have kept : x = c := first.resolve_right fun space => solid x (List.mem_cons_self ..) space.2
      exact List.cons_prefix_cons.2 ⟨kept, ih later fun y member => solid y (List.mem_cons_of_mem _ member)⟩

end Leaves

/-!
## What is left as code
-/

/-- The markers that comments begin with. -/
def openers (profile : Profile) : List (List Char) :=
  profile.lineComment.toList :: if profile.blockComment.isSome then [blockOpener profile] else []

variable {profile : Profile}

theorem isSolid_of_mem_openers (solid : profile.hasSolidMarkers = true) {marker : List Char}
    (member : marker ∈ openers profile) : Profile.isSolid marker = true := by
  unfold Profile.hasSolidMarkers at solid
  rw [Bool.and_eq_true] at solid
  unfold openers at member
  rcases List.mem_cons.1 member with rfl | block
  · exact solid.1
  · split at block
    · next some_there =>
      rw [List.mem_singleton.1 block]
      rcases Bool.or_eq_true_iff.1 solid.2 with none_there | both
      · rw [Option.isNone_iff_eq_none] at none_there
        rw [none_there] at some_there
        cases some_there
      · exact (Bool.and_eq_true_iff.1 both).1
    · cases block

/-- What begins with a marker is not code. -/
theorem opening_ne_none_of_marker {marker cs : List Char} (member : marker ∈ openers profile)
    (begins : marker <+: cs) : opening profile cs ≠ none := by
  unfold openers at member
  unfold opening
  rcases List.mem_cons.1 member with rfl | block
  · rw [if_pos (by exact List.isPrefixOf_iff_prefix.2 begins)]
    exact Option.some_ne_none _
  · split
    · exact Option.some_ne_none _
    · split at block
      · next some_there =>
        rw [List.mem_singleton] at block
        subst block
        rw [if_pos]
        · exact Option.some_ne_none _
        · rw [some_there, Bool.true_and]
          exact List.isPrefixOf_iff_prefix.2 begins
      · cases block

/-- What begins with a quote is not code. -/
theorem opening_ne_none_of_quote {c : Char} (quote : c ∈ quotes profile) (rest : List Char) :
    opening profile (c :: rest) ≠ none := by
  unfold opening
  split
  · exact Option.some_ne_none _
  · split
    · exact Option.some_ne_none _
    · dsimp only
      rw [if_pos (List.contains_iff_mem.2 quote)]
      exact Option.some_ne_none _

/-- What begins with neither a quote nor a marker is code. -/
theorem opening_eq_none {c : Char} {rest : List Char} (no_quote : c ∉ quotes profile)
    (no_marker : ∀ marker ∈ openers profile, ¬marker <+: c :: rest) : opening profile (c :: rest) = none := by
  have refused {marker : List Char} (member : marker ∈ openers profile) :
      Text.startsWith (c :: rest) marker = false := by
    rw [Bool.eq_false_iff]
    exact fun begins => no_marker marker member (List.isPrefixOf_iff_prefix.1 begins)
  have no_block : (profile.blockComment.isSome && Text.startsWith (c :: rest) (blockOpener profile)) = false := by
    cases some_there : profile.blockComment.isSome with
    | false => rfl
    | true =>
      rw [Bool.true_and]
      refine refused ?_
      unfold openers
      rw [if_pos some_there]
      exact List.mem_cons_of_mem _ (List.mem_singleton_self _)
  unfold opening
  rw [refused (List.mem_cons_self ..), if_neg Bool.false_ne_true, no_block, if_neg Bool.false_ne_true]
  dsimp only
  rw [if_neg fun found => no_quote (List.contains_iff_mem.1 found)]

theorem isBlank_blank_or (c : Char) : blank c = '\n' ∨ blank c = ' ' := by
  unfold blank
  split
  · exact Or.inl rfl
  · exact Or.inr rfl

/-- Whatever is masked, a masked text begins with a newline or a space unless it begins with code. -/
theorem code_of_head_maskFrom {mode : Mode} {skip : Nat} {cs ds : List Char} {d : Char}
    (split : maskFrom profile mode skip cs = d :: ds) :
    (d = '\n' ∨ d = ' ') ∨ opening profile cs = none ∧ ∃ rest, cs = d :: rest := by
  cases cs with
  | nil =>
    unfold maskFrom at split
    cases split
  | cons c rest =>
    cases skip with
    | succ skip =>
      unfold maskFrom at split
      cases split
      exact Or.inl (isBlank_blank_or c)
    | zero =>
      cases mode with
      | code =>
        unfold maskFrom at split
        cases opened : opening profile (c :: rest) with
        | none =>
          rw [opened] at split
          cases split
          exact Or.inr ⟨rfl, rest, rfl⟩
        | some found =>
          rw [opened] at split
          cases split
          exact Or.inl (isBlank_blank_or c)
      | lineComment =>
        unfold maskFrom at split
        split at split
        · cases split
          exact Or.inl (Or.inl rfl)
        · cases split
          exact Or.inl (Or.inr rfl)
      | blockComment =>
        unfold maskFrom at split
        split at split
        · cases split
          exact Or.inl (isBlank_blank_or c)
        · cases split
          exact Or.inl (isBlank_blank_or c)
      | quotation quote triple =>
        unfold maskFrom at split
        split at split
        · cases split
          exact Or.inl (Or.inr rfl)
        · split at split
          · cases split
            exact Or.inl (Or.inr rfl)
          · split at split
            · cases split
              exact Or.inl (Or.inl rfl)
            · cases split
              exact Or.inl (isBlank_blank_or c)

/-- What follows the first character of a masked text is a masked text. -/
theorem exists_tail_maskFrom {mode : Mode} (opened : mode.Opened) {skip : Nat} {c d : Char} {rest ds : List Char}
    (split : maskFrom profile mode skip (c :: rest) = d :: ds) :
    ∃ mode' skip', Mode.Opened mode' ∧ ds = maskFrom profile mode' skip' rest := by
  cases skip with
  | succ skip =>
    unfold maskFrom at split
    cases split
    exact ⟨mode, skip, opened, rfl⟩
  | zero =>
    cases mode with
    | code =>
      unfold maskFrom at split
      split at split
      · next found =>
        cases split
        exact ⟨_, _, opened_of_opening found, rfl⟩
      · cases split
        exact ⟨.code, 0, trivial, rfl⟩
    | lineComment =>
      unfold maskFrom at split
      split at split
      · cases split
        exact ⟨.code, 0, trivial, rfl⟩
      · cases split
        exact ⟨.lineComment, 0, trivial, rfl⟩
    | blockComment =>
      unfold maskFrom at split
      split at split
      · cases split
        exact ⟨.code, _, trivial, rfl⟩
      · cases split
        exact ⟨.blockComment, 0, trivial, rfl⟩
    | quotation quote triple =>
      unfold maskFrom at split
      split at split
      · cases split
        exact ⟨.quotation quote triple, 1, opened, rfl⟩
      · split at split
        · cases split
          exact ⟨.code, _, trivial, rfl⟩
        · split at split
          · cases split
            exact ⟨.code, 0, trivial, rfl⟩
          · cases split
            exact ⟨.quotation quote triple, 0, opened, rfl⟩

/-- Every end of a masked text is a masked text. -/
theorem exists_of_suffix_maskFrom {mode : Mode} (opened : mode.Opened) {skip : Nat} {cs t : List Char}
    (suffix : t <:+ maskFrom profile mode skip cs) :
    ∃ mode' skip' ds, Mode.Opened mode' ∧ t = maskFrom profile mode' skip' ds := by
  induction cs generalizing mode skip with
  | nil => exact ⟨mode, skip, [], opened, by simpa [maskFrom] using suffix⟩
  | cons c rest ih =>
    cases output : maskFrom profile mode skip (c :: rest) with
    | nil =>
      rw [output] at suffix
      exact ⟨mode, skip, [], opened, by simpa [maskFrom] using suffix⟩
    | cons d ds =>
      rw [output] at suffix
      rcases List.suffix_cons_iff.1 suffix with rfl | later
      · exact ⟨mode, skip, c :: rest, opened, output.symm⟩
      · obtain ⟨mode', skip', opened', rfl⟩ := exists_tail_maskFrom opened output
        exact ih opened' later

theorem not_isBlank_of_isSolid {marker : List Char} (solid : Profile.isSolid marker = true) :
    ∀ x ∈ marker, Text.isBlank x = false := by
  unfold Profile.isSolid at solid
  rw [Bool.and_eq_true, List.all_eq_true] at solid
  intro x member
  simpa using solid.2 x member

/-- No marker of a comment is left at the head of a masked text. -/
theorem not_prefix_maskFrom (solid : profile.hasSolidMarkers = true) {marker : List Char}
    (member : marker ∈ openers profile) {mode : Mode} (opened : mode.Opened) {skip : Nat} {cs : List Char} :
    ¬marker <+: maskFrom profile mode skip cs := by
  intro begins
  have marks := isSolid_of_mem_openers solid member
  have dense := not_isBlank_of_isSolid marks
  cases marker with
  | nil => cases marks
  | cons d rest =>
    obtain ⟨ds, split⟩ := begins
    rcases code_of_head_maskFrom split.symm with blank | ⟨code, -⟩
    · have here := dense d (List.mem_cons_self ..)
      rcases blank with rfl | rfl <;> exact absurd here (by decide +kernel)
    · have read : d :: rest <+: cs := by
        refine prefix_of_leaves (leaves_maskFrom profile mode skip cs opened) ⟨ds, split⟩ fun x among space => ?_
        have here := dense x among
        rw [space] at here
        exact absurd here (by decide +kernel)
      exact opening_ne_none_of_marker member read code

/-- No quote is left at the head of a masked text. -/
theorem head_maskFrom_not_quote {mode : Mode} {skip : Nat} {cs ds : List Char} {d : Char}
    (split : maskFrom profile mode skip cs = d :: ds) : d ∉ quotes profile := by
  intro quote
  rcases code_of_head_maskFrom split with blank | ⟨code, rest, rfl⟩
  · have among : d ∈ ['\x27', '"', '\x60'] := by
      unfold quotes at quote
      split at quote
      · exact quote
      · exact (List.prefix_append ['\x27', '"'] ['\x60']).subset quote
    rcases blank with rfl | rfl <;> exact absurd among (by decide)
  · exact opening_ne_none_of_quote quote rest code

/-- A text without quotes and markers is masked as it is. -/
theorem mask_eq_self {ds : List Char} (no_quote : ∀ c ∈ ds, c ∉ quotes profile)
    (no_marker : ∀ marker ∈ openers profile, ¬marker <:+: ds) : mask profile ds = ds := by
  unfold mask
  induction ds with
  | nil =>
    unfold maskFrom
    rfl
  | cons c rest ih =>
    have code : opening profile (c :: rest) = none :=
      opening_eq_none (no_quote c (List.mem_cons_self ..)) fun marker member begins =>
        no_marker marker member begins.isInfix
    rw [maskFrom, code]
    refine congrArg (c :: ·) (ih (fun x member => no_quote x (List.mem_cons_of_mem _ member)) ?_)
    exact fun marker member inside => no_marker marker member (inside.trans (List.suffix_cons c rest).isInfix)

/-- What masking makes of a text: the same layout, nothing new but spaces, and nothing left to mask. -/
structure Blanked (profile : Profile) (cs masked : List Char) : Prop where
  /-- No character is added or left out. -/
  length : masked.length = cs.length
  /-- Newlines stand at the same offsets. -/
  newlines (i : Nat) : masked[i]? = some '\n' ↔ cs[i]? = some '\n'
  /-- Every other character is the original one or a space. -/
  kept (i : Nat) : masked[i]? = cs[i]? ∨ masked[i]? = some ' '
  /-- No quote is left. -/
  unquoted : ∀ c ∈ masked, c ∉ quotes profile
  /-- No marker of a comment is left. -/
  uncommented : ∀ marker ∈ openers profile, ¬marker <:+: masked
  /-- Masking a second time changes nothing. -/
  settled : mask profile masked = masked

theorem blanked_mask (solid : profile.hasSolidMarkers = true) (cs : List Char) :
    Blanked profile cs (mask profile cs) := by
  have leaves := leaves_mask profile cs
  have unquoted : ∀ c ∈ mask profile cs, c ∉ quotes profile := by
    intro c member
    obtain ⟨before, after, split⟩ := List.append_of_mem member
    have suffix : c :: after <:+ maskFrom profile .code 0 cs := ⟨before, split.symm⟩
    obtain ⟨mode, skip, ds, -, same⟩ := exists_of_suffix_maskFrom code_opened suffix
    exact head_maskFrom_not_quote same.symm
  have uncommented : ∀ marker ∈ openers profile, ¬marker <:+: mask profile cs := by
    intro marker member inside
    obtain ⟨t, begins, suffix⟩ := List.infix_iff_prefix_suffix.1 inside
    obtain ⟨mode, skip, ds, opened, rfl⟩ := exists_of_suffix_maskFrom code_opened suffix
    exact not_prefix_maskFrom solid member opened begins
  refine ⟨leaves.length_eq.symm, fun i => ?_, fun i => ?_, unquoted, uncommented, mask_eq_self unquoted uncommented⟩
  · rcases getElem?_of_leaves leaves i with ⟨none_there, none_here⟩ | ⟨c, d, there, here, same⟩
    · rw [none_there, none_here]
    · rw [there, here, Option.some_inj, Option.some_inj, same.newline_iff]
  · rcases getElem?_of_leaves leaves i with ⟨none_there, none_here⟩ | ⟨c, d, there, here, same⟩
    · exact Or.inl (none_here.trans none_there.symm)
    · rw [there, here]
      rcases same with rfl | ⟨-, rfl⟩
      · exact Or.inl rfl
      · exact Or.inr rfl

end Mask

end LiveLint
