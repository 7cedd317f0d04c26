import LiveLint.Proofs.Scan.Matches

/-!
# Patterns and blank characters

There are finitely many blank characters, so it can be computed of a pattern that it never begins with one, or
that it needs a character that is not blank. A pattern of the first sort finds nothing in front of a text that
begins with blanks, and one of the second sort nothing in a blank line.
-/

namespace LiveLint.Text

def blankChars : List Char :=
  (List.range' 9 5 ++ List.range' 28 5 ++ [0x85, 0xA0, 0x1680] ++ List.range' 0x2000 11 ++
    [0x2028, 0x2029, 0x202F, 0x205F, 0x3000]).map Char.ofNat

theorem mem_blankChars {c : Char} (blank : isBlank c = true) : c ∈ blankChars := by
  unfold isBlank at blank
  simp only [Bool.or_eq_true, Bool.and_eq_true, decide_eq_true_eq, beq_iff_eq] at blank
  refine List.mem_map.2 ⟨c.toNat, ?_, Char.ofNat_toNat c⟩
  simp
  omega

theorem isBlank_of_mem_blankChars {c : Char} (member : c ∈ blankChars) : isBlank c = true := by
  have all : blankChars.all isBlank = true := by decide +kernel
  exact List.all_eq_true.1 all c member

/-- The blank code points beyond ASCII, as closed ranges. -/
def blankRanges : List (Nat × Nat) :=
  [(0x85, 0x85), (0xA0, 0xA0), (0x1680, 0x1680), (0x2000, 0x200A), (0x2028, 0x2029), (0x202F, 0x202F),
    (0x205F, 0x205F), (0x3000, 0x3000)]

theorem wordRanges_apart :
    (wordRanges.toList.all fun w => blankRanges.all fun b => w.2 < b.1 || b.2 < w.1) = true := by
  decide +kernel

/-- Blanks are no word characters. -/
theorem isWord_of_isBlank {c : Char} (blank : isBlank c = true) : isWord c = false := by
  have ascii : (blankChars.all fun c => !(c.isAlphanum || c == '_')) = true := by decide +kernel
  have other := List.all_eq_true.1 ascii c (mem_blankChars blank)
  rw [Bool.not_eq_true'] at other
  unfold isWord
  rw [other, Bool.false_or, Bool.eq_false_iff]
  intro word
  rw [Bool.and_eq_true, decide_eq_true_eq] at word
  obtain ⟨beyond, inside⟩ := word
  unfold inRanges at inside
  rw [← Array.any_toList, List.any_eq_true] at inside
  obtain ⟨w, member, inside⟩ := inside
  have apart := List.all_eq_true.1 (List.all_eq_true.1 wordRanges_apart w member)
  simp only [blankRanges, List.mem_cons, List.not_mem_nil, or_false, forall_eq_or_imp, forall_eq,
    Bool.or_eq_true, decide_eq_true_eq] at apart
  unfold isBlank at blank
  simp only [Bool.or_eq_true, Bool.and_eq_true, decide_eq_true_eq, beq_iff_eq] at blank inside
  omega

structure BlankLine (line : List Char) : Prop where
  blank : ∀ c ∈ line, isBlank c = true
  free : '\n' ∉ line

namespace Pattern

/-- Whether a class has no blank character. -/
def refusesBlanks (accepts : Char → Bool) : Bool := blankChars.all (!accepts ·)

theorem refusesBlanks_iff {accepts : Char → Bool} :
    refusesBlanks accepts = true ↔ ∀ c, isBlank c = true → accepts c = false := by
  unfold refusesBlanks
  rw [List.all_eq_true]
  constructor
  · intro refuses c blank
    exact Bool.not_eq_true' _ ▸ refuses c (mem_blankChars blank)
  · intro refuses c member
    rw [refuses c (isBlank_of_mem_blankChars member), Bool.not_false]

mutual

/-- Whether a match is empty or begins with a character that is not blank. -/
def shuns : Pattern → Bool
  | .empty | .ahead _ | .notAhead _ | .notBehind _ | .edge | .finish => true
  | .one accepts | .run accepts => refusesBlanks accepts
  | .both first second => first.bold || (first.shuns && second.shuns)
  | .either first second => first.shuns && second.shuns
  | .repeated body | .group _ body => body.shuns

/-- Whether every match begins with a character that is not blank. -/
def bold : Pattern → Bool
  | .one accepts => refusesBlanks accepts
  | .both first second => first.bold || (first.shuns && second.bold)
  | .either first second => first.bold && second.bold
  | .group _ body => body.bold
  | _ => false

end

/-- Whether every match has a character that is not blank. -/
def inked : Pattern → Bool
  | .one accepts => refusesBlanks accepts
  | .both first second => first.inked || second.inked
  | .either first second => first.inked && second.inked
  | .group _ body => body.inked
  | _ => false

/-- In front of a blank character, a pattern that shuns blanks can only match the empty text, and a bold one
does not match. -/
theorem attempt_before_blank {β : Type} (p : Pattern) {c : Cursor} {x : Char} {rest : List Char}
    (here : c.rest = x :: rest) (blank : isBlank x = true) {groups : Groups}
    {k : Cursor → Groups → Option β} {b : β} (found : attempt p c groups k = some b) :
    (p.shuns = true → ∃ groups', k c groups' = some b) ∧ ¬p.bold = true := by
  induction p generalizing groups k b with
  | empty => exact ⟨fun _ => ⟨groups, found⟩, Bool.false_ne_true⟩
  | one accepts =>
    unfold attempt at found
    rw [here] at found
    dsimp only at found
    have refuses : ¬refusesBlanks accepts = true := by
      intro refuses
      rw [refusesBlanks_iff.1 refuses x blank] at found
      cases found
    exact ⟨fun shuns => absurd shuns refuses, refuses⟩
  | run accepts =>
    refine ⟨fun shuns => ⟨groups, ?_⟩, Bool.false_ne_true⟩
    unfold attempt takeRun at found
    rw [here] at found
    dsimp only at found
    rw [refusesBlanks_iff.1 shuns x blank, if_neg Bool.false_ne_true, ← here] at found
    exact found
  | both first second ih₁ ih₂ =>
    unfold attempt at found
    obtain ⟨stays, not_bold⟩ := ih₁ found
    constructor
    · intro shuns
      rcases Bool.or_eq_true_iff.1 shuns with is_bold | shuns
      · exact absurd is_bold not_bold
      · obtain ⟨shuns, shuns'⟩ := Bool.and_eq_true_iff.1 shuns
        obtain ⟨groups', found⟩ := stays shuns
        exact (ih₂ found).1 shuns'
    · intro is_bold
      rcases Bool.or_eq_true_iff.1 is_bold with is_bold | is_bold
      · exact not_bold is_bold
      · obtain ⟨shuns, is_bold⟩ := Bool.and_eq_true_iff.1 is_bold
        obtain ⟨groups', found⟩ := stays shuns
        exact (ih₂ found).2 is_bold
  | either first second ih₁ ih₂ =>
    unfold attempt at found
    rcases Option.or_eq_some_iff.1 found with left | ⟨-, right⟩
    · exact ⟨fun shuns => (ih₁ left).1 (Bool.and_eq_true_iff.1 shuns).1,
        fun bold => (ih₁ left).2 (Bool.and_eq_true_iff.1 bold).1⟩
    · exact ⟨fun shuns => (ih₂ right).1 (Bool.and_eq_true_iff.1 shuns).2,
        fun bold => (ih₂ right).2 (Bool.and_eq_true_iff.1 bold).2⟩
  | repeated body ih =>
    refine ⟨fun shuns => ?_, Bool.false_ne_true⟩
    unfold attempt takeMany at found
    rw [here] at found
    rcases Option.or_eq_some_iff.1 found with again | ⟨-, now⟩
    · obtain ⟨groups', stuck⟩ := (ih again).1 shuns
      rw [if_neg (Nat.lt_irrefl _)] at stuck
      cases stuck
    · exact ⟨groups, now⟩
  | group slot body ih =>
    unfold attempt at found
    refine ⟨fun shuns => ?_, (ih found).2⟩
    obtain ⟨groups', found⟩ := (ih found).1 shuns
    exact ⟨_, found⟩
  | ahead _ _ | edge | finish =>
    unfold attempt at found
    split at found
    · exact ⟨fun _ => ⟨groups, found⟩, Bool.false_ne_true⟩
    · cases found
  | notAhead _ | notBehind _ =>
    unfold attempt at found
    split at found
    · cases found
    · exact ⟨fun _ => ⟨groups, found⟩, Bool.false_ne_true⟩

/-- Among blanks an inked pattern does not match. -/
theorem not_inked_of_attempt {β : Type} (p : Pattern) {c : Cursor} (blank : ∀ x ∈ c.rest, isBlank x = true)
    {groups : Groups} {k : Cursor → Groups → Option β} {b : β} (found : attempt p c groups k = some b) :
    ¬p.inked = true := by
  induction p generalizing c groups k b with
  | one accepts =>
    unfold attempt at found
    split at found
    · cases found
    · next x rest here =>
      intro refuses
      rw [refusesBlanks_iff.1 refuses x (blank x (here ▸ List.mem_cons_self ..))] at found
      cases found
  | both first second ih₁ ih₂ =>
    unfold attempt at found
    obtain ⟨mid, parts, later, ahead⟩ := attempt_forward first c groups _ b found
    intro inked
    exact (Bool.or_eq_true_iff.1 inked).elim (ih₁ blank found)
      (ih₂ (fun x member => blank x (ahead.rest.subset member)) later)
  | either first second ih₁ ih₂ =>
    unfold attempt at found
    intro inked
    rcases Option.or_eq_some_iff.1 found with left | ⟨-, right⟩
    · exact ih₁ blank left (Bool.and_eq_true_iff.1 inked).1
    · exact ih₂ blank right (Bool.and_eq_true_iff.1 inked).2
  | group slot body ih => exact ih blank found
  | _ => exact Bool.false_ne_true

/-- A blank line does not begin with a match of an inked pattern. -/
theorem hit?_blank {p : Pattern} (inked : p.inked = true) {line : List Char} (blank : BlankLine line) :
    hit? p line = none := by
  rw [Option.eq_none_iff_forall_ne_some]
  intro hit found
  exact not_inked_of_attempt p (c := .start line) blank.blank found inked

theorem hitAt_before_blank {p : Pattern} (bold : p.bold = true) (pos : Nat) (before : Option Char) {x : Char}
    (blank : isBlank x = true) (rest : List Char) : hitAt p ⟨pos, before, x :: rest⟩ = none := by
  rw [Option.eq_none_iff_forall_ne_some]
  intro hit found
  exact (attempt_before_blank p rfl blank found).2 bold

/-- Bold patterns find nothing in a blank line. -/
theorem hits_blank {p : Pattern} (bold : p.bold = true) {line : List Char} (blank : BlankLine line) :
    hits p line = [] := by
  have anywhere (pos : Nat) (before : Option Char) (cs : List Char) (blank : ∀ c ∈ cs, isBlank c = true) :
      hitsFrom p 0 pos before cs = [] := by
    induction cs generalizing pos before with
    | nil => rfl
    | cons c rest ih =>
      unfold hitsFrom
      rw [hitAt_before_blank bold _ _ (blank c (List.mem_cons_self ..))]
      exact ih _ _ fun x member => blank x (List.mem_cons_of_mem _ member)
  exact anywhere 0 none line blank.blank

theorem inked_of_bold {p : Pattern} (is_bold : p.bold = true) : p.inked = true := by
  induction p with
  | one accepts => exact is_bold
  | both first second ih₁ ih₂ =>
    refine Bool.or_eq_true_iff.2 ((Bool.or_eq_true_iff.1 is_bold).imp ih₁ fun later => ?_)
    exact ih₂ (Bool.and_eq_true_iff.1 later).2
  | either first second ih₁ ih₂ =>
    obtain ⟨bold₁, bold₂⟩ := Bool.and_eq_true_iff.1 is_bold
    exact Bool.and_eq_true_iff.2 ⟨ih₁ bold₁, ih₂ bold₂⟩
  | group slot body ih => exact ih is_bold
  | _ => cases is_bold

/-- An inked pattern takes at least one character. -/
theorem exists_lt_of_inked {β : Type} (p : Pattern) (is_inked : p.inked = true) {c : Cursor} {groups : Groups}
    {k : Cursor → Groups → Option β} {b : β} (found : attempt p c groups k = some b) :
    ∃ after groups', k after groups' = some b ∧ c.pos < after.pos := by
  induction p generalizing c groups k b with
  | one accepts =>
    unfold attempt at found
    split at found
    · cases found
    · split at found
      · exact ⟨_, groups, found, Nat.lt_succ_self c.pos⟩
      · cases found
  | both first second ih₁ ih₂ =>
    unfold attempt at found
    rcases Bool.or_eq_true_iff.1 is_inked with is_inked | is_inked
    · obtain ⟨mid, parts, later, lt⟩ := ih₁ is_inked found
      obtain ⟨after, groups', accepted, ahead⟩ := attempt_forward second mid parts _ b later
      exact ⟨after, groups', accepted, Nat.lt_of_lt_of_le lt ahead.pos⟩
    · obtain ⟨mid, parts, later, ahead⟩ := attempt_forward first c groups _ b found
      obtain ⟨after, groups', accepted, lt⟩ := ih₂ is_inked later
      exact ⟨after, groups', accepted, Nat.lt_of_le_of_lt ahead.pos lt⟩
  | either first second ih₁ ih₂ =>
    unfold attempt at found
    obtain ⟨inked₁, inked₂⟩ := Bool.and_eq_true_iff.1 is_inked
    rcases Option.or_eq_some_iff.1 found with left | ⟨-, right⟩
    · exact ih₁ inked₁ left
    · exact ih₂ inked₂ right
  | group slot body ih =>
    unfold attempt at found
    obtain ⟨after, _, accepted, lt⟩ := ih is_inked found
    exact ⟨after, _, accepted, lt⟩
  | _ => cases is_inked

theorem start_lt_stop {p : Pattern} (is_inked : p.inked = true) {c : Cursor} {hit : Hit}
    (found : hitAt p c = some hit) : hit.start < hit.stop := by
  obtain ⟨after, groups, accepted, lt⟩ := exists_lt_of_inked p is_inked found
  cases accepted
  exact lt

end Pattern

end LiveLint.Text
