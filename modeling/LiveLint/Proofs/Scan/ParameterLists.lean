import LiveLint.Scan.Forward
import LiveLint.Scan.Shared
import Mathlib.Algebra.Ring.Int.Defs

/-!
# Lists of parameters

The text of a parameter list is cut at its commas at depth zero, where angle signs count as brackets. So texts
that are joined by commas are cut into these texts again exactly if none of them has a comma at depth zero and
each but the last one closes what it opens. A text whose round, square and curly brackets come in pairs, with
all commas between brackets, is such a text if its angle signs come in pairs as well. An angle sign of an
arrow or of a comparison comes alone, and hides the commas behind it.
-/

namespace LiveLint.Parameters

/-- How many brackets a text leaves open, angle signs counted as brackets. -/
def depth (text : List Char) : Int := (text.map depthChange).sum

theorem depth_cons (c : Char) (rest : List Char) : depth (c :: rest) = depthChange c + depth rest := by
  rw [depth, List.map_cons, List.sum_cons, depth]

theorem depth_append (front back : List Char) : depth (front ++ back) = depth front + depth back := by
  rw [depth, List.map_append, List.sum_append, depth, depth]

theorem depthChange_comma : depthChange ',' = 0 := by decide

def joined (texts : List (List Char)) : List Char := [','].intercalate texts

/-! ## Cutting at commas -/

/-- No comma of a text stands at depth zero if the text begins at a depth. -/
def UncutFrom (start : Int) (text : List Char) : Prop :=
  ∀ before after, text = before ++ ',' :: after → start + depth before ≠ 0

/-- Texts between which commas cut: none of them has a comma at depth zero, and all but the last one close what
they open. -/
def Level : List (List Char) → Prop
  | [] => True
  | [text] => UncutFrom 0 text
  | text :: rest => UncutFrom 0 text ∧ depth text = 0 ∧ Level rest

theorem level_cons {text : List Char} {rest : List (List Char)} (more : rest ≠ []) :
    Level (text :: rest) ↔ UncutFrom 0 text ∧ depth text = 0 ∧ Level rest := by
  cases rest with
  | nil => exact absurd rfl more
  | cons next others => exact Iff.rfl

theorem UncutFrom.tail {start : Int} {c : Char} {rest : List Char} (uncut : UncutFrom start (c :: rest)) :
    UncutFrom (start + depthChange c) rest := by
  intro before after split
  have apart := uncut (c :: before) after (by rw [split, List.cons_append])
  rwa [depth_cons, ← Int.add_assoc] at apart

/-- What no comma cuts is read into the part that is being read. -/
theorem partsFrom_append {start : Int} {text : List Char} (uncut : UncutFrom start text)
    (current rest : List Char) :
    partsFrom start current (text ++ rest) = partsFrom (start + depth text) (text.reverse ++ current) rest := by
  induction text generalizing start current with
  | nil =>
    rw [List.nil_append, List.reverse_nil, List.nil_append, show depth [] = 0 from rfl, Int.add_zero]
  | cons c others ih =>
    have read : ¬((c == ',' && start + depthChange c == 0) = true) := by
      rw [Bool.and_eq_true, beq_iff_eq, beq_iff_eq]
      rintro ⟨rfl, zero⟩
      rw [depthChange_comma] at zero
      exact uncut [] others rfl zero
    rw [List.cons_append, partsFrom, if_neg read, ih uncut.tail, depth_cons, ← Int.add_assoc, List.reverse_cons,
      List.append_assoc, List.singleton_append]

theorem parts_of_uncut {text : List Char} (uncut : UncutFrom 0 text) : parts text = [text] := by
  have read := partsFrom_append uncut [] []
  rw [List.append_nil, List.append_nil, partsFrom, List.reverse_reverse] at read
  exact read

theorem parts_append_comma {text : List Char} (uncut : UncutFrom 0 text) (closed : depth text = 0)
    (rest : List Char) : parts (text ++ ',' :: rest) = text :: parts rest := by
  have cut : ((',' : Char) == ',' && (0 : Int) + 0 + depthChange ',' == 0) = true := by decide
  rw [parts, partsFrom_append uncut, closed, List.append_nil, partsFrom, if_pos cut, List.reverse_reverse,
    depthChange_comma]
  rfl

/-- Texts between which commas cut are the parts of the text that they are joined to. -/
theorem parts_joined {texts : List (List Char)} (some_text : texts ≠ []) (level : Level texts) :
    parts (joined texts) = texts := by
  induction texts with
  | nil => exact absurd rfl some_text
  | cons text rest ih =>
    cases rest with
    | nil =>
      rw [joined, List.intercalate_singleton]
      exact parts_of_uncut level
    | cons next others =>
      obtain ⟨uncut, closed, level⟩ := level
      have read := ih (List.cons_ne_nil _ _) level
      rw [joined, List.intercalate_cons_cons, List.append_assoc, List.singleton_append,
        parts_append_comma uncut closed]
      exact congrArg (text :: ·) read

theorem partsFrom_ne_nil (start : Int) (current text : List Char) : partsFrom start current text ≠ [] := by
  induction text generalizing start current with
  | nil => exact List.cons_ne_nil _ _
  | cons c rest ih =>
    rw [partsFrom]
    split
    · exact List.cons_ne_nil _ _
    · exact ih _ _

/-- Commas cut between the parts of every text. `current` is the part that is being read. -/
theorem level_partsFrom (text current : List Char) (uncut : UncutFrom 0 current.reverse) :
    Level (partsFrom (depth current.reverse) current text) := by
  induction text generalizing current with
  | nil => exact uncut
  | cons c rest ih =>
    have deeper : depth (c :: current).reverse = depth current.reverse + depthChange c := by
      rw [List.reverse_cons, depth_append, depth_cons, show depth [] = 0 from rfl, Int.add_zero]
    rw [partsFrom]
    split
    · next cut =>
      rw [Bool.and_eq_true, beq_iff_eq, beq_iff_eq] at cut
      obtain ⟨rfl, zero⟩ := cut
      rw [level_cons (partsFrom_ne_nil _ _ _), zero]
      rw [depthChange_comma, Int.add_zero] at zero
      refine ⟨uncut, zero, ih [] ?_⟩
      intro before after split
      cases before <;> cases split
    · next read =>
      rw [← deeper]
      refine ih (c :: current) ?_
      -- The only comma that is new is the character that was just read.
      intro before after split
      rw [List.reverse_cons] at split
      rcases List.eq_nil_or_concat after with rfl | ⟨front, last, rfl⟩
      · obtain ⟨rfl, same⟩ := List.append_inj' split rfl
        cases same
        rw [Bool.and_eq_true, beq_iff_eq, beq_iff_eq, depthChange_comma, Int.add_zero] at read
        rw [Int.zero_add]
        exact fun zero => read ⟨rfl, zero⟩
      · rw [List.concat_eq_append, ← List.cons_append, ← List.append_assoc] at split
        exact uncut before front (List.append_inj' split rfl).1

/-- Texts that are joined by commas are cut into these texts again exactly if commas cut between them. -/
theorem parts_joined_iff {texts : List (List Char)} (some_text : texts ≠ []) :
    parts (joined texts) = texts ↔ Level texts := by
  refine ⟨fun same => ?_, parts_joined some_text⟩
  have level := level_partsFrom (joined texts) [] (fun before after split => by cases before <;> cases split)
  change Level (parts (joined texts)) at level
  rwa [same] at level

/-! ## Brackets and angle signs -/

def bracketChange (c : Char) : Int := if isOpener c then 1 else if isCloser c then -1 else 0

def angleChange (c : Char) : Int := if c = '<' then 1 else if c = '>' then -1 else 0

def brackets (text : List Char) : Int := (text.map bracketChange).sum

def angles (text : List Char) : Int := (text.map angleChange).sum

theorem closerOf?_eq_none {c : Char} (apart : c ∉ ['(', '[', '\x7b']) : closerOf? c = none := by
  unfold closerOf?
  split <;> first | exact absurd (by decide) apart | rfl

theorem openerOf?_eq_none {c : Char} (apart : c ∉ [')', ']', '\x7d']) : openerOf? c = none := by
  unfold openerOf?
  split <;> first | exact absurd (by decide) apart | rfl

/-- Nothing but brackets and angle signs changes the depth. -/
theorem depthChange_eq (c : Char) : depthChange c = bracketChange c + angleChange c := by
  by_cases special : c ∈ ['(', '[', '\x7b', ')', ']', '\x7d', '<', '>']
  · have all : ['(', '[', '\x7b', ')', ']', '\x7d', '<', '>'].all
        (fun c => depthChange c == bracketChange c + angleChange c) = true := by decide
    exact beq_iff_eq.1 (List.all_eq_true.1 all c special)
  · have apart (few : List Char) (within : few ⊆ ['(', '[', '\x7b', ')', ']', '\x7d', '<', '>']) : c ∉ few :=
      fun member => special (within member)
    have opener : isOpener c = false := by
      rw [isOpener, closerOf?_eq_none (apart _ (by decide)), Option.isSome_none]
    have closer : isCloser c = false := by
      rw [isCloser, openerOf?_eq_none (apart _ (by decide)), Option.isSome_none]
    have less : c ≠ '<' := fun same => apart ['<'] (by decide) (List.mem_singleton.2 same)
    have greater : c ≠ '>' := fun same => apart ['>'] (by decide) (List.mem_singleton.2 same)
    have opens : "([\x7b<".toList.contains c = false := by
      rw [List.contains_eq_mem, decide_eq_false_iff_not]
      exact apart _ (by decide)
    have closes : ")]\x7d>".toList.contains c = false := by
      rw [List.contains_eq_mem, decide_eq_false_iff_not]
      exact apart _ (by decide)
    rw [bracketChange, opener, closer, angleChange, if_neg less, if_neg greater, depthChange, opens, closes]
    rfl

theorem depth_eq (text : List Char) : depth text = brackets text + angles text := by
  induction text with
  | nil => rfl
  | cons c rest ih =>
    rw [depth_cons, ih, depthChange_eq, brackets, brackets, angles, angles, List.map_cons, List.map_cons,
      List.sum_cons, List.sum_cons]
    omega

theorem brackets_cons (c : Char) (rest : List Char) : brackets (c :: rest) = bracketChange c + brackets rest := by
  rw [brackets, List.map_cons, List.sum_cons, brackets]

theorem brackets_append (front back : List Char) : brackets (front ++ back) = brackets front + brackets back := by
  rw [brackets, List.map_append, List.sum_append, brackets, brackets]

theorem bracketChange_plain {c : Char} (opens : isOpener c = false) (closes : isCloser c = false) :
    bracketChange c = 0 := by
  rw [bracketChange, opens, closes]
  rfl

/-- The two brackets of a pair undo each other, and neither is a comma. -/
theorem bracketChange_pair {opener closer : Char} (closes : closerOf? opener = some closer) :
    bracketChange opener = 1 ∧ bracketChange closer = -1 ∧ opener ≠ ',' ∧ closer ≠ ',' := by
  have among : opener ∈ ['(', '[', '\x7b'] := by
    refine Decidable.of_not_not fun apart => ?_
    rw [closerOf?_eq_none apart] at closes
    cases closes
  simp only [List.mem_cons, List.not_mem_nil, or_false] at among
  rcases among with rfl | rfl | rfl <;> cases closes <;> decide

/-- Texts whose round, square and curly brackets come in pairs. -/
inductive Balanced : List Char → Prop where
  | nil : Balanced []
  | plain {c : Char} {rest : List Char} (opens : isOpener c = false) (closes : isCloser c = false)
      (others : Balanced rest) : Balanced (c :: rest)
  | pair {opener closer : Char} {inner rest : List Char} (closes : closerOf? opener = some closer)
      (inside : Balanced inner) (others : Balanced rest) : Balanced (opener :: (inner ++ closer :: rest))

/-- Balanced texts that have commas only between brackets. -/
inductive Separate : List Char → Prop where
  | nil : Separate []
  | plain {c : Char} {rest : List Char} (opens : isOpener c = false) (closes : isCloser c = false)
      (no_comma : c ≠ ',') (others : Separate rest) : Separate (c :: rest)
  | pair {opener closer : Char} {inner rest : List Char} (closes : closerOf? opener = some closer)
      (inside : Balanced inner) (others : Separate rest) : Separate (opener :: (inner ++ closer :: rest))

theorem Separate.balanced {text : List Char} (separate : Separate text) : Balanced text := by
  induction separate with
  | nil => exact .nil
  | plain opens closes _ _ ih => exact .plain opens closes ih
  | pair closes inside _ ih => exact .pair closes inside ih

theorem Balanced.brackets_eq {text : List Char} (balanced : Balanced text) : brackets text = 0 := by
  induction balanced with
  | nil => rfl
  | plain opens closes _ ih => rw [brackets_cons, bracketChange_plain opens closes, ih, Int.zero_add]
  | pair closes _ _ inside others =>
    obtain ⟨opens, shuts, -, -⟩ := bracketChange_pair closes
    rw [brackets_cons, brackets_append, brackets_cons, inside, others, opens, shuts]
    rfl

/-- In a balanced text no bracket closes before one opens. -/
theorem Balanced.opened {text : List Char} (balanced : Balanced text) :
    ∀ before after, text = before ++ after → 0 ≤ brackets before := by
  induction balanced with
  | nil =>
    intro before after split
    rw [(List.append_eq_nil_iff.1 split.symm).1]
    exact Int.le_refl 0
  | plain opens closes _ ih =>
    intro before after split
    cases before with
    | nil => exact Int.le_refl 0
    | cons c front =>
      cases split
      rw [brackets_cons, bracketChange_plain opens closes, Int.zero_add]
      exact ih front after rfl
  | pair closes inside _ ih₁ ih₂ =>
    intro before after split
    cases before with
    | nil => exact Int.le_refl 0
    | cons c front =>
      rw [List.cons_append, List.cons.injEq] at split
      obtain ⟨rfl, split⟩ := split
      obtain ⟨opens, shuts, -, -⟩ := bracketChange_pair closes
      rw [brackets_cons, opens]
      rcases List.append_eq_append_iff.1 split with ⟨more, rfl, behind⟩ | ⟨more, rfl, -⟩
      · -- The cut is at the closing bracket or behind it.
        rw [brackets_append, inside.brackets_eq]
        cases more with
        | nil => decide
        | cons c front =>
          cases behind
          have later := ih₂ front after rfl
          rw [brackets_cons, shuts]
          omega
      · have earlier := ih₁ front more rfl
        omega

/-- In front of a comma of a part there is an open bracket. -/
theorem Separate.opened {text : List Char} (separate : Separate text) :
    ∀ before after, text = before ++ ',' :: after → 1 ≤ brackets before := by
  induction separate with
  | nil =>
    intro before after split
    cases before <;> cases split
  | plain opens closes no_comma _ ih =>
    intro before after split
    cases before with
    | nil =>
      cases split
      exact absurd rfl no_comma
    | cons c front =>
      cases split
      rw [brackets_cons, bracketChange_plain opens closes, Int.zero_add]
      exact ih front after rfl
  | pair closes inside _ ih =>
    intro before after split
    obtain ⟨opens, shuts, no_comma, no_comma'⟩ := bracketChange_pair closes
    cases before with
    | nil =>
      cases split
      exact absurd rfl no_comma
    | cons c front =>
      rw [List.cons_append, List.cons.injEq] at split
      obtain ⟨rfl, split⟩ := split
      rw [brackets_cons, opens]
      rcases List.append_eq_append_iff.1 split with ⟨more, rfl, behind⟩ | ⟨more, rfl, -⟩
      · rw [brackets_append, inside.brackets_eq]
        cases more with
        | nil =>
          cases behind
          exact absurd rfl no_comma'
        | cons c front =>
          cases behind
          have later := ih front after rfl
          rw [brackets_cons, shuts]
          omega
      · have earlier := inside.opened front more rfl
        omega

/-- Angle signs come in pairs: none closes before one opens, and none is left open. -/
structure AnglesPaired (text : List Char) : Prop where
  opened : ∀ before after, text = before ++ after → 0 ≤ angles before
  closed : angles text = 0

theorem anglesPaired_of_not_mem {text : List Char} (less : '<' ∉ text) (greater : '>' ∉ text) :
    AnglesPaired text := by
  have none_open {front : List Char} (within : front ⊆ text) : angles front = 0 := by
    induction front with
    | nil => rfl
    | cons c rest ih =>
      obtain ⟨here, later⟩ := List.cons_subset.1 within
      have plain : angleChange c = 0 := by
        rw [angleChange, if_neg fun same : c = '<' => less (same ▸ here),
          if_neg fun same : c = '>' => greater (same ▸ here)]
      have others := ih later
      rw [angles] at others
      rw [angles, List.map_cons, List.sum_cons, plain, others]
      rfl
  refine ⟨fun before after split => ?_, none_open (List.Subset.refl text)⟩
  exact Int.le_of_eq (none_open (split ▸ List.subset_append_left before after)).symm

/-- A part whose angle signs come in pairs closes what it opens, and no comma cuts it. -/
theorem Separate.uncut {text : List Char} (separate : Separate text) (paired : AnglesPaired text) :
    UncutFrom 0 text ∧ depth text = 0 := by
  constructor
  · intro before after split
    have inside := separate.opened before after split
    have angled := paired.opened before (',' :: after) split
    rw [depth_eq]
    omega
  · rw [depth_eq, separate.balanced.brackets_eq, paired.closed]
    rfl

theorem level_of_separate {texts : List (List Char)} (separate : ∀ s ∈ texts, Separate s)
    (paired : ∀ s ∈ texts, AnglesPaired s) : Level texts := by
  induction texts with
  | nil => trivial
  | cons text rest ih =>
    have here := (separate text List.mem_cons_self).uncut (paired text List.mem_cons_self)
    cases rest with
    | nil => exact here.1
    | cons next others =>
      exact ⟨here.1, here.2, ih (fun s member => separate s (List.mem_cons_of_mem _ member))
        fun s member => paired s (List.mem_cons_of_mem _ member)⟩

/-! ## Counting -/

/-- A part declares a parameter: it has a label, which is neither a marker nor a receiver. -/
def Declares (profile : Profile) (part : List Char) : Prop :=
  label part ≠ [] ∧ String.ofList (label part) ∉ "/" :: "*" :: profile.implicitParameters

theorem counts_eq_true_iff {profile : Profile} {part : List Char} :
    counts profile part = true ↔ Declares profile part := by
  have empty : String.ofList (label part) ≠ "" ↔ label part ≠ [] := by
    rw [ne_eq, ← String.toList_inj, String.toList_ofList]
    exact Iff.rfl
  unfold counts Declares
  simp only [Bool.and_eq_true, bne_iff_ne, Bool.not_eq_true', List.contains_eq_mem, decide_eq_false_iff_not,
    List.mem_cons, not_or, empty, and_assoc]

/-- Parts with others put between them, or around them, that declare nothing: empty parts, receivers and markers. A
comma at the end puts an empty part there. -/
inductive Filled (profile : Profile) : List (List Char) → List (List Char) → Prop where
  | nil : Filled profile [] []
  | keep {part : List Char} {parts filled : List (List Char)} (rest : Filled profile parts filled) :
      Filled profile (part :: parts) (part :: filled)
  | put {idle : List Char} {parts filled : List (List Char)} (nothing : ¬Declares profile idle)
      (rest : Filled profile parts filled) : Filled profile parts (idle :: filled)

/-- What declares nothing is not counted. -/
theorem Filled.length_filter {profile : Profile} {params parts : List (List Char)}
    (filled : Filled profile params parts) (declared : ∀ p ∈ params, Declares profile p) :
    (parts.filter (counts profile)).length = params.length := by
  induction filled with
  | nil => rfl
  | keep _ ih =>
    rw [List.filter_cons_of_pos (counts_eq_true_iff.2 (declared _ List.mem_cons_self)), List.length_cons,
      List.length_cons, ih fun p member => declared p (List.mem_cons_of_mem _ member)]
  | put nothing _ ih =>
    rw [List.filter_cons_of_neg (mt counts_eq_true_iff.1 nothing), ih declared]

/-- Parts that have all their commas between brackets are joined by commas. Those of them that declare a parameter are
counted, whatever stands between and around them, if commas cut between the parts. That is so if the angle signs of
every part come in pairs, and it is exactly so if the parts are got back. -/
theorem count_joined (profile : Profile) {params parts : List (List Char)}
    (separate : ∀ p ∈ parts, Separate p) (declared : ∀ p ∈ params, Declares profile p)
    (filled : Filled profile params parts) :
    (Level parts → count profile (joined parts) = params.length) ∧
      ((∀ p ∈ parts, AnglesPaired p) → Level parts) ∧
      (parts ≠ [] → (Parameters.parts (joined parts) = parts ↔ Level parts)) := by
  refine ⟨fun level => ?_, level_of_separate separate, parts_joined_iff⟩
  unfold count
  cases parts with
  | nil =>
    cases filled
    have empty : label [] = [] := rfl
    have nothing : counts profile [] = false :=
      Bool.eq_false_iff.2 fun counted => (counts_eq_true_iff.1 counted).1 empty
    show ([[]].filter (counts profile)).length = 0
    rw [List.filter_cons_of_neg (by rw [nothing]; exact Bool.false_ne_true)]
    rfl
  | cons part rest =>
    rw [parts_joined (List.cons_ne_nil _ _) level]
    exact filled.length_filter declared

/-- A receiver in front and a comma at the end do not count, and neither does the comma between brackets. -/
theorem count_joined_receiver_first :
    let params := [['x', '=', '(', 'a', ',', 'b', ')'], ['y']]
    let parts := [['s', 'e', 'l', 'f']] ++ params ++ [[]]
    (∀ p ∈ parts, Separate p) ∧ (∀ p ∈ params, Declares .python p) ∧ Filled .python params parts ∧
      count .python (joined parts) = params.length := by
  intro params parts
  have within_brackets : Separate ['x', '=', '(', 'a', ',', 'b', ')'] := by
    refine .plain rfl rfl (by decide) (.plain rfl rfl (by decide) ?_)
    refine @Separate.pair '(' ')' ['a', ',', 'b'] [] rfl ?_ .nil
    exact .plain rfl rfl (.plain rfl rfl (.plain rfl rfl .nil))
  have receiver : Separate ['s', 'e', 'l', 'f'] :=
    .plain rfl rfl (by decide) (.plain rfl rfl (by decide) (.plain rfl rfl (by decide)
      (.plain rfl rfl (by decide) .nil)))
  have separate : ∀ p ∈ parts, Separate p := by
    intro p member
    simp only [parts, params, List.cons_append, List.nil_append, List.mem_cons, List.not_mem_nil, or_false] at member
    rcases member with rfl | rfl | rfl | rfl
    · exact receiver
    · exact within_brackets
    · exact .plain rfl rfl (by decide) .nil
    · exact .nil
  have declared : ∀ p ∈ params, Declares .python p := by
    intro p member
    refine counts_eq_true_iff.1 ?_
    have all : ∀ p ∈ params, counts .python p = true := by decide +kernel
    exact all p member
  have idle {p : List Char} (uncounted : counts .python p = false) : ¬Declares .python p := fun declares =>
    Bool.false_ne_true (uncounted.symm.trans (counts_eq_true_iff.2 declares))
  have filled : Filled .python params parts :=
    .put (idle (by decide +kernel)) (.keep (.keep (.put (idle (by decide +kernel)) .nil)))
  obtain ⟨counted, level, -⟩ := count_joined .python separate declared filled
  refine ⟨separate, declared, filled, counted (level fun p member => anglesPaired_of_not_mem ?_ ?_)⟩
  · have all : ∀ p ∈ parts, '<' ∉ p := by decide
    exact all p member
  · have all : ∀ p ∈ parts, '>' ∉ p := by decide
    exact all p member

/-- The arrow of a type closes nothing, but counts as a closing angle sign, and the comma behind it is lost. -/
example : count .typescript "cb: () => void, x".toList = 1 := by decide +kernel

end LiveLint.Parameters
