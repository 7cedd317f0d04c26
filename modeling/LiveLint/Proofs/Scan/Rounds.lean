import LiveLint.Proofs.Scan.Masks
import LiveLint.Scan.Indexed

/-!
# Reading and going round

A fetch succeeds where there is an element, and a loop succeeds if every round of it does, some number grows smaller
with every round, and what a round leaves to the next is all that is still to be done. Masking by index is such a
loop: each round stands at a character of code and goes over that, or over a whole comment or string literal.
-/

namespace LiveLint

namespace Indexed

variable {α β σ : Type}

/-!
## Reading
-/

theorem fetch_eq {xs : List α} {i : Nat} {x : α} (here : xs[i]? = some x) : fetch xs i = .ok x := by
  unfold fetch
  rw [here]

theorem exists_fetch {xs : List α} {i : Nat} (inside : i < xs.length) :
    fetch xs i = .ok xs[i] ∧ xs[i]? = some xs[i] :=
  ⟨fetch_eq (List.getElem?_eq_getElem inside), List.getElem?_eq_getElem inside⟩

theorem lineAt_eq {lines : List (List Char)} {line : Nat} (first : 1 ≤ line) (last : line ≤ lines.length) :
    lineAt lines line = .ok ((lines[line - 1]?).getD []) := by
  have inside : line - 1 < lines.length := by omega
  unfold lineAt
  rw [if_neg (by omega), (exists_fetch inside).1, (exists_fetch inside).2]
  rfl

theorem partner_eq {b : Brackets} {i j : Nat} (found : b.closer? i = some j) : partner b i = .ok j := by
  unfold partner
  rw [found]

/-- A loop whose rounds succeed and come nearer to its end succeeds with what they come to. -/
theorem exists_loop {round : σ → Except Lapse (σ ⊕ β)} (holds : σ → Prop) (left : σ → Nat) (ends : σ → β → Prop)
    (each : ∀ s, holds s → (∃ b, round s = .ok (.inr b) ∧ ends s b) ∨
      ∃ next, round s = .ok (.inl next) ∧ holds next ∧ left next < left s ∧ ∀ b, ends next b → ends s b)
    {rounds : Nat} {s : σ} (start : holds s) (enough : left s < rounds) :
    ∃ b, loop round rounds s = .ok b ∧ ends s b := by
  induction rounds generalizing s with
  | zero => exact absurd enough (Nat.not_lt_zero _)
  | succ rounds ih =>
    rcases each s start with ⟨b, done, ended⟩ | ⟨next, done, later, nearer, passes⟩
    · refine ⟨b, ?_, ended⟩
      unfold loop
      rw [done]
      rfl
    · obtain ⟨b, rest, ended⟩ := ih later (by omega)
      refine ⟨b, ?_, passes b ended⟩
      unfold loop
      rw [done]
      exact rest

/-- A loop whose rounds succeed, come nearer to its end and keep its result succeeds with that result. -/
theorem loop_eq {round : σ → Except Lapse (σ ⊕ β)} (holds : σ → Prop) (left : σ → Nat) (result : σ → β)
    (each : ∀ s, holds s → round s = .ok (.inr (result s)) ∨
      ∃ next, round s = .ok (.inl next) ∧ holds next ∧ left next < left s ∧ result next = result s)
    {rounds : Nat} {s : σ} (start : holds s) (enough : left s < rounds) :
    loop round rounds s = .ok (result s) := by
  obtain ⟨b, done, same⟩ : ∃ b, loop round rounds s = .ok b ∧ b = result s := by
    refine exists_loop holds left (fun s b => b = result s) (fun s now => ?_) start enough
    rcases each s now with done | ⟨next, done, later, nearer, same⟩
    · exact Or.inl ⟨_, done, rfl⟩
    · exact Or.inr ⟨next, done, later, nearer, fun b ended => ended.trans same⟩
  rw [done, same]

/-- What is done with what was found is done in range if it is for everything that can be found. -/
theorem whenFound_eq {found : Option α} {next : α → Except Lapse (Option β)} {result : α → Option β}
    (each : ∀ a, found = some a → next a = .ok (result a)) : whenFound found next = .ok (found.bind result) := by
  cases found with
  | none => rfl
  | some a => exact each a rfl

theorem mapM_eq {f : α → Except Lapse β} {g : α → β} {xs : List α} (each : ∀ x ∈ xs, f x = .ok (g x)) :
    xs.mapM f = .ok (xs.map g) := by
  induction xs with
  | nil => rfl
  | cons x rest ih =>
    rw [List.mapM_cons, each x (List.mem_cons_self ..), ih fun y member => each y (List.mem_cons_of_mem _ member)]
    rfl

theorem gather_eq {find : α → Except Lapse (List β)} {g : α → List β} {xs : List α}
    (each : ∀ x ∈ xs, find x = .ok (g x)) : gather find xs = .ok (xs.flatMap g) := by
  unfold gather
  rw [mapM_eq each]
  rfl

end Indexed

/-!
## What masking goes over at once
-/

namespace Mask

variable {profile : Profile}

/-- Everything that is read in a mode up to some number of characters is blanked, and code follows. -/
def EndsAt (profile : Profile) (mode : Mode) (skip : Nat) (cs : List Char) (n : Nat) : Prop :=
  maskFrom profile mode skip cs = (cs.take n).map blank ++ maskFrom profile .code 0 (cs.drop n)

theorem endsAt_code (cs : List Char) : EndsAt profile .code 0 cs 0 := rfl

theorem endsAt_nil (mode : Mode) (skip n : Nat) : EndsAt profile mode skip [] n := by
  unfold EndsAt
  rw [List.take_nil, List.drop_nil, maskFrom, maskFrom]
  rfl

/-- One character more that is blanked in front. -/
theorem EndsAt.cons {mode mode' : Mode} {skip skip' : Nat} {c : Char} {rest : List Char} {n : Nat}
    (ends : EndsAt profile mode' skip' rest n)
    (step : maskFrom profile mode skip (c :: rest) = blank c :: maskFrom profile mode' skip' rest) :
    EndsAt profile mode skip (c :: rest) (n + 1) := by
  unfold EndsAt
  rw [step, ends]
  rfl

/-- Characters that are masked whatever they are. -/
theorem EndsAt.skip {mode : Mode} {skip : Nat} {cs : List Char} {n : Nat}
    (ends : EndsAt profile mode 0 (cs.drop skip) n) : EndsAt profile mode skip cs (skip + n) := by
  induction skip generalizing cs with
  | zero => rwa [Nat.zero_add]
  | succ skip ih =>
    cases cs with
    | nil => exact endsAt_nil ..
    | cons c rest =>
      have shorter : EndsAt profile mode skip rest (skip + n) := ih ends
      rw [Nat.add_right_comm]
      exact shorter.cons (by rw [maskFrom])

/-- Code begins at a newline that ends a comment or a string literal. -/
theorem opening_newline (solid : profile.hasSolidMarkers = true) (rest : List Char) :
    opening profile ('\n' :: rest) = none := by
  refine opening_eq_none ?_ fun marker member begins => ?_
  · unfold quotes
    split <;> decide
  · have marks := isSolid_of_mem_openers solid member
    cases marker with
    | nil => cases marks
    | cons d others =>
      have same : d = '\n' := (List.cons_prefix_cons.1 begins).1
      have dense := not_isBlank_of_isSolid marks d (List.mem_cons_self ..)
      rw [same] at dense
      cases dense

/-- The marker of a line comment is masked as what follows it. -/
theorem maskFrom_lineComment_skip {skip : Nat} {cs : List Char} (free : ∀ c ∈ cs.take skip, ¬(c == '\n') = true) :
    maskFrom profile .lineComment skip cs = maskFrom profile .lineComment 0 cs := by
  induction cs generalizing skip with
  | nil => rw [maskFrom, maskFrom]
  | cons c rest ih =>
    cases skip with
    | zero => rfl
    | succ skip =>
      rw [List.take_succ_cons] at free
      have other := free c (List.mem_cons_self ..)
      rw [maskFrom, ih fun x member => free x (List.mem_cons_of_mem _ member), maskFrom, if_neg other, blank,
        if_neg other]

/-- A line comment ends at the next newline. -/
theorem endsAt_lineComment (solid : profile.hasSolidMarkers = true) (i : Nat) (cs : List Char) :
    ∃ n, EndsAt profile .lineComment 0 cs n ∧ (Forward.findFrom? ['\n'] i cs).getD (i + cs.length) = i + n := by
  induction cs generalizing i with
  | nil => exact ⟨0, endsAt_nil .., rfl⟩
  | cons c rest ih =>
    by_cases newline : c = '\n'
    · refine ⟨0, ?_, ?_⟩
      · unfold EndsAt
        have code : maskFrom profile .code 0 ('\n' :: rest) = '\n' :: maskFrom profile .code 0 rest := by
          rw [maskFrom, opening_newline solid]
        rw [newline, List.take_zero, List.drop_zero, code, maskFrom]
        rfl
      · have here : ['\n'].isPrefixOf (c :: rest) = true := by simp [newline]
        rw [Forward.findFrom?, if_pos here]
        rfl
    · obtain ⟨n, ends, found⟩ := ih (i + 1)
      have other : ¬(c == '\n') = true := fun same => newline (beq_iff_eq.1 same)
      refine ⟨n + 1, ends.cons ?_, ?_⟩
      · rw [maskFrom, if_neg other, blank, if_neg other]
      · have behind : ¬(['\n'].isPrefixOf (c :: rest)) = true := by
          simpa using fun same => newline same.symm
        rw [Forward.findFrom?, if_neg behind, List.length_cons, ← Nat.add_assoc, Nat.add_right_comm, found]
        omega

/-- Where a line comment begins, all of it is read up to the next newline. -/
theorem endsAt_of_line (solid : profile.hasSolidMarkers = true) (i : Nat) {c : Char} {rest : List Char}
    (line : Text.startsWith (c :: rest) profile.lineComment.toList = true) :
    ∃ n, EndsAt profile .code 0 (c :: rest) (n + 1) ∧
      (Forward.findFrom? ['\n'] i (c :: rest)).getD (i + (c :: rest).length) = i + (n + 1) := by
  have begins : profile.lineComment.toList <+: c :: rest := List.isPrefixOf_iff_prefix.1 line
  have marks := isSolid_of_mem_openers solid (List.mem_cons_self ..)
  have dense : ∀ x ∈ profile.lineComment.toList, ¬(x == '\n') = true := by
    intro x member newline
    have here := not_isBlank_of_isSolid marks x member
    rw [beq_iff_eq.1 newline] at here
    cases here
  have found : opening profile (c :: rest) = some (.lineComment, profile.lineComment.toList.length) := by
    unfold opening
    rw [if_pos line]
  generalize profile.lineComment.toList = marker at begins marks dense found
  cases marker with
  | nil => cases marks
  | cons d others =>
    obtain ⟨rfl, later⟩ := List.cons_prefix_cons.1 begins
    have other := dense d (List.mem_cons_self ..)
    obtain ⟨n, ends, stop⟩ := endsAt_lineComment solid (i + 1) rest
    refine ⟨n, ends.cons ?_, ?_⟩
    · rw [maskFrom, found]
      refine congrArg (blank d :: ·) (maskFrom_lineComment_skip ?_)
      intro x member
      refine dense x (List.mem_cons_of_mem _ ?_)
      exact (List.prefix_iff_eq_take.1 later) ▸ member
    · have behind : ¬(['\n'].isPrefixOf (d :: rest)) = true := fun here =>
        other (beq_iff_eq.2 (List.cons_prefix_cons.1 (List.isPrefixOf_iff_prefix.1 here)).1.symm)
      rw [Forward.findFrom?, if_neg behind, List.length_cons, ← Nat.add_assoc, Nat.add_right_comm, stop]
      omega

/-- A block comment ends behind its closer. -/
theorem endsAt_blockComment (closes : blockCloser profile ≠ []) (i : Nat) (cs : List Char) :
    ∃ n, EndsAt profile .blockComment 0 cs n ∧
      ((Forward.findFrom? (blockCloser profile) i cs).map (· + (blockCloser profile).length)).getD (i + cs.length) =
        i + n := by
  induction cs generalizing i with
  | nil =>
    refine ⟨0, endsAt_nil .., ?_⟩
    rw [Forward.findFrom?, if_neg (by simpa using closes)]
    rfl
  | cons c rest ih =>
    by_cases closing : Text.startsWith (c :: rest) (blockCloser profile) = true
    · refine ⟨(blockCloser profile).length, ?_, ?_⟩
      · have longer : (blockCloser profile).length = (blockCloser profile).length - 1 + 0 + 1 := by
          have := List.length_pos_iff.2 closes
          omega
        rw [longer]
        refine (EndsAt.skip (endsAt_code _)).cons ?_
        rw [maskFrom, if_pos closing]
      · have found : (blockCloser profile).isPrefixOf (c :: rest) = true := closing
        rw [Forward.findFrom?, if_pos found]
        rfl
    · obtain ⟨n, ends, found⟩ := ih (i + 1)
      refine ⟨n + 1, ends.cons ?_, ?_⟩
      · rw [maskFrom, if_neg closing]
      · have behind : ¬(blockCloser profile).isPrefixOf (c :: rest) = true := closing
        rw [Forward.findFrom?, if_neg behind, List.length_cons, ← Nat.add_assoc, Nat.add_right_comm, found]
        omega

/-- Behind its opener a comment or a string literal is read in its own mode. -/
theorem endsAt_of_opening {c : Char} {rest : List Char} {mode : Mode} {length n : Nat}
    (found : opening profile (c :: rest) = some (mode, length)) (long : 1 ≤ length)
    (ends : EndsAt profile mode 0 ((c :: rest).drop length) n) :
    EndsAt profile .code 0 (c :: rest) (length + n) := by
  obtain ⟨shorter, rfl⟩ := Nat.exists_eq_add_of_le' long
  rw [List.drop_succ_cons] at ends
  rw [Nat.add_right_comm]
  refine ends.skip.cons ?_
  rw [maskFrom, found]
  rfl

end Mask

namespace Indexed

open Mask

variable {profile : Profile} {text : List Char}

/-- What stands at an index of a text. -/
theorem exists_drop_eq {α : Type} {xs : List α} {i : Nat} (inside : i < xs.length) :
    ∃ x rest, xs.drop i = x :: rest ∧ fetch xs i = .ok x ∧ xs.drop (i + 1) = rest :=
  ⟨xs[i], xs.drop (i + 1), List.drop_eq_getElem_cons inside, (exists_fetch inside).1, rfl⟩

/-!
## Masking by index
-/

theorem length_delimiter_pos (quote : Char) (triple : Bool) : 1 ≤ (delimiter quote triple).length := by
  unfold delimiter
  split <;> exact Nat.le_add_left 1 _

/-- A block comment has an opener and a closer. -/
theorem solid_blockComment (solid : profile.hasSolidMarkers = true) (some_there : profile.blockComment.isSome = true) :
    blockOpener profile ≠ [] ∧ blockCloser profile ≠ [] := by
  unfold Profile.hasSolidMarkers at solid
  rcases Bool.or_eq_true_iff.1 (Bool.and_eq_true_iff.1 solid).2 with none_there | both
  · rw [Option.isNone_iff_eq_none] at none_there
    rw [none_there] at some_there
    cases some_there
  · obtain ⟨opener, closer⟩ := Bool.and_eq_true_iff.1 both
    refine ⟨?_, by simpa using closer⟩
    rintro empty
    rw [empty] at opener
    cases opener

/-- A string literal is read to its end. -/
theorem exists_literalEnd (text : List Char) (solid : profile.hasSolidMarkers = true) {quote : Char} (other : quote ≠ '\n')
    (triple : Bool) (start : Nat) :
    ∃ stop, loop (literalRound text (delimiter quote triple) (spansLines quote triple)) (text.length + 1) start =
        .ok stop ∧
      ∃ n, stop = start + n ∧ EndsAt profile (.quotation quote triple) 0 (text.drop start) n := by
  refine exists_loop (fun _ => True) (text.length - ·)
    (fun j stop => ∃ n, stop = j + n ∧ EndsAt profile (.quotation quote triple) 0 (text.drop j) n)
    (fun j _ => ?_) trivial (by omega)
  unfold literalRound
  by_cases inside : j < text.length
  · obtain ⟨c, rest, here, fetched, behind⟩ := exists_drop_eq inside
    rw [if_neg (by omega), fetched, here]
    dsimp only [pure, Except.pure, bind, Except.bind]
    by_cases escape : (c == '\\') = true
    · refine Or.inr ⟨j + 2, if_pos escape, trivial, by omega, ?_⟩
      rintro stop ⟨n, rfl, ends⟩
      refine ⟨1 + n + 1, by omega, ?_⟩
      have ends : EndsAt profile (.quotation quote triple) 0 (rest.drop 1) n := by
        rwa [← behind, List.drop_drop]
      refine ends.skip.cons ?_
      rw [maskFrom, if_pos escape, beq_iff_eq.1 escape]
      rfl
    · rw [if_neg escape]
      by_cases closing : Text.startsWith (c :: rest) (delimiter quote triple) = true
      · refine Or.inl ⟨_, if_pos closing, (delimiter quote triple).length, rfl, ?_⟩
        have first : c = quote := by
          unfold Text.startsWith delimiter at closing
          cases triple <;> simp_all
        have kept : blank c = ' ' := by
          unfold blank
          rw [if_neg fun newline => other (first ▸ beq_iff_eq.1 newline)]
        have longer : (delimiter quote triple).length = (delimiter quote triple).length - 1 + 0 + 1 := by
          have := length_delimiter_pos quote triple
          omega
        rw [longer]
        refine (EndsAt.skip (endsAt_code _)).cons ?_
        rw [maskFrom, if_neg escape, if_pos closing, kept]
      · rw [if_neg closing]
        by_cases ended : (c == '\n' && !spansLines quote triple) = true
        · refine Or.inl ⟨j, if_pos ended, 0, rfl, ?_⟩
          have newline : c = '\n' := beq_iff_eq.1 (Bool.and_eq_true_iff.1 ended).1
          have code : maskFrom profile .code 0 (c :: rest) = '\n' :: maskFrom profile .code 0 rest := by
            rw [newline, maskFrom, opening_newline solid]
          unfold EndsAt
          rw [List.take_zero, List.drop_zero, code, maskFrom, if_neg escape, if_neg closing, if_pos ended]
          rfl
        · refine Or.inr ⟨j + 1, if_neg ended, trivial, by omega, ?_⟩
          rintro stop ⟨n, rfl, ends⟩
          rw [behind] at ends
          refine ⟨n + 1, by omega, ends.cons ?_⟩
          rw [maskFrom, if_neg escape, if_neg closing, if_neg ended]
  · refine Or.inl ⟨j, if_pos (by omega), 0, rfl, ?_⟩
    rw [List.drop_eq_nil_of_le (by omega)]
    exact endsAt_nil ..

/-- At every index of a text either code is read, or a comment or a string literal up to its end. -/
theorem exists_maskedEnd? (solid : profile.hasSolidMarkers = true) {i : Nat} (inside : i < text.length) :
    (maskedEnd? profile text i = .ok none ∧ opening profile (text.drop i) = none) ∨
      ∃ n, maskedEnd? profile text i = .ok (some (i + (n + 1))) ∧ EndsAt profile .code 0 (text.drop i) (n + 1) := by
  obtain ⟨c, rest, here, fetched, behind⟩ := exists_drop_eq inside
  have whole : i + (c :: rest).length = text.length := by
    rw [← here, List.length_drop]
    omega
  unfold maskedEnd?
  rw [here]
  by_cases line : Text.startsWith (c :: rest) profile.lineComment.toList = true
  · obtain ⟨n, ends, stop⟩ := endsAt_of_line solid i line
    rw [whole, ← here] at stop
    refine Or.inr ⟨n, ?_, ends⟩
    rw [if_pos line, Forward.find?, stop]
    rfl
  · rw [if_neg line]
    by_cases block : (profile.blockComment.isSome && Text.startsWith (c :: rest) (blockOpener profile)) = true
    · have found : opening profile (c :: rest) = some (.blockComment, (blockOpener profile).length) := by
        unfold opening
        rw [if_neg line, if_pos block]
      obtain ⟨opened, closes⟩ := solid_blockComment solid (Bool.and_eq_true_iff.1 block).1
      obtain ⟨n, ends, stop⟩ := endsAt_blockComment closes (i + (blockOpener profile).length)
        ((c :: rest).drop (blockOpener profile).length)
      have long := List.length_pos_iff.2 opened
      have within : (blockOpener profile).length ≤ (c :: rest).length :=
        (List.isPrefixOf_iff_prefix.1 (Bool.and_eq_true_iff.1 block).2).length_le
      refine Or.inr ⟨(blockOpener profile).length - 1 + n, ?_, ?_⟩
      · have same : i + (blockOpener profile).length + ((c :: rest).drop (blockOpener profile).length).length =
            text.length := by
          rw [List.length_drop]
          omega
        rw [same, ← here, List.drop_drop] at stop
        rw [if_pos block]
        dsimp only [pure, Except.pure, bind, Except.bind]
        rw [Forward.find?, stop]
        refine congrArg (Except.ok <| some ·) ?_
        omega
      · have ends := endsAt_of_opening found long ends
        rwa [show (blockOpener profile).length - 1 + n + 1 = (blockOpener profile).length + n by omega]
    · rw [if_neg block, fetched]
      dsimp only [pure, Except.pure, bind, Except.bind]
      by_cases quote : (quotes profile).contains c = true
      · have other : c ≠ '\n' := by
          rintro rfl
          unfold quotes at quote
          split at quote <;> cases quote
        have triple : ∃ t, (profile.blockStyle == .indent && Text.startsWith (c :: rest) [c, c, c]) = t := ⟨_, rfl⟩
        obtain ⟨triple, same⟩ := triple
        have found : opening profile (c :: rest) =
            some (.quotation c triple, (delimiter c triple).length) := by
          unfold opening
          rw [if_neg line, if_neg block]
          dsimp only
          rw [if_pos quote, same]
        have long := length_delimiter_pos c triple
        obtain ⟨stop, done, n, rfl, ends⟩ := exists_literalEnd text solid other triple
          (i + (delimiter c triple).length)
        refine Or.inr ⟨(delimiter c triple).length - 1 + n, ?_, ?_⟩
        · rw [if_pos quote, same, done]
          refine congrArg (Except.ok <| some ·) ?_
          omega
        · rw [← List.drop_drop, here] at ends
          have ends := endsAt_of_opening found long ends
          rwa [show (delimiter c triple).length - 1 + n + 1 = (delimiter c triple).length + n by omega]
      · refine Or.inl ⟨if_neg quote, ?_⟩
        unfold opening
        rw [if_neg line, if_neg block]
        exact if_neg quote

theorem blankAt_eq (front : List Char) (c : Char) (rest : List Char) :
    blankAt (front ++ c :: rest) front.length = .ok ((front ++ [blank c]) ++ rest) := by
  unfold blankAt blank
  rw [fetch_eq (x := c) (by simp)]
  dsimp only [pure, Except.pure, bind, Except.bind]
  split
  · next newline => simp [beq_iff_eq.1 newline]
  · simp

/-- Blanking from one index to another leaves what is around. -/
theorem blankOut_eq (front rest : List Char) (n : Nat) :
    blankOut front.length (front.length + n) (front ++ rest) =
      .ok (front ++ (rest.take n).map blank ++ rest.drop n) := by
  have rounds (m : Nat) (within : m ≤ rest.length) :
      (List.range' front.length m).foldlM blankAt (front ++ rest) =
        .ok (front ++ (rest.take m).map blank ++ rest.drop m) := by
    induction m generalizing front rest with
    | zero => simp [pure, Except.pure]
    | succ m ih =>
      cases rest with
      | nil => cases within
      | cons c rest =>
        have later := ih (front ++ [blank c]) rest (Nat.le_of_succ_le_succ within)
        rw [List.length_append, List.length_singleton] at later
        rw [List.range'_succ, List.foldlM_cons, blankAt_eq]
        exact later.trans (by simp)
  have capped : min (front.length + n) (front ++ rest).length - front.length = min n rest.length := by
    rw [List.length_append]
    omega
  unfold blankOut
  rw [capped, rounds _ (Nat.min_le_right _ _)]
  rcases Nat.le_total n rest.length with within | beyond
  · rw [Nat.min_eq_left within]
  · rw [Nat.min_eq_right beyond, List.take_of_length_le beyond, List.take_of_length_le (Nat.le_refl _),
      List.drop_eq_nil_of_le beyond, List.drop_eq_nil_of_le (Nat.le_refl _)]

/-- Where a round of masking stands: from its index on the text is as it was. -/
def Standing (text : List Char) (s : Nat × List Char) : Prop :=
  ∃ front, s.2 = front ++ text.drop s.1 ∧ (s.1 ≤ text.length → front.length = s.1)

/-- What the rounds from one on make of a text: what is in front stays, and the rest is masked. -/
def Ends (profile : Profile) (text : List Char) (s : Nat × List Char) (out : List Char) : Prop :=
  ∀ front, s.2 = front ++ text.drop s.1 → out = front ++ maskFrom profile .code 0 (text.drop s.1)

/-- A round of masking goes on behind what it masks. -/
theorem exists_maskRound (solid : profile.hasSolidMarkers = true) (s : Nat × List Char) (standing : Standing text s) :
    (∃ out, maskRound profile text s = .ok (.inr out) ∧ Ends profile text s out) ∨
      ∃ next, maskRound profile text s = .ok (.inl next) ∧ Standing text next ∧
        text.length - next.1 < text.length - s.1 ∧ ∀ out, Ends profile text next out → Ends profile text s out := by
  obtain ⟨i, out⟩ := s
  obtain ⟨front, same, reached⟩ := standing
  dsimp only at same reached
  subst same
  unfold maskRound
  dsimp only
  by_cases inside : i < text.length
  · have reached := reached (Nat.le_of_lt inside)
    right
    rw [if_neg (by omega)]
    rcases exists_maskedEnd? solid inside with ⟨done, code⟩ | ⟨n, done, ends⟩
    · obtain ⟨c, rest, here, -, behind⟩ := exists_drop_eq inside
      rw [here] at code ⊢
      rw [done]
      refine ⟨(i + 1, front ++ c :: rest), rfl, ⟨front ++ [c], ?_, ?_⟩, by dsimp only; omega, ?_⟩
      · simp [behind]
      · simp [reached]
      · intro out ended front' same
        have ended := ended (front' ++ [c]) (by simpa [here, behind] using same)
        rw [ended, here, maskFrom, code, behind]
        simp
    · have blanked := blankOut_eq front (text.drop i) (n + 1)
      rw [reached, List.drop_drop] at blanked
      rw [done]
      dsimp only [pure, Except.pure, bind, Except.bind]
      rw [blanked]
      refine ⟨_, rfl, ⟨front ++ ((text.drop i).take (n + 1)).map blank, rfl, ?_⟩, by dsimp only; omega, ?_⟩
      · intro within
        simp only [List.length_append, List.length_map, List.length_take, List.length_drop]
        omega
      · intro out ended front' same
        have same_front : front' = front := (List.append_cancel_right same).symm
        rw [ended _ rfl, same_front, ends, List.drop_drop, List.append_assoc]
  · left
    rw [if_pos (by omega)]
    refine ⟨_, rfl, ?_⟩
    intro front' same
    have done : text.drop i = [] := List.drop_eq_nil_of_le (by omega)
    have same : front ++ text.drop i = front' ++ text.drop i := same
    rw [same, done, maskFrom]

/-- Masking by index comes to its end and masks. -/
theorem mask_eq (solid : profile.hasSolidMarkers = true) (text : List Char) :
    mask profile text = .ok (Mask.mask profile text) := by
  have begins : Standing text (0, text) := ⟨[], rfl, fun _ => rfl⟩
  have enough : text.length - 0 < text.length + 1 := by omega
  obtain ⟨out, done, ended⟩ := exists_loop (Standing text) (text.length - ·.1) (Ends profile text)
    (exists_maskRound solid) begins enough
  rw [mask, done, ended [] rfl]
  rfl

/-- In a supported language masking comes to its end for every text. What it leaves has the layout of the text, in
which every character is the original one or a space, it has no quotes and no markers of comments, and masking it
again changes nothing. -/
theorem masking_keeps_layout {language : String} {profile : Profile}
    (supported : Profile.find? language = some profile) (text : List Char) :
    Indexed.mask profile text = .ok (Mask.mask profile text) ∧ Blanked profile text (Mask.mask profile text) :=
  have solid := Profile.hasSolidMarkers_of_find? supported
  ⟨mask_eq solid text, blanked_mask solid text⟩

/-- An escaped quote, a quote in a block comment, an unterminated string literal and an escape at the very end. -/
theorem masking_keeps_layout_typescript :
    Profile.find? "typescript" = some .typescript ∧
      Blanked .typescript "f('\\'//') /* \n' */ + \"x\ny // z\n\x60\\".toList
        "f(      )    \n     +   \ny     \n  ".toList := by
  have supported : Profile.find? "typescript" = some .typescript := by decide +kernel
  have masked : Mask.mask .typescript "f('\\'//') /* \n' */ + \"x\ny // z\n\x60\\".toList =
      "f(      )    \n     +   \ny     \n  ".toList := by decide +kernel
  have blanked := (masking_keeps_layout supported "f('\\'//') /* \n' */ + \"x\ny // z\n\x60\\".toList).2
  rw [masked] at blanked
  exact ⟨supported, blanked⟩

end Indexed

end LiveLint
