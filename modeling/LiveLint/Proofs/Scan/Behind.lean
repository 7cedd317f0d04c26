import LiveLint.Proofs.Scan.Blanks
import LiveLint.Proofs.Scan.Offsets
import LiveLint.Scan.Forward

/-!
# Texts behind a line

If a line of blanks is put in front of a text, everything found in the text is found again behind the line.
A pattern reads on from a place as it did before, and the newline in front of the text is as good as its
beginning; in the line itself nothing begins that does not begin with a blank.
-/

namespace LiveLint

namespace Text

/-- A place in a text, and the same place behind a line that takes some characters with its newline. -/
structure Cursor.Behind (n : Nat) (c c' : Cursor) : Prop where
  pos : c'.pos = n + c.pos
  rest : c'.rest = c.rest
  before : c'.before = c.before ∨ c.before = none ∧ c'.before = some '\n'

namespace Pattern

def movedParts (n : Nat) (groups : Groups) : Groups := groups.map fun (slot, i, j) => (slot, n + i, n + j)

def Hit.moved (n : Nat) (hit : Hit) : Hit := ⟨n + hit.start, n + hit.stop, movedParts n hit.groups⟩

theorem Hit.part?_moved (n : Nat) (hit : Hit) (slot : Slot) :
    (hit.moved n).part? slot = (hit.part? slot).map fun (i, j) => (n + i, n + j) := by
  unfold Hit.moved Hit.part? movedParts
  dsimp only
  induction hit.groups with
  | nil => rfl
  | cons part rest ih =>
    obtain ⟨slot', i, j⟩ := part
    rw [List.map_cons, List.lookup_cons, List.lookup_cons]
    cases slot == slot' with
    | true => rfl
    | false => exact ih

/-- Whether a pattern takes a newline in front of it for the beginning of a text. -/
def blind : Pattern → Bool
  | .notBehind accepts => !accepts '\n'
  | .both first second | .either first second => first.blind && second.blind
  | .repeated body | .group _ body | .ahead body => body.blind
  | _ => true

section Attempts

variable {β γ : Type} {f : β → γ} {n : Nat}

/-- Two ways of going on that agree on a text and behind a line. -/
def Agree (n : Nat) (f : β → γ) (k : Cursor → Groups → Option β) (k' : Cursor → Groups → Option γ) : Prop :=
  ∀ c c', c.Behind n c' → ∀ groups, k' c' (movedParts n groups) = (k c groups).map f

/-- A condition that holds on both sides or on neither lets both go on or neither. -/
theorem Agree.guarded {k : Cursor → Groups → Option β} {k' : Cursor → Groups → Option γ} (agree : Agree n f k k')
    {c c' : Cursor} (behind : c.Behind n c') (groups : Groups) (holds : Bool) :
    (if holds then k' c' (movedParts n groups) else none) = (if holds then k c groups else none).map f ∧
      (if holds then none else k' c' (movedParts n groups)) = (if holds then none else k c groups).map f := by
  cases holds with
  | true => exact ⟨agree c c' behind groups, rfl⟩
  | false => exact ⟨rfl, agree c c' behind groups⟩

theorem takeRun_behind (accepts : Char → Bool) {k : Cursor → Groups → Option β}
    {k' : Cursor → Groups → Option γ} (agree : Agree n f k k') (groups : Groups) (cs : List Char) (pos : Nat)
    {before before' : Option Char} (edge : before' = before ∨ before = none ∧ before' = some '\n') :
    takeRun accepts (k' · (movedParts n groups)) (n + pos) before' cs =
      (takeRun accepts (k · groups) pos before cs).map f := by
  induction cs generalizing pos before before' with
  | nil => exact agree ⟨pos, before, []⟩ ⟨n + pos, before', []⟩ ⟨rfl, rfl, edge⟩ groups
  | cons x rest ih =>
    have here := agree ⟨pos, before, x :: rest⟩ ⟨n + pos, before', x :: rest⟩ ⟨rfl, rfl, edge⟩ groups
    unfold takeRun
    split
    · rw [Option.map_or, ← here]
      exact congrArg (Option.or · _) (ih (pos + 1) (Or.inl rfl))
    · exact here

theorem takeMany_behind
    {step : Cursor → Groups → (Cursor → Groups → Option β) → Option β}
    {step' : Cursor → Groups → (Cursor → Groups → Option γ) → Option γ}
    (steps : ∀ k k', Agree n f k k' → Agree n f (step · · k) (step' · · k'))
    {k : Cursor → Groups → Option β} {k' : Cursor → Groups → Option γ} (agree : Agree n f k k') (fuel : Nat) :
    Agree n f (takeMany step k fuel) (takeMany step' k' fuel) := by
  induction fuel with
  | zero => exact agree
  | succ fuel ih =>
    intro c c' behind groups
    unfold takeMany
    rw [Option.map_or, ← agree c c' behind]
    refine congrArg (Option.or · _) (steps _ _ ?_ c c' behind groups)
    intro after after' behind' groups'
    dsimp only
    rw [behind.pos, behind'.pos, ih after after' behind' groups']
    by_cases further : c.pos < after.pos
    · rw [if_pos further, if_pos (Nat.add_lt_add_left further n)]
    · rw [if_neg further, if_neg (by omega)]
      rfl

end Attempts

/-- Behind a line a pattern is tried as before. -/
theorem attempt_behind (p : Pattern) {n : Nat} (is_blind : p.blind = true) :
    ∀ {β γ : Type} {f : β → γ} {k : Cursor → Groups → Option β} {k' : Cursor → Groups → Option γ},
      Agree n f k k' → Agree n f (attempt p · · k) (attempt p · · k') := by
  induction p with
  | empty => exact id
  | one accepts =>
    intro β γ f k k' agree c c' behind groups
    dsimp only
    unfold attempt
    rw [behind.rest, behind.pos]
    split
    · rfl
    · next x rest _ =>
      split
      · exact agree ⟨c.pos + 1, some x, rest⟩ ⟨n + c.pos + 1, some x, rest⟩ ⟨rfl, rfl, Or.inl rfl⟩ groups
      · rfl
  | run accepts =>
    intro β γ f k k' agree c c' behind groups
    dsimp only
    unfold attempt
    rw [behind.rest, behind.pos]
    exact takeRun_behind accepts agree groups c.rest c.pos behind.before
  | both first second ih₁ ih₂ =>
    intro β γ f k k' agree
    obtain ⟨blind₁, blind₂⟩ := Bool.and_eq_true_iff.1 is_blind
    exact ih₁ blind₁ (ih₂ blind₂ agree)
  | either first second ih₁ ih₂ =>
    intro β γ f k k' agree c c' behind groups
    obtain ⟨blind₁, blind₂⟩ := Bool.and_eq_true_iff.1 is_blind
    dsimp only
    unfold attempt
    rw [Option.map_or, ← ih₁ blind₁ agree c c' behind groups, ← ih₂ blind₂ agree c c' behind groups]
  | repeated body ih =>
    intro β γ f k k' agree c c' behind groups
    dsimp only
    unfold attempt
    rw [behind.rest]
    exact takeMany_behind (fun _ _ => ih is_blind) agree _ c c' behind groups
  | group slot body ih =>
    intro β γ f k k' agree c c' behind groups
    refine ih is_blind ?_ c c' behind groups
    intro after after' behind' groups'
    dsimp only
    rw [behind.pos, behind'.pos]
    exact agree after after' behind' ((slot, c.pos, after.pos) :: groups')
  | ahead body ih =>
    intro β γ f k k' agree c c' behind groups
    have found : attempt body c' (movedParts n groups) (fun _ _ => some ()) =
        (attempt body c groups fun _ _ => some ()).map id :=
      ih is_blind (fun _ _ _ _ => rfl) c c' behind groups
    dsimp only
    unfold attempt
    rw [found, Option.map_id_apply]
    exact (agree.guarded behind groups _).1
  | notAhead accepts =>
    intro β γ f k k' agree c c' behind groups
    dsimp only
    unfold attempt
    rw [behind.rest]
    exact (agree.guarded behind groups _).2
  | notBehind accepts =>
    intro β γ f k k' agree c c' behind groups
    have same : c'.before.any accepts = c.before.any accepts := by
      rcases behind.before with same | ⟨first, newline⟩
      · rw [same]
      · rw [first, newline]
        exact Bool.not_eq_true' _ ▸ is_blind
    dsimp only
    unfold attempt
    rw [same]
    exact (agree.guarded behind groups _).2
  | edge =>
    intro β γ f k k' agree c c' behind groups
    have same : atEdge c' = atEdge c := by
      unfold atEdge
      rw [behind.rest]
      rcases behind.before with same | ⟨first, newline⟩
      · rw [same]
      · rw [first, newline]
        exact congrArg (· != _) (by decide)
    dsimp only
    unfold attempt
    rw [same]
    exact (agree.guarded behind groups _).1
  | finish =>
    intro β γ f k k' agree c c' behind groups
    dsimp only
    unfold attempt
    rw [behind.rest]
    exact (agree.guarded behind groups _).1

theorem hitAt_behind {p : Pattern} (is_blind : p.blind = true) {n : Nat} {c c' : Cursor}
    (behind : c.Behind n c') : hitAt p c' = (hitAt p c).map (·.moved n) := by
  refine attempt_behind p is_blind ?_ c c' behind []
  intro after after' behind' groups
  dsimp only
  rw [behind.pos, behind'.pos]
  rfl

theorem hitsFrom_behind {p : Pattern} (is_blind : p.blind = true) (n skip pos : Nat) (cs : List Char)
    {before before' : Option Char} (edge : before' = before ∨ before = none ∧ before' = some '\n') :
    hitsFrom p skip (n + pos) before' cs = (hitsFrom p skip pos before cs).map (·.moved n) := by
  induction cs generalizing skip pos before before' with
  | nil =>
    unfold hitsFrom
    rfl
  | cons c rest ih =>
    cases skip with
    | succ skip => exact ih skip (pos + 1) (Or.inl rfl)
    | zero =>
      have here : hitAt p ⟨n + pos, before', c :: rest⟩ = (hitAt p ⟨pos, before, c :: rest⟩).map (·.moved n) :=
        hitAt_behind is_blind ⟨rfl, rfl, edge⟩
      unfold hitsFrom
      rw [here]
      cases hitAt p ⟨pos, before, c :: rest⟩ with
      | none => exact ih 0 (pos + 1) (Or.inl rfl)
      | some hit =>
        dsimp only [Option.map_some]
        rw [List.map_cons, show (hit.moved n).stop - (n + pos) - 1 = hit.stop - pos - 1 by
          unfold Hit.moved
          dsimp only
          omega]
        exact congrArg _ (ih _ (pos + 1) (Or.inl rfl))

/-- What bold patterns find behind a blank line is what they find without it. -/
theorem hits_behind {p : Pattern} (is_bold : p.bold = true) (is_blind : p.blind = true) {first : List Char}
    (blank : BlankLine first) (cs : List Char) :
    hits p (first ++ '\n' :: cs) = (hits p cs).map (·.moved (first.length + 1)) := by
  have passed (pos : Nat) (before : Option Char) (line : List Char) (blank : ∀ c ∈ line, isBlank c = true) :
      hitsFrom p 0 pos before (line ++ '\n' :: cs) = hitsFrom p 0 (pos + line.length + 1) (some '\n') cs := by
    induction line generalizing pos before with
    | nil =>
      rw [List.nil_append, hitsFrom, hitAt_before_blank is_bold _ _ isBlank_newline]
      rfl
    | cons c rest ih =>
      rw [List.cons_append, hitsFrom, hitAt_before_blank is_bold _ _ (blank c (List.mem_cons_self ..))]
      dsimp only
      rw [ih _ _ fun x member => blank x (List.mem_cons_of_mem _ member), List.length_cons, Nat.add_right_comm pos,
        Nat.add_assoc pos]
  unfold hits
  rw [passed 0 none first blank.blank, Nat.zero_add]
  exact hitsFrom_behind is_blind (first.length + 1) 0 0 cs (Or.inr ⟨rfl, rfl⟩)

end Pattern

variable (first cs : List Char)

theorem drop_behind (i : Nat) : (first ++ '\n' :: cs).drop (first.length + 1 + i) = cs.drop i := by
  rw [← List.drop_drop, ← List.drop_drop, List.drop_left, List.drop_succ_cons, List.drop_zero]

theorem getElem?_behind (i : Nat) : (first ++ '\n' :: cs)[first.length + 1 + i]? = cs[i]? := by
  rw [List.getElem?_append_right (by omega), show first.length + 1 + i - first.length = i + 1 by omega,
    List.getElem?_cons_succ]

theorem slice_behind (i j : Nat) :
    Pattern.slice (first ++ '\n' :: cs) (first.length + 1 + i) (first.length + 1 + j) = Pattern.slice cs i j := by
  unfold Pattern.slice
  rw [drop_behind, Nat.add_sub_add_left]

theorem Pattern.Hit.text_moved (hit : Hit) (slot : Slot) :
    (hit.moved (first.length + 1)).text (first ++ '\n' :: cs) slot = hit.text cs slot := by
  unfold text
  rw [part?_moved]
  cases hit.part? slot with
  | none => rfl
  | some part => exact slice_behind first cs part.1 part.2

end Text

def Span.lowered (n : Nat) (s : Span) : Span := ⟨s.start.lowered n, s.stop.lowered n⟩

theorem Span.ofOffsets_behind {first : List Char} (free : '\n' ∉ first) (cs : List Char) (i j : Nat) :
    ofOffsets (first ++ '\n' :: cs) (first.length + 1 + i) (first.length + 1 + j) =
      (ofOffsets cs i j).lowered 1 := by
  unfold ofOffsets
  rw [Position.ofOffset_behind_line free, Position.ofOffset_behind_line free]
  rfl

namespace Brackets

def moved (n : Nat) (b : Brackets) : Brackets :=
  ⟨b.pairs.map fun (i, j) => (n + i, n + j), b.unpaired.map (n + ·)⟩

theorem closer?_moved (n : Nat) (b : Brackets) (i : Nat) :
    (b.moved n).closer? (n + i) = (b.closer? i).map (n + ·) := by
  unfold moved closer?
  dsimp only
  induction b.pairs with
  | nil => rfl
  | cons pair rest ih =>
    obtain ⟨j, k⟩ := pair
    rw [List.map_cons, List.lookup_cons, List.lookup_cons]
    by_cases same : i = j
    · rw [same, beq_self_eq_true, beq_self_eq_true]
      rfl
    · rw [beq_eq_false_iff_ne.2 same, beq_eq_false_iff_ne.2 (by omega)]
      exact ih

theorem pairFrom_moved (n i : Nat) (opened : List (Nat × Char)) (cs : List Char) :
    pairFrom (n + i) (opened.map fun o => (n + o.1, o.2)) cs = (pairFrom i opened cs).moved n := by
  induction cs generalizing i opened with
  | nil =>
    unfold pairFrom moved
    rw [List.map_map, List.map_map]
    rfl
  | cons c rest ih =>
    unfold pairFrom
    split
    · exact ih (i + 1) ((i, c) :: opened)
    · cases openerOf? c with
      | none => exact ih (i + 1) opened
      | some opener =>
        cases opened with
        | nil =>
          have left_over : pairFrom (n + i + 1) [] rest = (pairFrom (i + 1) [] rest).moved n := ih (i + 1) []
          dsimp only [List.map_nil]
          rw [left_over]
          rfl
        | cons o outer =>
          have closed : pairFrom (n + i + 1) (outer.map fun o => (n + o.1, o.2)) rest =
              (pairFrom (i + 1) outer rest).moved n := ih (i + 1) outer
          have left_over : pairFrom (n + i + 1) ((n + o.1, o.2) :: outer.map fun o => (n + o.1, o.2)) rest =
              (pairFrom (i + 1) (o :: outer) rest).moved n := ih (i + 1) (o :: outer)
          simp only [List.map_cons]
          rw [closed, left_over]
          split <;> rfl

theorem pairFrom_blank {line : List Char} (blank : ∀ c ∈ line, Text.isBlank c = true) (i : Nat)
    (rest : List Char) : pairFrom i [] (line ++ rest) = pairFrom (i + line.length) [] rest := by
  have no_bracket : (Text.blankChars.all fun c => !isOpener c && (openerOf? c).isNone) = true := by decide +kernel
  induction line generalizing i with
  | nil => rfl
  | cons c others ih =>
    have other := List.all_eq_true.1 no_bracket c (Text.mem_blankChars (blank c (List.mem_cons_self ..)))
    rw [Bool.and_eq_true, Bool.not_eq_true', Option.isNone_iff_eq_none] at other
    obtain ⟨no_opener, no_closer⟩ := other
    rw [List.cons_append, pairFrom, no_opener, if_neg Bool.false_ne_true, no_closer]
    dsimp only
    rw [ih fun x member => blank x (List.mem_cons_of_mem _ member), List.length_cons, Nat.add_right_comm,
      Nat.add_assoc]

/-- A blank line in front of a text moves its brackets. -/
theorem pair_behind {first : List Char} (blank : Text.BlankLine first) (cs : List Char) :
    pair (first ++ '\n' :: cs) = (pair cs).moved (first.length + 1) := by
  have all_blank : ∀ c ∈ first ++ ['\n'], Text.isBlank c = true := by
    intro c member
    rcases List.mem_append.1 member with before | last
    · exact blank.blank c before
    · rw [List.mem_singleton.1 last]
      exact Text.isBlank_newline
  unfold pair
  rw [List.append_cons, pairFrom_blank all_blank, List.length_append, Nat.zero_add]
  exact pairFrom_moved (first.length + 1) 0 [] cs

theorem insertLine_lowered (line : Nat) (lines : List Nat) :
    insertLine (line + 1) (lines.map (· + 1)) = (insertLine line lines).map (· + 1) := by
  induction lines with
  | nil => rfl
  | cons m rest ih =>
    rw [List.map_cons, insertLine, insertLine, ih]
    by_cases lt : line < m
    · rw [if_pos lt, if_pos (Nat.succ_lt_succ lt)]
      rfl
    · rw [if_neg lt, if_neg (by omega)]
      by_cases same : line = m
      · rw [same, beq_self_eq_true, beq_self_eq_true]
        rfl
      · rw [beq_eq_false_iff_ne.2 same, beq_eq_false_iff_ne.2 (by omega)]
        rfl

/-- The lines with a bracket in no pair are one line further down. -/
theorem errorLines_moved {first : List Char} (free : '\n' ∉ first) (cs : List Char) (b : Brackets) :
    (b.moved (first.length + 1)).errorLines (first ++ '\n' :: cs) = (b.errorLines cs).map (· + 1) := by
  unfold errorLines moved
  dsimp only
  induction b.unpaired with
  | nil => rfl
  | cons i rest ih =>
    rw [List.map_cons, List.foldr_cons, List.foldr_cons, ih, Position.ofOffset_behind_line free]
    exact insertLine_lowered _ _

end Brackets

namespace Forward

variable (first cs : List Char)

theorem nextCode?_behind (i : Nat) :
    nextCode? (first ++ '\n' :: cs) (first.length + 1 + i) = (nextCode? cs i).map (first.length + 1 + ·) := by
  unfold nextCode?
  rw [Text.drop_behind, Option.map_map]
  refine congrArg (Option.map · _) (funext fun j => ?_)
  exact Nat.add_assoc ..

theorem braceFrom?_moved (n i : Nat) (cs : List Char) :
    braceFrom? (n + i) cs = (braceFrom? i cs).map (n + ·) := by
  induction cs generalizing i with
  | nil => rfl
  | cons c rest ih =>
    unfold braceFrom?
    split
    · rfl
    · split
      · rfl
      · exact ih (i + 1)

theorem brace?_behind (i : Nat) :
    brace? (first ++ '\n' :: cs) (first.length + 1 + i) = (brace? cs i).map (first.length + 1 + ·) := by
  unfold brace?
  rw [Text.drop_behind]
  exact braceFrom?_moved ..

theorem findFrom?_moved (target : List Char) (n i : Nat) (cs : List Char) :
    findFrom? target (n + i) cs = (findFrom? target i cs).map (n + ·) := by
  induction cs generalizing i with
  | nil =>
    unfold findFrom?
    split <;> rfl
  | cons c rest ih =>
    unfold findFrom?
    split
    · rfl
    · exact ih (i + 1)

theorem find?_behind (target : List Char) (i : Nat) :
    find? (first ++ '\n' :: cs) target (first.length + 1 + i) =
      (find? cs target i).map (first.length + 1 + ·) := by
  unfold find?
  rw [Text.drop_behind]
  exact findFrom?_moved ..

theorem statementEndFrom_moved (n : Nat) (b : Brackets) (last : Option Char) (skip i : Nat)
    (cs : List Char) :
    statementEndFrom (b.moved n) last skip (n + i) cs = n + statementEndFrom b last skip i cs := by
  induction cs generalizing last skip i with
  | nil =>
    unfold statementEndFrom
    rfl
  | cons c rest ih =>
    cases skip with
    | succ skip => exact ih last skip (i + 1)
    | zero =>
      have step := ih (if Text.isBlank c then last else some c) 0 (i + 1)
      have ended : (if isCloser c then n + i else if c == ';' then n + i + 1
          else if c == '\n' && last.any (!continues.contains ·) then n + i
          else statementEndFrom (b.moved n) (if Text.isBlank c then last else some c) 0 (n + (i + 1)) rest) =
          n + if isCloser c then i else if c == ';' then i + 1
            else if c == '\n' && last.any (!continues.contains ·) then i
            else statementEndFrom b (if Text.isBlank c then last else some c) 0 (i + 1) rest := by
        rw [step]
        split
        · rfl
        · split
          · rfl
          · split <;> rfl
      unfold statementEndFrom
      rw [Brackets.closer?_moved]
      cases closerOf? c with
      | none => exact ended
      | some closer =>
        cases b.closer? i with
        | none => exact ended
        | some j =>
          dsimp only [Option.map_some]
          rw [Nat.add_sub_add_left]
          exact ih (some closer) (j - i) (i + 1)

theorem statementEnd_behind (b : Brackets) (i : Nat) :
    statementEnd (first ++ '\n' :: cs) (b.moved (first.length + 1)) (first.length + 1 + i) =
      first.length + 1 + statementEnd cs b i := by
  unfold statementEnd
  rw [Text.drop_behind]
  exact statementEndFrom_moved ..

theorem headerColonFrom?_moved (n : Nat) (b : Brackets) (skip i : Nat) (cs : List Char) :
    headerColonFrom? (b.moved n) skip (n + i) cs = (headerColonFrom? b skip i cs).map (n + ·) := by
  induction cs generalizing skip i with
  | nil =>
    unfold headerColonFrom?
    rfl
  | cons c rest ih =>
    cases skip with
    | succ skip => exact ih skip (i + 1)
    | zero =>
      unfold headerColonFrom?
      rw [Brackets.closer?_moved]
      split
      · cases b.closer? i with
        | none => rfl
        | some j =>
          dsimp only [Option.map_some]
          rw [Nat.add_sub_add_left]
          exact ih (j - i) (i + 1)
      · split
        · rfl
        · split
          · rfl
          · exact ih 0 (i + 1)

theorem headerColon?_behind (b : Brackets) (i : Nat) :
    headerColon? (first ++ '\n' :: cs) (b.moved (first.length + 1)) (first.length + 1 + i) =
      (headerColon? cs b i).map (first.length + 1 + ·) := by
  unfold headerColon?
  rw [Text.drop_behind]
  exact headerColonFrom?_moved ..

end Forward

end LiveLint
