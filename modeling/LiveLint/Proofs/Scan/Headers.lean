import LiveLint.Proofs.Scan.Blanks
import LiveLint.Scan.Indent

/-!
# What headers are made of

A match takes characters off the text, and what it takes can be told from its pattern: whether it is empty, whether
it ends with a blank and which parts it names. So a header begins with tabs and spaces up to its first character of
code, the same for functions and for loops, and no line is the header of both.
-/

namespace LiveLint.Text

namespace Pattern

/-- The parts that a pattern may name. -/
def slots : Pattern → List Slot
  | .both first second | .either first second => first.slots ++ second.slots
  | .group slot body => slot :: body.slots
  | .repeated body => body.slots
  | _ => []

/-- Whether no match ends with a blank. -/
def tight : Pattern → Bool
  | .empty | .ahead _ | .notAhead _ | .notBehind _ | .edge | .finish => true
  | .one accepts | .run accepts => refusesBlanks accepts
  | .both first second => second.tight && (second.inked || first.tight)
  | .either first second => first.tight && second.tight
  | .repeated body | .group _ body => body.tight

/-- Whether no match holds a character. -/
def lacks (x : Char) : Pattern → Bool
  | .empty | .ahead _ | .notAhead _ | .notBehind _ | .edge | .finish => true
  | .one accepts | .run accepts => !accepts x
  | .both first second | .either first second => first.lacks x && second.lacks x
  | .repeated body | .group _ body => body.lacks x

/-- What a pattern takes on its way from one cursor to another. -/
structure Takes (p : Pattern) (c : Cursor) (groups : Groups) (after : Cursor) (groups' : Groups)
    (taken : List Char) : Prop where
  rest : c.rest = taken ++ after.rest
  pos : after.pos = c.pos + taken.length
  parts : ∃ more, groups' = more ++ groups ∧ ∀ part ∈ more, part.1 ∈ p.slots
  inked : p.inked = true → taken ≠ []
  tight : p.tight = true → ∀ x ∈ taken.getLast?, isBlank x = false
  free : ∀ x, p.lacks x = true → x ∉ taken

/-- A pattern that takes nothing, and of which nothing else is known. -/
theorem Takes.nothing {p : Pattern} (empty : p.inked = false) (c : Cursor) (groups : Groups) :
    Takes p c groups c groups [] :=
  ⟨rfl, rfl, ⟨[], rfl, nofun⟩, fun inked => absurd (inked.symm.trans empty) nofun, fun _ => nofun, fun _ _ => nofun⟩

/-- The last character of two texts that are put together. -/
theorem last_append {front back : List Char} (left : ∀ x ∈ front.getLast?, isBlank x = false)
    (right : ∀ x ∈ back.getLast?, isBlank x = false) : ∀ x ∈ (front ++ back).getLast?, isBlank x = false := by
  intro x last
  rw [List.getLast?_append] at last
  cases behind : back.getLast? with
  | none =>
    rw [behind, Option.none_or] at last
    exact left x last
  | some y =>
    rw [behind, Option.some_or] at last
    exact right x (behind ▸ last)

theorem last_append_of_ne_nil {front back : List Char} (some_behind : back ≠ [])
    (right : ∀ x ∈ back.getLast?, isBlank x = false) : ∀ x ∈ (front ++ back).getLast?, isBlank x = false := by
  intro x last
  rw [List.getLast?_append, List.getLast?_eq_some_getLast some_behind, Option.some_or] at last
  exact right x (List.getLast?_eq_some_getLast some_behind ▸ last)

/-- A run takes characters of its class. -/
theorem takeRun_takes {β : Type} {accepts : Char → Bool} {k : Cursor → Option β} {cs : List Char} {pos : Nat}
    {before : Option Char} {b : β} (found : takeRun accepts k pos before cs = some b) :
    ∃ taken rest last, cs = taken ++ rest ∧ (∀ c ∈ taken, accepts c = true) ∧
      k ⟨pos + taken.length, last, rest⟩ = some b := by
  induction cs generalizing pos before with
  | nil => exact ⟨[], [], before, rfl, nofun, found⟩
  | cons x rest ih =>
    unfold takeRun at found
    split at found
    · next accepted =>
      rcases Option.or_eq_some_iff.1 found with longer | ⟨-, here⟩
      · obtain ⟨taken, rest', last, split, all, later⟩ := ih longer
        refine ⟨x :: taken, rest', last, by rw [split, List.cons_append], ?_, ?_⟩
        · intro c member
          rcases List.mem_cons.1 member with rfl | member
          · exact accepted
          · exact all c member
        · rw [List.length_cons, Nat.add_comm taken.length, ← Nat.add_assoc]
          exact later
      · exact ⟨[], x :: rest, before, rfl, nofun, here⟩
    · exact ⟨[], x :: rest, before, rfl, nofun, found⟩

theorem one_takes {β : Type} {accepts : Char → Bool} {c : Cursor} {groups : Groups}
    {k : Cursor → Groups → Option β} {b : β} (found : attempt (.one accepts) c groups k = some b) :
    ∃ x rest, c.rest = x :: rest ∧ accepts x = true ∧ k ⟨c.pos + 1, some x, rest⟩ groups = some b := by
  unfold attempt at found
  split at found
  · cases found
  · next x rest here =>
    split at found
    · next accepted => exact ⟨x, rest, here, accepted, found⟩
    · cases found

section Combinations

variable {first second body : Pattern} {c mid after : Cursor} {groups parts groups' : Groups}
  {taken taken' : List Char}

theorem takes_one {accepts : Char → Bool} {x : Char} {rest : List Char} (here : c.rest = x :: rest)
    (accepted : accepts x = true) (groups : Groups) :
    Takes (.one accepts) c groups ⟨c.pos + 1, some x, rest⟩ groups [x] := by
  refine ⟨here, rfl, ⟨[], rfl, nofun⟩, fun _ => List.cons_ne_nil x [], ?_, ?_⟩
  · intro tight y last
    obtain rfl : x = y := Option.some.inj last
    rw [Bool.eq_false_iff]
    intro blank
    rw [refusesBlanks_iff.1 tight x blank] at accepted
    cases accepted
  · intro y lacks member
    have refused : (!accepts y) = true := lacks
    rw [List.mem_singleton.1 member, accepted] at refused
    cases refused

theorem takes_run {accepts : Char → Bool} {rest : List Char} (last : Option Char)
    (split : c.rest = taken ++ rest) (all : ∀ x ∈ taken, accepts x = true) (groups : Groups) :
    Takes (.run accepts) c groups ⟨c.pos + taken.length, last, rest⟩ groups taken := by
  refine ⟨split, rfl, ⟨[], rfl, nofun⟩, nofun, ?_, ?_⟩
  · intro tight x ends
    rw [Bool.eq_false_iff]
    intro blank
    have accepted := all x (List.mem_of_getLast? ends)
    rw [refusesBlanks_iff.1 tight x blank] at accepted
    cases accepted
  · intro x lacks member
    have refused : (!accepts x) = true := lacks
    rw [all x member] at refused
    cases refused

/-- Two patterns one behind the other take their texts one behind the other. -/
theorem Takes.both (ahead : Takes first c groups mid parts taken)
    (further : Takes second mid parts after groups' taken') :
    Takes (.both first second) c groups after groups' (taken ++ taken') := by
  obtain ⟨more₁, rfl, named₁⟩ := ahead.parts
  obtain ⟨more₂, rfl, named₂⟩ := further.parts
  refine ⟨?_, ?_, ⟨more₂ ++ more₁, ?_, ?_⟩, fun inked => ?_, fun tight => ?_, fun x lacks member => ?_⟩
  · rw [ahead.rest, further.rest, List.append_assoc]
  · rw [further.pos, ahead.pos, List.length_append, Nat.add_assoc]
  · rw [List.append_assoc]
  · intro part member
    rcases List.mem_append.1 member with new | old
    · exact List.mem_append_right _ (named₂ part new)
    · exact List.mem_append_left _ (named₁ part old)
  · intro empty
    obtain ⟨left, right⟩ := List.append_eq_nil_iff.1 empty
    exact (Bool.or_eq_true_iff.1 inked).elim (ahead.inked · left) (further.inked · right)
  · obtain ⟨tight, either⟩ := Bool.and_eq_true_iff.1 tight
    rcases Bool.or_eq_true_iff.1 either with inked | tight'
    · exact last_append_of_ne_nil (further.inked inked) (further.tight tight)
    · exact last_append (ahead.tight tight') (further.tight tight)
  · obtain ⟨lacks, lacks'⟩ := Bool.and_eq_true_iff.1 lacks
    exact (List.mem_append.1 member).elim (ahead.free x lacks) (further.free x lacks')

theorem Takes.left (takes : Takes first c groups after groups' taken) (second : Pattern) :
    Takes (.either first second) c groups after groups' taken := by
  obtain ⟨more, rfl, named⟩ := takes.parts
  exact ⟨takes.rest, takes.pos, ⟨more, rfl, fun part member => List.mem_append_left _ (named part member)⟩,
    fun inked => takes.inked (Bool.and_eq_true_iff.1 inked).1,
    fun tight => takes.tight (Bool.and_eq_true_iff.1 tight).1,
    fun x lacks => takes.free x (Bool.and_eq_true_iff.1 lacks).1⟩

theorem Takes.right (takes : Takes second c groups after groups' taken) (first : Pattern) :
    Takes (.either first second) c groups after groups' taken := by
  obtain ⟨more, rfl, named⟩ := takes.parts
  exact ⟨takes.rest, takes.pos, ⟨more, rfl, fun part member => List.mem_append_right _ (named part member)⟩,
    fun inked => takes.inked (Bool.and_eq_true_iff.1 inked).2,
    fun tight => takes.tight (Bool.and_eq_true_iff.1 tight).2,
    fun x lacks => takes.free x (Bool.and_eq_true_iff.1 lacks).2⟩

/-- One more round of a repeated pattern takes its text in front of what the other rounds take. -/
theorem Takes.again (round : Takes body c groups mid parts taken)
    (others : Takes (.repeated body) mid parts after groups' taken') :
    Takes (.repeated body) c groups after groups' (taken ++ taken') := by
  obtain ⟨more₁, rfl, named₁⟩ := round.parts
  obtain ⟨more₂, rfl, named₂⟩ := others.parts
  refine ⟨?_, ?_, ⟨more₂ ++ more₁, ?_, ?_⟩, fun inked => absurd inked Bool.false_ne_true, fun tight => ?_,
    fun x lacks member => ?_⟩
  · rw [round.rest, others.rest, List.append_assoc]
  · rw [others.pos, round.pos, List.length_append, Nat.add_assoc]
  · rw [List.append_assoc]
  · intro part member
    exact (List.mem_append.1 member).elim (named₂ part) (named₁ part)
  · exact last_append (round.tight tight) (others.tight tight)
  · exact (List.mem_append.1 member).elim (round.free x lacks) (others.free x lacks)

/-- A group takes what its body takes, and names it. -/
theorem Takes.named (takes : Takes body c groups after groups' taken) (slot : Slot) :
    Takes (.group slot body) c groups after ((slot, c.pos, after.pos) :: groups') taken := by
  obtain ⟨more, rfl, named⟩ := takes.parts
  refine ⟨takes.rest, takes.pos, ⟨(slot, c.pos, after.pos) :: more, rfl, ?_⟩, takes.inked, takes.tight,
    takes.free⟩
  intro part member
  rcases List.mem_cons.1 member with rfl | old
  · exact List.mem_cons_self ..
  · exact List.mem_cons_of_mem _ (named part old)

end Combinations

theorem takeMany_takes {β : Type} {body : Pattern}
    (each : ∀ c groups (k : Cursor → Groups → Option β) b, attempt body c groups k = some b →
      ∃ after groups' taken, k after groups' = some b ∧ Takes body c groups after groups' taken)
    {k : Cursor → Groups → Option β} {fuel : Nat} {c : Cursor} {groups : Groups} {b : β}
    (found : takeMany (attempt body) k fuel c groups = some b) :
    ∃ after groups' taken, k after groups' = some b ∧ Takes (.repeated body) c groups after groups' taken := by
  induction fuel generalizing c groups with
  | zero => exact ⟨c, groups, [], found, .nothing rfl c groups⟩
  | succ fuel ih =>
    unfold takeMany at found
    rcases Option.or_eq_some_iff.1 found with again | ⟨-, here⟩
    · obtain ⟨next, parts, taken, more, first⟩ := each _ _ _ _ again
      split at more
      · obtain ⟨after, groups', taken', accepted, later⟩ := ih more
        exact ⟨after, groups', taken ++ taken', accepted, first.again later⟩
      · cases more
    · exact ⟨c, groups, [], here, .nothing rfl c groups⟩

/-- Every pattern takes what can be told from it. -/
theorem attempt_takes {β : Type} (p : Pattern) (c : Cursor) (groups : Groups) (k : Cursor → Groups → Option β)
    (b : β) (found : attempt p c groups k = some b) :
    ∃ after groups' taken, k after groups' = some b ∧ Takes p c groups after groups' taken := by
  induction p generalizing c groups k b with
  | empty => exact ⟨c, groups, [], found, .nothing rfl c groups⟩
  | one accepts =>
    obtain ⟨x, rest, here, accepted, found⟩ := one_takes found
    exact ⟨_, groups, [x], found, takes_one here accepted groups⟩
  | run accepts =>
    obtain ⟨taken, rest, last, split, all, accepted⟩ := takeRun_takes found
    exact ⟨_, groups, taken, accepted, takes_run last split all groups⟩
  | both first second ih₁ ih₂ =>
    obtain ⟨mid, parts, taken, later, ahead⟩ := ih₁ c groups _ b found
    obtain ⟨after, groups', taken', accepted, further⟩ := ih₂ mid parts k b later
    exact ⟨after, groups', taken ++ taken', accepted, ahead.both further⟩
  | either first second ih₁ ih₂ =>
    rcases Option.or_eq_some_iff.1 found with left | ⟨-, right⟩
    · obtain ⟨after, groups', taken, accepted, takes⟩ := ih₁ c groups k b left
      exact ⟨after, groups', taken, accepted, takes.left second⟩
    · obtain ⟨after, groups', taken, accepted, takes⟩ := ih₂ c groups k b right
      exact ⟨after, groups', taken, accepted, takes.right first⟩
  | repeated body ih => exact takeMany_takes ih found
  | group slot body ih =>
    obtain ⟨after, groups', taken, accepted, takes⟩ := ih c groups _ b found
    exact ⟨after, _, taken, accepted, takes.named slot⟩
  | ahead body _ =>
    unfold attempt at found
    split at found
    · exact ⟨c, groups, [], found, .nothing rfl c groups⟩
    · cases found
  | notAhead accepts | notBehind accepts =>
    unfold attempt at found
    split at found
    · cases found
    · exact ⟨c, groups, [], found, .nothing rfl c groups⟩
  | edge | finish =>
    unfold attempt at found
    split at found
    · exact ⟨c, groups, [], found, .nothing rfl c groups⟩
    · cases found

theorem seq_cons (p q : Pattern) (ps : List Pattern) : seq (p :: q :: ps) = .both p (seq (q :: ps)) := rfl

/-- A literal takes its characters. -/
theorem literal_takes {β : Type} (text : String) {c : Cursor} {groups : Groups}
    {k : Cursor → Groups → Option β} {b : β} (found : attempt (literal text) c groups k = some b) :
    ∃ after, c.rest = text.toList ++ after.rest ∧ k after groups = some b := by
  unfold literal at found
  generalize text.toList = cs at found ⊢
  induction cs generalizing c with
  | nil => exact ⟨c, rfl, found⟩
  | cons x rest ih =>
    cases rest with
    | nil =>
      obtain ⟨y, behind, here, same, accepted⟩ := one_takes found
      exact ⟨_, by rw [here, eq_of_beq same, List.singleton_append], accepted⟩
    | cons z others =>
      rw [List.map_cons, List.map_cons, seq_cons, attempt] at found
      obtain ⟨y, behind, here, same, found⟩ := one_takes found
      obtain ⟨after, there, accepted⟩ := ih found
      refine ⟨after, ?_, accepted⟩
      rw [here, eq_of_beq same, List.cons_append, ← there]

end Pattern

/-!
## Matches and the code of a line
-/

theorem trimRight_append {back : List Char} (kept : trimRight back ≠ []) (front : List Char) :
    trimRight (front ++ back) = front ++ trimRight back := by
  induction front with
  | nil => rfl
  | cons c rest ih =>
    rw [List.cons_append, trimRight, ih]
    split
    · next none_kept => exact absurd (List.append_eq_nil_iff.1 none_kept).2 kept
    · rfl

theorem trimRight_ne_nil {x : Char} (inky : isBlank x = false) (rest : List Char) : trimRight (x :: rest) ≠ [] := by
  unfold trimRight
  split
  · rw [inky]
    exact List.cons_ne_nil _ _
  · exact List.cons_ne_nil _ _

/-- What is dropped at the end of a line is blank. -/
theorem exists_trimRight_append (text : List Char) :
    ∃ blanks, text = trimRight text ++ blanks ∧ ∀ c ∈ blanks, isBlank c = true := by
  induction text with
  | nil => exact ⟨[], rfl, nofun⟩
  | cons c rest ih =>
    obtain ⟨blanks, split, blank⟩ := ih
    unfold trimRight
    split
    · next none_kept =>
      rw [none_kept, List.nil_append] at split
      split
      · next here =>
        refine ⟨c :: rest, rfl, fun x member => ?_⟩
        rcases List.mem_cons.1 member with rfl | member
        · exact here
        · exact blank x (split ▸ member)
      · exact ⟨rest, rfl, split ▸ blank⟩
    · exact ⟨blanks, by rw [List.cons_append, ← split], blank⟩

/-- A character of code stands in front of the blanks that a line ends with. -/
theorem lt_length_trimRight {text : List Char} {i : Nat} {x : Char} (here : text[i]? = some x)
    (inky : isBlank x = false) : i < (trimRight text).length := by
  obtain ⟨inside, there⟩ := List.getElem?_eq_some_iff.1 here
  have split : text = text.take i ++ x :: text.drop (i + 1) := by
    rw [← there, List.getElem_cons_drop, List.take_append_drop]
  have kept := trimRight_ne_nil inky (text.drop (i + 1))
  have length := List.length_pos_iff.2 kept
  rw [split, trimRight_append kept, List.length_append, List.length_take]
  omega

namespace Pattern

/-- What a match covers begins and ends with code. -/
structure Hit.OnCode (text : List Char) (hit : Hit) : Prop where
  starts : ∃ x, text[hit.start]? = some x ∧ isBlank x = false
  stop_le : hit.stop ≤ (trimRight text).length

theorem onCode_of_mem_hits {p : Pattern} (bold : p.bold = true) (is_tight : p.tight = true) {text : List Char}
    {hit : Hit} (member : hit ∈ hits p text) : hit.OnCode text := by
  obtain ⟨front, before, rest, split, found⟩ := exists_place_of_mem_hits member
  obtain ⟨after, groups, taken, same, takes⟩ := attempt_takes p _ _ _ _ found
  have some_taken := takes.inked (inked_of_bold bold)
  have last := takes.tight is_tight _ (List.getLast?_eq_some_getLast some_taken)
  have length := List.length_pos_iff.2 some_taken
  have stop : after.pos = front.length + taken.length := takes.pos
  have rest_eq : rest = taken ++ after.rest := takes.rest
  cases same
  obtain ⟨c, others, rfl⟩ := List.exists_cons_of_ne_nil some_taken
  have inky : isBlank c = false := by
    rw [Bool.eq_false_iff]
    intro blank
    rw [rest_eq, List.cons_append, hitAt_before_blank bold _ _ blank] at found
    cases found
  refine ⟨⟨c, ?_, inky⟩, ?_⟩
  · rw [split, rest_eq, List.getElem?_append_right (Nat.le_refl _), Nat.sub_self, List.cons_append,
      List.getElem?_cons_zero]
  · have there : text[front.length + ((c :: others).length - 1)]? = some ((c :: others).getLast some_taken) := by
      rw [split, rest_eq, List.getElem?_append_right (by omega), Nat.add_sub_cancel_left,
        ← List.getLast?_eq_some_getLast some_taken, List.getLast?_eq_getElem?, List.getElem?_append_left (by omega)]
    have inside := lt_length_trimRight there last
    dsimp only
    omega

end Pattern

end LiveLint.Text

/-!
## The indentation of a header
-/

namespace LiveLint.Scan.Indent

open Text Text.Pattern

/-- A match that begins with the tabs and spaces in front of the code of a line, and names them. -/
structure HeaderLine (text : List Char) (hit : Hit) : Prop where
  indent : hit.text text .indent = text.takeWhile isBlank
  narrow : ∀ c ∈ text.takeWhile isBlank, c = ' ' ∨ c = '\t'
  lt_stop : leadingBlanks text < hit.stop
  stop_le : hit.stop ≤ text.length

/-- A header takes the blanks that its line begins with, and its other part begins with the code. -/
theorem headerLine_of_hit? {p : Pattern} (bold : p.bold = true) (unnamed : .indent ∉ p.slots) {text : List Char}
    {hit : Hit} (found : hit? (.both (.group .indent (.run fun c => c == ' ' || c == '\t')) p) text = some hit) :
    HeaderLine text hit ∧ ∃ c groups k, c.rest = text.dropWhile isBlank ∧ attempt p c groups k = some hit := by
  change takeRun _ (fun after => attempt p after [(.indent, 0, after.pos)] fun after groups =>
    some ⟨0, after.pos, groups⟩) 0 none text = some hit at found
  obtain ⟨taken, rest, last, split, narrow, accepted⟩ := takeRun_takes found
  obtain ⟨after, groups, code, same, takes⟩ := attempt_takes p _ _ _ _ accepted
  obtain ⟨x, behind, rfl⟩ : ∃ x behind, rest = x :: behind := by
    refine List.exists_cons_of_ne_nil fun empty => ?_
    have none_left := takes.rest.symm.trans empty
    exact takes.inked (inked_of_bold bold) (List.append_eq_nil_iff.1 none_left).1
  have inky : isBlank x = false := by
    rw [Bool.eq_false_iff]
    intro blank
    exact (attempt_before_blank p rfl blank accepted).2 bold
  have narrow : ∀ c ∈ taken, c = ' ' ∨ c = '\t' := fun c member => by
    have := narrow c member
    rwa [Bool.or_eq_true, beq_iff_eq, beq_iff_eq] at this
  have blank : ∀ c ∈ taken, isBlank c = true := by
    intro c member
    rcases narrow c member with rfl | rfl <;> decide
  have indent : text.takeWhile isBlank = taken := by
    rw [split, List.takeWhile_append_of_pos blank, List.takeWhile_cons_of_neg (by rw [inky]; decide),
      List.append_nil]
  have behind_indent : text.dropWhile isBlank = x :: behind := by
    rw [split, List.dropWhile_append_of_pos blank, List.dropWhile_cons_of_neg (by rw [inky]; decide)]
  cases same
  obtain ⟨more, rfl, named⟩ := takes.parts
  refine ⟨⟨?_, indent.symm ▸ narrow, ?_, ?_⟩, _, _, _, behind_indent.symm, accepted⟩
  · have absent : more.lookup .indent = none := by
      rw [List.lookup_eq_none_iff]
      intro part member
      rw [bne_iff_ne]
      rintro same
      exact unnamed (same ▸ named part member)
    unfold Hit.text Hit.part?
    dsimp only
    rw [List.lookup_append, absent, indent, split]
    simp [slice]
  · have := List.length_pos_iff.2 (takes.inked (inked_of_bold bold))
    unfold leadingBlanks
    rw [indent, takes.pos]
    dsimp only
    omega
  · have := congrArg List.length takes.rest
    rw [takes.pos, split]
    simp at this ⊢
    omega

/-- Tabs and spaces are widened to spaces, whatever stands behind them. -/
theorem expandTabsFrom_narrow {indent : List Char} (narrow : ∀ c ∈ indent, c = ' ' ∨ c = '\t') (column : Nat)
    (rest : List Char) :
    ∃ column', expandTabsFrom column (indent ++ rest) =
        expandTabsFrom column indent ++ expandTabsFrom column' rest ∧
      ∀ c ∈ expandTabsFrom column indent, isBlank c = true := by
  induction indent generalizing column with
  | nil => exact ⟨column, rfl, nofun⟩
  | cons x others ih =>
    have narrow' : ∀ c ∈ others, c = ' ' ∨ c = '\t' := fun c member => narrow c (List.mem_cons_of_mem _ member)
    rw [List.cons_append, expandTabsFrom, expandTabsFrom]
    rcases narrow x (List.mem_cons_self ..) with rfl | rfl
    · obtain ⟨column', split, blank⟩ := ih narrow' (column + 1)
      refine ⟨column', congrArg (' ' :: ·) split, fun c member => ?_⟩
      rcases List.mem_cons.1 member with rfl | member
      · rfl
      · exact blank c member
    · obtain ⟨column', split, blank⟩ := ih narrow' (column + (8 - column % 8))
      refine ⟨column', ?_, fun c member => ?_⟩
      · rw [if_pos (beq_self_eq_true _), if_pos (beq_self_eq_true _)]
        dsimp only
        rw [split, List.append_assoc]
      · rw [if_pos (beq_self_eq_true _)] at member
        rcases List.mem_append.1 member with space | member
        · rw [List.eq_of_mem_replicate space]
          rfl
        · exact blank c member

/-- A header is indented by the columns that its line is indented by. -/
theorem HeaderLine.width_eq {text : List Char} {hit : Hit} (header : HeaderLine text hit) :
    width text = (expandTabs (hit.text text .indent)).length := by
  obtain ⟨column, split, blank⟩ := expandTabsFrom_narrow header.narrow 0 (text.dropWhile isBlank)
  have code : text.dropWhile isBlank ≠ [] := by
    intro empty
    have := List.takeWhile_append_dropWhile (p := isBlank) (l := text)
    rw [empty, List.append_nil] at this
    have lt := Nat.lt_of_lt_of_le header.lt_stop header.stop_le
    unfold leadingBlanks at lt
    rw [this] at lt
    exact Nat.lt_irrefl _ lt
  obtain ⟨x, rest, here⟩ := List.exists_cons_of_ne_nil code
  have inky : isBlank x = false := by
    have stops := List.head?_dropWhile_not isBlank text
    rw [here] at stops
    simpa using stops
  have first : ∃ others, expandTabsFrom column (x :: rest) = x :: others := by
    have other (c : Char) (blank : isBlank c = true) : ¬(x == c) = true := by
      rw [beq_iff_eq]
      rintro rfl
      rw [inky] at blank
      cases blank
    rw [expandTabsFrom, if_neg (other '\t' rfl), if_neg]
    · exact ⟨_, rfl⟩
    · rw [Bool.or_eq_true, not_or]
      exact ⟨other '\n' rfl, other '\r' rfl⟩
  obtain ⟨others, first⟩ := first
  rw [List.takeWhile_append_dropWhile, here, first] at split
  unfold width leadingBlanks expandTabs
  rw [split, List.takeWhile_append_of_pos blank, List.takeWhile_cons_of_neg (by rw [inky]; decide),
    List.append_nil, header.indent]

/-- What stands in front of the keyword of a header: nothing, or a mark with blanks behind it. -/
inductive Mark : List Char → Prop where
  | none : Mark []
  | async (blanks : List Char) (blank : ∀ c ∈ blanks, isBlank c = true) : Mark ("async".toList ++ blanks)

theorem marked_takes {β : Type} {p : Pattern} {c : Cursor} {groups : Groups}
    {k : Cursor → Groups → Option β} {b : β}
    (found : attempt (.both (maybe (seq [literal "async", blanks1])) p) c groups k = some b) :
    ∃ mark after, Mark mark ∧ c.rest = mark ++ after.rest ∧ attempt p after groups k = some b := by
  rw [attempt, maybe, attempt] at found
  rcases Option.or_eq_some_iff.1 found with marked | ⟨-, plain⟩
  · obtain ⟨behind, here, found⟩ := literal_takes "async" marked
    rw [seq, blanks1, run1, attempt] at found
    obtain ⟨x, rest, there, blank, found⟩ := one_takes found
    obtain ⟨taken, rest', last, split, all, accepted⟩ := takeRun_takes found
    refine ⟨_, _, .async (x :: taken) ?_, ?_, accepted⟩
    · intro y member
      rcases List.mem_cons.1 member with rfl | member
      · exact blank
      · exact all y member
    · change rest = taken ++ rest' at split
      rw [here, there, split]
      simp
  · exact ⟨[], c, .none, rfl, plain⟩

/-- What stands in front of a letter of code other than the first one of a mark can be told. -/
theorem Mark.eq_of_append {mark mark' : List Char} {x y : Char} {rest rest' : List Char} (is : Mark mark)
    (is' : Mark mark') (inky : isBlank x = false ∧ x ≠ 'a') (inky' : isBlank y = false ∧ y ≠ 'a')
    (same : mark ++ x :: rest = mark' ++ y :: rest') : x = y := by
  cases is with
  | none =>
    cases is' with
    | none => exact (List.cons_eq_cons.1 same).1
    | async _ _ => exact absurd (List.cons_eq_cons.1 same).1 inky.2
  | async _ blank =>
    cases is' with
    | none => exact absurd (List.cons_eq_cons.1 same).1.symm inky'.2
    | async _ blank' =>
      rw [List.append_assoc, List.append_assoc, List.append_cancel_left_eq] at same
      have dropped := congrArg (List.dropWhile isBlank) same
      rw [List.dropWhile_append_of_pos blank, List.dropWhile_append_of_pos blank',
        List.dropWhile_cons_of_neg (by rw [inky.1]; decide),
        List.dropWhile_cons_of_neg (by rw [inky'.1]; decide)] at dropped
      exact (List.cons_eq_cons.1 dropped).1

variable {text : List Char} {hit : Hit}

/-- A line with a loop header begins with its keyword, behind its indentation and perhaps a mark. -/
theorem headerLine_of_loopHeader (found : hit? loopHeader text = some hit) :
    HeaderLine text hit ∧ ∃ mark x rest, Mark mark ∧ (x = 'f' ∨ x = 'w') ∧
      text.dropWhile isBlank = mark ++ x :: rest := by
  obtain ⟨header, c, groups, k, here, found⟩ := headerLine_of_hit? (by decide) (by decide) found
  obtain ⟨mark, after, is, split, found⟩ := marked_takes found
  refine ⟨header, mark, ?_⟩
  rw [← here, split]
  change attempt (.both (.either (literal "for") (literal "while")) edge) after groups k = some hit at found
  rw [attempt, attempt] at found
  rcases Option.or_eq_some_iff.1 found with is_for | ⟨-, is_while⟩
  · obtain ⟨behind, there, -⟩ := literal_takes "for" is_for
    exact ⟨'f', "or".toList ++ behind.rest, is, Or.inl rfl, by rw [there]; rfl⟩
  · obtain ⟨behind, there, -⟩ := literal_takes "while" is_while
    exact ⟨'w', "hile".toList ++ behind.rest, is, Or.inr rfl, by rw [there]; rfl⟩

/-- A line with a function header begins with its keyword, behind its indentation and perhaps a mark. -/
theorem headerLine_of_functionHeader (found : hit? functionHeader text = some hit) :
    HeaderLine text hit ∧ ∃ mark rest, Mark mark ∧ text.dropWhile isBlank = mark ++ 'd' :: rest := by
  obtain ⟨header, c, groups, k, here, found⟩ := headerLine_of_hit? (by decide) (by decide) found
  obtain ⟨mark, after, is, split, found⟩ := marked_takes found
  change attempt (.both (literal "def") (seq [blanks1, group .name (run1 isWord), blanks, char '('])) after groups
    k = some hit at found
  rw [attempt] at found
  obtain ⟨behind, there, -⟩ := literal_takes "def" found
  exact ⟨header, mark, "ef".toList ++ behind.rest, is, by rw [← here, split, there]; rfl⟩

/-- A colon stands behind the keyword of a loop header, not in it. -/
theorem stop_le_of_colon (found : hit? loopHeader text = some hit) {i : Nat} (colon : text[i]? = some ':') :
    hit.stop ≤ i := by
  obtain ⟨after, groups, taken, same, takes⟩ := attempt_takes loopHeader _ _ _ _ found
  cases same
  refine Nat.le_of_not_lt fun early => ?_
  have rest : text = taken ++ after.rest := takes.rest
  have stop : after.pos = 0 + taken.length := takes.pos
  dsimp only at early
  rw [rest, List.getElem?_append_left (by omega)] at colon
  exact takes.free ':' (by decide +kernel) (List.mem_of_getElem? colon)

/-- No line is the header of a function and of a loop. -/
theorem functionHeader_of_loopHeader (found : hit? loopHeader text = some hit) :
    hit? functionHeader text = none := by
  rw [Option.eq_none_iff_forall_ne_some]
  intro hit' found'
  obtain ⟨-, mark, x, rest, is, keyword, begins⟩ := headerLine_of_loopHeader found
  obtain ⟨-, mark', rest', is', begins'⟩ := headerLine_of_functionHeader found'
  rcases keyword with rfl | rfl <;>
    exact absurd (is.eq_of_append is' (by decide) (by decide) (begins.symm.trans begins')) (by decide)

end LiveLint.Scan.Indent
