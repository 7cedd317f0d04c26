import LiveLint.Proofs.Scan.Ranges
import Mathlib.Data.List.Nodup

/-!
# Pairs and strays

Every bracket of a text is accounted for once: it opens a pair, closes a pair or is left over. A pair joins brackets
of one type, and an opener between the two brackets of a pair is closed there, so pairs lie inside each other or
apart. What is left over is reported: the errors stand on the lines of the brackets in no pair, one for each line, in
the order of the lines.
-/

namespace LiveLint

namespace Brackets

def standsAt (masked : List Char) (i : Nat) : Bool := masked[i]?.any fun c => isOpener c || isCloser c

/-- The offsets of the brackets of a text from an offset on. -/
def offsetsFrom (masked : List Char) (i : Nat) : List Nat :=
  (List.range' i (masked.length - i)).filter (standsAt masked)

/-- The offsets of the brackets that are accounted for: those in pairs, and those that are left over. -/
def used (b : Brackets) : List Nat := b.pairs.flatMap (fun p => [p.1, p.2]) ++ b.unpaired

/-- Two offsets of a text join an opener to its closer. -/
def Joins (masked : List Char) (p : Nat × Nat) : Prop :=
  ∃ opener closer, masked[p.1]? = some opener ∧ masked[p.2]? = some closer ∧ closerOf? opener = some closer

/-- An opener that a pair stands around is closed in front of the closer of the pair. -/
def Fills (b : Brackets) (p : Nat × Nat) (k : Nat) : Prop := p.1 < k → k < p.2 → ∃ q ∈ b.pairs, q.1 = k ∧ q.2 < p.2

/-- What becomes of the brackets of a text from an offset on, if some are open there: each of them is accounted for
once, pairs join brackets of one type, and they leave no opener between their brackets open. -/
structure Paired (masked : List Char) (i : Nat) (opened : List (Nat × Char)) (b : Brackets) : Prop where
  once : b.used.Perm (opened.map (·.1) ++ offsetsFrom masked i)
  joins : ∀ p ∈ b.pairs, Joins masked p
  filled : ∀ p ∈ b.pairs, ∀ k c, masked[k]? = some c → isOpener c = true → k ∈ opened.map (·.1) ∨ i ≤ k → b.Fills p k

/-!
## One character
-/

section Step

variable {masked : List Char} {i : Nat} {opened : List (Nat × Char)} {b : Brackets} {c : Char}

theorem closerOf?_of_openerOf? {opener : Char} (closes : openerOf? c = some opener) : closerOf? opener = some c := by
  unfold openerOf? at closes
  split at closes <;> cases closes <;> rfl

theorem standsAt_of_getElem? (here : masked[i]? = some c) : standsAt masked i = (isOpener c || isCloser c) := by
  simp [standsAt, here]

theorem offsetsFrom_step (here : masked[i]? = some c) :
    offsetsFrom masked i =
      if isOpener c || isCloser c then i :: offsetsFrom masked (i + 1) else offsetsFrom masked (i + 1) := by
  have inside := (List.getElem?_eq_some_iff.1 here).1
  have length : masked.length - i = masked.length - (i + 1) + 1 := by omega
  simp only [offsetsFrom, length, List.range'_succ, List.filter_cons, standsAt_of_getElem? here]

theorem used_pair (j : Nat) : { b with pairs := (j, i) :: b.pairs }.used = j :: i :: b.used := rfl

theorem used_leave : { b with unpaired := i :: b.unpaired }.used.Perm (i :: b.used) := List.perm_middle

/-- An opener is open from the next offset on. -/
theorem Paired.open (found : Paired masked (i + 1) ((i, c) :: opened) b) (here : masked[i]? = some c)
    (opener : isOpener c = true) : Paired masked i opened b where
  once := by
    rw [offsetsFrom_step here, if_pos (by simp [opener])]
    exact found.once.trans List.perm_middle.symm
  joins := found.joins
  filled p member k d there opener' source := by
    refine found.filled p member k d there opener' ?_
    rw [List.map_cons, List.mem_cons]
    rcases source with old | later
    · exact Or.inl (Or.inr old)
    · rcases Nat.eq_or_lt_of_le later with rfl | behind
      · exact Or.inl (Or.inl rfl)
      · exact Or.inr behind

/-- What is no bracket changes nothing. -/
theorem Paired.pass (found : Paired masked (i + 1) opened b) (here : masked[i]? = some c)
    (plain : (isOpener c || isCloser c) = false) : Paired masked i opened b where
  once := by
    rw [offsetsFrom_step here, plain]
    exact found.once
  joins := found.joins
  filled p member k d there opener source := by
    have other : ¬isOpener c = true := fun opens => by simp [opens] at plain
    exact found.filled p member k d there opener (source.imp_right (behind_of_opener here other there opener))

/-- A closer that does not fit is left over, and closes nothing. -/
theorem Paired.leave (found : Paired masked (i + 1) opened b) (here : masked[i]? = some c)
    (other : ¬isOpener c = true) (closer : isCloser c = true) :
    Paired masked i opened { b with unpaired := i :: b.unpaired } where
  once := by
    rw [offsetsFrom_step here, if_pos (by simp [closer])]
    exact used_leave.trans ((found.once.cons i).trans List.perm_middle.symm)
  joins := found.joins
  filled p member k d there opener source :=
    found.filled p member k d there opener (source.imp_right (behind_of_opener here other there opener))

/-- The innermost open bracket is closed. No opener between the two is still open, and what was opened around them
is closed later. -/
theorem Paired.close {j : Nat} {opener : Char} (state : Opened masked i ((j, opener) :: opened))
    (found : Paired masked (i + 1) opened b) (later : ∀ p ∈ b.pairs, i < p.2) (there : masked[j]? = some opener)
    (here : masked[i]? = some c) (closes : openerOf? c = some opener) :
    Paired masked i ((j, opener) :: opened) { b with pairs := (j, i) :: b.pairs } where
  once := by
    have closer : isCloser c = true := by simp [isCloser, closes]
    rw [used_pair, offsetsFrom_step here, if_pos (by simp [closer]), List.map_cons, List.cons_append]
    exact ((found.once.cons i).trans List.perm_middle.symm).cons j
  joins := List.forall_mem_cons.2 ⟨⟨opener, c, there, here, closerOf?_of_openerOf? closes⟩, found.joins⟩
  filled := by
    have outer {k : Nat} (member : k ∈ opened.map (·.1)) : k < j := by
      obtain ⟨o, among, rfl⟩ := List.mem_map.1 member
      exact List.rel_of_pairwise_cons state.inner among
    intro p member k d place opens source after before
    rw [List.map_cons, List.mem_cons] at source
    rcases List.mem_cons.1 member with rfl | old
    -- Nothing that is still open begins between the two brackets of the new pair.
    · dsimp only at after before
      rcases source with (rfl | among) | behind
      · omega
      · have := outer among
        omega
      · omega
    · have filled (source : k ∈ opened.map (·.1) ∨ i + 1 ≤ k) :
          ∃ q ∈ (j, i) :: b.pairs, q.1 = k ∧ q.2 < p.2 := by
        obtain ⟨q, among, inside⟩ := found.filled p old k d place opens source after before
        exact ⟨q, List.mem_cons_of_mem _ among, inside⟩
      rcases source with (rfl | among) | behind
      -- A pair around the opener on top was found later, so it closes behind this closer.
      · exact ⟨(k, i), List.mem_cons_self, rfl, later p old⟩
      · exact filled (Or.inl among)
      · refine filled (Or.inr (Nat.lt_of_le_of_ne behind ?_))
        rintro rfl
        rw [here] at place
        cases place
        exact not_isOpener_of_openerOf? closes opens

end Step

/-!
## Whole texts
-/

variable {masked : List Char}

theorem paired_pairFrom {i : Nat} {opened : List (Nat × Char)} {cs : List Char} (rest : masked.drop i = cs)
    (state : Opened masked i opened) (chars : ∀ o ∈ opened, masked[o.1]? = some o.2) :
    Paired masked i opened (pairFrom i opened cs) := by
  induction cs generalizing i opened with
  | nil =>
    have none_left : masked.length - i = 0 := Nat.sub_eq_zero_of_le (List.drop_eq_nil_iff.1 rest)
    refine ⟨?_, nofun, nofun⟩
    rw [offsetsFrom, none_left, List.range'_zero, List.filter_nil, List.append_nil]
    rfl
  | cons c cs ih =>
    have here : masked[i]? = some c := by
      rw [← List.head?_drop, rest, List.head?_cons]
    have behind : masked.drop (i + 1) = cs := by
      rw [← List.drop_drop, rest]
      rfl
    unfold pairFrom
    split
    · next opener =>
      exact (ih behind (state.push here opener) (List.forall_mem_cons.2 ⟨here, chars⟩)).open here opener
    · next other =>
      split
      · next plain => exact (ih behind state.next chars).pass here (by simp [other, isCloser, plain])
      · next opener closes =>
        have closer : isCloser c = true := by simp [isCloser, closes]
        split
        · next j d outer =>
          obtain ⟨there, outside⟩ := List.forall_mem_cons.1 chars
          split
          · next same =>
            cases eq_of_beq same
            have later := (matched_pairFrom behind state.pop).behind
            exact (ih behind state.pop outside).close state later there here closes
          · exact (ih behind state.next chars).leave here other closer
        · exact (ih behind state.next chars).leave here other closer

theorem paired_pair (masked : List Char) : Paired masked 0 [] (pair masked) :=
  paired_pairFrom List.drop_zero ⟨nofun, nofun, .nil⟩ nofun

/-- A bracket of a text that stands in no pair. -/
def Stray (masked : List Char) (b : Brackets) (i : Nat) : Prop :=
  standsAt masked i = true ∧ ∀ p ∈ b.pairs, i ≠ p.1 ∧ i ≠ p.2

theorem nodup_used (masked : List Char) : (pair masked).used.Nodup := by
  rw [(paired_pair masked).once.nodup_iff]
  exact List.Nodup.filter _ List.nodup_range'

theorem mem_used_iff {i : Nat} : i ∈ (pair masked).used ↔ standsAt masked i = true := by
  rw [(paired_pair masked).once.mem_iff, List.map_nil, List.nil_append, offsetsFrom, List.mem_filter,
    List.mem_range'_1, and_iff_right_iff_imp]
  intro stands
  have inside : i < masked.length := by
    by_contra beyond
    simp [standsAt, List.getElem?_eq_none (Nat.not_lt.1 beyond)] at stands
  omega

/-- What is left over are the brackets in no pair. -/
theorem mem_unpaired_iff {i : Nat} : i ∈ (pair masked).unpaired ↔ Stray masked (pair masked) i := by
  have in_pairs : i ∈ (pair masked).pairs.flatMap (fun p => [p.1, p.2]) ↔
      ∃ p ∈ (pair masked).pairs, i = p.1 ∨ i = p.2 := by simp
  unfold Stray
  rw [← mem_used_iff, used, List.mem_append, in_pairs]
  constructor
  · intro left
    refine ⟨Or.inr left, fun p member => not_or.1 fun inside => ?_⟩
    exact List.disjoint_of_nodup_append (nodup_used masked) (in_pairs.2 ⟨p, member, inside⟩) left
  · rintro ⟨⟨p, member, inside⟩ | left, apart⟩
    · exact absurd inside (not_or.2 (apart p member))
    · exact left

/-!
## Errors
-/

theorem mem_insertLine_iff {n m : Nat} {lines : List Nat} : m ∈ insertLine n lines ↔ m = n ∨ m ∈ lines := by
  refine ⟨mem_insertLine, ?_⟩
  induction lines with
  | nil => simp [insertLine]
  | cons l rest ih =>
    unfold insertLine
    split
    · simp
    · split
      · next same =>
        rw [eq_of_beq same]
        simp
      · rw [List.mem_cons, List.mem_cons]
        rintro (new | rfl | old)
        · exact Or.inr (ih (Or.inl new))
        · exact Or.inl rfl
        · exact Or.inr (ih (Or.inr old))

/-- A number finds its place in an increasing list. -/
theorem pairwise_insertLine (n : Nat) {lines : List Nat} (increasing : lines.Pairwise (· < ·)) :
    (insertLine n lines).Pairwise (· < ·) := by
  induction lines with
  | nil => exact List.pairwise_singleton _ n
  | cons l rest ih =>
    obtain ⟨least, others⟩ := List.pairwise_cons.1 increasing
    unfold insertLine
    split
    · next less =>
      refine .cons (List.forall_mem_cons.2 ⟨less, fun m member => Nat.lt_trans less (least m member)⟩) increasing
    · next ge =>
      split
      · exact increasing
      · next other =>
        rw [beq_iff_eq] at other
        refine .cons (fun m member => ?_) (ih others)
        rcases mem_insertLine member with rfl | old
        · omega
        · exact least m old

theorem mem_errorLines_iff {b : Brackets} {line : Nat} :
    line ∈ b.errorLines masked ↔ ∃ offset ∈ b.unpaired, (Position.ofOffset masked offset).line = line := by
  unfold errorLines
  induction b.unpaired with
  | nil => simp
  | cons offset rest ih => rw [List.foldr_cons, mem_insertLine_iff, ih, List.exists_mem_cons_iff, eq_comm]

theorem pairwise_errorLines (masked : List Char) (b : Brackets) : (b.errorLines masked).Pairwise (· < ·) := by
  unfold errorLines
  induction b.unpaired with
  | nil => exact .nil
  | cons offset rest ih => exact pairwise_insertLine _ ih

/-- Pairs of brackets join an opener to a later closer of its type, share no bracket, lie inside each other or apart,
and are filled: every opener between the two brackets of a pair is in a pair that closes there too. -/
structure Nests (masked : List Char) (b : Brackets) : Prop where
  joins : ∀ p ∈ b.pairs, p.1 < p.2 ∧ Joins masked p
  apart : b.pairs.Pairwise fun p q => p.1 ≠ q.1 ∧ p.1 ≠ q.2 ∧ p.2 ≠ q.1 ∧ p.2 ≠ q.2
  uncrossed : ∀ p ∈ b.pairs, ∀ q ∈ b.pairs, p.1 < q.1 → q.1 < p.2 → q.2 < p.2
  filled : ∀ p ∈ b.pairs, ∀ k c, masked[k]? = some c → isOpener c = true → b.Fills p k

theorem nests_pair (masked : List Char) : (pair masked).Nests masked where
  joins p member := ⟨pairFrom_lt masked 0 [] nofun p member, (paired_pair masked).joins p member⟩
  apart := by
    have once := List.nodup_append.1 (nodup_used masked)
    refine (List.nodup_flatMap.1 once.1).2.imp fun {p q} (disjoint : List.Disjoint [p.1, p.2] [q.1, q.2]) => ?_
    have swapped : List.Disjoint [q.1, q.2] [p.1, p.2] := fun _ right left => disjoint left right
    simpa [and_assoc] using swapped
  uncrossed := (matched_pair masked).nested
  filled p member k c here opener := (paired_pair masked).filled p member k c here opener (Or.inr (Nat.zero_le k))

end Brackets

/-- An error covers a part of the line of an offset, and of no other line. -/
def Sketch.OnLineOf (masked : List Char) (e : Sketch) (i : Nat) : Prop :=
  e.span.start.line = 1 + (masked.take i).count '\n' ∧ e.span.stop.line = e.span.start.line

namespace Brackets

/-- Errors report the brackets in no pair: each of these stands on the line of an error, each error is on the line of
one of these, and the errors come line by line. -/
structure Reports (masked : List Char) (b : Brackets) (errors : List Sketch) : Prop where
  reported : ∀ i, Stray masked b i → ∃ e ∈ errors, e.OnLineOf masked i
  justified : ∀ e ∈ errors, e.kind = .error ∧ ∃ i, Stray masked b i ∧ e.OnLineOf masked i
  increasing : errors.Pairwise fun e e' => e.span.start.line < e'.span.start.line

theorem reports_pair (masked : List Char) :
    (pair masked).Reports masked (((pair masked).errorLines masked).map (Sketch.errorLine (Text.lines masked))) where
  reported i stray := by
    have line : 1 + (masked.take i).count '\n' ∈ (pair masked).errorLines masked :=
      mem_errorLines_iff.2 ⟨i, mem_unpaired_iff.2 stray, Position.line_ofOffset masked i⟩
    exact ⟨_, List.mem_map_of_mem line, rfl, rfl⟩
  justified e member := by
    obtain ⟨line, among, rfl⟩ := List.mem_map.1 member
    obtain ⟨i, left, rfl⟩ := mem_errorLines_iff.1 among
    exact ⟨rfl, i, mem_unpaired_iff.1 left, Position.line_ofOffset masked i, rfl⟩
  increasing := List.pairwise_map.2 (pairwise_errorLines masked (pair masked))

end Brackets

/-- In every text, brackets are paired and reported. Pairing by index comes to its end, and so do the search for the
lines of the brackets that are left over and the drafts of the errors. The pairs join an opener to a later closer of
its type, share no bracket, do not cross, and every opener inside of a pair is paired there. A bracket in no pair stands
on the line of an error; every error is on the line of such a bracket, and the lines of the errors increase. -/
theorem Indexed.pairs_nest_and_strays_are_reported (masked : List Char) :
    ∃ b lines errors,
      (pairFrom masked 0 [] masked = .ok b ∧ b = Brackets.pair masked) ∧
      (errorLines (lineOffsets masked) b = .ok lines ∧ lines = b.errorLines masked) ∧
      (lines.mapM (errorLine (Text.lines masked)) = .ok errors ∧
        errors = lines.map (Sketch.errorLine (Text.lines masked))) ∧
      b.Nests masked ∧ b.Reports masked errors := by
  refine ⟨_, _, _, ⟨pair_eq masked, rfl⟩, ⟨errorLines_eq masked, rfl⟩, ⟨?_, rfl⟩, Brackets.nests_pair masked,
    Brackets.reports_pair masked⟩
  exact mapM_eq fun line member => errorLine_eq (Text.lines masked) (Brackets.bounds_of_mem_errorLines member).1

/-- A closer of another type closes nothing, and a pair is formed around it. -/
example : (Brackets.pair "([)]".toList).pairs = [(1, 3)] ∧ (Brackets.pair "([)]".toList).unpaired = [2, 0] := by decide

end LiveLint
