import LiveLint.Proofs.Scan.Searches
import Mathlib.Data.List.Nodup

/-!
# The colon of a header

Pairs of brackets do not cross, and where no bracket is left over every opener is in a pair. So to step over the
pairs that open behind an offset means to look at the characters that none of these pairs stands around, and the
colon of a header is the first colon among them, if no newline comes first.
-/

namespace LiveLint

/-!
## Pairs
-/

namespace Brackets

/-- The brackets that are open at an offset of a text, innermost first. -/
structure Opened (masked : List Char) (i : Nat) (opened : List (Nat × Char)) : Prop where
  before : ∀ o ∈ opened, o.1 < i
  opens : ∀ o ∈ opened, ∃ c, masked[o.1]? = some c ∧ isOpener c = true
  inner : opened.Pairwise fun x y => y.1 < x.1

/-- What becomes of the brackets of a text from an offset on, if some are open there: a pair opens among these or
later and closes later, pairs do not cross, and an opener that is not left over opens one pair. -/
structure Matched (masked : List Char) (i : Nat) (opened : List (Nat × Char)) (b : Brackets) : Prop where
  source : ∀ pair ∈ b.pairs, pair.1 ∈ opened.map (·.1) ∨ i ≤ pair.1
  opens : ∀ pair ∈ b.pairs, ∃ c, masked[pair.1]? = some c ∧ isOpener c = true
  behind : ∀ pair ∈ b.pairs, i ≤ pair.2
  closes : ∀ pair ∈ b.pairs, ∃ c, masked[pair.2]? = some c ∧ isCloser c = true
  nested : ∀ pair ∈ b.pairs, ∀ pair' ∈ b.pairs, pair.1 < pair'.1 → pair'.1 < pair.2 → pair'.2 < pair.2
  once : (b.pairs.map (·.1)).Nodup
  complete : ∀ p c, masked[p]? = some c → isOpener c = true → p ∈ opened.map (·.1) ∨ i ≤ p →
    p ∈ b.unpaired ∨ p ∈ b.pairs.map (·.1)

variable {masked : List Char} {i : Nat} {opened : List (Nat × Char)} {b : Brackets}

theorem Opened.next (state : Opened masked i opened) : Opened masked (i + 1) opened :=
  ⟨fun o member => Nat.lt_succ_of_lt (state.before o member), state.opens, state.inner⟩

theorem Opened.push (state : Opened masked i opened) {c : Char} (here : masked[i]? = some c)
    (opener : isOpener c = true) : Opened masked (i + 1) ((i, c) :: opened) := by
  refine ⟨fun o member => ?_, fun o member => ?_, .cons (fun o member => state.before o member) state.inner⟩
  · rcases List.mem_cons.1 member with rfl | old
    · exact Nat.lt_succ_self i
    · exact Nat.lt_succ_of_lt (state.before o old)
  · rcases List.mem_cons.1 member with rfl | old
    · exact ⟨c, here, opener⟩
    · exact state.opens o old

theorem Opened.pop {o : Nat × Char} (state : Opened masked i (o :: opened)) : Opened masked (i + 1) opened :=
  ⟨fun o member => Nat.lt_succ_of_lt (state.before o (List.mem_cons_of_mem _ member)),
    fun o member => state.opens o (List.mem_cons_of_mem _ member), state.inner.of_cons⟩

theorem not_isOpener_of_openerOf? {c opener : Char} (closer : openerOf? c = some opener) :
    ¬isOpener c = true := by
  unfold openerOf? at closer
  split at closer <;> cases closer <;> decide

/-- An opener does not stand where something else stands, so it stands behind. -/
theorem behind_of_opener {k : Nat} {c d : Char} (here : masked[i]? = some c) (other : ¬isOpener c = true)
    (there : masked[k]? = some d) (opener : isOpener d = true) (later : i ≤ k) : i + 1 ≤ k := by
  refine Nat.lt_of_le_of_ne later ?_
  rintro rfl
  cases here.symm.trans there
  exact other opener

/-- A character that is no opener changes nothing but what follows. -/
theorem Matched.step (found : Matched masked (i + 1) opened b) {c : Char} (here : masked[i]? = some c)
    (other : ¬isOpener c = true) : Matched masked i opened b := by
  refine ⟨fun pair member => ?_, found.opens, fun pair member => ?_, found.closes, found.nested, found.once, ?_⟩
  · exact (found.source pair member).imp_right Nat.le_of_succ_le
  · exact Nat.le_of_succ_le (found.behind pair member)
  · intro p d there opener source
    exact found.complete p d there opener (source.imp_right (behind_of_opener here other there opener))

/-- A bracket that is left over is in no pair. -/
theorem Matched.leave (found : Matched masked i opened b) (p : Nat) :
    Matched masked i opened { b with unpaired := p :: b.unpaired } :=
  ⟨found.source, found.opens, found.behind, found.closes, found.nested, found.once,
    fun p d there opener source => (found.complete p d there opener source).imp_left (List.mem_cons_of_mem _)⟩

/-- An opener opens a pair later on. -/
theorem Matched.open (found : Matched masked (i + 1) ((i, c) :: opened) b) : Matched masked i opened b := by
  refine ⟨fun pair member => ?_, found.opens, fun pair member => ?_, found.closes, found.nested, found.once, ?_⟩
  · have source := found.source pair member
    rw [List.map_cons, List.mem_cons] at source
    rcases source with (same | old) | later
    · exact Or.inr (Nat.le_of_eq same.symm)
    · exact Or.inl old
    · exact Or.inr (Nat.le_of_succ_le later)
  · exact Nat.le_of_succ_le (found.behind pair member)
  · intro p d there opener source
    refine found.complete p d there opener ?_
    rw [List.map_cons, List.mem_cons]
    rcases source with old | le
    · exact Or.inl (Or.inr old)
    · rcases Nat.eq_or_lt_of_le le with rfl | later
      · exact Or.inl (Or.inl rfl)
      · exact Or.inr later

/-- The innermost open bracket is closed: its pair stands around everything that opened since. -/
theorem Matched.close {j : Nat} {d : Char} (state : Opened masked i ((j, d) :: opened))
    (found : Matched masked (i + 1) opened b) {c : Char} (here : masked[i]? = some c)
    (closer : isCloser c = true) (other : ¬isOpener c = true) :
    Matched masked i ((j, d) :: opened) { b with pairs := (j, i) :: b.pairs } := by
  have outer {p : Nat} (member : p ∈ opened.map (·.1)) : p < j := by
    obtain ⟨o, among, rfl⟩ := List.mem_map.1 member
    exact List.rel_of_pairwise_cons state.inner among
  have first := state.before (j, d) (List.mem_cons_self ..)
  dsimp only at first
  constructor
  case source =>
    intro pair member
    rw [List.map_cons, List.mem_cons]
    rcases List.mem_cons.1 member with rfl | old
    · exact Or.inl (Or.inl rfl)
    · exact (found.source pair old).imp Or.inr Nat.le_of_succ_le
  case opens =>
    intro pair member
    rcases List.mem_cons.1 member with rfl | old
    · exact state.opens (j, d) (List.mem_cons_self ..)
    · exact found.opens pair old
  case behind =>
    intro pair member
    rcases List.mem_cons.1 member with rfl | old
    · exact Nat.le_refl i
    · exact Nat.le_of_succ_le (found.behind pair old)
  case closes =>
    intro pair member
    rcases List.mem_cons.1 member with rfl | old
    · exact ⟨c, here, closer⟩
    · exact found.closes pair old
  case nested =>
    intro pair member pair' member' lt lt'
    rcases List.mem_cons.1 member with rfl | old
    · rcases List.mem_cons.1 member' with rfl | old'
      · exact absurd lt (Nat.lt_irrefl j)
      · dsimp only at lt lt'
        rcases found.source pair' old' with before | later
        · exact absurd (outer before) (by omega)
        · omega
    · rcases List.mem_cons.1 member' with rfl | old'
      · exact Nat.lt_of_succ_le (found.behind pair old)
      · exact found.nested pair old pair' old' lt lt'
  case once =>
    refine List.nodup_cons.2 ⟨fun again => ?_, found.once⟩
    obtain ⟨pair, old, same⟩ := List.mem_map.1 again
    dsimp only at same
    rcases found.source pair old with before | later
    · exact absurd (outer before) (by omega)
    · omega
  case complete =>
    intro p e there opener source
    rw [List.map_cons, List.mem_cons] at source
    rw [List.map_cons, List.mem_cons]
    rcases source with (rfl | old) | le
    · exact Or.inr (Or.inl rfl)
    · exact (found.complete p e there opener (Or.inl old)).imp_right Or.inr
    · have later := behind_of_opener here other there opener le
      exact (found.complete p e there opener (Or.inr later)).imp_right Or.inr

/-- The brackets of a text from an offset on. -/
theorem matched_pairFrom {cs : List Char} (rest : masked.drop i = cs) (state : Opened masked i opened) :
    Matched masked i opened (pairFrom i opened cs) := by
  induction cs generalizing i opened with
  | nil =>
    refine ⟨nofun, nofun, nofun, nofun, nofun, .nil, fun p c there _ source => ?_⟩
    refine source.imp id fun le => ?_
    have length := List.drop_eq_nil_iff.1 rest
    rw [List.getElem?_eq_none (Nat.le_trans length le)] at there
    cases there
  | cons c rest' ih =>
    have here : masked[i]? = some c := by
      rw [← List.head?_drop, rest, List.head?_cons]
    have later : masked.drop (i + 1) = rest' := by
      rw [← List.drop_drop, rest]
      rfl
    unfold pairFrom
    split
    · next opener => exact (ih later (state.push here opener)).open
    · next other =>
      split
      · exact (ih later state.next).step here other
      · next opener closer =>
        have closer : isCloser c = true := by
          unfold isCloser
          rw [closer]
          rfl
        split
        · split
          · exact .close state (ih later state.pop) here closer other
          · exact ((ih later state.next).step here other).leave i
        · exact ((ih later state.next).step here other).leave i

theorem matched_pair (masked : List Char) : Matched masked 0 [] (pair masked) :=
  matched_pairFrom List.drop_zero ⟨nofun, nofun, .nil⟩

/-- The closer of an opener is the one of its pair. -/
theorem closer?_eq_some_iff {j : Nat} : (pair masked).closer? i = some j ↔ (i, j) ∈ (pair masked).pairs := by
  have once := (matched_pair masked).once
  unfold closer?
  generalize (pair masked).pairs = pairs at once
  constructor
  · intro found
    obtain ⟨front, back, split, -⟩ := List.lookup_eq_some_iff.1 found
    rw [split]
    exact List.mem_append_right _ (List.mem_cons_self ..)
  · intro member
    obtain ⟨front, back, rfl⟩ := List.append_of_mem member
    refine List.lookup_eq_some_iff.2 ⟨front, back, rfl, fun pair among => ?_⟩
    rw [List.map_append, List.map_cons, List.nodup_append] at once
    rw [bne_iff_ne]
    exact (once.2.2 pair.1 (List.mem_map.2 ⟨pair, among, rfl⟩) i (List.mem_cons_self ..)).symm

/-- A pair of brackets that opens at or behind an offset stands around a place. -/
def Around (b : Brackets) (start i : Nat) : Prop := ∃ pair ∈ b.pairs, start ≤ pair.1 ∧ pair.1 < i ∧ i < pair.2

/-- Every pair that opens at or behind an offset but in front of a place is closed in front of it. -/
def Settled (b : Brackets) (start i : Nat) : Prop := ∀ pair ∈ b.pairs, start ≤ pair.1 → pair.1 < i → pair.2 < i

theorem Settled.not_around {start : Nat} (settled : b.Settled start i) : ¬b.Around start i := by
  rintro ⟨pair, member, le, before, behind⟩
  exact Nat.lt_asymm behind (settled pair member le before)

theorem settled_self (b : Brackets) (start : Nat) : b.Settled start start :=
  fun _ _ le before => absurd before (Nat.not_lt_of_le le)

/-- To go on behind a character that is no opener settles as much. -/
theorem Settled.next {start : Nat} (settled : (pair masked).Settled start i) {c : Char}
    (here : masked[i]? = some c) (other : ¬isOpener c = true) : (pair masked).Settled start (i + 1) := by
  intro pair member le before
  rcases Nat.eq_or_lt_of_le (Nat.le_of_lt_succ before) with same | earlier
  · obtain ⟨d, there, opener⟩ := (matched_pair masked).opens pair member
    rw [same, here] at there
    cases there
    exact absurd opener other
  · exact Nat.lt_succ_of_lt (settled pair member le earlier)

/-- To go on behind the closer of an opener settles all that opened in between. -/
theorem Settled.jump {start j : Nat} (settled : (pair masked).Settled start i)
    (member : (i, j) ∈ (pair masked).pairs) :
    (pair masked).Settled start (j + 1) := by
  have matched := matched_pair masked
  intro pair member' le before
  rcases Nat.lt_trichotomy pair.1 i with earlier | same | later
  · have first := pairFrom_lt masked 0 [] nofun (i, j) member
    have := settled pair member' le earlier
    dsimp only at first
    omega
  · have := List.inj_on_of_nodup_map matched.once member' member same
    rw [this]
    exact Nat.lt_succ_self j
  · rcases Nat.eq_or_lt_of_le (Nat.le_of_lt_succ before) with same | inside
    · -- No character is both an opener and a closer.
      obtain ⟨c, there, opener⟩ := matched.opens pair member'
      obtain ⟨d, there', closer⟩ := matched.closes (i, j) member
      rw [same] at there
      cases there.symm.trans there'
      obtain ⟨o, closer⟩ := Option.isSome_iff_exists.1 closer
      exact absurd opener (not_isOpener_of_openerOf? closer)
    · exact Nat.lt_succ_of_lt (matched.nested (i, j) member pair member' later inside)

end Brackets

/-!
## The colon
-/

namespace Forward

open Brackets

/-- To step over some characters means to go on behind them. -/
theorem headerColonFrom?_skip (b : Brackets) (skip i : Nat) (cs : List Char) :
    headerColonFrom? b skip i cs = headerColonFrom? b 0 (i + skip) (cs.drop skip) := by
  induction skip generalizing i cs with
  | zero => rfl
  | succ skip ih =>
    cases cs with
    | nil =>
      rw [List.drop_nil]
      unfold headerColonFrom?
      rfl
    | cons c rest =>
      rw [headerColonFrom?, ih, List.drop_succ_cons, Nat.add_right_comm, Nat.add_assoc]

/-- One step of the search. -/
theorem headerColon?_step {masked : List Char} {i : Nat} {c : Char} (here : masked[i]? = some c) :
    headerColon? masked (pair masked) i =
      if isOpener c then ((pair masked).closer? i).bind fun j => headerColon? masked (pair masked) (j + 1)
      else if c == ':' then some i
      else if c == '\n' then none
      else headerColon? masked (pair masked) (i + 1) := by
  have split : masked.drop i = c :: masked.drop (i + 1) := by
    rw [← List.getElem_cons_drop (List.getElem?_eq_some_iff.1 here).1, (List.getElem?_eq_some_iff.1 here).2]
  unfold headerColon?
  rw [split, headerColonFrom?]
  split
  · cases closed : (pair masked).closer? i with
    | none => rfl
    | some j =>
      have behind := lt_of_closer? closed
      dsimp only [Option.bind_some]
      rw [headerColonFrom?_skip, List.drop_drop, show i + 1 + (j - i) = j + 1 by omega]
  · rfl

/-- A colon ends the header that is read from an offset on: none of the pairs that open there or later stands
around it, but they stand around every colon and every newline in front of it. -/
structure EndsHeader (masked : List Char) (start i : Nat) : Prop where
  le : start ≤ i
  colon : masked[i]? = some ':'
  bare : ¬(pair masked).Around start i
  first : ∀ k, start ≤ k → k < i → masked[k]? = some ':' ∨ masked[k]? = some '\n' →
    (pair masked).Around start k

variable {masked : List Char} {start i : Nat}

theorem headerColon?_eq_none {masked : List Char} {b : Brackets} {i : Nat} (beyond : masked[i]? = none) :
    headerColon? masked b i = none := by
  unfold headerColon?
  rw [List.drop_eq_nil_iff.2 (List.getElem?_eq_none_iff.1 beyond), headerColonFrom?]

/-- The search has gone on to a place: it has stepped over whole pairs and passed no colon and no newline outside
of them. -/
structure Passed (masked : List Char) (start i : Nat) : Prop where
  le : start ≤ i
  settled : (pair masked).Settled start i
  around : ∀ k, start ≤ k → k < i → masked[k]? = some ':' ∨ masked[k]? = some '\n' → (pair masked).Around start k

theorem Passed.next (passed : Passed masked start i) {c : Char} (here : masked[i]? = some c)
    (other : ¬isOpener c = true) (plain : c ≠ ':' ∧ c ≠ '\n') : Passed masked start (i + 1) := by
  refine ⟨Nat.le_succ_of_le passed.le, passed.settled.next here other, fun k le lt special => ?_⟩
  rcases Nat.eq_or_lt_of_le (Nat.le_of_lt_succ lt) with rfl | earlier
  · rw [here, Option.some.injEq, Option.some.injEq] at special
    rcases special with colon | newline
    · exact absurd colon plain.1
    · exact absurd newline plain.2
  · exact passed.around k le earlier special

theorem Passed.jump (passed : Passed masked start i) {j : Nat} (member : (i, j) ∈ (pair masked).pairs) :
    Passed masked start (j + 1) := by
  have behind : i < j := pairFrom_lt masked 0 [] nofun (i, j) member
  refine ⟨by have := passed.le; omega, passed.settled.jump member, fun k le lt special => ?_⟩
  rcases Nat.lt_trichotomy k i with earlier | rfl | later
  · exact passed.around k le earlier special
  · obtain ⟨c, here, opener⟩ := (matched_pair masked).opens (k, j) member
    dsimp only at here
    rw [here, Option.some.injEq, Option.some.injEq] at special
    rcases special with rfl | rfl <;> exact absurd opener (by decide)
  · rcases Nat.eq_or_lt_of_le (Nat.le_of_lt_succ lt) with rfl | inside
    · obtain ⟨c, here, closer⟩ := (matched_pair masked).closes (i, k) member
      dsimp only at here
      rw [here, Option.some.injEq, Option.some.injEq] at special
      rcases special with rfl | rfl <;> exact absurd closer (by decide)
    · exact ⟨(i, j), member, passed.le, later, inside⟩

/-- What is found is the colon that ends the header. -/
theorem endsHeader_of_passed {colon : Nat} (passed : Passed masked start i)
    (found : headerColon? masked (pair masked) i = some colon) : EndsHeader masked start colon := by
  induction left : masked.length - i using Nat.strongRecOn generalizing i with
  | ind n ih =>
    cases here : masked[i]? with
    | none =>
      rw [headerColon?_eq_none here] at found
      cases found
    | some c =>
      have inside := (List.getElem?_eq_some_iff.1 here).1
      rw [headerColon?_step here] at found
      split at found
      · obtain ⟨j, closed, found⟩ := Option.bind_eq_some_iff.1 found
        have behind := lt_of_closer? closed
        exact ih (masked.length - (j + 1)) (by omega) (passed.jump (closer?_eq_some_iff.1 closed)) found rfl
      · next other =>
        split at found
        · next colon =>
          cases found
          exact ⟨passed.le, by rw [here, eq_of_beq colon], passed.settled.not_around, passed.around⟩
        · next no_colon =>
          split at found
          · cases found
          · next no_newline =>
            rw [beq_iff_eq] at no_colon no_newline
            have on := passed.next here other ⟨no_colon, no_newline⟩
            exact ih (masked.length - (i + 1)) (by omega) on found rfl

/-- If no bracket is left over, the colon that ends the header is found. -/
theorem headerColon?_of_passed (balanced : (pair masked).unpaired = []) {colon : Nat}
    (passed : Passed masked start i) (ends : EndsHeader masked start colon) (le : i ≤ colon) :
    headerColon? masked (pair masked) i = some colon := by
  induction left : colon - i using Nat.strongRecOn generalizing i with
  | ind n ih =>
    have inside := (List.getElem?_eq_some_iff.1 ends.colon).1
    obtain ⟨c, here⟩ : ∃ c, masked[i]? = some c := ⟨_, List.getElem?_eq_getElem (by omega)⟩
    rw [headerColon?_step here]
    split
    · next opener =>
      obtain ⟨j, member⟩ : ∃ j, (i, j) ∈ (pair masked).pairs := by
        rcases (matched_pair masked).complete i c here opener (Or.inr (Nat.zero_le i)) with left_open | paired
        · rw [balanced] at left_open
          cases left_open
        · obtain ⟨⟨_, j⟩, member, rfl⟩ := List.mem_map.1 paired
          exact ⟨j, member⟩
      rw [closer?_eq_some_iff.2 member, Option.bind_some]
      -- The pair does not stand around the colon, and neither of its brackets is the colon.
      have different : i ≠ colon := by
        rintro rfl
        rw [Option.some.inj (here.symm.trans ends.colon)] at opener
        exact absurd opener (by decide)
      have behind : j + 1 ≤ colon := by
        by_contra early
        rcases Nat.eq_or_lt_of_le (Nat.le_of_not_lt early) with rfl | later
        · obtain ⟨c, there, closer⟩ := (matched_pair masked).closes (i, colon) member
          dsimp only at there
          rw [Option.some.inj (there.symm.trans ends.colon)] at closer
          exact absurd closer (by decide)
        · exact ends.bare ⟨(i, j), member, passed.le, by omega, later⟩
      exact ih (colon - (j + 1)) (by have := pairFrom_lt masked 0 [] nofun (i, j) member; omega)
        (passed.jump member) behind rfl
    · next other =>
      have bare (special : masked[i]? = some ':' ∨ masked[i]? = some '\n') : i = colon := by
        rcases Nat.eq_or_lt_of_le le with same | earlier
        · exact same
        · exact absurd (ends.first i passed.le earlier special) passed.settled.not_around
      split
      · next found => rw [bare (Or.inl (here.trans (by rw [eq_of_beq found])))]
      · next no_colon =>
        rw [beq_iff_eq] at no_colon
        split
        · next found =>
          have same := bare (Or.inr (here.trans (by rw [eq_of_beq found])))
          rw [same] at here
          exact absurd (Option.some.inj (here.symm.trans ends.colon)) no_colon
        · next no_newline =>
          rw [beq_iff_eq] at no_newline
          have different : i ≠ colon := by
            rintro rfl
            exact no_colon (Option.some.inj (here.symm.trans ends.colon))
          exact ih (colon - (i + 1)) (by omega) (passed.next here other ⟨no_colon, no_newline⟩) (by omega) rfl

theorem passed_self (masked : List Char) (start : Nat) : Passed masked start start :=
  ⟨Nat.le_refl start, settled_self _ start, fun _ le lt => absurd lt (Nat.not_lt_of_le le)⟩

/-- Where no bracket is left over, the search finds the colon that ends the header and nothing else. -/
theorem headerColon?_eq_some_iff (balanced : (pair masked).unpaired = []) :
    headerColon? masked (pair masked) start = some i ↔ EndsHeader masked start i :=
  ⟨endsHeader_of_passed (passed_self masked start),
    fun ends => headerColon?_of_passed balanced (passed_self masked start) ends ends.le⟩

/-- A colon that stands outside of the pairs ends a header or comes behind the one that does, if all newlines in
front of it stand inside of pairs. -/
theorem exists_endsHeader (le : start ≤ i) (colon : masked[i]? = some ':') (bare : ¬(pair masked).Around start i)
    (newlines : ∀ k, start ≤ k → k < i → masked[k]? = some '\n' → (pair masked).Around start k) :
    ∃ j, j ≤ i ∧ EndsHeader masked start j := by
  induction i using Nat.strongRecOn with
  | ind i ih =>
    by_cases first : ∀ k, start ≤ k → k < i → masked[k]? = some ':' → (pair masked).Around start k
    · refine ⟨i, Nat.le_refl i, le, colon, bare, fun k le lt special => ?_⟩
      exact special.elim (first k le lt) (newlines k le lt)
    · simp only [not_forall] at first
      obtain ⟨k, le', lt, colon', bare'⟩ := first
      obtain ⟨j, before, ends⟩ := ih k lt le' colon' bare' fun l le lt' => newlines l le (Nat.lt_trans lt' lt)
      exact ⟨j, by omega, ends⟩

end Forward

end LiveLint
