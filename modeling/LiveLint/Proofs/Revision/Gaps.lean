import LiveLint.Fault
import LiveLint.Revision.Diff

/-!
# Where gaps lie

Two numbers make a line range only if the first is at least one and the second is not below it. The
numbers that are left of the ranges of a host when they are cut to a text always make one.

Every gap between the common blocks of two lists lies in the new list. So the lines that a gap marks
are lines of the new text, in order, and making a range of them never fails either.
-/

namespace LiveLint

/-- The range between two numbers, or the fault that they make none. -/
def LineRange.require (start stop : Int) : Except Fault LineRange :=
  match LineRange.ofInts? start stop with
  | some r => .ok r
  | none => .error (.unacceptable (.lineRange start stop))

theorem LineRange.require_of_eq {start stop : Int} (r : LineRange) (first : r.start = start)
    (last : r.stop = stop) : LineRange.require start stop = .ok r := by
  obtain ⟨a, b, one_le, le⟩ := r
  subst first last
  have fits : (1 : Int) ≤ a ∧ (a : Int) ≤ b := by omega
  simp [require, ofInts?, fits.1, fits.2]

namespace HostRange

/-- The range of a host cut to the lines of a text, made of two numbers. -/
def requireClamp (lineCount : Nat) (r : HostRange) : Except Fault LineRange :=
  let upper : Int := max lineCount 1
  let start := min (max r.bounds.1 1) upper
  LineRange.require start (min (max r.bounds.2 start) upper)

/-- Cutting a number to two natural ones is the same among whole and natural numbers. -/
theorem cast_min_max_toNat (n : Int) (low high : Nat) :
    ((min (max n.toNat low) high : Nat) : Int) = min (max n low) high := by
  omega

theorem requireClamp_eq (lineCount : Nat) (r : HostRange) :
    r.requireClamp lineCount = .ok (r.clamp lineCount) := by
  have start : ((r.clamp lineCount).start : Int) =
      min (max r.bounds.1 1) (max lineCount 1 : Nat) := cast_min_max_toNat _ _ _
  have stop : ((r.clamp lineCount).stop : Int) =
      min (max r.bounds.2 (r.clamp lineCount).start) (max lineCount 1 : Nat) :=
    cast_min_max_toNat _ _ _
  have upper : ((max lineCount 1 : Nat) : Int) = max (lineCount : Int) 1 := by omega
  rw [start, upper] at stop
  rw [upper] at start
  exact LineRange.require_of_eq _ start stop

/-- The ranges of a host in canonical form, where every range is made of two numbers. -/
def requireNormal (ranges : List HostRange) (lineCount : Nat) : Except Fault (List LineRange) :=
  (ranges.mapM (requireClamp lineCount)).map LineRange.merge

theorem requireNormal_eq (ranges : List HostRange) (lineCount : Nat) :
    requireNormal ranges lineCount = .ok (normalize ranges lineCount) := by
  have made : requireClamp lineCount = fun r => pure (clamp lineCount r) :=
    funext (requireClamp_eq lineCount)
  rw [requireNormal, made, List.mapM_pure]
  rfl

end HostRange

namespace Diff

section Bounds

variable {α : Type} [DecidableEq α]

/-- Every run of a row ends before a length. -/
def RunsEndBy (n : Nat) (row : List Nat) : Prop := ∀ j size, row[j]? = some size → j + size ≤ n

theorem RunsEndBy.tail {n : Nat} {row : List Nat} (ends : RunsEndBy (n + 1) row) :
    RunsEndBy n row.tail := by
  intro j size found
  rw [List.getElem?_tail] at found
  have := ends (j + 1) size found
  omega

/-- A run that is longer by one than a run of the rest still ends with the list. -/
theorem RunsEndBy.runsWith {x : α} {new : List α} {below : List Nat}
    (ends : RunsEndBy new.length below) : RunsEndBy new.length (runsWith x new below) := by
  induction new generalizing below with
  | nil =>
    intro j size found
    simp [Diff.runsWith] at found
  | cons y rest ih =>
    intro j size found
    cases j with
    | zero =>
      simp only [Diff.runsWith, List.getElem?_cons_zero, Option.some.injEq] at found
      have next : below.tail.headD 0 ≤ rest.length := by
        cases first : below.tail with
        | nil => exact Nat.zero_le _
        | cons s more =>
          have := ends.tail 0 s (by rw [first]; rfl)
          simpa using this
      rw [List.length_cons, ← found]
      split <;> omega
    | succ j =>
      simp only [Diff.runsWith, List.getElem?_cons_succ] at found
      have := ih ends.tail j size found
      rw [List.length_cons]
      omega

/-- The longest run of a row stands at the place that is named with it. -/
theorem getElem?_longestOf {row : List Nat} (pos : 0 < (longestOf row).2) :
    row[(longestOf row).1]? = some (longestOf row).2 := by
  unfold longestOf at pos ⊢
  dsimp only at pos ⊢
  have member : row.foldl max 0 ∈ row := by
    have greatest : (0 :: row).max? = some (row.foldl max 0) := List.max?_cons'
    rcases List.mem_cons.1 (List.max?_mem greatest) with zero | member
    · omega
    · exact member
  have some_is : row.findIdx (· == row.foldl max 0) < row.length :=
    List.findIdx_lt_length_of_exists ⟨_, member, beq_self_eq_true _⟩
  have found := List.findIdx_getElem (p := (· == row.foldl max 0)) (w := some_is)
  rw [List.getElem?_eq_getElem some_is, eq_of_beq found]

/-- A block lies in a new list of some length. -/
def Block.EndsBy (b : Block) (n : Nat) : Prop := 0 < b.size → b.new + b.size ≤ n

/-- All runs end with the new list, and so does the longest common block. -/
theorem ends_scan (new old : List α) :
    RunsEndBy new.length (scan new old).1 ∧ (scan new old).2.EndsBy new.length := by
  induction old with
  | nil =>
    constructor
    · intro j size found
      simp [scan] at found
    · intro pos
      simp [scan] at pos
  | cons x rest ih =>
    obtain ⟨runs, block⟩ := ih
    have row : RunsEndBy new.length (runsWith x new (scan new rest).1) := runs.runsWith
    refine ⟨row, ?_⟩
    intro pos
    simp only [scan] at pos ⊢
    split at pos <;> rename_i longer
    · rw [if_pos longer]
      exact row _ _ (getElem?_longestOf pos)
    · rw [if_neg longer]
      exact block pos

theorem longest?_ends {old new : List α} {b : Block} (found : longest? old new = some b) :
    b.new + b.size ≤ new.length := by
  unfold longest? at found
  dsimp only at found
  split at found
  · cases found
  · next size =>
    cases found
    exact (ends_scan new old).2 (Nat.pos_of_ne_zero size)

theorem bounds_of_mem_gapsFrom {fuel place : Nat} {old new : List α} {g : Gap}
    (member : g ∈ gapsFrom fuel place old new) :
    place ≤ g.start ∧ g.start ≤ g.stop ∧ g.stop ≤ place + new.length := by
  induction fuel generalizing place old new with
  | zero => cases member
  | succ fuel ih =>
    unfold gapsFrom at member
    cases found : longest? old new with
    | none =>
      rw [found] at member
      dsimp only at member
      split at member
      · cases member
      · rw [List.mem_singleton] at member
        subst g
        simp
    | some b =>
      rw [found] at member
      have ends := longest?_ends found
      rcases List.mem_append.1 member with before | behind
      · have := ih before
        rw [List.length_take] at this
        omega
      · have := ih behind
        rw [List.length_drop] at this
        omega

/-- A gap lies in the new list. -/
theorem bounds_of_mem_gaps {old new : List α} {g : Gap} (member : g ∈ gaps old new) :
    g.start ≤ g.stop ∧ g.stop ≤ new.length := by
  have := bounds_of_mem_gapsFrom member
  omega

end Bounds

/-- Whether a gap marks lines in a text of some lines. -/
def Gap.marks (lineCount : Nat) (g : Gap) : Bool := g.start < g.stop || 0 < lineCount

/-- The first and the last line that a gap marks, as numbers: its own lines, or the lines on either
side of the place where lines were dropped. -/
def Gap.bounds (lineCount : Nat) (g : Gap) : Int × Int :=
  if g.start < g.stop then (g.start + 1, g.stop)
  else (max 1 g.start, min (g.start + 1) lineCount)

/-- The numbers that a gap of a text marks make a range. -/
theorem Gap.require_bounds {lineCount : Nat} {g : Gap} (le : g.start ≤ g.stop)
    (ends : g.stop ≤ lineCount) (marks : g.marks lineCount = true) :
    ∃ r, g.lines? lineCount = some r ∧
      LineRange.require (g.bounds lineCount).1 (g.bounds lineCount).2 = .ok r := by
  unfold lines? bounds
  by_cases proper : g.start < g.stop
  · rw [dif_pos proper, if_pos proper]
    exact ⟨_, rfl, LineRange.require_of_eq _ (by simp) rfl⟩
  · have lines : 0 < lineCount := by
      simpa [Gap.marks, proper] using marks
    rw [dif_neg proper, if_neg proper, dif_pos lines]
    refine ⟨_, rfl, LineRange.require_of_eq _ ?_ ?_⟩
    · dsimp only
      omega
    · dsimp only
      omega

theorem Gap.lines?_of_not_marks {lineCount : Nat} {g : Gap} (marks : g.marks lineCount = false) :
    g.lines? lineCount = none := by
  rw [Gap.marks, Bool.or_eq_false_iff, decide_eq_false_iff_not, decide_eq_false_iff_not] at marks
  rw [lines?, dif_neg marks.1, dif_neg marks.2]

/-- The lines of a new text that differ from an old one, where every range is made of two numbers and
the attempt ends if they make none. -/
def requiredRanges (old : Option (List Char)) (new : List Char) : Except Fault (List LineRange) := do
  let newLines := Text.paragraphs new
  match old with
  | none =>
    if newLines.isEmpty then pure [] else return [← LineRange.require 1 newLines.length]
  | some old =>
    let marking := (gaps (Text.paragraphs old) newLines).filter (·.marks newLines.length)
    let ranges ← marking.mapM fun g =>
      LineRange.require (g.bounds newLines.length).1 (g.bounds newLines.length).2
    pure (LineRange.merge ranges)

/-- Gaps that lie in a text mark ranges of it, one after the other. -/
theorem mapM_require_bounds {lineCount : Nat} {gs : List Gap}
    (inside : ∀ g ∈ gs, g.start ≤ g.stop ∧ g.stop ≤ lineCount) :
    (gs.filter (·.marks lineCount)).mapM
        (fun g => LineRange.require (g.bounds lineCount).1 (g.bounds lineCount).2) =
      .ok (gs.filterMap (·.lines? lineCount)) := by
  induction gs with
  | nil => rfl
  | cons g rest ih =>
    have rest_inside := ih fun g member => inside g (List.mem_cons_of_mem _ member)
    obtain ⟨le, ends⟩ := inside g List.mem_cons_self
    cases marks : g.marks lineCount with
    | false =>
      rw [List.filter_cons_of_neg (by simp [marks]),
        List.filterMap_cons_none (Gap.lines?_of_not_marks marks)]
      exact rest_inside
    | true =>
      obtain ⟨r, lines, made⟩ := Gap.require_bounds le ends marks
      rw [List.filter_cons_of_pos marks, List.filterMap_cons_some lines, List.mapM_cons, made,
        rest_inside]
      rfl

/-- Every range of changed lines can be made. -/
theorem requiredRanges_eq (old : Option (List Char)) (new : List Char) :
    requiredRanges old new = .ok (changedRanges old new) := by
  unfold requiredRanges changedRanges
  cases old with
  | none =>
    dsimp only
    by_cases lines : 0 < (Text.paragraphs new).length
    · have some_line : (Text.paragraphs new).isEmpty = false := by
        simpa using List.length_pos_iff.1 lines
      have made : LineRange.require 1 (Text.paragraphs new).length = .ok ⟨1, _, by omega, lines⟩ :=
        LineRange.require_of_eq _ rfl rfl
      rw [dif_pos lines, some_line, made]
      rfl
    · have no_line : (Text.paragraphs new).isEmpty = true := by
        simpa using lines
      rw [dif_neg lines, no_line]
      rfl
  | some old =>
    dsimp only
    rw [mapM_require_bounds fun g member => bounds_of_mem_gaps member]
    rfl

end Diff

end LiveLint
