import LiveLint.Text.Basic

/-!
# Comparing two texts

Two lists are compared by their longest common block, the earliest in the old list among equals and
then the earliest in the new one; what lies before and behind it is compared in the same way. What
is left over on both sides between two blocks is a gap.
-/

/-!
## Line ranges

Inclusive ranges of lines counted from one. Lists of ranges are brought into a canonical form:
increasing, with an uncovered line between neighbours.
-/

namespace LiveLint

/-- An inclusive range of lines that is not empty. -/
structure LineRange where
  start : Nat
  stop : Nat
  one_le_start : 1 ≤ start := by omega
  start_le_stop : start ≤ stop := by omega
  deriving DecidableEq, Repr

namespace LineRange

/-- The range between two numbers, if they make one. -/
def ofInts? (start stop : Int) : Option LineRange :=
  if h : 1 ≤ start ∧ start ≤ stop then
    some ⟨start.toNat, stop.toNat, by omega, by omega⟩
  else none

def overlaps (r : LineRange) (first last : Int) : Bool := r.start ≤ last && first ≤ r.stop

def size (r : LineRange) : Nat := r.stop - r.start + 1

def Covers (r : LineRange) (line : Nat) : Prop := r.start ≤ line ∧ line ≤ r.stop

instance (r : LineRange) (line : Nat) : Decidable (r.Covers line) :=
  inferInstanceAs (Decidable (_ ∧ _))

def le (r s : LineRange) : Bool := r.start < s.start || (r.start == s.start && r.stop ≤ s.stop)

/-- One range for two of which the second does not start before the first. -/
def join (r s : LineRange) : LineRange where
  start := r.start
  stop := max r.stop s.stop
  one_le_start := r.one_le_start
  start_le_stop := Nat.le_trans r.start_le_stop (Nat.le_max_left ..)

/-- Joins neighbours that overlap or touch, in a list that is ordered. -/
def mergeOrdered : List LineRange → List LineRange
  | [] => []
  | [r] => [r]
  | r :: s :: rest =>
    if s.start ≤ r.stop + 1 then mergeOrdered (r.join s :: rest) else r :: mergeOrdered (s :: rest)
termination_by rs => rs.length

/-- The canonical form of the lines that a list of ranges covers. -/
def merge (rs : List LineRange) : List LineRange := mergeOrdered (rs.mergeSort le)

end LineRange

/-- A range as a host supplies it: two raw numbers, or a range that was checked before. -/
inductive HostRange where
  | pair (start stop : Int)
  | range (r : LineRange)
  deriving Repr

namespace HostRange

/-- The first and last line as they were given. -/
def bounds : HostRange → Int × Int
  | .pair start stop => (start, stop)
  | .range r => (r.start, r.stop)

/-- The range cut to the lines of a text. -/
def clamp (lineCount : Nat) (r : HostRange) : LineRange :=
  let upper : Nat := max lineCount 1
  let start : Nat := min (max r.bounds.1.toNat 1) upper
  { start
    stop := min (max r.bounds.2.toNat start) upper
    one_le_start := by omega
    start_le_stop := by omega }

/-- Canonical form of the ranges a host supplies for a text. -/
def normalize (ranges : List HostRange) (lineCount : Nat) : List LineRange :=
  LineRange.merge (ranges.map (clamp lineCount))

end HostRange

end LiveLint

/-! ## Comparing two texts -/

namespace LiveLint.Diff

variable {α : Type} [DecidableEq α]

structure Block where
  old : Nat
  new : Nat
  size : Nat
  deriving DecidableEq, Repr

/-- For every place of the new list the length of the common run that starts there with `x`, given
these lengths for the rest of the old list. -/
def runsWith (x : α) : List α → List Nat → List Nat
  | [], _ => []
  | y :: rest, below =>
    (if x = y then below.tail.headD 0 + 1 else 0) :: runsWith x rest below.tail

/-- The first longest run of a row. -/
def longestOf (row : List Nat) : Nat × Nat :=
  let size := row.foldl max 0
  (row.findIdx (· == size), size)

/-- The lengths of the common runs from the beginning of the old list on, and the longest common
block, with the earliest of the longest ones preferred. -/
def scan (new : List α) : List α → List Nat × Block
  | [] => ([], ⟨0, 0, 0⟩)
  | x :: rest =>
    let (below, found) := scan new rest
    let row := runsWith x new below
    let (j, size) := longestOf row
    (row, if found.size ≤ size then ⟨0, j, size⟩ else { found with old := found.old + 1 })

/-- The longest common block, if the lists have an element in common. -/
def longest? (old new : List α) : Option Block :=
  let found := (scan new old).2
  if found.size = 0 then none else some found

/-- A stretch of the new list without counterpart, from a place up to another; an empty one marks
where old elements were dropped. -/
structure Gap where
  start : Nat
  stop : Nat
  deriving DecidableEq, Repr

/-- The gaps of the new list, which begins at a place, with fuel for every element. -/
def gapsFrom : Nat → Nat → List α → List α → List Gap
  | 0, _, _, _ => []
  | fuel + 1, place, old, new =>
    match longest? old new with
    | none => if old.isEmpty && new.isEmpty then [] else [⟨place, place + new.length⟩]
    | some b =>
      gapsFrom fuel place (old.take b.old) (new.take b.new) ++
        gapsFrom fuel (place + b.new + b.size) (old.drop (b.old + b.size))
          (new.drop (b.new + b.size))

def gaps (old new : List α) : List Gap := gapsFrom (old.length + 1) 0 old new

/-- The lines a gap marks in a text of some lines; where lines were dropped these are the lines on
either side. -/
def Gap.lines? (lineCount : Nat) (g : Gap) : Option LineRange :=
  if h : g.start < g.stop then some ⟨g.start + 1, g.stop, by omega, by omega⟩
  else if h : 0 < lineCount then
    some
      { start := min (max g.start 1) lineCount
        stop := max (min (max g.start 1) lineCount) (min (g.start + 1) lineCount)
        one_le_start := by omega
        start_le_stop := by omega }
  else none

/-- The lines of a new text that differ from an old one; without an old text all of them. -/
def changedRanges (old : Option (List Char)) (new : List Char) : List LineRange :=
  let newLines := Text.paragraphs new
  match old with
  | none =>
    if h : 0 < newLines.length then [⟨1, newLines.length, by omega, by omega⟩] else []
  | some old =>
    LineRange.merge ((gaps (Text.paragraphs old) newLines).filterMap (·.lines? newLines.length))

end LiveLint.Diff
