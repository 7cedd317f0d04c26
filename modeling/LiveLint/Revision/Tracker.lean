import LiveLint.Revision.Diff
import LiveLint.Table
import LiveLint.Text.Utf8

/-!
# Tracking revisions

The tracker holds the latest revision of each file and the last one that was analyzed. A new
revision is compared with the analyzed one, because its tree is the one a parse can build on;
before any analysis it is compared with the latest.
-/

namespace LiveLint

/-!
## Byte edits

The difference between two texts as one replacement in their UTF-8 bytes: what the texts begin with
in common and what the rest ends with in common stays, everything between is replaced.
-/

/-- A row and a column in bytes, both counted from zero. -/
structure BytePoint where
  row : Nat
  col : Nat
  deriving DecidableEq, Repr

/-- The point reached from another by reading some bytes. -/
def BytePoint.advance (p : BytePoint) : List UInt8 → BytePoint
  | [] => p
  | b :: rest => if b == 10 then advance ⟨p.row + 1, 0⟩ rest else advance ⟨p.row, p.col + 1⟩ rest

def BytePoint.ofOffset (bytes : List UInt8) (offset : Nat) : BytePoint :=
  advance ⟨0, 0⟩ (bytes.take offset)

structure ByteEdit where
  startByte : Nat
  oldEndByte : Nat
  newEndByte : Nat
  startPoint : BytePoint
  oldEndPoint : BytePoint
  newEndPoint : BytePoint
  deriving DecidableEq, Repr

namespace ByteEdit

/-- Number of elements two lists begin with in common. -/
def common : List UInt8 → List UInt8 → Nat
  | x :: xs, y :: ys => if x == y then common xs ys + 1 else 0
  | _, _ => 0

/-- The edit that leads from some bytes to others, none if they are the same. -/
def between? (old new : List UInt8) : Option ByteEdit :=
  if old == new then none
  else
    let head := common old new
    let tail := common (old.drop head).reverse (new.drop head).reverse
    let oldEnd := old.length - tail
    let newEnd := new.length - tail
    some
      { startByte := head
        oldEndByte := oldEnd
        newEndByte := newEnd
        startPoint := .ofOffset new head
        oldEndPoint := .ofOffset old oldEnd
        newEndPoint := .ofOffset new newEnd }

def betweenTexts? (old new : List Char) : Option ByteEdit :=
  between? (Text.Utf8.encode old) (Text.Utf8.encode new)

end ByteEdit

/-!
## Revisions
-/

structure Revision where
  file : String
  /-- Language identifier as the host supplies it. -/
  language : String
  /-- Number among the revisions of the file since it was last forgotten. -/
  number : Nat
  text : String
  /-- Lines that differ from the base, in this revision's lines. -/
  changed : List LineRange
  /-- Number of the revision it was compared with, zero if there was none. -/
  base : Nat
  /-- The edit that leads from the text of the base to this text. -/
  edit : Option ByteEdit
  /-- Number among all revisions that the tracker ever recorded. -/
  serial : Nat
  deriving DecidableEq, Repr

namespace Revision

/-- Number of lines; a newline at the very end starts no further line. -/
def lineCount (r : Revision) : Nat :=
  let cs := r.text.toList
  if cs.isEmpty then 0 else cs.count '\n' + (if cs.getLast? == some '\n' then 0 else 1)

/-- Whether a changed range has a line in common with some lines. -/
def touches (r : Revision) (first last : Int) : Bool := r.changed.any (·.overlaps first last)

end Revision

structure Tracker where
  latest : Table String Revision := []
  analyzed : Table String Revision := []
  serial : Nat := 0
  deriving Repr

namespace Tracker

def base? (t : Tracker) (file : String) : Option Revision :=
  (t.analyzed.get? file).or (t.latest.get? file)

/-- Whether recording a text would repeat the latest revision. -/
def repeats (latest : Revision) (text : String) (ranges : Option (List HostRange))
    (language : String) : Bool :=
  ranges.isNone && latest.text == text && (language.isEmpty || latest.language == language)

/-- The changed lines of a new text. Ranges from the host describe the step from the latest
revision, so they count only if that is the base. -/
def changedLines (base latest : Option Revision) (text : String)
    (ranges : Option (List HostRange)) : List LineRange :=
  let cs := text.toList
  match ranges, base, latest with
  | some ranges, some b, some l =>
    if b.serial == l.serial then HostRange.normalize ranges (cs.count '\n' + 1)
    else Diff.changedRanges (some b.text.toList) cs
  | _, base, _ => Diff.changedRanges (base.map (·.text.toList)) cs

/-- Whether a new state of a file is compared with the latest one, so that ranges of the host count. -/
def followsLatest (t : Tracker) (file : String) : Bool :=
  match t.base? file, t.latest.get? file with
  | some b, some l => b.serial == l.serial
  | _, _ => false

def next (t : Tracker) (file text : String) (ranges : Option (List HostRange))
    (language : String) : Revision :=
  let latest := t.latest.get? file
  let base := t.base? file
  { file
    language := if language.isEmpty then (latest.map (·.language)).getD "" else language
    number := (latest.map (·.number + 1)).getD 1
    text
    changed := changedLines base latest text ranges
    base := (base.map (·.number)).getD 0
    edit := base.bind fun b => ByteEdit.betweenTexts? b.text.toList text.toList
    serial := t.serial }

/-- Records a state of a file. Recording the latest text again without ranges changes nothing. -/
def record (t : Tracker) (file text : String) (ranges : Option (List HostRange) := none)
    (language : String := "") : Tracker × Revision :=
  match t.latest.get? file with
  | some latest =>
    if repeats latest text ranges language then (t, latest)
    else
      let r := t.next file text ranges language
      ({ t with latest := t.latest.set file r, serial := t.serial + 1 }, r)
  | none =>
    let r := t.next file text ranges language
    ({ t with latest := t.latest.set file r, serial := t.serial + 1 }, r)

/-- Whether no newer revision of its file has been recorded. -/
def isCurrent (t : Tracker) (r : Revision) : Bool :=
  (t.latest.get? r.file).any (·.number == r.number)

/-- Makes a revision the last analyzed one, unless that would be a step back. -/
def markAnalyzed (t : Tracker) (r : Revision) : Tracker × Bool :=
  if (t.analyzed.get? r.file).any (·.number ≥ r.number) then (t, false)
  else ({ t with analyzed := t.analyzed.set r.file r }, true)

def forget (t : Tracker) (file : String) : Tracker :=
  { t with latest := t.latest.erase file, analyzed := t.analyzed.erase file }

/-- The files with a revision, in order of their names. -/
def files (t : Tracker) : List String := (t.latest.map (·.1)).mergeSort (· ≤ ·)

end Tracker

end LiveLint
