import LiveLint.Text.Word
import LiveLint.Url.Composition
import LiveLint.Url.LabelTable

/-!
# Labels of host names

A host name beyond ASCII consists of labels between dots. A label holds letters, digits, marks and
hyphens; some signs can stand only beside certain letters. Labels that are not in ASCII are written in
ASCII behind a mark of their own.
-/

/-!
## Labels in ASCII

A label with characters beyond ASCII is written in ASCII, and can be read back: first the characters it shares with ASCII,
then the others as differences, in the order of their code points. A difference is a number of
variable length in base 36; the weight at which it ends adapts to the size of the differences.
-/

namespace LiveLint.Url.Punycode

/-- A digit of base 36: letters first, then decimal digits. -/
def digit (d : Nat) : Char := Char.ofNat (if d < 26 then 97 + d else 22 + d)

/-- Digits below this one end a number; it depends on the weight of the digit. -/
def threshold (weight bias : Nat) : Nat := max 1 (min 26 (weight - bias))

theorem threshold_pos (weight bias : Nat) : 1 ≤ threshold weight bias := by
  simp only [threshold]; omega

def digits (bias weight n : Nat) : List Char :=
  let t := threshold weight bias
  if n < t then [digit n]
  else digit (t + (n - t) % (36 - t)) :: digits bias (weight + 36) ((n - t) / (36 - t))
termination_by n
decreasing_by
  have least := threshold_pos weight bias
  exact Nat.lt_of_le_of_lt (Nat.div_le_self _ _) (by omega)

/-- Scales a difference down, and counts the weight that this takes. -/
def scale (delta weight : Nat) : Nat × Nat :=
  if 455 < delta then scale (delta / 35) (weight + 36) else (delta, weight)
termination_by delta
decreasing_by exact Nat.div_lt_self (by omega) (by omega)

/-- The bias after a difference, of which there were so many; the first one counts less. -/
def adapt (delta count : Nat) (first : Bool) : Nat :=
  let start := if first then delta / 700 else delta / 2
  let (delta, weight) := scale (start + start / count) 0
  weight + 36 * delta / (delta + 38)

structure State where
  written : List Char := []
  delta : Nat := 0
  bias : Nat := 72
  /-- Characters that are written. -/
  handled : Nat
  /-- The least code point that may come next. -/
  next : Nat := 128

/-- A character is seen while those with some code point are written. -/
def see (basic point : Nat) (s : State) (c : Char) : State :=
  if c.toNat < point then { s with delta := s.delta + 1 }
  else if c.toNat == point then
    { s with
      written := s.written ++ digits s.bias 36 s.delta
      delta := 0
      bias := adapt s.delta (s.handled + 1) (s.handled == basic)
      handled := s.handled + 1 }
  else s

/-- All characters with some code point are written. -/
def write (label : List Char) (basic : Nat) (s : State) (point : Nat) : State :=
  let s := { s with delta := s.delta + (point - s.next) * (s.handled + 1) }
  let s := label.foldl (see basic point) s
  { s with delta := s.delta + 1, next := point + 1 }

/-- The code points of a label beyond ASCII in increasing order, each once. -/
def points (label : List Char) : List Nat :=
  (((label.filter (128 ≤ ·.toNat)).map Char.toNat).mergeSort (· ≤ ·)).eraseDups

def encode (label : List Char) : List Char :=
  let basic := label.filter (·.toNat < 128)
  let s := (points label).foldl (write label basic.length) { handled := basic.length }
  (if basic.isEmpty then [] else basic ++ ['-']) ++ s.written

/-- The value of a digit of either case. -/
def value? (c : Char) : Option Nat :=
  let c := c.toLower
  if 'a' ≤ c && c ≤ 'z' then some (c.toNat - 97)
  else if c.isDigit then some (c.toNat - 22)
  else none

/-- A number at the start of a text whose digits weigh so much from some weight on, and the rest. -/
def number? (bias weight factor total : Nat) : List Char → Option (Nat × List Char)
  | [] => none
  | c :: rest =>
    match value? c with
    | none => none
    | some d =>
      let t := threshold weight bias
      if d < t then some (total + d * factor, rest)
      else number? bias (weight + 36) (factor * (36 - t)) (total + d * factor) rest

theorem length_of_number? {bias weight factor total n : Nat} {cs rest : List Char}
    (h : number? bias weight factor total cs = some (n, rest)) : rest.length < cs.length := by
  fun_induction number? bias weight factor total cs with
  | case1 => exact absurd h (by simp)
  | case2 => exact absurd h (by simp)
  | case3 =>
    simp only [Option.some.injEq, Prod.mk.injEq] at h
    simp [← h.2]
  | case4 _ _ _ _ _ _ _ _ _ ih => exact Nat.lt_succ_of_lt (ih h)

/-- Puts characters where the numbers of a text say. The position of the last one and its code point
count as one number, which each difference raises. -/
def place (written : List Char) (position point bias : Nat) (first : Bool) (cs : List Char) :
    Option (List Char) :=
  match cs with
  | [] => some written
  | c :: after =>
    match h : number? bias 36 1 0 (c :: after) with
    | none => none
    | some (delta, rest) =>
      have := length_of_number? h
      let count := written.length + 1
      let position := position + delta
      let point := point + position / count
      let spot := position % count
      if (Nat.isValidChar point : Bool) then
        place (written.take spot ++ Char.ofNat point :: written.drop spot) (spot + 1) point
          (adapt delta count first) false rest
      else none
termination_by cs.length
decreasing_by simpa using this

/-- The label that a text in ASCII stands for. The characters it shares with ASCII stand in front of the
last hyphen. -/
def decode? (text : List Char) : Option (List Char) :=
  let behind := (text.reverse.takeWhile (· != '-')).reverse
  place (text.take (text.length - behind.length)).dropLast 0 128 72 true behind

end LiveLint.Url.Punycode

/-! ## Labels of host names -/

namespace LiveLint.Url.Label

/-- Dots of all kinds. -/
def isDot (c : Char) : Bool := ['.', '\u3002', '\uFF0E', '\uFF61'].contains c

/-- Whether a code point is one of a few ranges. -/
def among (ranges : List (Nat × Nat)) (c : Char) : Bool :=
  ranges.any fun (low, high) => low ≤ c.toNat && c.toNat ≤ high

/-- Letters of Japanese and Chinese. -/
def isKanaOrHan : Char → Bool :=
  among
    [(0x2E80, 0x2FD5), (0x3005, 0x3007), (0x3021, 0x3029), (0x3038, 0x303B), (0x3041, 0x3096),
      (0x309D, 0x309F), (0x30A1, 0x30FA), (0x30FD, 0x30FF), (0x31F0, 0x31FF), (0x3400, 0x4DBF),
      (0x4E00, 0x9FFF), (0xF900, 0xFAD9), (0x20000, 0x33479)]

def isArabicDigit : Char → Bool := among [(0x660, 0x669)]

def isPersianDigit : Char → Bool := among [(0x6F0, 0x6F9)]

/-- Characters that may stand anywhere in a label. -/
def isPlain (c : Char) : Bool :=
  if c.toNat < 128 then ('a' ≤ c && c ≤ 'z') || c.isDigit || c == '-'
  else Text.inRanges labelRanges c.toNat

/-- Marks that take up no room of their own. -/
def isTransparent (c : Char) : Bool :=
  Text.inRanges markRanges c.toNat && !Text.inRanges spacingMarkRanges c.toNat

/-- Whether the letters around a character are written together as if it were not there. -/
def isPassed (c : Char) : Bool := isTransparent c || among [(0x1E94B, 0x1E94B)] c

/-- Whether the first letter of a text, after what is passed, is one of some letters. -/
def reaches (letters : Array (Nat × Nat)) (text : List Char) : Bool :=
  (text.dropWhile isPassed).head?.any fun c => Text.inRanges letters c.toNat

/-- Whether a vowel is taken away at the end of a text in reverse. -/
def isSilenced (before : List Char) : Bool :=
  before.head?.any fun c => Composition.markClass c == Composition.silencer

/-- Whether letters around a place would be written together, those in front of it in reverse. -/
def joins (before after : List Char) : Bool :=
  reaches (leftJoiningRanges ++ dualJoiningRanges) before &&
    reaches (rightJoiningRanges ++ dualJoiningRanges) after

/-- Whether a character may stand between others, those in front of it in reverse. -/
def mayStand (label before : List Char) (c : Char) (after : List Char) : Bool :=
  isPlain c ||
    match c with
    | '\u00B7' => before.head? == some 'l' && after.head? == some 'l'
    | '\u0375' => after.head?.any (among [(0x370, 0x3FF), (0x1F00, 0x1FFE)])
    | '\u05F3' | '\u05F4' => before.head?.any (among [(0x591, 0x5F4), (0xFB1D, 0xFB4F)])
    | '\u30FB' => label.any isKanaOrHan
    | '\u200C' => isSilenced before || joins before after
    | '\u200D' => isSilenced before
    | c =>
      if isArabicDigit c then !label.any isPersianDigit
      else isPersianDigit c && !label.any isArabicDigit

/-- Whether the rest of a label may follow what is in front of it, in reverse. -/
def restFits (label before : List Char) : List Char → Bool
  | [] => true
  | c :: after => mayStand label before c after && restFits label (c :: before) after

/-- How a character of a label runs. -/
inductive Direction where
  /-- A letter that is read from left to right. -/
  | left
  /-- A letter that is read from right to left. -/
  | right
  | digit
  /-- A digit that stands in texts from right to left only. -/
  | arabicDigit
  /-- A mark runs like the letter it belongs to. -/
  | mark
  | neutral
  deriving DecidableEq, Repr

/-- Signs that run like what is around them. -/
def isNeutral : Char → Bool :=
  among
    [(0x2D, 0x2D), (0xB7, 0xB7), (0x2B9, 0x2BA), (0x2C6, 0x2CF), (0x2EC, 0x2EC), (0x375, 0x375),
      (0x2E2F, 0x2E2F), (0x30FB, 0x30FB), (0xA67F, 0xA67F), (0xA717, 0xA71F), (0xA788, 0xA788)]

def direction (c : Char) : Direction :=
  if c.isDigit || isPersianDigit c then .digit
  else if isArabicDigit c || among [(0x10D30, 0x10D39)] c then .arabicDigit
  else if isNeutral c then .neutral
  else if isTransparent c then .mark
  else if Text.inRanges rightToLeftRanges c.toNat then .right
  else .left

/-- Whether a label from right to left starts and ends with what can bound it, holds no letter from
left to right, and keeps to digits of one kind. -/
def runsRight (directions : List Direction) : Bool :=
  directions.head? == some .right && !directions.contains .left &&
    ((directions.reverse.dropWhile (· == .mark)).head?.any (· != .neutral)) &&
    !(directions.contains .digit && directions.contains .arabicDigit)

/-- Whether a label can be read in one direction. -/
def runsOneWay (label : List Char) : Bool :=
  let directions := label.map direction
  !(directions.contains .right || directions.contains .arabicDigit) || runsRight directions

/-- Whether a label in lower case can be part of a host name. -/
def isValid (label : List Char) : Bool :=
  !label.isEmpty && Composition.compose label == label && (label.drop 2).take 2 != ['-', '-'] && label.head? != some '-' &&
    label.getLast? != some '-' &&
    !(label.head?.any fun c => Text.inRanges markRanges c.toNat) && restFits label [] label &&
    runsOneWay label

def sign : List Char := ['x', 'n', '-', '-']

/-- A label in ASCII, if it can be part of a host name. -/
def ascii? (label : List Char) : Option (List Char) :=
  let written :=
    if label.any (128 ≤ ·.toNat) then
      if isValid label then some (sign ++ Punycode.encode label) else none
    else if sign.isPrefixOf label then
      let behind := label.drop sign.length
      if behind.isEmpty || behind.getLast? == some '-' then none
      else if (Punycode.decode? behind).any isValid then some label
      else none
    else if isValid label then some label
    else none
  written.filter (·.length ≤ 63)

/-- The longest host name, without a dot at its end. -/
def maxLength : Nat := 253

/-- A host name in lower case, written in ASCII. A dot at its end is kept. -/
def hostAscii? (host : List Char) : Option (List Char) := do
  let labels := host.splitOnP isDot
  let dotted := labels.getLast? == some []
  let written ← (if dotted then labels.dropLast else labels).mapM ascii?
  let name := ['.'].intercalate written
  if written.isEmpty || maxLength < name.length then none
  else some (if dotted then name ++ ['.'] else name)

end LiveLint.Url.Label
