/-!
# Blanks, lines and digits

What every reading of a text relies on.
-/

/-!
## Blank characters, trimming and words

Blank is the Unicode notion of white space together with the four information separators.
Every text operation of the library that skips space uses this one class.
-/

namespace LiveLint.Text

/-- The Unicode white space characters and the separators U+001C to U+001F. -/
def isBlank (c : Char) : Bool :=
  let n := c.toNat
  (9 ≤ n && n ≤ 13) || (28 ≤ n && n ≤ 32) || n == 0x85 || n == 0xA0 || n == 0x1680 ||
    (0x2000 ≤ n && n ≤ 0x200A) || n == 0x2028 || n == 0x2029 || n == 0x202F || n == 0x205F ||
    n == 0x3000

def trimLeft (cs : List Char) : List Char := cs.dropWhile isBlank

def trimRight : List Char → List Char
  | [] => []
  | c :: cs =>
    match trimRight cs with
    | [] => if isBlank c then [] else [c]
    | kept => c :: kept

def trim (cs : List Char) : List Char := trimRight (trimLeft cs)

def leadingBlanks (cs : List Char) : Nat := (cs.takeWhile isBlank).length

/-- The maximal runs of characters that are not blank. -/
def words (cs : List Char) : List (List Char) :=
  (cs.splitOnP isBlank).filter (!·.isEmpty)

/-- Every run of blanks becomes one space and the ends are trimmed. -/
def collapse (cs : List Char) : List Char := [' '].intercalate (words cs)

theorem isBlank_space : isBlank ' ' = true := rfl

theorem isBlank_newline : isBlank '\n' = true := rfl

/-- Core white space is blank. -/
theorem isBlank_of_isWhitespace (c : Char) (space : c.isWhitespace = true) : isBlank c = true := by
  simp only [Char.isWhitespace, Bool.or_eq_true, decide_eq_true_eq] at space
  rcases space with ((rfl | rfl) | rfl) | rfl <;> rfl

/-!
## Lines

Two ways of taking a text apart. `lines` splits at newlines only and keeps an empty last line, as
positions in a source need; `paragraphs` splits at every line boundary of Unicode and has no empty
last line, as the comparison of two texts needs.
-/

/-- The lines between newlines; a text that ends in a newline has an empty last line. -/
def lines (cs : List Char) : List (List Char) := cs.splitOn '\n'

/-- The line and the column of an offset, both counted from 1. -/
def place (cs : List Char) (offset : Nat) : Nat × Nat :=
  let before := cs.take offset
  (before.count '\n' + 1, (before.reverse.takeWhile (· != '\n')).length + 1)

/-- Characters other than carriage return that end a paragraph. -/
def isBreak (c : Char) : Bool :=
  let n := c.toNat
  (10 ≤ n && n ≤ 13) || (28 ≤ n && n ≤ 30) || n == 0x85 || n == 0x2028 || n == 0x2029

/-- Paragraphs of a text, with the characters read since the last boundary in reverse. -/
def paragraphsFrom (current : List Char) : List Char → List (List Char)
  | [] => if current.isEmpty then [] else [current.reverse]
  | '\r' :: '\n' :: rest => current.reverse :: paragraphsFrom [] rest
  | c :: rest =>
    if isBreak c then current.reverse :: paragraphsFrom [] rest
    else paragraphsFrom (c :: current) rest

/-- The texts between line boundaries of any kind; a boundary at the very end starts no further
paragraph, and a carriage return with its newline is one boundary. -/
def paragraphs (cs : List Char) : List (List Char) := paragraphsFrom [] cs

/-- Newlines in place of carriage returns, with or without a newline behind them. -/
def universalNewlines : List Char → List Char
  | '\r' :: '\n' :: rest => '\n' :: universalNewlines rest
  | '\r' :: rest => '\n' :: universalNewlines rest
  | c :: rest => c :: universalNewlines rest
  | [] => []

/-- Tabs widened to the next multiple of eight columns, from a column on. -/
def expandTabsFrom (column : Nat) : List Char → List Char
  | [] => []
  | c :: rest =>
    if c == '\t' then
      let width := 8 - column % 8
      List.replicate width ' ' ++ expandTabsFrom (column + width) rest
    else if c == '\n' || c == '\r' then c :: expandTabsFrom 0 rest
    else c :: expandTabsFrom (column + 1) rest

def expandTabs (cs : List Char) : List Char := expandTabsFrom 0 cs

def startsWith (cs start : List Char) : Bool := start.isPrefixOf cs

end LiveLint.Text

/-! ## Hexadecimal digits -/

namespace LiveLint.Text.Hex

def value? (c : Char) : Option Nat :=
  if c.isDigit then some (c.toNat - 48)
  else if 'a' ≤ c && c ≤ 'f' then some (c.toNat - 87)
  else if 'A' ≤ c && c ≤ 'F' then some (c.toNat - 55)
  else none

def isDigit (c : Char) : Bool := (value? c).isSome

/-- The number that digits stand for in a base up to sixteen. -/
def ofDigits (base : Nat) (cs : List Char) : Nat :=
  cs.foldl (fun n c => n * base + (value? c).getD 0) 0

/-- The bytes that pairs of digits stand for. -/
def bytes : List Char → List UInt8
  | a :: b :: rest => UInt8.ofNat (ofDigits 16 [a, b]) :: bytes rest
  | _ => []

end LiveLint.Text.Hex
