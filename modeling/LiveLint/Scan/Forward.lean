import LiveLint.Scan.Draft
import LiveLint.Text.Basic

/-!
# Looking forward in masked code

Searches that start at an offset of a masked text: the next character of code, the end of a
statement and the colon that ends a header. The last two step over paired brackets.
-/

/-!
## Brackets

Round, square and curly brackets of a masked text are paired with a stack. A closer that does not
fit the innermost open bracket is left over and closes nothing; openers that are never closed are
left over as well.
-/

namespace LiveLint

def closerOf? : Char → Option Char
  | '(' => some ')'
  | '[' => some ']'
  | '\x7b' => some '\x7d'
  | _ => none

def openerOf? : Char → Option Char
  | ')' => some '('
  | ']' => some '['
  | '\x7d' => some '\x7b'
  | _ => none

def isOpener (c : Char) : Bool := (closerOf? c).isSome

def isCloser (c : Char) : Bool := (openerOf? c).isSome

/-- The outcome of pairing: offsets of opener and closer of each pair, and the offsets of the
brackets in no pair. -/
structure Brackets where
  pairs : List (Nat × Nat)
  unpaired : List Nat
  deriving Repr

namespace Brackets

/-- Pairs the brackets of the rest of a text, which begins at an offset, given the openers still
open, innermost first. -/
def pairFrom : Nat → List (Nat × Char) → List Char → Brackets
  | _, opened, [] => ⟨[], opened.map (·.1)⟩
  | i, opened, c :: rest =>
    if isOpener c then pairFrom (i + 1) ((i, c) :: opened) rest
    else
      match openerOf? c with
      | none => pairFrom (i + 1) opened rest
      | some opener =>
        match opened with
        | (j, b) :: outer =>
          if b == opener then
            let found := pairFrom (i + 1) outer rest
            { found with pairs := (j, i) :: found.pairs }
          else
            let found := pairFrom (i + 1) opened rest
            { found with unpaired := i :: found.unpaired }
        | [] =>
          let found := pairFrom (i + 1) [] rest
          { found with unpaired := i :: found.unpaired }

def pair (masked : List Char) : Brackets := pairFrom 0 [] masked

def closer? (b : Brackets) (offset : Nat) : Option Nat := b.pairs.lookup offset

/-- Puts a number into an increasing list unless it is there already. -/
def insertLine (n : Nat) : List Nat → List Nat
  | [] => [n]
  | m :: rest => if n < m then n :: m :: rest else if n == m then m :: rest else m :: insertLine n rest

/-- The lines that hold a bracket in no pair, increasing and without repetition. -/
def errorLines (masked : List Char) (b : Brackets) : List Nat :=
  b.unpaired.foldr (fun offset lines => insertLine (Position.ofOffset masked offset).line lines) []

end Brackets

end LiveLint

/-! ## Looking forward in masked code -/

namespace LiveLint.Forward

/-- Offset of the first character of code at or after an offset. -/
def nextCode? (masked : List Char) (start : Nat) : Option Nat :=
  ((masked.drop start).findIdx? (!Text.isBlank ·)).map (start + ·)

/-- Offset of the first opening curly bracket in a text that begins at an offset, if no semicolon
comes before it. -/
def braceFrom? : Nat → List Char → Option Nat
  | _, [] => none
  | i, c :: rest =>
    if c == '\x7b' then some i else if c == ';' then none else braceFrom? (i + 1) rest

/-- Offset of the first opening curly bracket at or after an offset, before any semicolon. -/
def brace? (masked : List Char) (start : Nat) : Option Nat := braceFrom? start (masked.drop start)

def findFrom? (target : List Char) : Nat → List Char → Option Nat
  | i, [] => if target.isEmpty then some i else none
  | i, c :: rest => if target.isPrefixOf (c :: rest) then some i else findFrom? target (i + 1) rest

/-- Offset of the first place at or after an offset where some characters stand. -/
def find? (masked target : List Char) (start : Nat) : Option Nat :=
  findFrom? target start (masked.drop start)

/-- Characters after which a statement goes on in the next line. -/
def continues : List Char := "=,+-*/%&|?:<>!([\x7b.".toList

/-- End of a statement in a text that begins at an offset. `last` is the last character of code
read, `skip` the number of characters still to be stepped over. -/
def statementEndFrom (b : Brackets) : Option Char → Nat → Nat → List Char → Nat
  | _, _, i, [] => i
  | last, skip + 1, i, _ :: rest => statementEndFrom b last skip (i + 1) rest
  | last, 0, i, c :: rest =>
    match closerOf? c, b.closer? i with
    | some closer, some j => statementEndFrom b (some closer) (j - i) (i + 1) rest
    | _, _ =>
      if isCloser c then i
      else if c == ';' then i + 1
      else if c == '\n' && last.any (!continues.contains ·) then i
      else statementEndFrom b (if Text.isBlank c then last else some c) 0 (i + 1) rest

/-- End of the statement that starts at an offset: after its semicolon, before a closer of the
construct around it, or at the end of a line that does not ask for more. -/
def statementEnd (masked : List Char) (b : Brackets) (start : Nat) : Nat :=
  statementEndFrom b none 0 start (masked.drop start)

/-- The colon that ends a header in a text that begins at an offset. -/
def headerColonFrom? (b : Brackets) : Nat → Nat → List Char → Option Nat
  | _, _, [] => none
  | skip + 1, i, _ :: rest => headerColonFrom? b skip (i + 1) rest
  | 0, i, c :: rest =>
    if isOpener c then
      match b.closer? i with
      | some j => headerColonFrom? b (j - i) (i + 1) rest
      | none => none
    else if c == ':' then some i
    else if c == '\n' then none
    else headerColonFrom? b 0 (i + 1) rest

/-- The colon that ends the header read from an offset on, outside of brackets and on the line on
which the last bracket closes. -/
def headerColon? (masked : List Char) (b : Brackets) (start : Nat) : Option Nat :=
  headerColonFrom? b 0 start (masked.drop start)

end LiveLint.Forward
