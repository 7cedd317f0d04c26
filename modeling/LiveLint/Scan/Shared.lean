import LiveLint.Language.Profile
import LiveLint.Scan.Draft
import LiveLint.Text.Pattern

/-!
# What all languages share

Patterns of literals, lists of parameters, and what is found line by line.
-/

/-!
## Patterns shared by all languages

Number literals with their radix forms, fractions, exponents and suffixes, and the loose equality
operators.
-/

namespace LiveLint.Scan

open Text Text.Pattern

/-- Characters of identifiers: word characters and the dollar sign. -/
def isName (c : Char) : Bool := isWord c || c == '$'

private def isHexDigit (c : Char) : Bool :=
  c.isDigit || ('a' ≤ c && c ≤ 'f') || ('A' ≤ c && c ≤ 'F')

private def digitOrBar (c : Char) : Bool := isDigit c || c == '_'

private def radixForm (marks : List Char) (digits : Char → Bool) : Pattern :=
  seq [char '0', one marks.contains, run1 digits]

/-- A number literal that is not part of a longer name. -/
def number : Pattern :=
  seq [
    notBehind fun c => isName c || c == '.',
    choice [
      radixForm ['x', 'X'] fun c => isHexDigit c || c == '_',
      radixForm ['b', 'B'] fun c => c == '0' || c == '1' || c == '_',
      radixForm ['o', 'O'] fun c => ('0' ≤ c && c ≤ '7') || c == '_',
      seq [
        choice [
          seq [one isDigit, run digitOrBar, maybe (char '.'), run isDigit],
          seq [char '.', run1 isDigit]],
        maybe (seq [one ['e', 'E'].contains, maybe (one ['+', '-'].contains), run1 isDigit])]],
    maybe (one ['n', 'j', 'J'].contains),
    notAhead isName]

/-- A two character equality operator that is no part of a longer operator. -/
def looseEquality : Pattern :=
  seq [notBehind ['=', '!', '<', '>'].contains, group .operator (choice [literal "==", literal "!="]),
    notAhead (· == '=')]

end LiveLint.Scan

/-!
## Counting parameters

The text between the brackets of a parameter list is cut at its top level commas; receivers, empty
parts and the markers for positional and keyword parameters do not count.
-/

namespace LiveLint.Parameters

/-- How a character changes the depth of nesting. -/
def depthChange (c : Char) : Int :=
  if "([\x7b<".toList.contains c then 1 else if ")]\x7d>".toList.contains c then -1 else 0

/-- The parts between top level commas, with the part being read in reverse. -/
def partsFrom (depth : Int) (current : List Char) : List Char → List (List Char)
  | [] => [current.reverse]
  | c :: rest =>
    let depth := depth + depthChange c
    if c == ',' && depth == 0 then current.reverse :: partsFrom depth [] rest
    else partsFrom depth (c :: current) rest

def parts (text : List Char) : List (List Char) := partsFrom 0 [] text

/-- What a part is called: its text before the first colon and the first equals sign, trimmed. -/
def label (part : List Char) : List Char :=
  Text.trim ((part.takeWhile (· != ':')).takeWhile (· != '='))

def counts (profile : Profile) (part : List Char) : Bool :=
  let name := String.ofList (label part)
  name != "" && name != "/" && name != "*" && !profile.implicitParameters.contains name

def count (profile : Profile) (text : List Char) : Nat := ((parts text).filter (counts profile)).length

end LiveLint.Parameters

/-!
## Leaves

Number literals, dangerous calls and loose comparisons, found line by line.
-/

namespace LiveLint.Scan.Leaves

open Text Text.Pattern

private def callIn (names : List String) (boundary : Char → Bool) : Pattern :=
  seq [notBehind boundary, group .name (choice (names.map literal)), blanks, char '(']

/-- A call of a function that runs code given as text, up to its opening bracket. -/
def call : BlockStyle → Pattern
  | .indent => callIn ["eval", "exec"] fun c => isWord c || c == '.'
  | .brace => callIn ["eval", "Function"] fun c => isName c || c == '.'

private def onLine (line : Nat) (hit : Hit) : Span := ⟨⟨line, hit.start⟩, ⟨line, hit.stop⟩⟩

/-- The leaves of one line: numbers, then calls, then comparisons. -/
def lineFindings (profile : Profile) (line : Nat) (text : List Char) : List Finding :=
  let numbers := (hits number text).map fun hit =>
    Finding.plain
      { kind := .number, type := "number", span := onLine line hit,
        value := String.ofList (slice text hit.start hit.stop) }
  let calls := (hits (call profile.blockStyle) text).filterMap fun hit =>
    let name := String.ofList (hit.text text .name)
    if profile.dangerousCalls.contains name then
      some (Finding.plain { kind := .call, type := "call", span := onLine line hit, name })
    else none
  let comparisons :=
    if profile.looseEqualityOperators.isEmpty then []
    else (hits looseEquality text).map fun hit =>
      Finding.plain
        { kind := .comparison, type := "binary_expression", span := onLine line hit,
          value := String.ofList (hit.text text .operator) }
  numbers ++ calls ++ comparisons

/-- The leaves of the lines from a line on. -/
def findingsFrom (profile : Profile) : Nat → List (List Char) → List Finding
  | _, [] => []
  | line, text :: rest => lineFindings profile line text ++ findingsFrom profile (line + 1) rest

def findings (profile : Profile) (lines : List (List Char)) : List Finding :=
  findingsFrom profile 1 lines

end LiveLint.Scan.Leaves
