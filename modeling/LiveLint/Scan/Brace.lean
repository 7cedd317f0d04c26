import LiveLint.Scan.Draft
import LiveLint.Scan.Forward
import LiveLint.Scan.Shared

/-!
# Languages with blocks in curly brackets

Functions are recognized by three patterns: the keyword, a name bound to an arrow function with a
block, and a method header at the beginning of a line. Loops, declarations, enumerations and class
fields follow.
-/

namespace LiveLint.Scan.Brace

open Text Text.Pattern

private def space (word : String) : Pattern := seq [literal word, blanks1]

private def modifiers (words : List String) : Pattern :=
  repeated (both (choice (words.map literal)) blanks1)

private def typeArguments : Pattern := maybe (seq [char '<', run (· != '>'), char '>'])

private def typeNote (stops : List Char) : Pattern :=
  maybe (seq [char ':', run1 (!stops.contains ·)])

def keywordFunction : Pattern :=
  seq [keyword "function", blanks, maybe (char '*'), blanks, group .name (run isName), blanks,
    typeArguments, blanks, char '(']

/-- A name bound to an arrow function, up to the opening bracket of the parameters. -/
def arrowFunction : Pattern :=
  seq [group .name (run1 isName), blanks, typeNote ['='], char '=', blanks,
    maybe (space "async"), typeArguments, blanks, char '(',
    ahead (seq [run (· != ')'), char ')', blanks, typeNote ['='], literal "=>"])]

/-- A method header at the beginning of a line, up to its opening bracket. -/
def methodHeader : Pattern :=
  seq [blanks,
    modifiers ["public", "private", "protected", "static", "async", "get", "set", "readonly",
      "override"],
    maybe (char '*'), blanks, group .name (seq [maybe (char '#'), run1 isName]), blanks,
    typeArguments, blanks, char '(',
    ahead (seq [run (· != ';'), char ')', blanks, typeNote ['\x7b', ';'], char '\x7b'])]

def loopHead : Pattern :=
  choice [
    seq [edge, group .keyword (choice [literal "for", literal "while"]), blanks,
      maybe (seq [literal "await", blanks]), char '('],
    seq [edge, literal "do", blanks, char '\x7b']]

def declaration : Pattern :=
  choice [
    seq [edge, choice [literal "const", literal "let", literal "var"], blanks1,
      one fun c => isName c || c == '\x7b' || c == '['],
    seq [edge, literal "type", blanks1, run1 isName, blanks, typeArguments, blanks, char '=']]

def enumeration : Pattern :=
  seq [edge, maybe (space "const"), literal "enum", blanks1, run1 isName, blanks, char '\x7b']

def classHeader : Pattern :=
  seq [edge, literal "class", blanks1, run1 isName, run (· != '\x7b'), char '\x7b']

/-- The beginning of a line that sets a class field. -/
def field : Pattern :=
  seq [blanks,
    modifiers ["public", "private", "protected", "static", "readonly", "declare", "override"],
    maybe (char '#'), run1 isName, blanks, maybe (one ['?', '!'].contains), blanks,
    maybe (seq [char ':', blanks, run1 fun c => c != '=' && c != ';' && c != '(']),
    char '=', notAhead fun c => c == '=' || c == '>']

/-- Names that a header pattern can take for a function name. -/
def keywords : List String :=
  ["if", "for", "while", "switch", "catch", "function", "return", "with", "do", "else", "new"]

structure Source where
  masked : List Char
  lines : List (List Char)
  brackets : Brackets

/-- The forms of a function, in the order in which they are looked for. -/
inductive Form where
  | keyword | arrow | method
  deriving DecidableEq, Repr

/-- A place where a function seems to begin: the offset of the match, and the name with its
offset if there is one. -/
structure Candidate where
  start : Nat
  name : Option (String × Nat)

/-- The candidate of a match in a text that begins at an offset. -/
def candidate (text : List Char) (offset : Nat) (hit : Hit) : Candidate :=
  let name := String.ofList (hit.text text .name)
  match hit.part? .name with
  | some (start, _) =>
    ⟨offset + hit.start, if name.isEmpty then none else some (name, offset + start)⟩
  | none => ⟨offset + hit.start, none⟩

def lineCandidates (p : Pattern) : Nat → List (List Char) → List Candidate
  | _, [] => []
  | offset, text :: rest =>
    ((hit? p text).map (candidate text offset)).toList ++
      lineCandidates p (offset + text.length + 1) rest

def candidates (s : Source) : Form → List Candidate
  | .keyword => (hits keywordFunction s.masked).map (candidate s.masked 0)
  | .arrow => (hits arrowFunction s.masked).map (candidate s.masked 0)
  | .method => lineCandidates methodHeader 0 s.lines

/-- The opening bracket of the body of a function whose parameter list closes at an offset. Arrow
functions count only with a block. -/
def bodyBrace? (s : Source) (form : Form) (close : Nat) : Option Nat :=
  match form with
  | .arrow => do
    let arrow ← Forward.find? s.masked ['=', '>'] close
    let brace ← Forward.nextCode? s.masked (arrow + 2)
    if s.masked[brace]? == some '\x7b' then some brace else none
  | .keyword | .method => Forward.brace? s.masked (close + 1)

/-- A function: the offset of its parameter list and its findings. -/
def functionAt? (profile : Profile) (s : Source) (form : Form) (taken : List Nat) (c : Candidate) :
    Option (Nat × List Finding) := do
  let name := (c.name.map (·.1)).getD "<anonymous>"
  if keywords.contains name then none
  let paren ← Forward.find? s.masked ['('] ((c.name.map (·.2)).getD c.start)
  if taken.contains paren then none
  let close ← s.brackets.closer? paren
  let brace ← bodyBrace? s form close
  let last ← s.brackets.closer? brace
  let body : Sketch :=
    { kind := .other, type := "statement_block", span := .ofOffsets s.masked brace (last + 1) }
  return (paren,
    [.block
        { kind := .function, type := "function",
          span := ⟨.ofOffset s.masked c.start, body.span.stop⟩, name,
          paramCount := Parameters.count profile (slice s.masked (paren + 1) close) }
        body,
      .plain
        { kind := .parameters, type := "formal_parameters",
          span := .ofOffsets s.masked paren (close + 1) }])

/-- Functions among candidates; `taken` holds the parameter lists that already belong to one. -/
def functionsFrom (profile : Profile) (s : Source) :
    List Nat → List (Form × Candidate) → List Finding
  | _, [] => []
  | taken, (form, c) :: rest =>
    match functionAt? profile s form taken c with
    | some (paren, found) => found ++ functionsFrom profile s (paren :: taken) rest
    | none => functionsFrom profile s taken rest

def functions (profile : Profile) (s : Source) : List Finding :=
  functionsFrom profile s []
    ([Form.keyword, .arrow, .method].flatMap fun form => (candidates s form).map (form, ·))

/-- First and last offset of the body of a loop. -/
def loopBody? (s : Source) (hit : Hit) : Option (Nat × Nat) := do
  if (hit.part? .keyword).isNone then
    let brace ← Forward.find? s.masked ['\x7b'] hit.start
    let last ← s.brackets.closer? brace
    return (brace, last + 1)
  let paren ← Forward.find? s.masked ['('] hit.start
  let close ← s.brackets.closer? paren
  let next ← Forward.nextCode? s.masked (close + 1)
  if s.masked[next]? == some ';' then none
  match s.masked[next]? == some '\x7b', s.brackets.closer? next with
  | true, some last => return (next, last + 1)
  | _, _ => return (next, Forward.statementEnd s.masked s.brackets next)

/-- Loops whose body is a block or a statement. -/
def loops (s : Source) : List Finding :=
  (hits loopHead s.masked).filterMap fun hit =>
    (loopBody? s hit).map fun (first, last) =>
      let body : Sketch :=
        { kind := .other, type := "statement", span := .ofOffsets s.masked first last }
      .block
        { kind := .loop, type := "loop",
          span := ⟨.ofOffset s.masked hit.start, body.span.stop⟩ }
        body

/-- Declarations with their whole statement. -/
def declarations (s : Source) : List Finding :=
  (hits declaration s.masked).map fun hit =>
    .plain
      { kind := .declaration, type := "declaration",
        span := .ofOffsets s.masked hit.start (Forward.statementEnd s.masked s.brackets hit.start) }

def enumerations (s : Source) : List Finding :=
  (hits enumeration s.masked).filterMap fun hit =>
    (s.brackets.closer? (hit.stop - 1)).map fun last =>
      .plain
        { kind := .enumeration, type := "enum_declaration",
          span := .ofOffsets s.masked hit.start (last + 1) }

/-- Whether a line lies in the body of one of the functions. -/
def inFunction (functions : List Finding) (line : Nat) : Bool :=
  functions.any fun
    | .block owner body =>
      owner.kind == .function && body.span.start.line ≤ line && line ≤ body.span.stop.line
    | .plain _ => false

/-- A field set on a line of a class body. -/
def fieldAt? (line : Nat) (text : List Char) : Option Finding :=
  (hit? field text).map fun hit =>
    .plain
      { kind := .declaration, type := "field_definition",
        span := ⟨⟨line, hit.start⟩, ⟨line, (trimRight text).length⟩⟩ }

/-- Fields on the lines strictly inside class bodies, outside of the functions. -/
def fields (s : Source) (functions : List Finding) : List Finding :=
  (hits classHeader s.masked).flatMap fun hit =>
    match s.brackets.closer? (hit.stop - 1) with
    | none => []
    | some last =>
      let first := (Position.ofOffset s.masked (hit.stop - 1)).line
      let final := (Position.ofOffset s.masked last).line
      (List.range' (first + 1) (final - first - 1)).filterMap fun line =>
        if inFunction functions line then none else fieldAt? line ((s.lines[line - 1]?).getD [])

def findings (profile : Profile) (s : Source) : List Finding :=
  let functions := functions profile s
  functions ++ loops s ++ declarations s ++ enumerations s ++ fields s functions

end LiveLint.Scan.Brace
