import LiveLint.Scan.Draft
import LiveLint.Scan.Forward
import LiveLint.Scan.Shared

/-!
# Languages with indented blocks

Functions, loops and numeric constants are recognized line by line. The body of a header is either
the rest of its line or the run of deeper lines that follow.
-/

namespace LiveLint.Scan.Indent

open Text Text.Pattern

private def indentation : Pattern := group .indent (run fun c => c == ' ' || c == '\t')

private def asyncMark : Pattern := maybe (seq [literal "async", blanks1])

def functionHeader : Pattern :=
  seq [indentation, asyncMark, literal "def", blanks1, group .name (run1 isWord), blanks, char '(']

def loopHeader : Pattern :=
  seq [indentation, asyncMark, choice [literal "for", literal "while"], edge]

/-- An assignment of one number to a dotted name, filling its line. -/
def constant : Pattern :=
  seq [
    run fun c => c == ' ' || c == '\t',
    one fun c => c.isAlpha || c == '_', run fun c => isWord c || c == '.', blanks,
    maybe (seq [char ':', blanks, run1 (· != '=')]), char '=', blanks,
    maybe (one ['-', '+'].contains), blanks, group .number (run1 fun c => isWord c || c == '.'),
    blanks, finish]

/-- Columns a line is indented by, with tabs widened. -/
def width (line : List Char) : Nat := leadingBlanks (expandTabs line)

/-- Number of the last line of an indented block: the last line with code before the next line with
code that is not deeper than the header. Lines are numbered from `line` on; `last` is the last line
with code so far. -/
def blockEnd (header : Nat) : Nat → Option Nat → List (List Char) → Option Nat
  | _, last, [] => last
  | line, last, text :: rest =>
    if (trim text).isEmpty then blockEnd header (line + 1) last rest
    else if width text ≤ header then last
    else blockEnd header (line + 1) (some line) rest

/-- The body of a header whose colon is known. -/
def body? (lines : List (List Char)) (colon : Position) (header : Nat) : Option Sketch :=
  let text := (lines[colon.line - 1]?).getD []
  let rest := text.drop (colon.col + 1)
  if !(trim rest).isEmpty then
    some { kind := .other, type := "block",
           span := ⟨⟨colon.line, colon.col + 1 + leadingBlanks rest⟩,
                    ⟨colon.line, (trimRight text).length⟩⟩ }
  else
    match blockEnd header (colon.line + 1) none (lines.drop colon.line) with
    | none => none
    | some last =>
      let first := colon.line + 1 + ((lines.drop colon.line).takeWhile fun text => (trim text).isEmpty).length
      some { kind := .other, type := "block",
             span := ⟨⟨first, leadingBlanks ((lines[first - 1]?).getD [])⟩,
                      ⟨last, (trimRight ((lines[last - 1]?).getD [])).length⟩⟩ }

structure Source where
  masked : List Char
  lines : List (List Char)
  brackets : Brackets

def functionAt (profile : Profile) (s : Source) (line offset : Nat) (text : List Char) (hit : Hit) :
    List Finding :=
  let paren := offset + hit.stop - 1
  let indent := hit.text text .indent
  match s.brackets.closer? paren with
  | none => []
  | some close =>
    let body := do
      let colon ← Forward.headerColon? s.masked s.brackets (close + 1)
      body? s.lines (.ofOffset s.masked colon) (expandTabs indent).length
    match body with
    | none => [.plain (.errorLine s.lines line)]
    | some body =>
      [.block
          { kind := .function, type := "function_definition",
            span := ⟨⟨line, indent.length⟩, body.span.stop⟩,
            name := String.ofList (hit.text text .name),
            paramCount := Parameters.count profile (slice s.masked (paren + 1) close) }
          body,
        .plain
          { kind := .parameters, type := "parameters",
            span := .ofOffsets s.masked paren (close + 1) }]

def loopAt (s : Source) (line offset : Nat) (text : List Char) (hit : Hit) : List Finding :=
  let indent := hit.text text .indent
  let body := do
    let colon ← Forward.headerColon? s.masked s.brackets (offset + hit.stop)
    body? s.lines (.ofOffset s.masked colon) (expandTabs indent).length
  match body with
  | none => []
  | some body =>
    [.block { kind := .loop, type := "loop", span := ⟨⟨line, indent.length⟩, body.span.stop⟩ } body]

def constantAt (line : Nat) (text : List Char) : List Finding :=
  match hit? constant text with
  | some hit =>
    if covers number (hit.text text .number) then
      [.plain
        { kind := .declaration, type := "assignment",
          span := ⟨⟨line, leadingBlanks text⟩, ⟨line, (trimRight text).length⟩⟩ }]
    else []
  | none => []

/-- The findings of one line, which begins at an offset. -/
def lineFindings (profile : Profile) (s : Source) (line offset : Nat) (text : List Char) :
    List Finding :=
  match hit? functionHeader text with
  | some hit => functionAt profile s line offset text hit
  | none =>
    match hit? loopHeader text with
    | some hit => loopAt s line offset text hit
    | none => constantAt line text

/-- The findings of the lines from a line on. -/
def findingsFrom (profile : Profile) (s : Source) : Nat → Nat → List (List Char) → List Finding
  | _, _, [] => []
  | line, offset, text :: rest =>
    lineFindings profile s line offset text ++
      findingsFrom profile s (line + 1) (offset + text.length + 1) rest

/-- Functions, loops and constants of a masked source in line order. -/
def findings (profile : Profile) (s : Source) : List Finding := findingsFrom profile s 1 0 s.lines

end LiveLint.Scan.Indent
