import LiveLint.Parse.Parser
import LiveLint.Scan.Outline

/-!
# Scanning by index

The scanner once more, as it reads a text by index. Every element is fetched from its place in a list, every
partner of a bracket is looked up, and every loop goes round until a round ends it. What is not there ends the
scan with a lapse.
-/

namespace LiveLint

/-- What ends a scan by index. -/
inductive Lapse where
  /-- An index that a list of some length does not have. -/
  | outside (index : Int) (length : Nat)
  /-- A bracket that is looked up and has no partner. -/
  | unpaired (offset : Nat)
  /-- A loop that does not come to its end. -/
  | endless
  deriving DecidableEq, Repr

def Lapse.text : Lapse → String
  | .outside _ _ => "list index out of range"
  | .unpaired offset => toString offset
  | .endless => "loop without end"

namespace Indexed

open Text Text.Pattern

variable {α β σ : Type}

/-!
## Reading
-/

def fetch (xs : List α) (i : Nat) : Except Lapse α :=
  match xs[i]? with
  | some x => .ok x
  | none => .error (.outside i xs.length)

/-- The line of a number; lines are counted from one. -/
def lineAt (lines : List (List Char)) (line : Nat) : Except Lapse (List Char) :=
  if line = 0 then .error (.outside (-1) lines.length) else fetch lines (line - 1)

/-- The closer of an opener that is in a pair. -/
def partner (b : Brackets) (offset : Nat) : Except Lapse Nat :=
  match b.closer? offset with
  | some j => .ok j
  | none => .error (.unpaired offset)

/-- Rounds of a loop, each of which goes on with another state or ends with a result. -/
def loop (round : σ → Except Lapse (σ ⊕ β)) : Nat → σ → Except Lapse β
  | 0, _ => .error .endless
  | rounds + 1, s => do
    match ← round s with
    | .inl next => loop round rounds next
    | .inr result => return result

/-- Goes on with what was found, if anything was. -/
def whenFound (found : Option α) (next : α → Except Lapse (Option β)) : Except Lapse (Option β) :=
  match found with
  | some a => next a
  | none => return none

def gather (find : α → Except Lapse (List β)) (xs : List α) : Except Lapse (List β) :=
  return (← xs.mapM find).flatten

/-!
## Masking
-/

/-- Blanks the character at an index, unless it is a newline. -/
def blankAt (out : List Char) (k : Nat) : Except Lapse (List Char) := do
  if (← fetch out k) == '\n' then return out
  return out.set k ' '

def blankOut (start stop : Nat) (out : List Char) : Except Lapse (List Char) :=
  (List.range' start (min stop out.length - start)).foldlM blankAt out

/-- One round through a string literal: on behind an escape or a character, or to its end. -/
def literalRound (text delimiter : List Char) (spans : Bool) (j : Nat) : Except Lapse (Nat ⊕ Nat) := do
  if text.length ≤ j then return .inr j
  if (← fetch text j) == '\\' then return .inl (j + 2)
  if startsWith (text.drop j) delimiter then return .inr (j + delimiter.length)
  if (← fetch text j) == '\n' && !spans then return .inr j
  return .inl (j + 1)

/-- The end of the comment or the string literal that begins at an index; none if code stands there. -/
def maskedEnd? (profile : Profile) (text : List Char) (i : Nat) : Except Lapse (Option Nat) := do
  if startsWith (text.drop i) profile.lineComment.toList then
    return some ((Forward.find? text ['\n'] i).getD text.length)
  if profile.blockComment.isSome && startsWith (text.drop i) (Mask.blockOpener profile) then
    let closer := Mask.blockCloser profile
    let found := Forward.find? text closer (i + (Mask.blockOpener profile).length)
    return some ((found.map (· + closer.length)).getD text.length)
  let c ← fetch text i
  if (Mask.quotes profile).contains c then
    let triple := profile.blockStyle == .indent && startsWith (text.drop i) [c, c, c]
    let delimiter := Mask.delimiter c triple
    let stop ← loop (literalRound text delimiter (Mask.spansLines c triple)) (text.length + 1)
      (i + delimiter.length)
    return some stop
  return none

/-- One round of masking: over a comment, a string literal or a character of code. -/
def maskRound (profile : Profile) (text : List Char) :
    Nat × List Char → Except Lapse (Nat × List Char ⊕ List Char)
  | (i, out) => do
    if text.length ≤ i then return .inr out
    match ← maskedEnd? profile text i with
    | some stop => return .inl (stop, ← blankOut i stop out)
    | none => return .inl (i + 1, out)

def mask (profile : Profile) (text : List Char) : Except Lapse (List Char) :=
  loop (maskRound profile text) (text.length + 1) (0, text)

/-!
## Lines and offsets
-/

/-- The offsets behind the newlines of a text that begins at an offset. -/
def offsetsFrom : Nat → List Char → List Nat
  | _, [] => []
  | i, c :: rest => if c == '\n' then (i + 1) :: offsetsFrom (i + 1) rest else offsetsFrom (i + 1) rest

def lineOffsets (text : List Char) : List Nat := 0 :: offsetsFrom 0 text

/-- One round of the search for the last line that begins at or before an offset. -/
def halve (offsets : List Nat) (offset : Nat) : Nat × Nat → Except Lapse (Nat × Nat ⊕ Nat)
  | (low, high) => do
    if high ≤ low then return .inr low
    let middle := (low + high + 1) / 2
    if (← fetch offsets middle) ≤ offset then return .inl (middle, high)
    return .inl (low, middle - 1)

/-- The position of an offset in a text whose lines begin at some offsets. -/
def locate (offsets : List Nat) (offset : Nat) : Except Lapse Position := do
  let index ← loop (halve offsets offset) offsets.length (0, offsets.length - 1)
  return ⟨index + 1, offset - (← fetch offsets index)⟩

def span (offsets : List Nat) (start stop : Nat) : Except Lapse Span :=
  return ⟨← locate offsets start, ← locate offsets stop⟩

/-!
## Brackets
-/

/-- Pairs the brackets of the rest of a text, which begins at an offset, given the offsets of the openers still
open, innermost first. -/
def pairFrom (masked : List Char) : Nat → List Nat → List Char → Except Lapse Brackets
  | _, stack, [] => return ⟨[], stack⟩
  | i, stack, c :: rest =>
    if isOpener c then pairFrom masked (i + 1) (i :: stack) rest
    else
      match openerOf? c with
      | none => pairFrom masked (i + 1) stack rest
      | some opener =>
        match stack with
        | top :: outer => do
          if (← fetch masked top) == opener then
            let found ← pairFrom masked (i + 1) outer rest
            return { found with pairs := (top, i) :: found.pairs }
          let found ← pairFrom masked (i + 1) stack rest
          return { found with unpaired := i :: found.unpaired }
        | [] => do
          let found ← pairFrom masked (i + 1) [] rest
          return { found with unpaired := i :: found.unpaired }

def errorLines (offsets : List Nat) (b : Brackets) : Except Lapse (List Nat) :=
  return (← b.unpaired.mapM (locate offsets)).foldr (fun p lines => Brackets.insertLine p.line lines) []

def errorLine (lines : List (List Char)) (line : Nat) : Except Lapse Sketch := do
  let text ← if line ≤ lines.length then lineAt lines line else pure []
  return { kind := .error, type := "ERROR",
           span := ⟨⟨line, leadingBlanks text⟩, ⟨line, (trimRight text).length⟩⟩ }

/-!
## Looking forward
-/

def codeRound (masked : List Char) (i : Nat) : Except Lapse (Nat ⊕ Option Nat) := do
  if masked.length ≤ i then return .inr none
  if isBlank (← fetch masked i) then return .inl (i + 1)
  return .inr (some i)

def nextCode? (masked : List Char) (start : Nat) : Except Lapse (Option Nat) :=
  loop (codeRound masked) (masked.length + 1) start

def braceRound (masked : List Char) (i : Nat) : Except Lapse (Nat ⊕ Option Nat) := do
  if masked.length ≤ i then return .inr none
  let c ← fetch masked i
  if c == '\x7b' then return .inr (some i)
  if c == ';' then return .inr none
  return .inl (i + 1)

def brace? (masked : List Char) (start : Nat) : Except Lapse (Option Nat) :=
  loop (braceRound masked) (masked.length + 1) start

/-- One round of the search for the end of a statement, with the last character of code. -/
def statementRound (masked : List Char) (b : Brackets) :
    Nat × Option Char → Except Lapse (Nat × Option Char ⊕ Nat)
  | (i, last) => do
    if masked.length ≤ i then return .inr masked.length
    let c ← fetch masked i
    if isOpener c && (b.closer? i).isSome then return .inl ((← partner b i) + 1, closerOf? c)
    if isCloser c then return .inr i
    if c == ';' then return .inr (i + 1)
    if c == '\n' && last.any (!Forward.continues.contains ·) then return .inr i
    return .inl (i + 1, if isBlank c then last else some c)

def statementEnd (masked : List Char) (b : Brackets) (start : Nat) : Except Lapse Nat :=
  loop (statementRound masked b) (masked.length + 1) (start, none)

def colonRound (masked : List Char) (b : Brackets) (i : Nat) : Except Lapse (Nat ⊕ Option Nat) := do
  if masked.length ≤ i then return .inr none
  let c ← fetch masked i
  if isOpener c then
    if (b.closer? i).isNone then return .inr none
    return .inl ((← partner b i) + 1)
  if c == ':' then return .inr (some i)
  if c == '\n' then return .inr none
  return .inl (i + 1)

def headerColon? (masked : List Char) (b : Brackets) (start : Nat) : Except Lapse (Option Nat) :=
  loop (colonRound masked b) (masked.length + 1) start

/-!
## Parameters
-/

def label (part : List Char) : Except Lapse (List Char) := do
  let front ← fetch (part.splitOn ':') 0
  let front ← fetch (front.splitOn '=') 0
  return trim front

def countParameters (profile : Profile) (text : List Char) : Except Lapse Nat := do
  let labels ← (Parameters.parts text).mapM label
  return (labels.filter fun label =>
    let name := String.ofList label
    name != "" && name != "/" && name != "*" && !profile.implicitParameters.contains name).length

structure Source where
  masked : List Char
  lines : List (List Char)
  offsets : List Nat
  brackets : Brackets

/-!
## Languages with blocks in curly brackets
-/

section Brace

open Scan.Brace

/-- The match of a pattern at the beginning of the line with an index. -/
def lineCandidate (p : Pattern) (offsets : List Nat) (index : Nat) (text : List Char) :
    Except Lapse (List Candidate) :=
  match hit? p text with
  | some hit => do return [candidate text (← fetch offsets index) hit]
  | none => return []

def lineCandidates (p : Pattern) (offsets : List Nat) : Nat → List (List Char) → Except Lapse (List Candidate)
  | _, [] => return []
  | index, text :: rest => do
    let here ← lineCandidate p offsets index text
    return here ++ (← lineCandidates p offsets (index + 1) rest)

def candidates (s : Source) : Form → Except Lapse (List Candidate)
  | .keyword => return (hits keywordFunction s.masked).map (candidate s.masked 0)
  | .arrow => return (hits arrowFunction s.masked).map (candidate s.masked 0)
  | .method => lineCandidates methodHeader s.offsets 0 s.lines

def bodyBrace? (s : Source) (form : Form) (close : Nat) : Except Lapse (Option Nat) :=
  match form with
  | .arrow =>
    whenFound (Forward.find? s.masked ['=', '>'] close) fun arrow => do
    whenFound (← nextCode? s.masked (arrow + 2)) fun brace => do
    if (← fetch s.masked brace) == '\x7b' then return some brace else return none
  | .keyword | .method => brace? s.masked (close + 1)

def functionAt? (profile : Profile) (s : Source) (form : Form) (taken : List Nat) (c : Candidate) :
    Except Lapse (Option (Nat × List Finding)) := do
  let name := (c.name.map (·.1)).getD "<anonymous>"
  if keywords.contains name then return none
  whenFound (Forward.find? s.masked ['('] ((c.name.map (·.2)).getD c.start)) fun paren => do
  if taken.contains paren then return none
  whenFound (s.brackets.closer? paren) fun close => do
  whenFound (← bodyBrace? s form close) fun brace => do
  if (s.brackets.closer? brace).isNone then return none
  let block ← span s.offsets brace ((← partner s.brackets brace) + 1)
  let start ← locate s.offsets c.start
  let paramCount ← countParameters profile (slice s.masked (paren + 1) close)
  let list ← span s.offsets paren (close + 1)
  return some (paren,
    [.block { kind := .function, type := "function", span := ⟨start, block.stop⟩, name, paramCount }
        { kind := .other, type := "statement_block", span := block },
      .plain { kind := .parameters, type := "formal_parameters", span := list }])

/-- Functions among candidates; `taken` holds the parameter lists that already belong to one. -/
def functionsFrom (profile : Profile) (s : Source) :
    List Nat → List (Form × Candidate) → Except Lapse (List Finding)
  | _, [] => return []
  | taken, (form, c) :: rest => do
    match ← functionAt? profile s form taken c with
    | some (paren, found) => return found ++ (← functionsFrom profile s (paren :: taken) rest)
    | none => functionsFrom profile s taken rest

def functions (profile : Profile) (s : Source) : Except Lapse (List Finding) := do
  let all ← gather (fun form => return (← candidates s form).map (form, ·)) [.keyword, .arrow, .method]
  functionsFrom profile s [] all

def loopBody? (s : Source) (hit : Hit) : Except Lapse (Option (Nat × Nat)) :=
  if (hit.part? .keyword).isNone then
    whenFound (Forward.find? s.masked ['\x7b'] hit.start) fun brace => do
    if (s.brackets.closer? brace).isNone then return none
    return some (brace, (← partner s.brackets brace) + 1)
  else
    whenFound (Forward.find? s.masked ['('] hit.start) fun paren =>
    whenFound (s.brackets.closer? paren) fun close => do
    whenFound (← nextCode? s.masked (close + 1)) fun next => do
    if (← fetch s.masked next) == ';' then return none
    if (← fetch s.masked next) == '\x7b' && (s.brackets.closer? next).isSome then
      return some (next, (← partner s.brackets next) + 1)
    return some (next, ← statementEnd s.masked s.brackets next)

def loopAt (s : Source) (hit : Hit) : Except Lapse (List Finding) := do
  match ← loopBody? s hit with
  | none => return []
  | some (first, last) =>
    let body ← span s.offsets first last
    let start ← locate s.offsets hit.start
    return [.block { kind := .loop, type := "loop", span := ⟨start, body.stop⟩ }
      { kind := .other, type := "statement", span := body }]

def declarationAt (s : Source) (hit : Hit) : Except Lapse (List Finding) := do
  let stop ← statementEnd s.masked s.brackets hit.start
  return [.plain { kind := .declaration, type := "declaration", span := ← span s.offsets hit.start stop }]

def enumerationAt (s : Source) (hit : Hit) : Except Lapse (List Finding) := do
  let brace := hit.stop - 1
  if (s.brackets.closer? brace).isNone then return []
  let last ← partner s.brackets brace
  return [.plain { kind := .enumeration, type := "enum_declaration", span := ← span s.offsets hit.start (last + 1) }]

def fieldsAt (s : Source) (functions : List Finding) (hit : Hit) : Except Lapse (List Finding) := do
  let brace := hit.stop - 1
  if (s.brackets.closer? brace).isNone then return []
  let first := (← locate s.offsets brace).line
  let final := (← locate s.offsets (← partner s.brackets brace)).line
  gather (fun line => do
    if inFunction functions line then return []
    return (fieldAt? line (← lineAt s.lines line)).toList) (List.range' (first + 1) (final - first - 1))

def braceFindings (profile : Profile) (s : Source) : Except Lapse (List Finding) := do
  let functions ← functions profile s
  let loops ← gather (loopAt s) (hits loopHead s.masked)
  let declarations ← gather (declarationAt s) (hits declaration s.masked)
  let enumerations ← gather (enumerationAt s) (hits enumeration s.masked)
  let fields ← gather (fieldsAt s functions) (hits classHeader s.masked)
  return functions ++ loops ++ declarations ++ enumerations ++ fields

end Brace

/-!
## Languages with indented blocks
-/

section Indent

open Scan.Indent

/-- First and last index of the lines with code that are deeper than a header, among the lines at some indices up
to the next line with code that is not. -/
def blockBounds (lines : List (List Char)) (header : Nat) :
    Option (Nat × Nat) → List Nat → Except Lapse (Option (Nat × Nat))
  | found, [] => return found
  | found, k :: rest => do
    let text ← fetch lines k
    if (trim text).isEmpty then blockBounds lines header found rest
    else if width text ≤ header then return found
    else blockBounds lines header (some ((found.map (·.1)).getD k, k)) rest

def body? (s : Source) (colon header : Nat) : Except Lapse (Option Sketch) := do
  let place ← locate s.offsets colon
  let text ← lineAt s.lines place.line
  let rest := text.drop (place.col + 1)
  if !(trim rest).isEmpty then
    return some { kind := .other, type := "block",
                  span := ⟨⟨place.line, place.col + 1 + leadingBlanks rest⟩, ⟨place.line, (trimRight text).length⟩⟩ }
  let bounds ← blockBounds s.lines header none (List.range' place.line (s.lines.length - place.line))
  whenFound bounds fun (first, last) => do
  return some { kind := .other, type := "block",
                span := ⟨⟨first + 1, leadingBlanks (← fetch s.lines first)⟩,
                         ⟨last + 1, (trimRight (← fetch s.lines last)).length⟩⟩ }

/-- The body of the header that is read from an offset on. -/
def headerBody? (s : Source) (start header : Nat) : Except Lapse (Option Sketch) := do
  whenFound (← headerColon? s.masked s.brackets start) fun colon => body? s colon header

def indentedFunctionAt (profile : Profile) (s : Source) (index : Nat) (text : List Char) (hit : Hit) :
    Except Lapse (List Finding) := do
  let paren := (← fetch s.offsets index) + hit.stop - 1
  let indent := hit.text text .indent
  match s.brackets.closer? paren with
  | none => return []
  | some close =>
    match ← headerBody? s (close + 1) (expandTabs indent).length with
    | none => return [.plain (← errorLine s.lines (index + 1))]
    | some body =>
      let paramCount ← countParameters profile (slice s.masked (paren + 1) close)
      let list ← span s.offsets paren (close + 1)
      return [
        .block
          { kind := .function, type := "function_definition",
            span := ⟨⟨index + 1, indent.length⟩, body.span.stop⟩,
            name := String.ofList (hit.text text .name), paramCount }
          body,
        .plain { kind := .parameters, type := "parameters", span := list }]

def indentedLoopAt (s : Source) (index : Nat) (text : List Char) (hit : Hit) : Except Lapse (List Finding) := do
  let indent := hit.text text .indent
  match ← headerBody? s ((← fetch s.offsets index) + hit.stop) (expandTabs indent).length with
  | none => return []
  | some body =>
    return [.block { kind := .loop, type := "loop", span := ⟨⟨index + 1, indent.length⟩, body.span.stop⟩ } body]

def lineFindings (profile : Profile) (s : Source) (index : Nat) (text : List Char) : Except Lapse (List Finding) :=
  match hit? functionHeader text with
  | some hit => indentedFunctionAt profile s index text hit
  | none =>
    match hit? loopHeader text with
    | some hit => indentedLoopAt s index text hit
    | none => return constantAt (index + 1) text

/-- The findings of the lines from an index on. -/
def indentFindingsFrom (profile : Profile) (s : Source) : Nat → List (List Char) → Except Lapse (List Finding)
  | _, [] => return []
  | index, text :: rest => do
    let here ← lineFindings profile s index text
    return here ++ (← indentFindingsFrom profile s (index + 1) rest)

end Indent

/-!
## The roots of a text, and walks over trees
-/

/-- The lines with a bracket in no pair, and everything found in a text, numbered. -/
def drafts (profile : Profile) (text : List Char) : Except Lapse (List Nat × List Draft) := do
  let masked ← mask profile text
  let lines := Text.lines masked
  let offsets := lineOffsets masked
  let brackets ← pairFrom masked 0 [] masked
  let unreadable ← errorLines offsets brackets
  let errors ← unreadable.mapM (errorLine lines)
  let s : Source := { masked, lines, offsets, brackets }
  let constructs ←
    match profile.blockStyle with
    | .indent => indentFindingsFrom profile s 0 lines
    | .brace => braceFindings profile s
  return (unreadable, Draft.number 0 (errors.map .plain ++ constructs ++ Scan.Leaves.findings profile lines))

def scan (profile : Profile) (text : List Char) : Except Lapse (List RootSource) := do
  let (unreadable, found) ← drafts profile text
  let kept := found.filter fun d => d.isError || !unreadable.contains d.span.start.line
  return (Forest.arrange kept).map (RootSource.ofBranch text)

/-- One round of a walk over an arena that collects errors: the nodes to be entered, at the line of their root, and
the errors met so far, newest first. -/
def walkRound (a : Arena) :
    List (Nat × Int) × List (Int × Int) → Except Lapse ((List (Nat × Int) × List (Int × Int)) ⊕ List (Int × Int))
  | ([], found) => return .inr found.reverse
  | ((i, line) :: pending, found) => do
    let node ← fetch a.nodes.toList i
    let found := if node.kind == .error then (line + node.startLine, line + node.endLine) :: found else found
    return .inl (node.children.map (·, line) ++ pending, found)

/-- First and last line of every error of a tree. -/
def errorSpans (t : Tree) (a : Arena) : Except Lapse (List (Int × Int)) :=
  loop (walkRound a) (total (a.subtreeSize ·.index) t.roots + 1) (t.roots.map fun root => (root.index, root.line), [])

/-- What goes wrong when a revision is scanned and the errors of its tree are counted. -/
def lapse? (p : Parser) (r : Revision) (profile : Profile) (previous : Option Tree) (reply : NativeReply) :
    Option Lapse :=
  match scan profile r.text.toList with
  | .error lapse => some lapse
  | .ok _ =>
    let out := p.parse r previous reply
    match errorSpans out.tree (out.parser.arena out.tree.arena) with
    | .error lapse => some lapse
    | .ok _ => none

/-- Parses a revision with a scanner that fails where it is made to, or else where it reads what is not there. -/
def parse (p : Parser) (r : Revision) (previous : Option Tree := none) (reply : NativeReply := .nothing)
    (injected : Option String := none) : Parser.Outcome :=
  let lapse := (Profile.find? r.language).bind fun profile => lapse? p r profile previous reply
  p.parse r previous reply (injected.or (lapse.map Lapse.text))

end Indexed

end LiveLint
