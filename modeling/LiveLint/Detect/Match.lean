import LiveLint.Digest
import LiveLint.Text.Basic
import LiveLint.Value

/-!
# Matches, occurrences and identities

What a query reports, and what becomes of it once it has an identity.
-/

/-!
## Matches and occurrences

What a query reports, and what becomes of it once it has an identity. Ranges are absolute: lines
are counted from one, columns from zero. They are ordered by start, then by end.
-/

namespace LiveLint

structure SourceRange where
  startLine : Int
  startCol : Int
  endLine : Int
  endCol : Int
  deriving DecidableEq, Repr, Inhabited

namespace SourceRange

def shifted (r : SourceRange) (delta : Int) : SourceRange :=
  { r with startLine := r.startLine + delta, endLine := r.endLine + delta }

def placeLe (line col line' col' : Int) : Bool := line < line' || (line == line' && col ≤ col')

/-- Order by start, then by end. -/
def le (r s : SourceRange) : Bool :=
  if r.startLine != s.startLine || r.startCol != s.startCol then
    placeLe r.startLine r.startCol s.startLine s.startCol
  else placeLe r.endLine r.endCol s.endLine s.endCol

/-- Whether the start of another range lies in this one, both ends included. -/
def holdsStartOf (outer inner : SourceRange) : Bool :=
  placeLe outer.startLine outer.startCol inner.startLine inner.startCol &&
    placeLe inner.startLine inner.startCol outer.endLine outer.endCol

end SourceRange

inductive Severity where
  | low | medium | high
  deriving DecidableEq, Repr

def Severity.label : Severity → String
  | .low => "low"
  | .medium => "medium"
  | .high => "high"

def Severity.ofLabel? : String → Option Severity
  | "low" => some .low
  | "medium" => some .medium
  | "high" => some .high
  | _ => none

structure Match where
  kind : String
  range : SourceRange
  severity : Severity
  metadata : Fields := []
  deriving Repr

def Match.shifted (m : Match) (delta : Int) : Match := { m with range := m.range.shifted delta }

/-- The scope of what lies in no function. -/
def moduleScope : String := "<module>"

structure Occurrence where
  identity : String
  file : String
  language : String
  kind : String
  range : SourceRange
  severity : Severity
  scope : String := moduleScope
  metadata : Fields := []
  deriving Repr

end LiveLint

/-!
## Identities

An identity survives edits elsewhere in the file. It is built from the file, the kind, the path of
enclosing functions, the collapsed first line of the occurrence, and a number among the occurrences
that share all of these.
-/

namespace LiveLint.Identity

/-- The digest of some parts, joined by the unit separator. -/
def digestOf (parts : List String) : String := Digest.sha256 ("\x1f".intercalate parts).toUTF8

def digest (file kind scope anchor : String) (ordinal : Int) : String :=
  digestOf [file, kind, scope, anchor, toString ordinal]

abbrev NamedFunction := SourceRange × String

/-- Order of functions by range, then by name. -/
def functionLe (f g : NamedFunction) : Bool := if f.1 == g.1 then f.2 ≤ g.2 else f.1.le g.1

/-- The functions around a range, outermost first. -/
def enclosing (span : SourceRange) (functions : List NamedFunction) : List NamedFunction :=
  (functions.mergeSort functionLe).filter fun (outer, _) => outer != span && outer.holdsStartOf span

/-- The dotted path of the functions around a range. -/
def scope (span : SourceRange) (functions : List NamedFunction) : String :=
  match enclosing span functions with
  | [] => moduleScope
  | around => ".".intercalate (around.map (·.2))

/-- The collapsed text of a line, empty outside of the file. -/
def anchor (lines : List (List Char)) (line : Int) : String :=
  if 1 ≤ line then
    match lines[(line - 1).toNat]? with
    | some text => String.ofList (Text.collapse text)
    | none => ""
  else ""

/-- Order of matches by range, then by kind. -/
def matchLe (m n : Match) : Bool := if m.range == n.range then m.kind ≤ n.kind else m.range.le n.range

/-- The parts of an identity besides the file and the ordinal. -/
abbrev Place := String × String × String

/-- Gives every match its ordinal among those at the same place; `seen` holds the places of the
matches before. -/
def assignFrom (file language : String) (lines : List (List Char)) (functions : List NamedFunction) :
    List Place → List Match → List Occurrence
  | _, [] => []
  | seen, m :: rest =>
    let scope := scope m.range functions
    let anchor := anchor lines m.range.startLine
    let place := (m.kind, scope, anchor)
    { identity := digest file m.kind scope anchor (seen.count place)
      file, language
      kind := m.kind
      range := m.range
      severity := m.severity
      scope
      metadata := m.metadata } :: assignFrom file language lines functions (place :: seen) rest

def assign (file language : String) (lines : List (List Char)) (ms : List Match)
    (functions : List NamedFunction) : List Occurrence :=
  assignFrom file language lines functions [] (ms.mergeSort matchLe)

end LiveLint.Identity
