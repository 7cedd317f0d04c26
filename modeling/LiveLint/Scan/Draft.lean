import LiveLint.Text.Basic
import LiveLint.Tree.Arena

/-!
# Drafts

What the scanner finds before the findings are arranged into trees. A function or a loop is found
together with its body; numbering the findings gives every draft an identifier and ties owners to
bodies.
-/

/-!
## Positions and spans

A position is a line, counted from one, and a column, counted from zero.
-/

namespace LiveLint

structure Position where
  line : Nat
  col : Nat
  deriving DecidableEq, Repr, Inhabited

namespace Position

def le (p q : Position) : Bool := p.line < q.line || (p.line == q.line && p.col ≤ q.col)

/-- The position reached from another by reading some characters. -/
def advance (p : Position) : List Char → Position
  | [] => p
  | c :: rest => if c == '\n' then advance ⟨p.line + 1, 0⟩ rest else advance ⟨p.line, p.col + 1⟩ rest

/-- The position of an offset in a text. -/
def ofOffset (cs : List Char) (offset : Nat) : Position := advance ⟨1, 0⟩ (cs.take offset)

end Position

structure Span where
  start : Position
  stop : Position
  deriving DecidableEq, Repr, Inhabited

/-- Whether a span holds another; every span holds itself. -/
def Span.contains (outer inner : Span) : Bool :=
  outer.start.le inner.start && inner.stop.le outer.stop

def Span.ofOffsets (cs : List Char) (start stop : Nat) : Span :=
  ⟨.ofOffset cs start, .ofOffset cs stop⟩

/-! ## Drafts -/

structure Sketch where
  kind : NodeKind
  type : String
  span : Span
  name : String := ""
  value : String := ""
  paramCount : Nat := 0
  deriving DecidableEq, Repr, Inhabited

/-- One finding of the scanner. -/
inductive Finding where
  | plain (sketch : Sketch)
  | block (owner body : Sketch)
  deriving DecidableEq, Repr

/-- A numbered construct; owners name the identifier of their body. -/
structure Draft extends Sketch where
  id : Nat
  body : Option Nat := none
  deriving DecidableEq, Repr, Inhabited

namespace Draft

def isError (d : Draft) : Bool := d.kind == .error

/-- Drafts of the findings, numbered from a first identifier on. -/
def number : Nat → List Finding → List Draft
  | _, [] => []
  | n, .plain sketch :: rest => ⟨sketch, n, none⟩ :: number (n + 1) rest
  | n, .block owner body :: rest =>
    ⟨owner, n, some (n + 1)⟩ :: ⟨body, n + 1, none⟩ :: number (n + 2) rest

end Draft

/-- The part of a line between its outer blanks, as an error. -/
def Sketch.errorLine (lines : List (List Char)) (line : Nat) : Sketch :=
  let text := (lines[line - 1]?).getD []
  { kind := .error, type := "ERROR",
    span := ⟨⟨line, Text.leadingBlanks text⟩, ⟨line, (Text.trimRight text).length⟩⟩ }

end LiveLint
