import LiveLint.Scan.Brace
import LiveLint.Scan.Draft
import LiveLint.Scan.Indent
import LiveLint.Scan.Mask
import LiveLint.Scan.Shared
import LiveLint.Tree.Arena

/-!
# Outlines

The outline of a source is the forest of everything the scanner finds in it. Lines with a bracket
in no pair become errors, and nothing else that starts on such a line is kept.
-/

/-!
## Forests of drafts

Drafts are ordered by where they start, longer ones first, and a rank settles the order among
drafts of one span. In that order a draft is followed by everything it contains, so the forest is
built by splitting off what each draft contains. Drafts of errors contain nothing.
-/

namespace LiveLint

/-- A draft with the drafts directly inside it. -/
inductive Branch where
  | mk (draft : Draft) (children : List Branch)
  deriving Repr

namespace Forest

/-- Outer constructs come first among drafts of one span. -/
def priority : NodeKind → Int
  | .function => 0
  | .loop => 1
  | .enumeration => 2
  | .declaration => 3
  | .parameters => 4
  | .other => 5
  | .comparison => 6
  | .call => 7
  | .number => 8
  | .error => 9

/-- Twice the rank of a draft among drafts of one span, following owners of that span for some steps. A body comes
directly after an owner of the same span and otherwise before everything else. -/
def rankWithin (drafts : List Draft) : Nat → Draft → Int
  | 0, d => 2 * priority d.kind
  | steps + 1, d =>
    match drafts.find? (·.body == some d.id) with
    | none => 2 * priority d.kind
    | some owner => if owner.span == d.span then rankWithin drafts steps owner + 1 else -2

/-- Twice the rank of a draft. A chain of owners that does not go round in a circle is no longer than the list of
drafts. -/
def rank (drafts : List Draft) (d : Draft) : Int := rankWithin drafts (drafts.length + 1) d

/-- Whether a draft comes no later than another: by start, then longer first, then by rank. -/
def comesFirst (p q : Int × Draft) : Bool :=
  if p.2.span.start != q.2.span.start then p.2.span.start.le q.2.span.start
  else if p.2.span.stop != q.2.span.stop then q.2.span.stop.le p.2.span.stop
  else p.1 ≤ q.1

def ordered (drafts : List Draft) : List Draft :=
  ((drafts.map fun d => (rank drafts d, d)).mergeSort comesFirst).map (·.2)

/-- Builds the forest of drafts in walking order. -/
def build : List Draft → List Branch
  | [] => []
  | d :: rest =>
    if d.isError then .mk d [] :: build rest
    else
      .mk d (build (rest.takeWhile (d.span.contains ·.span))) ::
        build (rest.dropWhile (d.span.contains ·.span))
termination_by drafts => drafts.length
decreasing_by
  · simp
  · have := (List.takeWhile_sublist (d.span.contains ·.span) (l := rest)).length_le
    simp only [List.length_cons]
    omega
  · have := (List.dropWhile_sublist (d.span.contains ·.span) (l := rest)).length_le
    simp only [List.length_cons]
    omega

def arrange (drafts : List Draft) : List Branch := build (ordered drafts)

end Forest

namespace Branch

def draft : Branch → Draft
  | .mk d _ => d

def children : Branch → List Branch
  | .mk _ cs => cs

/-- The node of a draft in an arena, with lines counted from a line. Its children are given with the
indices they have in the arena. -/
def node (line : Nat) (d : Draft) (children : List Branch) (indices : List Nat) : Node where
  kind := d.kind
  type := d.type
  startLine := (d.span.start.line : Int) - line
  startCol := d.span.start.col
  endLine := (d.span.stop.line : Int) - line
  endCol := d.span.stop.col
  children := indices
  body :=
    (((children.map (·.draft.id)).zip indices).find? fun (id, _) => d.body == some id).map (·.2)
  name := d.name
  value := d.value
  paramCount := d.paramCount

mutual

/-- Adds a branch to an arena, children first, with lines counted from a line. -/
def store (line : Nat) : Branch → Arena → Arena × Nat
  | .mk d cs, a =>
    let (a, indices) := storeAll line cs a
    a.add (node line d cs indices)

def storeAll (line : Nat) : List Branch → Arena → Arena × List Nat
  | [], a => (a, [])
  | b :: rest, a =>
    let (a, i) := store line b a
    let (a, indices) := storeAll line rest a
    (a, i :: indices)

end

end Branch

end LiveLint

/-!
## The outline of a source
-/

namespace LiveLint.Outline

/-- Everything found in a source, numbered: error lines first, then constructs, then leaves. -/
def drafts (profile : Profile) (text : List Char) : List Draft :=
  let masked := Mask.mask profile text
  let lines := Text.lines masked
  let brackets := Brackets.pair masked
  let errors := (brackets.errorLines masked).map fun line => Finding.plain (.errorLine lines line)
  let constructs :=
    match profile.blockStyle with
    | .indent => Scan.Indent.findings profile { masked, lines, brackets }
    | .brace => Scan.Brace.findings profile { masked, lines, brackets }
  Draft.number 0 (errors ++ constructs ++ Scan.Leaves.findings profile lines)

def errorLines (profile : Profile) (text : List Char) : List Nat :=
  let masked := Mask.mask profile text
  (Brackets.pair masked).errorLines masked

/-- What survives of the drafts: errors, and everything that starts outside of error lines. -/
def kept (profile : Profile) (text : List Char) : List Draft :=
  let lines := errorLines profile text
  (drafts profile text).filter fun d => d.isError || !lines.contains d.span.start.line

def branches (profile : Profile) (text : List Char) : List Branch :=
  Forest.arrange (kept profile text)

def coveredLines (text : List Char) (span : Span) : List (List Char) :=
  ((Text.lines text).drop (span.start.line - 1)).take (span.stop.line + 1 - span.start.line)

/-- The lines of a source that a span touches, joined by newlines. -/
def snippet (text : List Char) (span : Span) : List Char :=
  ['\n'].intercalate (coveredLines text span)

end LiveLint.Outline
