import LiveLint.Detect.Match
import LiveLint.Fault
import LiveLint.Language.Profile
import LiveLint.Number
import LiveLint.Tree.Tree

/-!
# Queries

A query looks for one kind of pattern. Most queries look at one top-level node at a time; what they
find there depends on nothing but that node, the thresholds and the lines it covers, so it can be
kept for as long as the node is. The others look at the file as a whole.
-/

/-!
## Thresholds of the queries

Thresholds may be numbers of any kind. Reports show them as they were given, but two that are the
same number lead to the same matches.
-/

namespace LiveLint

structure Settings where
  /-- Functions with more logical lines are long. -/
  minFunctionLength : Number := 50
  /-- Functions with more parameters have a long parameter list. -/
  maxParameters : Number := 5
  /-- Number of lines that must be repeated. -/
  duplicateMinLines : Number := 5
  deriving Repr

abbrev Settings.Key := Number.Exact × Number.Exact × Number.Exact

/-- What thresholds are, whatever the kinds of their numbers. -/
def Settings.key (s : Settings) : Key :=
  (s.minFunctionLength.exact, s.maxParameters.exact, s.duplicateMinLines.exact)

end LiveLint

/-!
## Logical lines

A logical line holds code: it is not blank, not a comment and not only brackets and separators.
-/

namespace LiveLint.LogicalLine

/-- Brackets, separators and blanks. -/
def isPunctuation (c : Char) : Bool :=
  Text.isBlank c || "\x7b\x7d()[];,:".toList.contains c

def isPunctuationOnly (text : List Char) : Bool := text.all isPunctuation

def holds (profile : Option Profile) (text : List Char) : Bool :=
  let line := Text.trim text
  !line.isEmpty && !isPunctuationOnly line && !profile.any (·.isCommentLine line)

/-- The part of a line that lies inside a placed node. -/
def clip (item : Placed) (line : Int) (text : List Char) : List Char :=
  let text := if line == item.endLine then text.take item.node.endCol else text
  if line == item.startLine then text.drop item.node.startCol else text

/-- Number of logical lines of the lines that begin with a number. -/
def countFrom (profile : Option Profile) (item : Placed) : Int → List (List Char) → Nat
  | _, [] => 0
  | line, text :: rest =>
    if item.endLine < line then 0
    else
      (if item.startLine ≤ line && holds profile (clip item line text) then 1 else 0) +
        countFrom profile item (line + 1) rest

def count (profile : Option Profile) (lines : List (List Char)) (item : Placed) : Nat :=
  countFrom profile item 1 lines

end LiveLint.LogicalLine

/-! ## Queries -/

namespace LiveLint

/-- What a query looks at: a tree with the nodes it refers to. -/
structure Subject where
  tree : Tree
  arena : Arena
  /-- The lines of the source. -/
  lines : List (List Char) := tree.lines
  /-- The profile of the tree's language. -/
  profile : Option Profile := Profile.find? tree.language

inductive Search where
  | inRoot (find : Settings → Subject → Root → List Match)
  | inFile (find : Settings → Subject → Except Fault (List Match))

structure Query where
  kind : String
  /-- The languages it applies to; none means all. -/
  languages : Option (List String) := none
  search : Search

def Query.appliesTo (q : Query) (language : String) : Bool :=
  q.languages.all (·.contains language)

def Placed.range (item : Placed) : SourceRange :=
  ⟨item.startLine, item.node.startCol, item.endLine, item.node.endCol⟩

/-- The body of a function or loop, placed as a walk would place it. -/
def Arena.bodyOf? (a : Arena) (item : Placed) : Option Placed :=
  item.node.body.bind fun i => a.place? item.root ⟨i, item.node.kind :: item.ancestors⟩

/-- Whether a declaration or an enumeration comes before the nearest function among ancestors,
nearest first. -/
def inDeclaration : List NodeKind → Bool
  | [] => false
  | .declaration :: _ | .enumeration :: _ => true
  | .function :: _ => false
  | _ :: rest => inDeclaration rest

/-- A search that reports the placed nodes of a root that a function turns into matches. -/
def Search.perNode (report : Settings → Subject → Placed → Option Match) : Search :=
  .inRoot fun settings s root => (s.arena.walkRoot root).filterMap (report settings s)

end LiveLint
