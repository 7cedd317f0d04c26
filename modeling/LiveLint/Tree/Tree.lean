import LiveLint.Tree.Arena
import LiveLint.Tree.Normalize

/-!
# Trees

The result of parsing one revision: top-level nodes of an arena, each placed at a line. A tree
refers to its arena by number, and several trees of a file may share one.
-/

namespace LiveLint

/-- A top-level node placed in a revision. -/
structure Root where
  /-- Index of the node in the arena. -/
  index : Nat
  /-- The line its first line has in this revision. -/
  line : Nat
  /-- Digest of its source text; equal digests allow reuse. -/
  digest : String
  /-- Whether the node was carried over from the tree before. -/
  reused : Bool := false
  deriving DecidableEq, Repr

/-- What produced a tree. -/
inductive Backend where
  | native | scanner | none
  deriving DecidableEq, Repr

def Backend.label : Backend → String
  | .native => "tree-sitter"
  | .scanner => "fallback"
  | .none => "none"

structure Tree where
  file : String
  /-- Name of the profile, or the host's identifier where support is limited. -/
  language : String
  revision : Nat
  source : String
  /-- Number of the arena the roots live in. -/
  arena : Nat
  roots : List Root
  backend : Backend := .none
  limited : Bool := false
  native : Option NativeTree := Option.none

/-- A node met by a walk of a tree, with its place in the revision. -/
structure Placed where
  index : Nat
  node : Node
  startLine : Int
  endLine : Int
  /-- Kinds of the ancestors, nearest first. -/
  ancestors : List NodeKind
  root : Root
  deriving Repr

namespace Arena

/-- A visited node placed in the revision of its root. -/
def place? (a : Arena) (root : Root) (v : Visit) : Option Placed :=
  (a.get? v.index).map fun node =>
    { index := v.index
      node
      startLine := root.line + node.startLine
      endLine := root.line + node.endLine
      ancestors := v.ancestors
      root }

/-- Everything below and including a root, depth first. -/
def walkRoot (a : Arena) (root : Root) (skipErrors : Bool := true) : List Placed :=
  (a.visits skipErrors [⟨root.index, []⟩]).filterMap (a.place? root)

/-- Everything strictly below a placed node. -/
def walkBelow (a : Arena) (item : Placed) (skipErrors : Bool := true) : List Placed :=
  (a.visits skipErrors (a.pendingBelow ⟨item.index, item.ancestors⟩)).filterMap (a.place? item.root)

end Arena

namespace Tree

def lines (t : Tree) : List (List Char) := t.source.toList.splitOn '\n'

/-- Everything in the tree, depth first and in source order. -/
def walk (t : Tree) (a : Arena) (skipErrors : Bool := true) : List Placed :=
  t.roots.flatMap fun root => a.walkRoot root skipErrors

/-- First and last line of every error. -/
def errorSpans (t : Tree) (a : Arena) : List (Int × Int) :=
  ((t.walk a false).filter (·.node.kind == .error)).map fun p => (p.startLine, p.endLine)

/-- Number of roots carried over from an earlier tree. -/
def reusedCount (t : Tree) : Nat := t.roots.countP (·.reused)

/-- Whether the tree holds nothing but errors. -/
def fullyUnparsable (t : Tree) (a : Arena) : Bool :=
  !t.roots.isEmpty && !t.limited && t.roots.all fun root => a.kind root.index == .error

end Tree

end LiveLint
