import LiveLint.Digest
import LiveLint.Fault
import LiveLint.Language.Profile
import LiveLint.Log
import LiveLint.Parse.Grammars
import LiveLint.Revision.Tracker
import LiveLint.Scan.Outline
import LiveLint.Tree.Normalize
import LiveLint.Tree.Tree

/-!
# Parsing revisions

Every revision gets a tree. A native grammar is tried first, then the scanner; if both fail the
tree is one error, and a language without a profile gets an empty tree of limited support. A native
tree that fails while it is read leaves the nodes that were stored by then in the arena. Roots of the
previous tree whose text did not change and that no changed range touches are carried over. They
are found by their digests, and each is carried over once.
-/

namespace LiveLint

abbrev Reusable := List Root

namespace Reusable

/-- The roots of a base that share an arena and a backend with the tree being built. -/
def ofBase (base : Option Tree) (arena : Nat) (backend : Backend) : Reusable :=
  match base with
  | some tree => if tree.arena == arena && tree.backend == backend then tree.roots else []
  | none => []

/-- Takes the first root with a digest. -/
def take? (digest : String) : Reusable → Option (Root × Reusable)
  | [] => none
  | root :: rest =>
    if root.digest == digest then some (root, rest)
    else (take? digest rest).map fun (found, left) => (found, root :: left)

end Reusable

/-- The parser's state: all arenas so far and what was counted. -/
structure Parser where
  arenas : Array Arena := #[]
  grammars : Grammars := {}
  /-- Arenas of at least this size are not extended. -/
  maxNodes : Int := 200000
  nativeCount : Nat := 0
  scannedCount : Nat := 0
  limitedCount : Nat := 0
  reusedRoots : Nat := 0
  builtRoots : Nat := 0

/-- What a root was made from: where it lies, its digest, and how to store it in an arena. -/
structure RootSource where
  first : Nat
  last : Int
  digest : String
  store : Arena → Arena × Nat

namespace RootSource

/-- What the digest of a root is taken of: the column it starts at and its source. -/
def digestInput (col : Nat) (snippet : ByteArray) : ByteArray :=
  (toString col ++ ":").toUTF8 ++ snippet

def digestOf (col : Nat) (snippet : ByteArray) : String := Digest.sha1 (digestInput col snippet)

def branchInput (text : List Char) (branch : Branch) : ByteArray :=
  digestInput branch.draft.span.start.col
    (String.ofList (Outline.snippet text branch.draft.span)).toUTF8

def ofBranch (text : List Char) (branch : Branch) : RootSource :=
  let span := branch.draft.span
  { first := span.start.line
    last := span.stop.line
    digest := Digest.sha1 (branchInput text branch)
    store := branch.store span.start.line }

def scanned (profile : Profile) (text : List Char) : List RootSource :=
  (Outline.branches profile text).map (ofBranch text)

def native (profile : Profile) (tree : NativeTree) : List RootSource :=
  let code := tree.text.toUTF8
  tree.root.topLevel.map fun n =>
    { first := (n.startPoint.row + 1).toNat
      last := n.endPoint.row + 1
      digest := digestOf n.startPoint.col (code.extract n.startByte n.endByte)
      store := Normalize.storeRoot profile code tree.root n }

/-- Places the roots of a revision in an arena, carrying over what is reusable. -/
def build (r : Revision) : List RootSource → Reusable → Arena → Arena × List Root
  | [], _, a => (a, [])
  | source :: rest, pool, a =>
    match if r.touches source.first source.last then none else pool.take? source.digest with
    | some (root, pool) =>
      let (a, roots) := build r rest pool a
      (a, ⟨root.index, source.first, source.digest, true⟩ :: roots)
    | none =>
      let (a, i) := source.store a
      let (a, roots) := build r rest pool a
      (a, ⟨i, source.first, source.digest, false⟩ :: roots)

end RootSource

namespace Parser

def arena (p : Parser) (i : Nat) : Arena := p.arenas.getD i {}

def newArena (p : Parser) : Parser × Nat := ({ p with arenas := p.arenas.push {} }, p.arenas.size)

def setArena (p : Parser) (i : Nat) (a : Arena) : Parser :=
  { p with arenas := p.arenas.setIfInBounds i a }

def hasGrammar (p : Parser) (profile : Profile) : Bool := p.grammars.supports profile.grammar

/-- The backend that is tried first for a language. -/
def backendFor (p : Parser) (language : String) : Backend :=
  match Profile.find? language with
  | none => .none
  | some profile => if p.hasGrammar profile then .native else .scanner

/-- Whether a tree was built for the revision that another one is compared with. -/
def isBaseOf (tree : Tree) (r : Revision) (profile : Profile) : Bool :=
  !tree.limited && tree.file == r.file && tree.language == profile.name && r.base > 0 &&
    tree.revision == r.base

/-- The arena a parse goes on with: that of the base unless it is full, otherwise an empty one. -/
def startArena (p : Parser) (base : Option Tree) : Parser × Nat :=
  match base with
  | some tree => if (p.arena tree.arena).size < p.maxNodes then (p, tree.arena) else p.newArena
  | none => p.newArena

/-- Builds a tree from its roots and counts them. -/
def finish (p : Parser) (r : Revision) (profile : Profile) (base : Option Tree) (arena : Nat)
    (backend : Backend) (sources : List RootSource) (native : Option NativeTree) : Parser × Tree :=
  let (a, roots) :=
    RootSource.build r sources (Reusable.ofBase base arena backend) (p.arena arena)
  let tree : Tree :=
    { file := r.file, language := profile.name, revision := r.number, source := r.text, arena,
      roots, backend, native }
  ({ p.setArena arena a with
      reusedRoots := p.reusedRoots + tree.reusedCount
      builtRoots := p.builtRoots + (roots.length - tree.reusedCount) },
    tree)

def limitedTree (p : Parser) (r : Revision) : Parser × Tree :=
  let (p, arena) := p.newArena
  ({ p with limitedCount := p.limitedCount + 1 },
    { file := r.file, language := if r.language.isEmpty then "unknown" else r.language,
      revision := r.number, source := r.text, arena, roots := [], limited := true })

/-- The tree of a revision that nothing could read: one error over the whole text. -/
def errorTree (p : Parser) (r : Revision) (profile : Profile) : Parser × Tree :=
  let lines := Text.lines r.text.toList
  let (p, arena) := p.newArena
  let (a, i) := Arena.add {}
    { kind := .error, type := "ERROR", startLine := 0, startCol := 0,
      endLine := lines.length - 1, endCol := (lines.getLast?.getD []).length }
  (p.setArena arena a,
    { file := r.file, language := profile.name, revision := r.number, source := r.text, arena,
      roots := [⟨i, 1, RootSource.digestOf 0 r.text.toUTF8, false⟩] })

def failed (r : Revision) (profile : Profile) (reason : String) : Log.Record :=
  .ofLogger .error "scanning.parser" (Failure.unparsable r.file profile.name reason).text

/-- Asks the native parser for a tree of a revision. -/
def askNative (p : Parser) (r : Revision) (profile : Profile) (base : Option Tree)
    (reply : NativeReply) : List NativeCall × Except String NativeTree :=
  let (calls, answer) :=
    match base.filter (·.backend == .native) |>.bind (·.native) with
    | some old => p.grammars.reparse r.text profile.grammar old r.edit reply
    | none => p.grammars.parse r.text profile.grammar reply
  (calls,
    match answer with
    | .ok (some tree) => .ok tree
    | .ok none => .error ("grammar '" ++ profile.grammar ++ "' unavailable")
    | .error text => .error text)

/-- Parses with the scanner. An injected fault stands for a scanner that fails. -/
def scan (p : Parser) (r : Revision) (profile : Profile) (base : Option Tree) (arena : Nat)
    (crash : Option String) : Parser × Tree × List Log.Record :=
  match crash with
  | some text =>
    let (p, tree) := p.errorTree r profile
    (p, tree, [failed r profile ("fallback scanner failed: " ++ text)])
  | none =>
    let (p, tree) :=
      p.finish r profile base arena .scanner (RootSource.scanned profile r.text.toList) none
    ({ p with scannedCount := p.scannedCount + 1 }, tree, [])

/-- Leaves in the arena what had been stored of a native tree when reading it failed. -/
def abandon (p : Parser) (r : Revision) (profile : Profile) (base : Option Tree)
    (native : NativeTree) (stored : Nat) : Parser :=
  let (p, arena) := p.startArena base
  let before := p.arena arena
  let (after, _) :=
    RootSource.build r (RootSource.native profile native) (Reusable.ofBase base arena .native) before
  p.setArena arena (after.upTo (before.size + stored))

/-- What a parse leaves behind besides the tree. -/
structure Outcome where
  parser : Parser
  tree : Tree
  calls : List NativeCall := []
  logs : List Log.Record := []

/-- Goes on with the scanner in a new arena after the native backend failed. -/
def fallBack (p : Parser) (r : Revision) (profile : Profile) (base : Option Tree)
    (calls : List NativeCall) (reason : String) (crash : Option String) : Outcome :=
  let (p, arena) := p.newArena
  let (p, tree, logs) := p.scan r profile base arena crash
  { parser := p, tree, calls,
    logs := failed r profile ("tree-sitter backend failed: " ++ reason) :: logs }

/-- Parses a revision, reusing the previous tree where it is still valid. `reply` is what the native
parser answers if it is asked, `crash` makes the scanner fail. -/
def parse (p : Parser) (r : Revision) (previous : Option Tree := none)
    (reply : NativeReply := .nothing) (crash : Option String := none) : Outcome :=
  match Profile.find? r.language with
  | none =>
    let (p, tree) := p.limitedTree r
    { parser := p, tree }
  | some profile =>
    let base := previous.filter (isBaseOf · r profile)
    if p.hasGrammar profile then
      let (calls, answer) := p.askNative r profile base reply
      match answer with
      | .ok native =>
        match native.tear with
        | none =>
          let (p, arena) := p.startArena base
          let (p, tree) :=
            p.finish r profile base arena .native (RootSource.native profile native) (some native)
          { parser := { p with nativeCount := p.nativeCount + 1 }, tree, calls }
        | some (stored, reason) =>
          (p.abandon r profile base native stored).fallBack r profile base calls reason crash
      | .error reason => p.fallBack r profile base calls reason crash
    else
      let (p, arena) := p.startArena base
      let (p, tree, logs) := p.scan r profile base arena crash
      { parser := p, tree, logs }

end Parser

end LiveLint
