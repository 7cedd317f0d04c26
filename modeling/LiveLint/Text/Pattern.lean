import LiveLint.Text.Basic
import LiveLint.Text.Word

/-!
# Patterns over characters

Regular patterns with ordered choice. A pattern is tried from a cursor; alternatives are tried in
order and repetitions as long as possible first, and the first way to go on that the continuation
accepts is taken. A cursor remembers the character before it, which is all that the assertions
about the left context look at.
-/

namespace LiveLint.Text

/-- A place in a text: its offset, the character before it and the characters after it. -/
structure Cursor where
  pos : Nat
  before : Option Char
  rest : List Char

def Cursor.start (cs : List Char) : Cursor := ⟨0, none, cs⟩

inductive Slot where
  | name | indent | keyword | number | operator
  deriving DecidableEq, Repr

/-- Named parts found so far as pairs of offsets, newest first. -/
abbrev Groups := List (Slot × Nat × Nat)

/-- A pattern. Runs are greedy, the left side of a choice is tried first. -/
inductive Pattern where
  | empty
  | one (accepts : Char → Bool)
  | run (accepts : Char → Bool)
  | both (first second : Pattern)
  | either (first second : Pattern)
  | repeated (body : Pattern)
  | group (slot : Slot) (body : Pattern)
  | ahead (body : Pattern)
  | notAhead (accepts : Char → Bool)
  | notBehind (accepts : Char → Bool)
  | edge
  | finish

namespace Pattern

/-- A character class taken as long as possible. -/
def takeRun {β : Type} (accepts : Char → Bool) (k : Cursor → Option β) :
    Nat → Option Char → List Char → Option β
  | pos, before, [] => k ⟨pos, before, []⟩
  | pos, before, c :: rest =>
    if accepts c then
      (takeRun accepts k (pos + 1) (some c) rest).or (k ⟨pos, before, c :: rest⟩)
    else k ⟨pos, before, c :: rest⟩

/-- A step taken as often as possible, at most `fuel` times; a step that consumes nothing ends the
repetition. Fuel for every character that is left never runs out. -/
def takeMany {β : Type}
    (step : Cursor → Groups → (Cursor → Groups → Option β) → Option β)
    (k : Cursor → Groups → Option β) : Nat → Cursor → Groups → Option β
  | 0, c, groups => k c groups
  | fuel + 1, c, groups =>
    (step c groups fun after groups =>
      if c.pos < after.pos then takeMany step k fuel after groups else none).or (k c groups)

/-- Whether the cursor stands between a word character and something else. -/
def atEdge (c : Cursor) : Bool := (c.before.any isWord) != (c.rest.head?.any isWord)

/-- Tries a pattern from a cursor and hands every way through it, in order, to the continuation
until that accepts one. -/
def attempt {β : Type} :
    Pattern → Cursor → Groups → (Cursor → Groups → Option β) → Option β
  | .empty, c, groups, k => k c groups
  | .one accepts, c, groups, k =>
    match c.rest with
    | [] => none
    | x :: rest => if accepts x then k ⟨c.pos + 1, some x, rest⟩ groups else none
  | .run accepts, c, groups, k => takeRun accepts (k · groups) c.pos c.before c.rest
  | .both first second, c, groups, k =>
    attempt first c groups fun after groups => attempt second after groups k
  | .either first second, c, groups, k =>
    (attempt first c groups k).or (attempt second c groups k)
  | .repeated body, c, groups, k => takeMany (attempt body) k c.rest.length c groups
  | .group slot body, c, groups, k =>
    attempt body c groups fun after groups => k after ((slot, c.pos, after.pos) :: groups)
  | .ahead body, c, groups, k =>
    if (attempt body c groups fun _ _ => some ()).isSome then k c groups else none
  | .notAhead accepts, c, groups, k => if c.rest.head?.any accepts then none else k c groups
  | .notBehind accepts, c, groups, k => if c.before.any accepts then none else k c groups
  | .edge, c, groups, k => if atEdge c then k c groups else none
  | .finish, c, groups, k => if c.rest.isEmpty then k c groups else none

/-- What a match covers, with its named parts. -/
structure Hit where
  start : Nat
  stop : Nat
  groups : Groups

def slice (cs : List Char) (start stop : Nat) : List Char := (cs.drop start).take (stop - start)

def Hit.part? (hit : Hit) (slot : Slot) : Option (Nat × Nat) := hit.groups.lookup slot

/-- The text of a named part in the text that was matched, empty if the part took no part. -/
def Hit.text (hit : Hit) (cs : List Char) (slot : Slot) : List Char :=
  match hit.part? slot with
  | some (start, stop) => slice cs start stop
  | none => []

/-- The first match that begins at the cursor. -/
def hitAt (p : Pattern) (c : Cursor) : Option Hit :=
  attempt p c [] fun after groups => some ⟨c.pos, after.pos, groups⟩

def hit? (p : Pattern) (cs : List Char) : Option Hit := hitAt p (.start cs)

def covers (p : Pattern) (cs : List Char) : Bool :=
  (attempt p (.start cs) [] fun after _ => if after.rest.isEmpty then some () else none).isSome

/-- Matches from left to right that do not overlap; `skip` characters lie in the last one. -/
def hitsFrom (p : Pattern) : Nat → Nat → Option Char → List Char → List Hit
  | _, _, _, [] => []
  | skip + 1, pos, _, c :: rest => hitsFrom p skip (pos + 1) (some c) rest
  | 0, pos, before, c :: rest =>
    match hitAt p ⟨pos, before, c :: rest⟩ with
    | some hit => hit :: hitsFrom p (hit.stop - pos - 1) (pos + 1) (some c) rest
    | none => hitsFrom p 0 (pos + 1) (some c) rest

/-- Matches of a pattern that consumes something, from left to right, without overlap. -/
def hits (p : Pattern) (cs : List Char) : List Hit := hitsFrom p 0 0 none cs

def seq : List Pattern → Pattern
  | [] => .empty
  | [p] => p
  | p :: ps => .both p (seq ps)

/-- A choice between patterns, earlier ones first. -/
def choice : List Pattern → Pattern
  | [] => .one fun _ => false
  | [p] => p
  | p :: ps => .either p (choice ps)

/-- A pattern or nothing, preferring the pattern. -/
def maybe (p : Pattern) : Pattern := .either p .empty

def literal (text : String) : Pattern := seq (text.toList.map fun c => .one (· == c))

def char (c : Char) : Pattern := .one (· == c)

def run1 (accepts : Char → Bool) : Pattern := .both (.one accepts) (.run accepts)

def blanks : Pattern := .run isBlank

def blanks1 : Pattern := run1 isBlank

/-- A word with no word character on either side. -/
def keyword (text : String) : Pattern := seq [.edge, literal text, .edge]

end Pattern

end LiveLint.Text
