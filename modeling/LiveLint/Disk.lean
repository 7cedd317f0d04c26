import LiveLint.Fault

/-!
# The disk

Files, folders and the records of caches, with the folder that is worked in and the one of the user.
A path is followed step by step: every step but the last one has to lead to a folder, and a step back
leads out of the folder that was reached.
-/

namespace LiveLint

/-- The names that lead from the root to a place. -/
abbrev Place := List String

inductive DiskEntry where
  | absent
  /-- The path leads through something that is no folder. -/
  | blocked
  | folder
  | file (bytes : List UInt8)
  deriving Repr

structure Disk where
  /-- The folder of the user. -/
  homePath : String := "/"
  /-- The folder that relative paths start from. -/
  workPath : String := "/"
  files : Table Place (List UInt8) := []
  folders : List Place := []
  /-- The records of caches by the places of their folders. -/
  records : Table Place Value := []
  deriving Repr

namespace Disk

def move (here : Place) (step : String) : Place :=
  if step.isEmpty || step == "." then here
  else if step == ".." then here.dropLast
  else here ++ [step]

/-- Where steps lead if nothing is in their way. -/
def placeFrom (here : Place) (steps : List String) : Place := steps.foldl move here

def steps (path : String) : List String := path.splitOn "/"

def rootPlace (path : String) : Place := placeFrom [] (steps path)

def origin (d : Disk) (path : String) : Place :=
  if path.startsWith "/" then [] else rootPlace d.workPath

/-- Everything that is known to lie somewhere. -/
def known (d : Disk) : List Place :=
  [] :: rootPlace d.homePath :: rootPlace d.workPath :: d.folders ++ d.files.map (·.1) ++
    d.records.map (·.1)

/-- What is found at a place. Whatever leads to something that is known is a folder. -/
def entryAt (d : Disk) (place : Place) : DiskEntry :=
  match d.files.get? place with
  | some bytes => .file bytes
  | none => if d.known.any (place.isPrefixOf ·) then .folder else .absent

def follow (d : Disk) (here : Place) : List String → DiskEntry
  | [] => d.entryAt here
  | step :: rest =>
    match d.entryAt here with
    | .folder => d.follow (move here step) rest
    | .absent => .absent
    | _ => .blocked

/-- What a path leads to. An empty path leads nowhere. -/
def look (d : Disk) (path : String) : DiskEntry :=
  if path.isEmpty then .absent else d.follow (d.origin path) (steps path)

def bytes? (d : Disk) (path : String) : Option (List UInt8) :=
  match d.look path with
  | .file bytes => some bytes
  | _ => none

/-- Makes the folders that steps lead through, as far as they are missing. -/
def makeFrom (path : String) (here : Place) : List String → Disk → Except Fault (Disk × Place)
  | [], d => .ok (d, here)
  | step :: rest, d =>
    let next := move here step
    match d.entryAt next with
    | .folder => makeFrom path next rest d
    | .absent => makeFrom path next rest { d with folders := d.folders ++ [next] }
    | _ =>
      if rest.all (·.isEmpty) then .error (.disk .unopened) else .error (.disk (.blocked path))

def makeFolder (d : Disk) (path : String) : Except Fault (Disk × Place) :=
  makeFrom path (d.origin path) (steps path) d

end Disk

end LiveLint

/-!
## Expansion of paths

A tilde at the start of a path, and the variable of the user's folder anywhere in it, stand for the
path of that folder.
-/

namespace LiveLint.Expansion

/-- The path with a tilde at its start replaced. -/
def tilde (home : String) (path : List Char) : List Char :=
  match path with
  | ['~'] => home.toList
  | '~' :: '/' :: rest => home.toList ++ '/' :: rest
  | _ => path

def isNameChar (c : Char) : Bool := c.isAlphanum || c == '_'

/-- The name of a variable after a dollar sign and what follows it; the name may stand in curly
brackets. -/
def nameOf? (cs : List Char) : Option (List Char × List Char) :=
  match cs with
  | '\x7b' :: rest =>
    let name := rest.takeWhile (· != '\x7d')
    match rest.drop name.length with
    | _ :: after => some (name, after)
    | [] => none
  | cs =>
    let name := cs.takeWhile isNameChar
    if name.isEmpty then none else some (name, cs.drop name.length)

/-- The path with variables replaced, for as many characters as there is fuel for. -/
def variablesWith (home : String) : Nat → List Char → List Char
  | 0, path => path
  | _, [] => []
  | fuel + 1, '$' :: rest =>
    match nameOf? rest with
    | some (['H', 'O', 'M', 'E'], after) => home.toList ++ variablesWith home fuel after
    | _ => '$' :: variablesWith home fuel rest
  | fuel + 1, c :: rest => c :: variablesWith home fuel rest

/-- A path with everything replaced that stands for the folder of the user. -/
def expand (home path : String) : String :=
  String.ofList (variablesWith home path.toList.length (tilde home path.toList))

end LiveLint.Expansion

/-!
## Paths

Paths of files as texts. Parts that lead nowhere are left out when a path is written.
-/

namespace LiveLint.Text.Path

def parts (path : String) : List String :=
  (path.splitOn "/").filter fun part => !part.isEmpty && part != "."

/-- The slashes a path starts with; more than two count as one. -/
def root (path : String) : String :=
  match path.toList.takeWhile (· == '/') with
  | [] => ""
  | [_, _] => "//"
  | _ => "/"

/-- A path in its plain form. -/
def plain (path : String) : String :=
  let body := "/".intercalate (parts path)
  if (root path ++ body).isEmpty then "." else root path ++ body

end LiveLint.Text.Path
