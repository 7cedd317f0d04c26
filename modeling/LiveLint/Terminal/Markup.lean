import LiveLint.Fault
import LiveLint.Terminal.EmojiTable
import LiveLint.Terminal.Style
import LiveLint.Text.Basic
import LiveLint.Text.Lower

/-!
# Markup

A text for a terminal may hold tags in square brackets, which open and close styles and are not
shown. Backslashes in front of a tag stand for half as many, and if one is left over the tag is shown
as it is. A tag that closes a style needs one that opened it.
-/

/-!
## Pictures by name

A name between colons stands for a picture. The name may say which of two forms of the picture is
meant; a name that stands for nothing stays as it is.
-/

namespace LiveLint.Terminal.Emoji

/-- A picture by the code points that are written in hexadecimal. -/
def ofCodes (codes : String) : String :=
  String.ofList ((codes.splitOn "+").map fun code => Char.ofNat (Text.Hex.ofDigits 16 code.toList))

/-- A name and its picture, as the table writes them. -/
def ofEntry (entry : String) : String × String :=
  match entry.splitOn "=" with
  | [name, codes] => (name, ofCodes codes)
  | _ => (entry, "")

def all : List (String × String) :=
  emojiRows.toList.flatMap fun row => (row.splitOn " ").map ofEntry

/-- The forms a picture may have, and the characters that ask for them. -/
def forms : List (List Char × Char) :=
  [("-emoji".toList, '\uFE0F'), ("-text".toList, '\uFE0E')]

/-- What a name between colons stands for. -/
def find? (name : List Char) : Option String :=
  let lookup (cs : List Char) := all.lookup (Text.lower (String.ofList cs))
  match forms.find? fun (ending, _) => ending.isSuffixOf name with
  | some (ending, form) =>
    (lookup (name.take (name.length - ending.length))).map (·.push form)
  | none => lookup name

/-- A name up to the next colon, and what follows the colon. -/
def name? (cs : List Char) : Option (List Char × List Char) :=
  let name := cs.takeWhile fun c => c != ':' && !Text.isBlank c
  match cs.drop name.length with
  | ':' :: after => some (name, after)
  | _ => none

/-- Names replaced by pictures, for as many characters as there is fuel for. -/
def drawWith : Nat → List Char → List Char
  | 0, cs => cs
  | _, [] => []
  | fuel + 1, ':' :: rest =>
    match name? rest with
    | some (name, after) =>
      ((find? name).map String.toList).getD (':' :: name ++ [':']) ++ drawWith fuel after
    | none => ':' :: drawWith fuel rest
  | fuel + 1, c :: rest => c :: drawWith fuel rest

/-- A text with names replaced by pictures. -/
def draw (cs : List Char) : List Char := drawWith cs.length cs

end LiveLint.Terminal.Emoji

/-! ## Markup -/

namespace LiveLint.Terminal

structure Tag where
  name : String
  parameters : Option String := none
  deriving DecidableEq, Repr

namespace Tag

def ofText (cs : List Char) : Tag :=
  { name := String.ofList (cs.takeWhile (· != '='))
    parameters := (cs.dropWhile (· != '=')).tail?.map String.ofList }

def text (t : Tag) : String :=
  "[" ++ t.name ++ ((t.parameters.map ("=" ++ ·)).getD "") ++ "]"

end Tag

/-- What a text with tags consists of. -/
inductive Piece where
  | plain (cs : List Char)
  | tag (t : Tag) (position : Nat)
  deriving Repr

namespace Piece

/-- Characters the name of a tag may start with. -/
def startsTag (c : Char) : Bool := c.isLower || c == '#' || c == '/' || c == '@'

/-- What stands in the brackets of a tag at the front of a text, and what follows it. -/
def tag? (cs : List Char) : Option (List Char × List Char) :=
  match cs with
  | '[' :: c :: rest =>
    let body := rest.takeWhile fun x => x != ']' && x != '['
    match rest.drop body.length with
    | ']' :: after => if startsTag c then some (c :: body, after) else none
    | _ => none
  | _ => none

/-- A tag behind backslashes at some position: the backslashes that are shown, and the tag itself,
which is shown too if there is a backslash of its own for it. -/
def ofTag (position slashes : Nat) (body : List Char) : List Piece :=
  [plain (List.replicate (slashes / 2) '\\'),
    if slashes % 2 == 1 then plain ('[' :: body ++ [']'])
    else tag (Tag.ofText body) (position + slashes)]

/-- The pieces of a text from a position on, given the characters in front of it since the last tag
in reverse, for as many characters as there is fuel for. -/
def scan : Nat → Nat → List Char → List Char → List Piece
  | 0, _, before, cs => [plain (before.reverse ++ cs)]
  | fuel + 1, position, before, cs =>
    let slashes := (cs.takeWhile (· == '\\')).length
    match tag? (cs.drop slashes), cs with
    | some (body, after), _ =>
      plain before.reverse :: ofTag position slashes body ++
        scan fuel (position + slashes + body.length + 2) [] after
    | none, c :: rest => scan fuel (position + 1) (c :: before) rest
    | none, [] => [plain before.reverse]

def ofText (cs : List Char) : List Piece := scan (cs.length + 1) 0 [] cs

end Piece

namespace Markup

/-- Controls that move the cursor or ring the bell; they are not shown. -/
def isStripped (c : Char) : Bool := [7, 8, 11, 12, 13].contains c.toNat

/-- Brackets without the backslash in front of them. -/
def unescape : List Char → List Char
  | '\\' :: '[' :: rest => '[' :: unescape rest
  | c :: rest => c :: unescape rest
  | [] => []

def shownPlain (cs : List Char) : List Char := (Emoji.draw (unescape cs)).filter (!isStripped ·)

/-- The plain forms of the styles that are open after a tag, the latest first. -/
def after (styles : List String) (t : Tag) (position : Nat) : Except MarkupFault (List String) :=
  match t.name.toList with
  | '/' :: name =>
    if name.all Text.isBlank then
      match styles with
      | _ :: rest => .ok rest
      | [] => .error (.nothingOpen position)
    else
      let style := Style.plain (String.ofList name)
      if styles.contains style then .ok (styles.erase style)
      else .error (.unopened t.text position)
  | _ => .ok (Style.plain t.name :: styles)

/-- What is shown of pieces while some styles are open. -/
def shownOf (styles : List String) : List Piece → Except MarkupFault (List Char)
  | [] => .ok []
  | .plain cs :: rest => (shownOf styles rest).map (shownPlain cs ++ ·)
  | .tag t position :: rest => do
    let styles ← after styles t position
    shownOf styles rest

def shown (text : String) : Except Fault String :=
  match shownOf [] (Piece.ofText text.toList) with
  | .ok cs => .ok (String.ofList cs)
  | .error f => .error (.markup f)

end Markup

end LiveLint.Terminal
