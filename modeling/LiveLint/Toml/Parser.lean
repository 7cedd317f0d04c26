import LiveLint.Decimal
import LiveLint.Fault
import LiveLint.Text.Basic
import LiveLint.Text.Encoding
import LiveLint.Text.Numeral

/-!
# Reading TOML

A reader for TOML: comments, headers, dotted and quoted keys, strings of all four kinds, dates and
times, whole numbers in four bases, real numbers, truth values, arrays and inline tables. A text that
breaks a rule has no document; the refusal names the first rule that is broken and where reading
stopped.
-/

namespace LiveLint.Toml

/-! ## Refusals -/

/-- The names of the tables that lead to a place in a document. -/
abbrev Path := List String

/-- The quoted names in round brackets. A single name has a comma behind it. -/
def Path.shown : Path → String
  | [name] => "(" ++ Text.quoted name ++ ",)"
  | path => "(" ++ ", ".intercalate (path.map Text.quoted) ++ ")"

inductive Cause where
  | statement
  | lineEnd
  | tableEnd
  | itemEnd
  | equals
  | keyStart
  | unclosedArray
  | unclosedInline
  | backslash
  | hexDigits
  | notScalar
  | unterminated
  | date
  | value
  /-- The quotes are missing that end a literal string. -/
  | quotes (expected : List Char)
  /-- A comment or a literal string holds a control character. -/
  | stray (c : Char)
  /-- A basic string holds a control character. -/
  | illegal (c : Char)
  | declaredTwice (table : Path)
  | redefined (table : Path)
  | closed (table : Path)
  | taken
  | repeated (key : String)
  deriving DecidableEq, Repr

def Cause.message : Cause → String
  | .statement => "Invalid statement"
  | .lineEnd => "Expected newline or end of document after a statement"
  | .tableEnd => "Expected ']' at the end of a table declaration"
  | .itemEnd => "Expected ']]' at the end of an array declaration"
  | .equals => "Expected '=' after a key in a key/value pair"
  | .keyStart => "Invalid initial character for a key part"
  | .unclosedArray => "Unclosed array"
  | .unclosedInline => "Unclosed inline table"
  | .backslash => "Unescaped '\\' in a string"
  | .hexDigits => "Invalid hex value"
  | .notScalar => "Escaped character is not a Unicode scalar value"
  | .unterminated => "Unterminated string"
  | .date => "Invalid date or datetime"
  | .value => "Invalid value"
  | .quotes expected => "Expected " ++ Text.quoted (String.ofList expected)
  | .stray c => "Found invalid character " ++ Text.quoted (String.singleton c)
  | .illegal c => "Illegal character " ++ Text.quoted (String.singleton c)
  | .declaredTwice table => "Cannot declare " ++ table.shown ++ " twice"
  | .redefined table => "Cannot redefine namespace " ++ table.shown
  | .closed table => "Cannot mutate immutable namespace " ++ table.shown
  | .taken => "Cannot overwrite a value"
  | .repeated key => "Duplicate inline table key " ++ Text.quoted key

/-- A cause with what was not read yet, or a whole number with too many digits. -/
inductive Refusal where
  | malformed (cause : Cause) (unread : List Char)
  | tooManyDigits (count : Nat)
  deriving DecidableEq, Repr

def Refusal.message (text : List Char) : Refusal → String
  | .malformed cause [] => cause.message ++ " (at end of document)"
  | .malformed cause unread =>
    let (line, column) := Text.place text (text.length - unread.length)
    cause.message ++ " (at line " ++ toString line ++ ", column " ++ toString column ++ ")"
  | .tooManyDigits count => (Unacceptable.tooManyDigits count).message

/-!
## Documents

A document grows by statements, and every statement may only touch what earlier ones left open: a
table is declared once, a table that came into being through a dotted key cannot be declared later,
and what was written inline is closed for ever.
-/

/-- A key: the last of its parts, and the tables that the parts before it lead through. -/
structure Key where
  parent : Path
  name : String

def Key.path (k : Key) : Path := k.parent ++ [k.name]

structure Document where
  data : Fields := []
  /-- Tables that were declared. -/
  declared : List Path := []
  /-- Tables that dotted keys led through; they count as declared from the next header on. -/
  pending : List Path := []
  /-- Values that were written inline. -/
  closed : List Path := []
  /-- The table that keys belong to. -/
  header : Path := []

/-- Changes the table at a path. Tables that are missing come into being, and a list of tables stands
for its last one. -/
def modifyAt (f : Fields → Except Cause Fields) : Path → Fields → Except Cause Fields
  | [], t => f t
  | key :: path, t =>
    match Table.get? t key with
    | none => (modifyAt f path []).map fun inner => Table.set key (.table inner) t
    | some (.table inner) =>
      (modifyAt f path inner).map fun inner => Table.set key (.table inner) t
    | some (.list items) =>
      match items.getLast? with
      | some (.table inner) =>
        (modifyAt f path inner).map fun inner =>
          Table.set key (.list (items.dropLast ++ [.table inner])) t
      | _ => .error .taken
    | some _ => .error .taken

/-- Gives a key of a table its value; a key that has one is refused for the given cause. -/
def put (refusal : Cause) (key : String) (v : Value) (t : Fields) : Except Cause Fields :=
  match Table.get? t key with
  | some _ => .error refusal
  | none => .ok (Table.set key v t)

def pushTable (key : String) (t : Fields) : Except Cause Fields :=
  match Table.get? t key with
  | none => .ok (Table.set key (.list [.table []]) t)
  | some (.list items) => .ok (Table.set key (.list (items ++ [.table []])) t)
  | some _ => .error .taken

/-- The tables below a header that a path leads through, with the one that it leads to. -/
def Path.below (header : Path) : Path → List Path
  | [] => []
  | key :: path => (header ++ [key]) :: Path.below (header ++ [key]) path

def hasParts : Value → Bool
  | .table _ | .list _ => true
  | _ => false

namespace Document

def isClosed (d : Document) (path : Path) : Bool := d.closed.any (·.isPrefixOf path)

/-- What dotted keys led through counts as declared. -/
def settle (d : Document) : Document :=
  { d with declared := d.pending ++ d.declared, pending := [] }

/-- A value with parts that was written inline at a path is closed. -/
def close (d : Document) (path : Path) (v : Value) : Document :=
  if hasParts v then { d with closed := path :: d.closed } else d

def openTable (d : Document) (path : Path) : Except Cause Document :=
  let d := d.settle
  if d.declared.contains path || d.isClosed path then .error (.declaredTwice path)
  else
    (modifyAt .ok path d.data).map fun data =>
      { d with data, declared := path :: d.declared, header := path }

def openItem (d : Document) (k : Key) : Except Cause Document :=
  let d := d.settle
  if d.isClosed k.path then .error (.closed k.path)
  else
    (modifyAt (pushTable k.name) k.parent d.data).map fun data =>
      let others (paths : List Path) := paths.filter fun p => !k.path.isPrefixOf p
      { data, declared := k.path :: others d.declared, closed := others d.closed, header := k.path }

def assign (d : Document) (k : Key) (v : Value) : Except Cause Document :=
  let through := Path.below d.header k.parent
  let parent := d.header ++ k.parent
  match through.find? d.declared.contains with
  | some table => .error (.redefined table)
  | none =>
    if d.isClosed parent then .error (.closed parent)
    else
      (modifyAt (put .taken k.name v) parent d.data).map fun data =>
        { d with data, pending := through ++ d.pending }.close (d.header ++ k.path) v

def assignInline (d : Document) (k : Key) (v : Value) : Except Cause Document :=
  if d.isClosed k.path then .error (.closed k.path)
  else
    (modifyAt (put (.repeated k.name) k.name v) k.parent d.data).map fun data =>
      { d with data }.close k.path v

end Document

/-! ## Texts -/

/-- Reads something from the front of a text. -/
abbrev Reader (α : Type) := List Char → Except Refusal (α × List Char)

/-- What became of a change when everything before the given text was read. -/
def located {α : Type} (unread : List Char) (change : Except Cause α) : Except Refusal α :=
  change.mapError (.malformed · unread)

def isSpace (c : Char) : Bool := c == ' ' || c == '\t'

def isBlank (c : Char) : Bool := isSpace c || c == '\n'

def isControl (c : Char) : Bool := (c.toNat < 32 && c != '\t') || c.toNat == 127

/-- Characters that may not stand in a string as they are. -/
def isForbidden (multiline : Bool) (c : Char) : Bool := isControl c && !(multiline && c == '\n')

/-- Characters of a key without quotes. -/
def isBare (c : Char) : Bool := c.isAlphanum || c == '-' || c == '_'

def trim (cs : List Char) : List Char := cs.dropWhile isSpace

/-- Refuses a part at the front of a text for the first character that may not stand in it. -/
def refuseStray (forbidden : Char → Bool) (part cs : List Char) : Except Refusal Unit :=
  match part.find? forbidden with
  | some c => .error (.malformed (.stray c) (cs.dropWhile (!forbidden ·)))
  | none => .ok ()

def skipComment : List Char → Except Refusal (List Char)
  | '#' :: cs =>
    let text := cs.takeWhile (· != '\n')
    (refuseStray isControl text cs).map fun _ => cs.drop text.length
  | cs => .ok cs

def skipBlanks : Nat → List Char → Except Refusal (List Char)
  | 0, cs => .ok cs
  | fuel + 1, cs =>
    match cs.dropWhile isBlank with
    | '#' :: rest => do skipBlanks fuel (← skipComment ('#' :: rest))
    | rest => .ok rest

/-! ## Strings -/

/-- A character by the digits of its number. -/
def codePoint (count : Nat) (cs : List Char) : Except Refusal (Char × List Char) :=
  let digits := cs.take count
  if digits.length < count || !digits.all Text.Hex.isDigit then .error (.malformed .hexDigits cs)
  else
    let n := Text.Hex.ofDigits 16 digits
    if n < 0xD800 || (0xDFFF < n && n ≤ 0x10FFFF) then .ok (Char.ofNat n, cs.drop count)
    else .error (.malformed .notScalar (cs.drop count))

def shortEscapes : List (Char × Char) :=
  [('b', '\x08'), ('t', '\t'), ('n', '\n'), ('f', '\x0c'), ('r', '\r'), ('"', '"'), ('\\', '\\')]

/-- What an escape stands for, given the text behind its backslash. In a string of several lines a
backslash at the end of a line takes the blanks that follow with it. -/
def escape (multiline : Bool) (cs : List Char) : Except Refusal (List Char × List Char) :=
  match cs with
  | [] => .error (.malformed .backslash [])
  | c :: rest =>
    if multiline && isBlank c then
      match trim cs with
      | [] => .ok ([], [])
      | '\n' :: rest => .ok ([], rest.dropWhile isBlank)
      | rest => .error (.malformed .backslash rest)
    else if c == 'u' then (codePoint 4 rest).map fun (x, rest) => ([x], rest)
    else if c == 'U' then (codePoint 8 rest).map fun (x, rest) => ([x], rest)
    else
      match shortEscapes.lookup c with
      | some x => .ok ([x], rest)
      | none => .error (.malformed .backslash rest)

/-- The rest of a basic string and the text behind its closing quotes. -/
def basicFrom (multiline : Bool) : Nat → Reader (List Char)
  | 0, cs => .error (.malformed .unterminated cs)
  | fuel + 1, cs =>
    match cs with
    | [] => .error (.malformed .unterminated [])
    | c :: rest =>
      if c == '"' && !multiline then .ok ([], rest)
      else if c == '"' && rest.take 2 == ['"', '"'] then .ok ([], rest.drop 2)
      else if c == '\\' then do
        let (x, rest) ← escape multiline rest
        let (s, rest) ← basicFrom multiline fuel rest
        return (x ++ s, rest)
      else if isForbidden multiline c then .error (.malformed (.illegal c) cs)
      else (basicFrom multiline fuel rest).map fun (s, rest) => (c :: s, rest)

/-- The parts of a text before and behind the first quotes of a kind. -/
def cutAt (quotes : List Char) : List Char → Option (List Char × List Char)
  | [] => none
  | c :: cs =>
    if quotes.isPrefixOf (c :: cs) then some ([], (c :: cs).drop quotes.length)
    else (cutAt quotes cs).map fun (s, rest) => (c :: s, rest)

/-- The rest of a literal string and the text behind its closing quotes. -/
def literal (multiline : Bool) (quotes : List Char) : Reader (List Char) := fun cs =>
  match cutAt quotes cs with
  | none => .error (.malformed (.quotes quotes) [])
  | some (s, rest) => (refuseStray (isForbidden multiline) s cs).map fun _ => (s, rest)

/-- The rest of a string of one line. -/
def stringFrom (quote : Char) : Reader (List Char) := fun cs =>
  if quote == '"' then basicFrom false (cs.length + 1) cs else literal false [quote] cs

/-- The rest of a string of several lines, which may end in up to two more quotes. -/
def linesFrom (quote : Char) : Reader (List Char) := fun cs => do
  let (s, rest) ←
    if quote == '"' then basicFrom true (cs.length + 1) cs
    else literal true [quote, quote, quote] cs
  let more := (rest.take 2).takeWhile (· == quote)
  return (s ++ more, rest.drop more.length)

/-- A string with its quotes. A newline right behind three quotes is not part of it. -/
def quoted (quote : Char) (severalLines : Bool) : Reader String := fun cs =>
  let read :=
    if severalLines && cs.take 3 == [quote, quote, quote] then
      match cs.drop 3 with
      | '\n' :: body => linesFrom quote body
      | body => linesFrom quote body
    else stringFrom quote (cs.drop 1)
  read.map fun (s, rest) => (String.ofList s, rest)

/-! ## Keys and numbers -/

/-- Whether a key can begin with a character. -/
def isKeyStart (c : Char) : Bool := isBare c || c == '"' || c == '\x27'

def keyPart : Reader String := fun cs =>
  match cs with
  | '"' :: _ => quoted '"' false cs
  | '\x27' :: _ => quoted '\x27' false cs
  | _ =>
    let name := cs.takeWhile isBare
    if name.isEmpty then .error (.malformed .keyStart cs)
    else .ok (String.ofList name, cs.drop name.length)

/-- A key with the blanks behind it. -/
def key : Nat → Reader Key
  | 0, cs => .error (.malformed .keyStart cs)
  | fuel + 1, cs => do
    let (part, rest) ← keyPart cs
    match trim rest with
    | '.' :: rest =>
      let (k, rest) ← key fuel (trim rest)
      return ({ k with parent := part :: k.parent }, rest)
    | rest => return ({ parent := [], name := part }, rest)

/-- Digits with single bars between them. -/
def digits (isDigit : Char → Bool) : List Char → List Char × List Char
  | c :: '_' :: d :: rest =>
    if isDigit c && isDigit d then
      let (more, rest) := digits isDigit (d :: rest)
      (c :: more, rest)
    else if isDigit c then ([c], '_' :: d :: rest)
    else ([], c :: '_' :: d :: rest)
  | c :: rest =>
    if isDigit c then
      let (more, rest) := digits isDigit rest
      (c :: more, rest)
    else ([], c :: rest)
  | [] => ([], [])

def inBase (letter : Char) (isDigit : Char → Bool) (base : Nat) :
    List Char → Option (Value × List Char)
  | '0' :: c :: rest =>
    if c != letter then none
    else
      let (ds, rest) := digits isDigit rest
      if ds.isEmpty then none
      else some (.int (Text.Hex.ofDigits base ds), rest)
  | _ => none

def fraction (cs : List Char) : List Char × List Char :=
  match cs with
  | '.' :: rest => digits Char.isDigit rest
  | _ => ([], cs)

def exponent (cs : List Char) : Option Int × List Char :=
  match cs with
  | [] => (none, cs)
  | e :: rest =>
    let (negative, after) := Text.Numeral.signed rest
    let (ds, after) := digits Char.isDigit after
    if (e != 'e' && e != 'E') || ds.isEmpty then (none, cs)
    else
      let n : Int := Text.Numeral.ofDigits ((ds.dropWhile (· == '0')).take 9)
      (some (if negative then -n else n), after)

/-- A decimal number; with a fraction or an exponent it is real. -/
def decimal (cs : List Char) : Option (Except Refusal (Value × List Char)) :=
  let (negative, body) := Text.Numeral.signed cs
  let (whole, rest) :=
    match body with
    | '0' :: rest => (['0'], rest)
    | body => digits Char.isDigit body
  if whole.isEmpty then none
  else
    let (part, afterPart) := fraction rest
    let rest := if part.isEmpty then rest else afterPart
    let (e, rest) := exponent rest
    if part.isEmpty && e.isNone then
      let n : Int := Text.Numeral.ofDigits whole
      if 4300 < whole.length then some (.error (.tooManyDigits whole.length))
      else some (.ok (.int (if negative then -n else n), rest))
    else
      let x :=
        Decimal.ofDecimal negative (Text.Numeral.ofDigits (whole ++ part)) (e.getD 0 - part.length)
      some (.ok (.float x, rest))

/-- A number of so many digits. -/
def fixedDigits (count : Nat) (cs : List Char) : Option (Nat × List Char) :=
  let ds := cs.take count
  if ds.length < count || !ds.all Char.isDigit then none
  else some (Text.Numeral.ofDigits ds, cs.drop count)

/-- A number of two digits that lies between two others. -/
def twoDigits (least most : Nat) (cs : List Char) : Option (Nat × List Char) :=
  (fixedDigits 2 cs).filter fun (n, _) => least ≤ n && n ≤ most

/-- A part that follows a sign. -/
def behind {α : Type} (sign : Char) (read : List Char → Option α) : List Char → Option α
  | c :: rest => if c == sign then read rest else none
  | [] => none

def day (cs : List Char) : Option (Day × List Char) := do
  let (year, rest) ← fixedDigits 4 cs
  let (month, rest) ← behind '-' (twoDigits 1 12) rest
  let (day, rest) ← behind '-' (twoDigits 1 31) rest
  some ({ year, month, day }, rest)

/-- The microseconds of a fraction at the front of a text. What lies below them is left out. -/
def micros (cs : List Char) : Nat × List Char :=
  match cs with
  | '.' :: rest =>
    let ds := rest.takeWhile Char.isDigit
    let six := (ds ++ List.replicate 6 '0').take 6
    if ds.isEmpty then (0, cs) else (Text.Numeral.ofDigits six, rest.drop ds.length)
  | _ => (0, cs)

def dayTime (cs : List Char) : Option (DayTime × List Char) := do
  let (hour, rest) ← twoDigits 0 23 cs
  let (minute, rest) ← behind ':' (twoDigits 0 59) rest
  let (second, rest) ← behind ':' (twoDigits 0 59) rest
  let (micro, rest) := micros rest
  some ({ hour, minute, second, micro }, rest)

/-- How many minutes a clock is ahead, if the front of a text says so. -/
def ahead (cs : List Char) : Option Int × List Char :=
  let minutes (rest : List Char) : Option (Int × List Char) := do
    let (hour, rest) ← twoDigits 0 23 rest
    let (minute, rest) ← behind ':' (twoDigits 0 59) rest
    some ((60 * hour + minute : Nat), rest)
  match cs with
  | 'Z' :: rest | 'z' :: rest => (some 0, rest)
  | '+' :: rest => ((minutes rest).map fun (n, rest) => (some n, rest)).getD (none, cs)
  | '-' :: rest => ((minutes rest).map fun (n, rest) => (some (-n), rest)).getD (none, cs)
  | _ => (none, cs)

def timeBehindDay (cs : List Char) : Option (DayTime × List Char) :=
  match cs with
  | 'T' :: rest | 't' :: rest | ' ' :: rest => dayTime rest
  | _ => none

/-- A date, a time, or both. -/
def stamp (cs : List Char) : Option (Stamp × List Char) :=
  match day cs with
  | some (d, rest) =>
    match timeBehindDay rest with
    | some (t, rest) =>
      let (minutes, rest) := ahead rest
      some (.both d t minutes, rest)
    | none => some (.day d, rest)
  | none => (dayTime cs).map fun (t, rest) => (.time t, rest)

def isInCalendar : Stamp → Bool
  | .day d | .both d _ _ => d.isValid
  | .time _ => true

/-- Words for numbers that are not finite. -/
def specials : List (String × Value) :=
  [("inf", .float Decimal.infinity), ("nan", .float Decimal.notANumber),
    ("+inf", .float Decimal.infinity), ("-inf", .float (-Decimal.infinity)),
    ("+nan", .float Decimal.notANumber), ("-nan", .float Decimal.notANumber)]

/-- A word at the front of a text with the value it stands for. -/
def word (words : List (String × Value)) (cs : List Char) : Option (Value × List Char) :=
  words.findSome? fun (name, v) =>
    if name.toList.isPrefixOf cs then some (v, cs.drop name.length) else none

/-- A number, or a word for one, if there is one at the front of a text. -/
def number (cs : List Char) : Option (Except Refusal (Value × List Char)) :=
  let based :=
    (inBase 'x' Text.Hex.isDigit 16 cs).or <|
      (inBase 'b' (fun c => c == '0' || c == '1') 2 cs).or <|
        inBase 'o' (fun c => '0' ≤ c && c ≤ '7') 8 cs
  (based.map .ok).or <| (decimal cs).or <| (word specials cs).map .ok

/-- A truth value, a date, a time or a number. -/
def scalar : Reader Value := fun cs =>
  match word [("true", .bool true), ("false", .bool false)] cs with
  | some found => .ok found
  | none =>
    match stamp cs with
    | some (s, rest) =>
      if isInCalendar s then .ok (.stamp s, rest) else .error (.malformed .date cs)
    | none => (number cs).getD (.error (.malformed .value cs))

/-! ## Values and statements -/

mutual

def value : Nat → Reader Value
  | 0, cs => .error (.malformed .value cs)
  | fuel + 1, cs =>
    match cs with
    | '"' :: _ => (quoted '"' true cs).map fun (s, rest) => (.text s, rest)
    | '\x27' :: _ => (quoted '\x27' true cs).map fun (s, rest) => (.text s, rest)
    | '[' :: rest => do
      let (vs, rest) ← items fuel (← skipBlanks rest.length rest)
      return (.list vs, rest)
    | '\x7b' :: rest =>
      match trim rest with
      | '\x7d' :: rest => .ok (.table [], rest)
      | rest => (inlineFields fuel {} rest).map fun (d, rest) => (.table d.data, rest)
    | cs => scalar cs

/-- The items of an array and its bracket. -/
def items : Nat → Reader (List Value)
  | 0, cs => .error (.malformed .value cs)
  | fuel + 1, cs =>
    match cs with
    | ']' :: rest => .ok ([], rest)
    | cs => do
      let (v, rest) ← value fuel cs
      match ← skipBlanks rest.length rest with
      | ']' :: rest => return ([v], rest)
      | ',' :: rest =>
        let (vs, rest) ← items fuel (← skipBlanks rest.length rest)
        return (v :: vs, rest)
      | rest => throw (.malformed .unclosedArray rest)

/-- The fields of an inline table and its brace. -/
def inlineFields : Nat → Document → Reader Document
  | 0, _, cs => .error (.malformed .value cs)
  | fuel + 1, d, cs => do
    let ((k, v), rest) ← pair fuel cs
    let d ← located rest (d.assignInline k v)
    match trim rest with
    | '\x7d' :: rest => return (d, rest)
    | ',' :: rest => inlineFields fuel d (trim rest)
    | rest => throw (.malformed .unclosedInline rest)

def pair : Nat → Reader (Key × Value)
  | 0, cs => .error (.malformed .value cs)
  | fuel + 1, cs => do
    let (k, rest) ← key (cs.length + 1) cs
    match rest with
    | '=' :: rest =>
      let (v, rest) ← value fuel (trim rest)
      return ((k, v), rest)
    | rest => throw (.malformed .equals rest)

end

def header (d : Document) : Reader Document := fun cs =>
  match cs with
  | '[' :: rest => do
    let (k, rest) ← key (rest.length + 1) (trim rest)
    let d ← located rest (d.openItem k)
    match rest with
    | ']' :: ']' :: rest => return (d, rest)
    | rest => throw (.malformed .itemEnd rest)
  | cs => do
    let (k, rest) ← key (cs.length + 1) (trim cs)
    let d ← located rest (d.openTable k.path)
    match rest with
    | ']' :: rest => return (d, rest)
    | rest => throw (.malformed .tableEnd rest)

/-- A statement, if there is one on the line. -/
def statement (d : Document) : Reader Document := fun cs =>
  match cs with
  | [] => .ok (d, [])
  | '[' :: rest => header d rest
  | c :: _ =>
    if isKeyStart c then do
      let ((k, v), rest) ← pair (2 * cs.length + 2) cs
      let d ← located rest (d.assign k v)
      return (d, rest)
    else if c == '#' || c == '\n' then .ok (d, cs)
    else .error (.malformed .statement cs)

def lines : Nat → Document → List Char → Except Refusal Document
  | 0, _, cs => .error (.malformed .statement cs)
  | fuel + 1, d, cs => do
    let (d, rest) ← statement d (trim cs)
    match ← skipComment (trim rest) with
    | [] => return d
    | '\n' :: rest => lines fuel d rest
    | rest => throw (.malformed .lineEnd rest)

/-- Line ends of two characters as newlines. -/
def unifyLines : List Char → List Char
  | '\r' :: '\n' :: rest => '\n' :: unifyLines rest
  | c :: rest => c :: unifyLines rest
  | [] => []

/-- The document that a text holds, or the words for why it holds none. -/
def parse (text : List Char) : Except String Fields :=
  let cs := unifyLines text
  match lines (cs.length + 1) {} cs with
  | .ok d => .ok d.data
  | .error r => .error (r.message cs)

/-- The document that some bytes hold, or the words for why they hold none. -/
def parseBytes (bytes : List UInt8) : Except String Fields :=
  match Text.Encoding.decode .utf8 0 bytes with
  | .ok text => parse text
  | .error fault => .error fault.message

end LiveLint.Toml
