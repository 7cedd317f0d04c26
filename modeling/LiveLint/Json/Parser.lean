import LiveLint.Text.Basic
import LiveLint.Text.Encoding
import LiveLint.Value

/-!
# Reading JSON

A reader for JSON texts. Besides the standard it accepts the number words `NaN`, `Infinity` and
`-Infinity`. Whole numbers are kept exactly, and a key that occurs twice has its last value. A
refusal names its cause and the offset at which reading stopped.
-/

namespace LiveLint.Json

inductive Cause where
  | value
  | propertyName
  | colon
  | comma
  | extraData
  | unterminated
  | control
  | escape
  | unicodeEscape
  | byteOrderMark
  deriving DecidableEq, Repr

def Cause.message : Cause → String
  | .value => "Expecting value"
  | .propertyName => "Expecting property name enclosed in double quotes"
  | .colon => "Expecting ':' delimiter"
  | .comma => "Expecting ',' delimiter"
  | .extraData => "Extra data"
  | .unterminated => "Unterminated string starting at"
  | .control => "Invalid control character at"
  | .escape => "Invalid \\escape"
  | .unicodeEscape => "Invalid \\uXXXX escape"
  | .byteOrderMark => "Unexpected UTF-8 BOM (decode using utf-8-sig)"

/-- A refusal: a cause at an offset, or a whole number with too many digits. -/
inductive Fault where
  | malformed (cause : Cause) (offset : Nat)
  | tooManyDigits (count : Nat)
  deriving Repr

/-- Most digits a whole number may have. -/
def maxDigits : Nat := 4300

def Fault.message (text : List Char) : Fault → String
  | .malformed cause offset =>
    let (line, column) := Text.place text offset
    cause.message ++ ": line " ++ toString line ++ " column " ++ toString column ++ " (char " ++
      toString offset ++ ")"
  | .tooManyDigits count =>
    "Exceeds the limit (" ++ toString maxDigits ++ " digits) for integer string conversion: value has " ++
      toString count ++ " digits; use sys.set_int_max_str_digits() to increase the limit"

/-- The unread part of a text and its offset. -/
structure Input where
  pos : Nat
  rest : List Char

def Input.skip (n : Nat) (i : Input) : Input := ⟨i.pos + n, i.rest.drop n⟩

/-- White space between the parts of a JSON text. -/
def isSpace (c : Char) : Bool := c == ' ' || c == '\t' || c == '\n' || c == '\r'

def Input.trim (i : Input) : Input := i.skip (i.rest.takeWhile isSpace).length

def hex4? (a b c d : Char) : Option Nat :=
  let digits := [a, b, c, d]
  if digits.all Text.Hex.isDigit then some (Text.Hex.ofDigits 16 digits) else none

def simpleEscape? : Char → Option Char
  | '"' => some '"'
  | '\\' => some '\\'
  | '/' => some '/'
  | 'b' => some '\x08'
  | 'f' => some '\x0c'
  | 'n' => some '\n'
  | 'r' => some '\r'
  | 't' => some '\t'
  | _ => none

/-- Reads the rest of a string whose opening quote stands at an offset. The characters read so far
are in reverse. -/
def stringFrom (start : Nat) : Nat → List Char → List Char → Except Fault (String × Input)
  | _, _, [] => .error (.malformed .unterminated start)
  | pos, done, '"' :: rest => .ok (String.ofList done.reverse, ⟨pos + 1, rest⟩)
  | _, _, ['\\'] => .error (.malformed .unterminated start)
  | pos, done, '\\' :: 'u' :: a :: b :: c :: d :: '\\' :: 'u' :: e :: f :: g :: h :: next :: rest =>
    match hex4? a b c d with
    | none => .error (.malformed .unicodeEscape (pos + 1))
    | some high =>
      if Text.Encoding.isHigh high then
        match hex4? e f g h with
        | none => .error (.malformed .unicodeEscape (pos + 7))
        | some low =>
          if Text.Encoding.isLow low then
            stringFrom start (pos + 12) (Text.Encoding.pairChar high low :: done) (next :: rest)
          else
            stringFrom start (pos + 6) (Text.Encoding.charOf high :: done)
              ('\\' :: 'u' :: e :: f :: g :: h :: next :: rest)
      else
        stringFrom start (pos + 6) (Text.Encoding.charOf high :: done)
          ('\\' :: 'u' :: e :: f :: g :: h :: next :: rest)
  | pos, done, '\\' :: 'u' :: a :: b :: c :: d :: next :: rest =>
    match hex4? a b c d with
    | none => .error (.malformed .unicodeEscape (pos + 1))
    | some n => stringFrom start (pos + 6) (Text.Encoding.charOf n :: done) (next :: rest)
  | pos, _, '\\' :: 'u' :: _ => .error (.malformed .unicodeEscape (pos + 1))
  | pos, done, '\\' :: c :: rest =>
    match simpleEscape? c with
    | some e => stringFrom start (pos + 2) (e :: done) rest
    | none => .error (.malformed .escape pos)
  | pos, done, c :: rest =>
    if c.toNat < 0x20 then .error (.malformed .control pos)
    else stringFrom start (pos + 1) (c :: done) rest
termination_by _ _ rest => rest.length

def digitsValue (cs : List Char) : Nat := cs.foldl (fun n c => n * 10 + (c.toNat - 48)) 0

/-- The digits that a number literal begins with; after a zero there are no more. -/
def wholePart : List Char → List Char
  | '0' :: _ => ['0']
  | cs => cs.takeWhile Char.isDigit

/-- The fraction of a number literal, with the number of characters it takes. -/
def fractionPart : List Char → List Char × Nat
  | '.' :: rest =>
    let digits := rest.takeWhile Char.isDigit
    if digits.isEmpty then ([], 0) else (digits, digits.length + 1)
  | _ => ([], 0)

/-- The digits of an exponent after a number of other characters, with the number of all of them. -/
def exponentDigits (negative : Bool) (before : Nat) (cs : List Char) : Int × Nat :=
  let digits := cs.takeWhile Char.isDigit
  if digits.isEmpty then (0, 0)
  else
    let n : Int := digitsValue (digits.dropWhile (· == '0') |>.take 9)
    (if negative then -n else n, before + digits.length)

/-- The exponent behind its mark, with the number of characters it takes together with the mark. -/
def signedExponent : List Char → Int × Nat
  | '-' :: rest => exponentDigits true 2 rest
  | '+' :: rest => exponentDigits false 2 rest
  | rest => exponentDigits false 1 rest

/-- The exponent of a number literal, with the number of characters it takes. -/
def exponentPart : List Char → Int × Nat
  | e :: rest => if e != 'e' && e != 'E' then (0, 0) else signedExponent rest
  | [] => (0, 0)

/-- Reads a number literal whose sign was read. -/
def unsigned? (negative : Bool) (i : Input) : Option (Except Fault (Value × Input)) :=
  let whole := wholePart i.rest
  if whole.isEmpty then none
  else
    let (fraction, fractionSize) := fractionPart (i.rest.drop whole.length)
    let (exponent, exponentSize) := exponentPart (i.rest.drop (whole.length + fractionSize))
    let next := i.skip (whole.length + fractionSize + exponentSize)
    if fractionSize == 0 && exponentSize == 0 then
      if whole.length > maxDigits then some (.error (.tooManyDigits whole.length))
      else
        let n : Int := digitsValue whole
        some (.ok (.int (if negative then -n else n), next))
    else
      let x := Decimal.ofDecimal negative (digitsValue (whole ++ fraction)) (exponent - fraction.length)
      some (.ok (.float x, next))

def number? (i : Input) : Option (Except Fault (Value × Input)) :=
  match i.rest with
  | '-' :: _ => unsigned? true (i.skip 1)
  | _ => unsigned? false i

/-- The words a JSON text may hold besides strings and numbers. -/
def literals : List (String × Value) :=
  [("null", .null), ("true", .bool true), ("false", .bool false), ("NaN", .float Decimal.notANumber),
    ("Infinity", .float Decimal.infinity), ("-Infinity", .float (-Decimal.infinity))]

def scalar (i : Input) : Except Fault (Value × Input) :=
  match literals.find? fun (word, _) => word.toList.isPrefixOf i.rest with
  | some (word, v) => .ok (v, i.skip word.length)
  | none => (number? i).getD (.error (.malformed .value i.pos))

mutual

/-- Reads one value. Every nested value begins further on, so fuel for every character suffices. -/
def value : Nat → Input → Except Fault (Value × Input)
  | 0, i => .error (.malformed .value i.pos)
  | fuel + 1, i =>
    match i.rest with
    | '"' :: rest => do
      let (s, next) ← stringFrom i.pos (i.pos + 1) [] rest
      return (.text s, next)
    | '[' :: _ =>
      let inner := (i.skip 1).trim
      if inner.rest.head? == some ']' then .ok (.list [], inner.skip 1)
      else do
        let (items, next) ← items fuel inner
        return (.list items, next)
    | '\x7b' :: _ =>
      let inner := (i.skip 1).trim
      if inner.rest.head? == some '\x7d' then .ok (.table [], inner.skip 1)
      else do
        let (fields, next) ← fields fuel [] inner
        return (.table fields, next)
    | _ => scalar i

def items : Nat → Input → Except Fault (List Value × Input)
  | 0, i => .error (.malformed .value i.pos)
  | fuel + 1, i => do
    let (v, next) ← value fuel i
    let next := next.trim
    match next.rest with
    | ']' :: _ => return ([v], next.skip 1)
    | ',' :: _ =>
      let (more, next) ← items fuel (next.skip 1).trim
      return (v :: more, next)
    | _ => throw (.malformed .comma next.pos)

def fields : Nat → Fields → Input → Except Fault (Fields × Input)
  | 0, _, i => .error (.malformed .value i.pos)
  | fuel + 1, done, i => do
    match i.rest with
    | '"' :: rest =>
      let (key, next) ← stringFrom i.pos (i.pos + 1) [] rest
      let next := next.trim
      if next.rest.head? != some ':' then throw (.malformed .colon next.pos)
      let (v, next) ← value fuel (next.skip 1).trim
      let next := next.trim
      let done := Table.set key v done
      match next.rest with
      | '\x7d' :: _ => return (done, next.skip 1)
      | ',' :: _ => fields fuel done (next.skip 1).trim
      | _ => throw (.malformed .comma next.pos)
    | _ => throw (.malformed .propertyName i.pos)

end

/-- Reads one value with nothing but white space around it. -/
def document (text : List Char) : Except Fault Value := do
  let (v, next) ← value (text.length + 1) (Input.trim ⟨0, text⟩)
  let next := next.trim
  if next.rest.isEmpty then return v else throw (.malformed .extraData next.pos)

/-- Reads a JSON text, which must not begin with a byte order mark. -/
def parse (text : List Char) : Except Fault Value :=
  if text.head? == some '\uFEFF' then .error (.malformed .byteOrderMark 0) else document text

/-- Reads a JSON text given as bytes. The refusal comes with its words. -/
def parseBytes (bytes : List UInt8) : Except String Value :=
  match Text.Encoding.read bytes with
  | .error fault => .error fault.message
  | .ok text => (document text).mapError (·.message text)

end LiveLint.Json
