import LiveLint.Value

/-!
# Writing JSON

The compact form of a value has no space between parts, the spread form has a line for each part. In
both, keys keep their order and everything outside printable ASCII is escaped.
-/

namespace LiveLint.Json

def unitEscape (n : Nat) : List Char := '\\' :: 'u' :: Text.hex 4 n

/-- A character inside a string; beyond the basic plane as a pair of surrogates. -/
def escapeChar (c : Char) : List Char :=
  let n := c.toNat
  if c == '"' || c == '\\' then ['\\', c]
  else if c == '\n' then ['\\', 'n']
  else if c == '\r' then ['\\', 'r']
  else if c == '\t' then ['\\', 't']
  else if n == 8 then ['\\', 'b']
  else if n == 12 then ['\\', 'f']
  else if 32 ≤ n && n < 127 then [c]
  else if n < 0x10000 then unitEscape n
  else unitEscape (0xD800 + (n - 0x10000) / 0x400) ++ unitEscape (0xDC00 + (n - 0x10000) % 0x400)

def printText (s : String) : String := String.ofList ('"' :: s.toList.flatMap escapeChar ++ ['"'])

/-- A double; the values that are not finite are written as words. -/
def printFloat (x : Float) : String :=
  match Decimal.decode x with
  | .notANumber => "NaN"
  | .infinite negative => if negative then "-Infinity" else "Infinity"
  | .finite .. => Decimal.text x

mutual

def print : Value → String
  | .null => "null"
  | .bool b => if b then "true" else "false"
  | .int n => toString n
  | .float x => printFloat x
  | .text s => printText s
  | .stamp s => printText s.text
  | .list items => "[" ++ ",".intercalate (printItems items) ++ "]"
  | .table fields => "\x7b" ++ ",".intercalate (printFields fields) ++ "\x7d"

def printItems : List Value → List String
  | [] => []
  | v :: rest => print v :: printItems rest

def printFields : List (String × Value) → List String
  | [] => []
  | (k, v) :: rest => (printText k ++ ":" ++ print v) :: printFields rest

end

/-- A newline and the blanks of a level of indentation. -/
def newLine (level : Nat) : String := "\n" ++ "".pushn ' ' (2 * level)

/-- Parts between brackets, each on a line of its own; brackets without parts stay together. -/
def block (level : Nat) (opening closing : String) (parts : List String) : String :=
  if parts.isEmpty then opening ++ closing
  else
    opening ++ newLine (level + 1) ++ ("," ++ newLine (level + 1)).intercalate parts ++
      newLine level ++ closing

mutual

/-- A value spread over lines, from a level of indentation on. -/
def spread (level : Nat) : Value → String
  | .list items => block level "[" "]" (spreadItems (level + 1) items)
  | .table fields => block level "\x7b" "\x7d" (spreadFields (level + 1) fields)
  | v => print v

def spreadItems (level : Nat) : List Value → List String
  | [] => []
  | v :: rest => spread level v :: spreadItems level rest

def spreadFields (level : Nat) : List (String × Value) → List String
  | [] => []
  | (k, v) :: rest => (printText k ++ ": " ++ spread level v) :: spreadFields level rest

end

end LiveLint.Json
