import LiveLint.Decimal
import LiveLint.Text.Basic
import LiveLint.Text.Word

/-!
# Numerals

Numbers as people write them: blanks around them, a sign, digits of any script, and single bars
between digits.
-/

namespace LiveLint.Text.Numeral

/-- Digits of every script as ASCII digits, blanks as spaces, and a question mark for what else is
not ASCII. -/
def unify (c : Char) : Char :=
  match digitValue? c with
  | some d => Char.ofNat (48 + d)
  | none => if c.toNat < 128 then c else if isBlank c then ' ' else '?'

/-- The blanks of ASCII that may surround a numeral. -/
def isSpace (c : Char) : Bool := (9 ≤ c.toNat && c.toNat ≤ 13) || c == ' '

def core (cs : List Char) : List Char :=
  (((cs.map unify).dropWhile isSpace).reverse.dropWhile isSpace).reverse

/-- Removes bars, each of which must stand between two digits; `before` tells whether a digit came
just before. -/
def withoutBars : Bool → List Char → Option (List Char)
  | _, [] => some []
  | before, '_' :: c :: rest =>
    if before && c.isDigit then (withoutBars true rest).map (c :: ·) else none
  | _, c :: rest => if c == '_' then none else (withoutBars c.isDigit rest).map (c :: ·)

def signed : List Char → Bool × List Char
  | '-' :: rest => (true, rest)
  | '+' :: rest => (false, rest)
  | rest => (false, rest)

def ofDigits (digits : List Char) : Nat := digits.foldl (fun n c => n * 10 + (c.toNat - 48)) 0

def whole? (cs : List Char) : Option Int :=
  match withoutBars false (core cs) with
  | none => none
  | some cs =>
    let (negative, digits) := signed cs
    if digits.isEmpty || !digits.all Char.isDigit then none
    else
      let n : Int := ofDigits digits
      some (if negative then -n else n)

/-- The exponent a numeral ends with, zero if nothing is left. -/
def exponent? : List Char → Option Int
  | [] => some 0
  | e :: rest =>
    if e != 'e' && e != 'E' then none
    else
      let (negative, digits) := signed rest
      if digits.isEmpty || !digits.all Char.isDigit then none
      else
        let n : Int := ofDigits ((digits.dropWhile (· == '0')).take 9)
        some (if negative then -n else n)

/-- A positive real number: digits with a point among them, then perhaps an exponent. -/
def magnitude? (negative : Bool) (cs : List Char) : Option Float :=
  let whole := cs.takeWhile Char.isDigit
  let rest := cs.drop whole.length
  let (fraction, rest) :=
    match rest with
    | '.' :: rest => (rest.takeWhile Char.isDigit, rest.dropWhile Char.isDigit)
    | rest => ([], rest)
  if whole.isEmpty && fraction.isEmpty then none
  else
    (exponent? rest).map fun e =>
      Decimal.ofDecimal negative (ofDigits (whole ++ fraction)) (e - fraction.length)

/-- A real number, or one of the words for what is not finite. -/
def real? (cs : List Char) : Option Float :=
  match withoutBars false (core cs) with
  | none => none
  | some cs =>
    let (negative, rest) := signed cs
    let word := String.ofList (rest.map Char.toLower)
    if word == "inf" || word == "infinity" then
      some (if negative then -Decimal.infinity else Decimal.infinity)
    else if word == "nan" then some Decimal.notANumber
    else magnitude? negative rest

end LiveLint.Text.Numeral
