/-!
# Binary floating point as exact numbers

A finite double is a sign, a natural number and a power of two. `decode` reads these off the bits,
and `nearest` finds the double closest to a quotient of natural numbers, a tie going to the even
significand. All decimal reading, printing and rounding goes through the two.
-/

namespace LiveLint.Decimal

def twoTo (n : Nat) : Nat := Nat.pow 2 n

def tenTo (n : Nat) : Nat := Nat.pow 10 n

/-- What a double stands for; a finite one is `significand * 2 ^ exponent` with a sign. -/
inductive Binary where
  | finite (negative : Bool) (significand : Nat) (exponent : Int)
  | infinite (negative : Bool)
  | notANumber
  deriving DecidableEq, Repr

def decode (x : Float) : Binary :=
  let bits : Nat := x.toBits.toNat
  let negative := bits / twoTo 63 == 1
  let exponent : Nat := bits / twoTo 52 % twoTo 11
  let fraction : Nat := bits % twoTo 52
  if exponent == 2047 then
    if fraction == 0 then .infinite negative else .notANumber
  else if exponent == 0 then .finite negative fraction (-1074)
  else .finite negative (fraction + twoTo 52) ((exponent : Int) - 1075)

/-- `num / den` in units of a power of two: the whole part, and whether it is to be rounded up. -/
def quotient (num den : Nat) (exponent : Int) : Nat × Bool :=
  let num := num * twoTo (-exponent).toNat
  let den := den * twoTo exponent.toNat
  let whole := num / den
  let rest := 2 * (num % den)
  (whole, rest > den || (rest == den && whole % 2 == 1))

/-- The exponent of the last bit that a double keeps of `num / den`. -/
def lastExponent (num den : Nat) : Int :=
  let guess : Int := (num.log2 : Int) - den.log2 - 52
  let guess := max guess (-1074)
  if (quotient num den guess).1 ≥ twoTo 53 then guess + 1
  else if (quotient num den guess).1 < twoTo 52 then max (guess - 1) (-1074)
  else guess

/-- The double with the given bits below the sign. -/
def ofMagnitude (negative : Bool) (bits : Nat) : Float :=
  let bits := if bits ≥ 2047 * twoTo 52 then 2047 * twoTo 52 else bits
  Float.ofBits (UInt64.ofNat (if negative then bits + twoTo 63 else bits))

/-- The double nearest to `num / den`; infinite if that lies beyond the largest double. -/
def nearest (negative : Bool) (num den : Nat) : Float :=
  if num == 0 then ofMagnitude negative 0
  else
    let exponent := lastExponent num den
    let (whole, up) := quotient num den exponent
    let whole := if up then whole + 1 else whole
    ofMagnitude negative ((exponent + 1074).toNat * twoTo 52 + whole)

def ofInt (n : Int) : Float := nearest (n < 0) n.natAbs 1

/-- The double nearest to `digits * 10 ^ exponent`. -/
def ofDecimal (negative : Bool) (digits : Nat) (exponent : Int) : Float :=
  if digits == 0 then ofMagnitude negative 0
  else
    let size : Int := ((Nat.toDigits 10 digits).length : Int) + exponent
    if size > 400 then ofMagnitude negative (2047 * twoTo 52)
    else if size < -400 then ofMagnitude negative 0
    else nearest negative (digits * tenTo exponent.toNat) (tenTo (-exponent).toNat)

/-- The value of a double as a fraction, zero for what is not finite. -/
def fraction (x : Float) : Bool × Nat × Nat :=
  match decode x with
  | .finite negative m e => (negative, m * twoTo e.toNat, twoTo (-e).toNat)
  | _ => (false, 0, 1)

def infinity : Float := ofMagnitude false (2047 * twoTo 52)

def notANumber : Float := Float.ofBits 0x7FF8000000000000

/-!
## Shortest decimals

The decimal with the fewest digits that reads back as a given double; among those of that length
the nearest, a tie going to the even last digit.
-/

def fractionLe (a b c d : Nat) : Bool := a * d ≤ c * b

/-- `n * 10 ^ exponent` as a fraction. -/
def scaled (n : Nat) (exponent : Int) : Nat × Nat := (n * tenTo exponent.toNat, tenTo (-exponent).toNat)

/-- The power of ten below `num / den`: the greatest `k` with `10 ^ k ≤ num / den`, for quotients of
at least `10 ^ (-350)`. -/
def decimalExponent (num den : Nat) : Int :=
  ((Nat.toDigits 10 (num * tenTo 350 / den)).length : Int) - 351

/-- The reals that round to a double, over one denominator: the value, the ends of the interval,
and whether the ends belong to it. -/
structure Neighbourhood where
  value : Nat
  low : Nat
  high : Nat
  den : Nat
  closed : Bool

/-- The neighbourhood of a finite double. Below a power of two the distance is halved. -/
def neighbourhood (significand : Nat) (exponent : Int) : Neighbourhood :=
  let unit := twoTo exponent.toNat
  let half := if significand == twoTo 52 && exponent > -1074 then unit else 2 * unit
  { value := 4 * significand * unit
    low := 4 * significand * unit - half
    high := 4 * significand * unit + 2 * unit
    den := 4 * twoTo (-exponent).toNat
    closed := significand % 2 == 0 }

/-- Whether `n * 10 ^ exponent` lies in the neighbourhood. -/
def Neighbourhood.holds (h : Neighbourhood) (n : Nat) (exponent : Int) : Bool :=
  let (num, den) := scaled n exponent
  if h.closed then num * h.den ≥ h.low * den && num * h.den ≤ h.high * den
  else num * h.den > h.low * den && num * h.den < h.high * den

/-- The better of the two multiples of `10 ^ exponent` next to the value, if one reads back. -/
def Neighbourhood.candidate? (h : Neighbourhood) (exponent : Int) : Option Nat :=
  let (num, den) := scaled 1 exponent
  let down := h.value * den / (h.den * num)
  match h.holds down exponent && down > 0, h.holds (down + 1) exponent with
  | true, true =>
    let doubled := 2 * (h.value * den % (h.den * num))
    if doubled < h.den * num || (doubled == h.den * num && down % 2 == 0) then some down
    else some (down + 1)
  | true, false => some down
  | false, true => some (down + 1)
  | false, false => none

/-- The first grid with a hit, for digit counts from `count` on. -/
def searchDigits (h : Neighbourhood) (top : Int) : Nat → Nat → Nat × Int
  | 0, _ => (0, 0)
  | fuel + 1, count =>
    match h.candidate? (top - count + 1) with
    | some n => (n, top - count + 1)
    | none => searchDigits h top fuel (count + 1)

/-- Digits and exponent of the shortest decimal of a finite double that is not zero. Seventeen
digits always suffice. -/
def shortest (significand : Nat) (exponent : Int) : Nat × Int :=
  let h := neighbourhood significand exponent
  searchDigits h (decimalExponent h.value h.den) 17 1

/-!
## Number texts

The texts of numbers in messages and results: the shortest decimal that reads back, a fixed number
of places, and a fixed number of significant digits.
-/

/-- The digits of a number with its trailing zeros moved into the exponent. -/
def trimZeros : Nat → Nat → Int → Nat × Int
  | 0, n, exponent => (n, exponent)
  | fuel + 1, n, exponent =>
    if n != 0 && n % 10 == 0 then trimZeros fuel (n / 10) (exponent + 1) else (n, exponent)

/-- Where plain notation ends: decimals between `10 ^ low` and `10 ^ high` are written out, others
with an exponent of at least two digits. -/
structure Style where
  low : Int
  high : Int
  /-- Whether a whole number keeps a zero after the point. -/
  keepsPoint : Bool

/-- Numbers in results: plain from 0.0001 up to ten to the sixteenth, always with a point. -/
def Style.standard : Style := ⟨-4, 16, true⟩

def zeros (n : Nat) : List Char := List.replicate n '0'

/-- Digits with the point after `place` of them. -/
def plain (digits : List Char) (place : Int) (keepsPoint : Bool) : List Char :=
  if place ≤ 0 then '0' :: '.' :: zeros (-place).toNat ++ digits
  else if digits.length ≤ place.toNat then
    digits ++ zeros (place.toNat - digits.length) ++ (if keepsPoint then ['.', '0'] else [])
  else digits.take place.toNat ++ '.' :: digits.drop place.toNat

/-- Digits with the point after the first of them, and an exponent of at least two digits. -/
def withExponent (digits : List Char) (exponent : Int) : List Char :=
  let mantissa :=
    match digits with
    | [] => []
    | [d] => [d]
    | d :: rest => d :: '.' :: rest
  let size := Nat.toDigits 10 exponent.natAbs
  mantissa ++ 'e' :: (if exponent < 0 then '-' else '+') :: zeros (2 - size.length) ++ size

def Style.write (style : Style) (n : Nat) (exponent : Int) : List Char :=
  let (n, exponent) := trimZeros 400 n exponent
  let digits := Nat.toDigits 10 n
  let place : Int := digits.length + exponent
  if style.low < place && place ≤ style.high then plain digits place style.keepsPoint
  else withExponent digits (place - 1)

def signed (negative : Bool) (cs : List Char) : String :=
  String.ofList (if negative then '-' :: cs else cs)

/-- The text of a double with the fewest digits that read back. -/
def text (x : Float) : String :=
  match decode x with
  | .notANumber => "nan"
  | .infinite negative => signed negative ['i', 'n', 'f']
  | .finite negative 0 _ => signed negative ['0', '.', '0']
  | .finite negative m e =>
    let (n, exponent) := shortest m e
    signed negative (Style.standard.write n exponent)

/-- A quotient rounded to the nearest integer, a tie going to the even one. -/
def roundQuotient (num den : Nat) : Nat :=
  let whole := num / den
  let rest := 2 * (num % den)
  if rest > den || (rest == den && whole % 2 == 1) then whole + 1 else whole

/-- A double in units of `10 ^ (-places)`, rounded to the nearest. -/
def units (places : Nat) (x : Float) : Bool × Nat :=
  let (negative, num, den) := fraction x
  (negative, roundQuotient (num * tenTo places) den)

/-- The double nearest to a double rounded to some decimal places. -/
def round (places : Nat) (x : Float) : Float :=
  match decode x with
  | .finite .. =>
    let (negative, n) := units places x
    ofDecimal negative n (-places)
  | _ => x

def fixed (places : Nat) (x : Float) : String :=
  match decode x with
  | .notANumber => "nan"
  | .infinite negative => signed negative ['i', 'n', 'f']
  | .finite .. =>
    let (negative, n) := units places x
    let digits := Nat.toDigits 10 n
    let digits := zeros (places + 1 - digits.length) ++ digits
    let whole := digits.take (digits.length - places)
    signed negative (if places == 0 then whole else whole ++ '.' :: digits.drop whole.length)

/-- A double with six significant digits and no trailing zeros. -/
def general (x : Float) : String :=
  match decode x with
  | .notANumber => "nan"
  | .infinite negative => signed negative ['i', 'n', 'f']
  | .finite negative 0 _ => signed negative ['0']
  | .finite negative m e =>
    let num := m * twoTo e.toNat
    let den := twoTo (-e).toNat
    let last := decimalExponent num den - 5
    let n := roundQuotient (num * tenTo (-last).toNat) (den * tenTo last.toNat)
    signed negative ((⟨-4, 6, false⟩ : Style).write n last)

end LiveLint.Decimal
