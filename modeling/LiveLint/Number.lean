import LiveLint.Decimal

/-!
# Numbers

Settings, times and confidences are whole numbers of any size, truth values, which count as one and
zero, or doubles. Comparisons between the kinds are exact; arithmetic that mixes whole numbers with
doubles is done in doubles.
-/

namespace LiveLint

/-- A whole number, a truth value that counts as one or zero, or a double. -/
inductive Number where
  | int (n : Int)
  | flag (b : Bool)
  | float (x : Float)
  deriving Repr, Inhabited

namespace Number

/-- The whole number that a number is by its kind. -/
def whole? : Number → Option Int
  | .int n => some n
  | .flag b => some b.toInt
  | .float _ => none

def toFloat : Number → Float
  | .int n => Decimal.ofInt n
  | .flag b => if b then 1 else 0
  | .float x => x

/-- Whether a number is beyond the range of doubles although it is whole. -/
def overflows : Number → Bool
  | .int n => (Decimal.ofInt n).isInf
  | _ => false

/-- Order of an integer and a double, none if the double is no number. -/
def compareInt (n : Int) (x : Float) : Option Ordering :=
  match Decimal.decode x with
  | .notANumber => none
  | .infinite negative => some (if negative then .gt else .lt)
  | .finite negative m e =>
    let num : Int := if negative then -(m * Decimal.twoTo e.toNat : Nat) else (m * Decimal.twoTo e.toNat : Nat)
    some (compare (n * (Decimal.twoTo (-e).toNat : Nat)) num)

def order (a b : Number) : Option Ordering :=
  match a.whole?, b.whole? with
  | some m, some n => some (compare m n)
  | some m, none => compareInt m b.toFloat
  | none, some n => (compareInt n a.toFloat).map Ordering.swap
  | none, none =>
    let x := a.toFloat
    let y := b.toFloat
    if x < y then some .lt else if x > y then some .gt else if x == y then some .eq else none

def lt (a b : Number) : Bool := order a b == some .lt

def le (a b : Number) : Bool :=
  match order a b with
  | some .lt | some .eq => true
  | _ => false

instance : LT Number := ⟨fun a b => lt a b = true⟩

instance : LE Number := ⟨fun a b => le a b = true⟩

instance : DecidableLT Number := fun a b => inferInstanceAs (Decidable (lt a b = true))

instance : DecidableLE Number := fun a b => inferInstanceAs (Decidable (le a b = true))

private def mixed (ints : Int → Int → Int) (floats : Float → Float → Float) (a b : Number) : Number :=
  match a.whole?, b.whole? with
  | some m, some n => .int (ints m n)
  | _, _ => .float (floats a.toFloat b.toFloat)

instance : Add Number := ⟨mixed (· + ·) (· + ·)⟩

instance : Sub Number := ⟨mixed (· - ·) (· - ·)⟩

instance : Mul Number := ⟨mixed (· * ·) (· * ·)⟩

/-- Division always yields a double. -/
instance : Div Number := ⟨fun a b => .float (a.toFloat / b.toFloat)⟩

instance (n : Nat) : OfNat Number n := ⟨.int n⟩

/-- The shortest text that reads back; doubles keep their point, and truth values their words. -/
def text : Number → String
  | .int n => toString n
  | .flag b => if b then "True" else "False"
  | .float x => Decimal.text x

def fixed (places : Nat) (a : Number) : String := Decimal.fixed places a.toFloat

/-- Rounding to decimal places; whole numbers stay as they are. -/
def round (places : Nat) : Number → Number
  | .float x => .float (Decimal.round places x)
  | .flag b => .int b.toInt
  | .int n => .int n

/-- More than anything that is counted. -/
def beyondCounts : Int := Decimal.twoTo 1024

/-- The quotient of a number's value by one, given a rule for division. What is infinite or no number
counts as more than anything that is counted. -/
private def wholeBy (divide : Int → Int → Int) (a : Number) : Int :=
  match a.whole? with
  | some n => n
  | none =>
    match Decimal.decode a.toFloat with
    | .finite negative m e =>
      let num : Int := (m * Decimal.twoTo e.toNat : Nat)
      divide (if negative then -num else num) (Decimal.twoTo (-e).toNat : Nat)
    | .infinite negative => if negative then -beyondCounts else beyondCounts
    | .notANumber => beyondCounts

/-- The largest whole number that is not above a number. -/
def floor : Number → Int := wholeBy Int.fdiv

/-- The least whole number that is not below a number. -/
def ceil : Number → Int := wholeBy fun num den => -Int.fdiv (-num) den

/-- The value of a number, whatever its kind: a fraction in lowest terms, or none. -/
inductive Exact where
  | fraction (num : Int) (den : Nat)
  | infinite (negative : Bool)
  | notANumber
  deriving DecidableEq, Repr, Hashable

/-- The value of a number. Two numbers have the same one if neither is less than the other. -/
def exact (a : Number) : Exact :=
  match a.whole? with
  | some n => .fraction n 1
  | none =>
    match Decimal.decode a.toFloat with
    | .notANumber => .notANumber
    | .infinite negative => .infinite negative
    | .finite negative m e =>
      let num := m * Decimal.twoTo e.toNat
      let den := Decimal.twoTo (-e).toNat
      let common := Nat.gcd num den
      .fraction (if negative then -(num / common : Nat) else (num / common : Nat)) (den / common)

/-- How many of the numbers from zero on are below a number; of what is no number, none are. -/
def countBelow (a : Number) : Nat := if a.toFloat.isNaN then 0 else a.ceil.toNat

def general (a : Number) : String := Decimal.general a.toFloat

end Number

end LiveLint
