import LiveLint.Fault
import LiveLint.Text.Numeral

/-!
# Reading numbers

Numbers from values of other types: texts are read, truth values count as one and zero.
-/

namespace LiveLint

/-- The double a number stands for; a whole number beyond all doubles stands for none. -/
def Number.real (n : Number) : Except Fault Float :=
  if n.overflows then .error .numberTooLarge else .ok n.toFloat

/-- The double a value stands for. -/
def Value.real : Value → Except Fault Float
  | .text s =>
    match Text.Numeral.real? s.toList with
    | some x => .ok x
    | none => .error (.unacceptable (.realNumber s))
  | v =>
    match v.number? with
    | some n => n.real
    | none => .error (.mistyped (.notNumber v.typeName))

def Text.Numeral.maxDigits : Nat := 4300

def Text.Numeral.whole (text : String) : Except Fault Int :=
  match Text.Numeral.whole? text.toList with
  | none => .error (.unacceptable (.wholeNumber text))
  | some n =>
    let count := (Text.Numeral.core text.toList).countP Char.isDigit
    if maxDigits < count then .error (.unacceptable (.tooManyDigits count)) else .ok n

/-- The whole number a number has before its point. -/
def Number.cut (n : Number) : Int := if 0 ≤ n then n.floor else n.ceil

def Value.cut : Value → Except Fault Int
  | .text s => Text.Numeral.whole s
  | v =>
    match v.number? with
    | some n => .ok n.cut
    | none => .error (.mistyped (.notWhole v.typeName))

end LiveLint
