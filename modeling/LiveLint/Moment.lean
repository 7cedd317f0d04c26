import LiveLint.Value

/-!
# Moments

Points of time, counted in seconds. What depends on time is defined for every type of moments; at
run time they are doubles, or whole numbers and doubles mixed.
-/

namespace LiveLint

/-- Points of time: they can be moved by a duration, compared, and written down. -/
class Moment (τ : Type) extends Add τ where
  /-- The start of time. -/
  zero : τ
  /-- Whether the first moment comes no later than the second. -/
  le : τ → τ → Bool
  /-- Whether the first moment comes before the second. -/
  lt : τ → τ → Bool
  value : τ → Value
  /-- The time in whole seconds. -/
  rounded : τ → String

/-- Doubles as moments. -/
instance : Moment Float where
  zero := 0
  le a b := a ≤ b
  lt a b := a < b
  value := .float
  rounded := Decimal.fixed 0

/-- Numbers as moments. -/
instance : Moment Number where
  zero := .float 0
  le := Number.le
  lt := Number.lt
  value := .ofNumber
  rounded := Number.fixed 0

end LiveLint
