import LiveLint.Moment

/-!
# Order of moments

What depends on time relies on little about moments: their order is transitive, and of two moments that
are in order with themselves one comes before the other or not. Doubles are such moments. A double that
is no number is not in order with itself; the sum of two doubles is a number when both come after minus
infinity.
-/

namespace LiveLint

/-- The order of moments is total on those that are in order with themselves. -/
class Moment.Lawful (τ : Type) [Moment τ] : Prop where
  trans : ∀ {a b c : τ}, le a b = true → le b c = true → le a c = true
  self_of_le : ∀ {a b : τ}, le a b = true → le b b = true
  lt_iff : ∀ {a b : τ}, le a a = true → le b b = true → (lt a b = true ↔ le b a = false)

namespace Double

open Float.Model UnpackedFloat

/-- Where an unpacked double stands among the numbers: its kind, its exponent and its mantissa, the last
two turned round for negative numbers. -/
def place : UnpackedFloat → Option (Int × Int × Int)
  | .notANumber => none
  | .infinity .negative => some (-2, 0, 0)
  | .finite .negative m e _ => some (-1, -e, -m)
  | .zero _ => some (0, 0, 0)
  | .finite .positive m e _ => some (1, e, m)
  | .infinity .positive => some (2, 0, 0)

/-- The order of places: by kind, then by exponent, then by mantissa. -/
def order : Int × Int × Int → Int × Int × Int → Ordering :=
  compareLex (compareOn (·.1)) (compareLex (compareOn (·.2.1)) (compareOn (·.2.2)))

instance : Std.TransCmp order := inferInstanceAs (Std.TransCmp (compareLex _ _))

theorem order_self (x : Int × Int × Int) : order x x = .eq := Std.ReflCmp.compare_self

theorem compare_neg (a b : Int) : compare (-a) (-b) = (compare a b).swap := by
  rcases Int.lt_trichotomy a b with less | rfl | more
  · rw [Int.compare_eq_lt.2 less, Int.compare_eq_gt.2 (Int.neg_lt_neg less)]
    rfl
  · rw [Int.compare_eq_eq.2 rfl, Int.compare_eq_eq.2 rfl]
    rfl
  · rw [Int.compare_eq_gt.2 more, Int.compare_eq_lt.2 (Int.neg_lt_neg more)]
    rfl

theorem compare_natCast (m n : Nat) : compare (m : Int) (n : Int) = compare m n := by
  rcases Nat.lt_trichotomy m n with less | rfl | more
  · rw [Nat.compare_eq_lt.2 less, Int.compare_eq_lt.2 (Int.ofNat_lt.2 less)]
  · rw [Nat.compare_eq_eq.2 rfl, Int.compare_eq_eq.2 rfl]
  · rw [Nat.compare_eq_gt.2 more, Int.compare_eq_gt.2 (Int.ofNat_lt.2 more)]

theorem order_positive (e e' : Int) (m m' : Nat) :
    order (1, e, m) (1, e', m') = (compare e e').then (compare m m') := by
  rw [← compare_natCast]
  rfl

theorem order_negative (e e' : Int) (m m' : Nat) :
    order (-1, -e, -m) (-1, -e', -m') = ((compare e e').then (compare m m')).swap := by
  rw [Ordering.swap_then, ← compare_neg, ← compare_natCast, ← compare_neg]
  rfl

/-- Unpacked doubles are compared by their places, and not at all if one is no number. -/
theorem compare_eq (a b : UnpackedFloat) :
    a.compare b = (place a).bind fun x => (place b).map (order x) := by
  cases a with
  | notANumber => rfl
  | infinity s =>
    cases b with
    | notANumber => cases s <;> rfl
    | infinity s' => cases s <;> cases s' <;> rfl
    | zero s' => cases s <;> rfl
    | finite s' => cases s <;> cases s' <;> rfl
  | zero s =>
    cases b with
    | notANumber => rfl
    | infinity s' => cases s' <;> rfl
    | zero s' => rfl
    | finite s' => cases s' <;> rfl
  | finite s m e =>
    cases b with
    | notANumber => cases s <;> rfl
    | infinity s' => cases s <;> cases s' <;> rfl
    | zero s' => cases s <;> rfl
    | finite s' m' e' =>
      cases s <;> cases s'
      case negative.negative => exact congrArg some (order_negative e e' m m').symm
      case positive.positive => exact congrArg some (order_positive e e' m m').symm
      all_goals rfl

/-- A double as it stands among the numbers, if it is one. -/
def spot (a : Float) : Option (Int × Int × Int) := place a.toModel.unpack

theorem le_iff (a b : Float) :
    Moment.le a b = true ↔ ∃ x y, spot a = some x ∧ spot b = some y ∧ (order x y).isLE = true := by
  have unpacked : Moment.le a b = a.toModel.unpack.le b.toModel.unpack := by
    change decide (decide (_ = true) = true) = _
    rw [Bool.decide_eq_true, Bool.decide_eq_true]
    rfl
  rw [unpacked, UnpackedFloat.le, compare_eq]
  unfold spot
  cases place a.toModel.unpack <;> cases place b.toModel.unpack <;> simp

theorem lt_iff_compare (a b : Float) :
    Moment.lt a b = true ↔ a.toModel.unpack.compare b.toModel.unpack = some .lt := by
  have unpacked : Moment.lt a b = a.toModel.unpack.lt b.toModel.unpack := by
    change decide (decide (_ = true) = true) = _
    rw [Bool.decide_eq_true, Bool.decide_eq_true]
    rfl
  rw [unpacked, UnpackedFloat.lt, beq_iff_eq]

theorem lt_iff (a b : Float) :
    Moment.lt a b = true ↔ ∃ x y, spot a = some x ∧ spot b = some y ∧ order x y = .lt := by
  rw [lt_iff_compare, compare_eq]
  unfold spot
  cases place a.toModel.unpack <;> cases place b.toModel.unpack <;> simp

instance : Moment.Lawful Float where
  trans := by
    intro a b c first second
    obtain ⟨x, y, left, middle, below⟩ := (le_iff a b).1 first
    obtain ⟨y', z, middle', right, above⟩ := (le_iff b c).1 second
    obtain rfl := Option.some.inj (middle.symm.trans middle')
    exact (le_iff a c).2 ⟨x, z, left, right, Std.TransCmp.isLE_trans below above⟩
  self_of_le := by
    intro a b le
    obtain ⟨-, y, -, right, -⟩ := (le_iff a b).1 le
    exact (le_iff b b).2 ⟨y, y, right, right, by simp [order_self]⟩
  lt_iff := by
    intro a b left right
    obtain ⟨x, -, here, -, -⟩ := (le_iff a a).1 left
    obtain ⟨y, -, there, -, -⟩ := (le_iff b b).1 right
    have swapped : order y x = (order x y).swap := Std.OrientedCmp.eq_swap
    have before : Moment.lt a b = true ↔ order x y = .lt := by simp [lt_iff, here, there]
    have after : Moment.le b a = true ↔ (order y x).isLE = true := by simp [le_iff, here, there]
    rw [Bool.eq_false_iff, ne_eq, before, after, swapped]
    cases order x y <;> simp

/-- Only an exponent of all ones with a mantissa that is not zero is unpacked to no number. -/
theorem components_of_unpack {b : BitVec Format.binary64.numBits}
    (none : UnpackedFloat.unpack .binary64 b = .notANumber) :
    unpackExponent b = -1#11 ∧ unpackMantissa b ≠ 0#52 := by
  unfold UnpackedFloat.unpack at none
  dsimp only at none
  by_cases ones : unpackExponent b = -1#11
  · refine ⟨ones, fun zero => ?_⟩
    rw [if_pos ones, if_pos zero] at none
    cases none
  · rw [if_neg ones] at none
    by_cases subnormal : unpackExponent b = 0#11
    · rw [if_pos subnormal] at none
      by_cases zero : unpackMantissa b = 0#52
      · rw [dif_pos zero] at none
        cases none
      · rw [dif_neg zero] at none
        cases none
    · rw [if_neg subnormal] at none
      cases none

/-- What is packed from a number is a number. -/
theorem unpack_pack_ne {x : UnpackedFloat} (number : x ≠ .notANumber) :
    (Float.Model.pack x).unpack ≠ .notANumber := by
  intro none
  obtain ⟨ones, nonzero⟩ := components_of_unpack none
  replace ones : unpackExponent (UnpackedFloat.pack .binary64 x) = -1#11 := ones
  replace nonzero : unpackMantissa (UnpackedFloat.pack .binary64 x) ≠ 0#52 := nonzero
  cases x with
  | notANumber => exact number rfl
  | infinity s => exact nonzero unpackMantissa_packComponents
  | zero s => exact absurd (unpackExponent_packComponents.symm.trans ones) (by decide)
  | finite s m e positive =>
    rw [UnpackedFloat.pack.eq_def] at ones nonzero
    dsimp only at ones nonzero
    split at ones
    · next large =>
      rw [if_pos large] at nonzero
      exact nonzero unpackMantissa_packComponents
    · next small =>
      split at ones
      · have exponent := congrArg BitVec.toNat (unpackExponent_packComponents.symm.trans ones)
        have bound : (e + 1023 + 52).toNat + 1 < 2048 := Nat.lt_of_not_le small
        replace exponent : (e + 1023 + 52).toNat % 2048 = 2047 := exponent
        omega
      · exact absurd (unpackExponent_packComponents.symm.trans ones) (by decide)

theorem roundWithAccuracy_ne (spec : Format) (s : Sign) (m : Nat) (e : Int) (a : Accuracy) :
    roundWithAccuracy spec s m e a ≠ .notANumber := by
  have rounded : ∀ (m : Nat) (e : Int), (if zero : m = 0 then UnpackedFloat.zero s
      else .finite s m e (Nat.pos_of_ne_zero zero)) ≠ .notANumber := by
    intro m e
    by_cases zero : m = 0
    · rw [dif_pos zero]
      nofun
    · rw [dif_neg zero]
      nofun
  exact rounded _ _

theorem normalize_ne (spec : Format) (m e : Int) (s : Sign) :
    UnpackedFloat.normalize spec m e s ≠ .notANumber := by
  unfold UnpackedFloat.normalize
  cases compare m 0 with
  | lt => exact roundWithAccuracy_ne _ _ _ _ _
  | eq => nofun
  | gt => exact roundWithAccuracy_ne _ _ _ _ _

/-- What comes after something is a number, and not minus infinity. -/
theorem ne_of_compare {x a : UnpackedFloat} (less : x.compare a = some .lt) :
    a ≠ .notANumber ∧ a ≠ .infinity .negative := by
  constructor
  case left =>
    rintro rfl
    cases x with
    | infinity s => cases s <;> cases less
    | finite s => cases s <;> cases less
    | _ => cases less
  case right =>
    rintro rfl
    cases x with
    | infinity s => cases s <;> cases less
    | finite s => cases s <;> cases less
    | _ => cases less

theorem add_ne {a b : UnpackedFloat} (left : a ≠ .notANumber ∧ a ≠ .infinity .negative)
    (right : b ≠ .notANumber ∧ b ≠ .infinity .negative) :
    UnpackedFloat.add .binary64 a b ≠ .notANumber := by
  cases a with
  | notANumber => exact absurd rfl left.1
  | infinity s =>
    cases s with
    | negative => exact absurd rfl left.2
    | positive =>
      cases b with
      | notANumber => exact absurd rfl right.1
      | infinity s' =>
        cases s' with
        | negative => exact absurd rfl right.2
        | positive => nofun
      | zero s' => nofun
      | finite s' => nofun
  | zero s =>
    cases b with
    | notANumber => exact absurd rfl right.1
    | infinity s' => nofun
    | zero s' => cases s <;> cases s' <;> nofun
    | finite s' => nofun
  | finite s =>
    cases b with
    | notANumber => exact absurd rfl right.1
    | infinity s' => nofun
    | zero s' => nofun
    | finite s' => exact normalize_ne _ _ _ _

/-- The sum of two doubles is a number if both come after others. -/
theorem le_self_add {a b x y : Float} (first : Moment.lt x a = true)
    (second : Moment.lt y b = true) : Moment.le (a + b) (a + b) = true := by
  have number : (a + b).toModel.unpack ≠ .notANumber :=
    unpack_pack_ne (add_ne (ne_of_compare ((lt_iff_compare _ _).1 first))
      (ne_of_compare ((lt_iff_compare _ _).1 second)))
  obtain ⟨z, placed⟩ : ∃ z, place (a + b).toModel.unpack = some z := by
    cases unpacked : (a + b).toModel.unpack with
    | notANumber => exact absurd unpacked number
    | infinity s => cases s <;> exact ⟨_, rfl⟩
    | zero s => exact ⟨_, rfl⟩
    | finite s => cases s <;> exact ⟨_, rfl⟩
  exact (le_iff _ _).2 ⟨z, z, placed, placed, by simp [order_self]⟩

end Double

end LiveLint
