import LiveLint.Proofs.Moments
import Mathlib.Algebra.Group.Nat.Defs

/-!
# Doubles of whole numbers

Which whole numbers have no nearest double. Rounding keeps the bits that a double has room for, and a number
is beyond all doubles exactly if it would be rounded to the power of two that follows the largest of them. So
every whole number from zero up to one that has a double has a double as well. No whole number is rounded to
what is no number.
-/

namespace LiveLint

namespace Decimal

open Float.Model UnpackedFloat

/-- Bits with an exponent that is not all ones stand for a zero, or for a number within the range of doubles. -/
theorem unpack_of_exponent {b : BitVec Format.binary64.numBits} (finite : unpackExponent b ≠ -1#11) :
    (∃ s, UnpackedFloat.unpack .binary64 b = .zero s) ∨
      ∃ s m e, ∃ positive : 0 < m,
        UnpackedFloat.unpack .binary64 b = .finite s m e positive ∧ e < 972 := by
  have small : (unpackExponent b).toNat < 2047 := by
    have bound := (unpackExponent b).isLt
    have : (unpackExponent b).toNat ≠ 2047 := fun same => finite (BitVec.eq_of_toNat_eq same)
    change (unpackExponent b).toNat < 2 ^ 11 at bound
    omega
  have exponent : ((unpackExponent b).toNat : Int) - ((1023 : Nat) + (52 : Nat)) < 972 := by omega
  generalize unpacked : UnpackedFloat.unpack .binary64 b = x
  unfold UnpackedFloat.unpack at unpacked
  dsimp only at unpacked
  rw [if_neg finite] at unpacked
  by_cases subnormal : unpackExponent b = BitVec.ofNat _ 0
  · rw [if_pos subnormal] at unpacked
    by_cases empty : unpackMantissa b = BitVec.ofNat _ 0
    · rw [dif_pos empty] at unpacked
      exact Or.inl ⟨_, unpacked.symm⟩
    · rw [dif_neg empty] at unpacked
      refine Or.inr ⟨_, _, _, _, unpacked.symm, ?_⟩
      rw [subnormal]
      decide
  · rw [if_neg subnormal] at unpacked
    exact Or.inr ⟨_, _, _, _, unpacked.symm, exponent⟩

/-- Only an exponent of all ones is unpacked to something infinite. -/
theorem exponent_of_isInf {b : BitVec Format.binary64.numBits}
    (infinite : (UnpackedFloat.unpack .binary64 b).isInf = true) : unpackExponent b = -1#11 := by
  refine Decidable.byContradiction fun finite => ?_
  rcases unpack_of_exponent finite with ⟨s, zero⟩ | ⟨s, m, e, positive, number, -⟩
  · rw [zero] at infinite
    cases infinite
  · rw [number] at infinite
    cases infinite

/-- What is packed from a double with another exponent is not infinite. -/
theorem isInf_pack_unpack {b : BitVec Format.binary64.numBits} (finite : unpackExponent b ≠ -1#11) :
    (Float.Model.pack (UnpackedFloat.unpack .binary64 b)).unpack.isInf = false := by
  rw [Bool.eq_false_iff]
  intro infinite
  have ones :
      unpackExponent (UnpackedFloat.pack .binary64 (UnpackedFloat.unpack .binary64 b)) = -1#11 :=
    exponent_of_isInf infinite
  rcases unpack_of_exponent finite with ⟨s, zero⟩ | ⟨s, m, e, positive, number, bound⟩
  · rw [zero] at ones
    exact absurd (unpackExponent_packComponents.symm.trans ones) (by decide)
  · rw [number, UnpackedFloat.pack.eq_def] at ones
    dsimp only at ones
    split at ones
    · next large =>
      have large : 2048 ≤ (e + 1023 + 52).toNat + 1 := large
      omega
    · split at ones
      · have exponent := congrArg BitVec.toNat (unpackExponent_packComponents.symm.trans ones)
        replace exponent : (e + 1023 + 52).toNat % 2048 = 2047 := exponent
        omega
      · exact absurd (unpackExponent_packComponents.symm.trans ones) (by decide)

/-- The exponent of a magnitude below infinity has bits that are not set. -/
theorem exponent_of_lt {bits : Nat} (small : bits < 2047 * 2 ^ 52) (negative : Bool) :
    @unpackExponent .binary64 (UInt64.ofNat (if negative then bits + 2 ^ 63 else bits)).toBitVec ≠
      -1#11 := by
  intro ones
  have read (n : Nat) : (@unpackExponent .binary64 (UInt64.ofNat n).toBitVec).toNat =
      n % 2 ^ 64 / 2 ^ 52 % 2 ^ 11 := by
    unfold unpackExponent
    rw [BitVec.toNat_cast, BitVec.extractLsb_toNat, Nat.shiftRight_eq_div_pow]
    rfl
  have exponent := congrArg BitVec.toNat ones
  rw [read] at exponent
  replace exponent : _ = 2047 := exponent
  cases negative
  · simp only [Bool.false_eq_true, if_false] at exponent
    omega
  · simp only [if_true] at exponent
    omega

theorem isInf_ofMagnitude (negative : Bool) (bits : Nat) :
    (ofMagnitude negative bits).isInf = decide (2047 * 2 ^ 52 ≤ bits) := by
  unfold ofMagnitude
  dsimp only
  rw [show twoTo 52 = 2 ^ 52 from rfl, show twoTo 63 = 2 ^ 63 from rfl]
  by_cases large : 2047 * 2 ^ 52 ≤ bits
  · rw [if_pos large, decide_eq_true large]
    cases negative <;> rfl
  · rw [if_neg large, decide_eq_false large]
    exact isInf_pack_unpack (exponent_of_lt (Nat.lt_of_not_le large) negative)

theorem isNaN_ofMagnitude (negative : Bool) (bits : Nat) : (ofMagnitude negative bits).isNaN = false := by
  unfold ofMagnitude
  dsimp only
  rw [show twoTo 52 = 2 ^ 52 from rfl, show twoTo 63 = 2 ^ 63 from rfl]
  by_cases large : 2047 * 2 ^ 52 ≤ bits
  · rw [if_pos large]
    cases negative <;> rfl
  · rw [if_neg large]
    have number : UnpackedFloat.unpack .binary64
        (UInt64.ofNat (if negative then bits + 2 ^ 63 else bits)).toBitVec ≠ .notANumber := fun none =>
      exponent_of_lt (Nat.lt_of_not_le large) negative (Double.components_of_unpack none).1
    have packed := Double.unpack_pack_ne number
    change UnpackedFloat.isNaN _ = false
    unfold UnpackedFloat.isNaN
    split
    · next none => exact absurd none packed
    · rfl

/-- A quotient in units of the power of two that fits its size has as many bits as a double keeps. -/
theorem quotient_bounds {num : Nat} (nonzero : num ≠ 0) :
    2 ^ 52 ≤ (quotient num 1 (num.log2 - 52)).1 ∧ (quotient num 1 (num.log2 - 52)).1 < 2 ^ 53 := by
  have low : 2 ^ num.log2 ≤ num := Nat.log2_self_le nonzero
  have high : num < 2 ^ (num.log2 + 1) := Nat.lt_log2_self
  unfold quotient
  dsimp only
  generalize num.log2 = size at low high
  rcases Nat.le_total 52 size with many | few
  · obtain ⟨k, rfl⟩ := Nat.exists_eq_add_of_le many
    rw [show (-(((52 + k : Nat) : Int) - 52)).toNat = 0 by omega,
      show (((52 + k : Nat) : Int) - 52).toNat = k by omega]
    rw [show twoTo 0 = 1 from rfl, show twoTo k = 2 ^ k from rfl, Nat.mul_one, Nat.one_mul]
    have positive : 0 < 2 ^ k := Nat.two_pow_pos k
    rw [Nat.le_div_iff_mul_le positive, Nat.div_lt_iff_lt_mul positive, ← Nat.pow_add, ← Nat.pow_add]
    exact ⟨low, by rwa [show 53 + k = 52 + k + 1 by omega]⟩
  · obtain ⟨k, total⟩ := Nat.exists_eq_add_of_le few
    rw [show (-((size : Int) - 52)).toNat = k by omega, show ((size : Int) - 52).toNat = 0 by omega]
    rw [show twoTo 0 = 1 from rfl, show twoTo k = 2 ^ k from rfl, Nat.mul_one, Nat.div_one, total]
    have positive : 0 < 2 ^ k := Nat.two_pow_pos k
    rw [Nat.pow_add, show 53 = size + 1 + k by omega, Nat.pow_add]
    exact ⟨Nat.mul_le_mul_right _ low, (Nat.mul_lt_mul_right positive).2 high⟩

theorem lastExponent_one {num : Nat} (nonzero : num ≠ 0) : lastExponent num 1 = num.log2 - 52 := by
  obtain ⟨low, high⟩ := quotient_bounds nonzero
  unfold lastExponent
  dsimp only
  rw [show (1 : Nat).log2 = 0 from rfl,
    show max ((num.log2 : Int) - (0 : Nat) - 52) (-1074) = num.log2 - 52 by omega,
    if_neg (by rw [show twoTo 53 = 2 ^ 53 from rfl]; omega),
    if_neg (by rw [show twoTo 52 = 2 ^ 52 from rfl]; omega)]

theorem twoTo_pos (n : Nat) : 0 < twoTo n := Nat.two_pow_pos n

theorem twoTo_add (m n : Nat) : twoTo (m + n) = twoTo m * twoTo n := Nat.pow_add 2 m n

/-- The significand of a number with as many bits as the largest double. It runs over exactly if the number
is at least as close to the next power of two as to the largest double. -/
theorem runs_over_iff {num : Nat} (bits : (quotient num 1 971).1 < 2 ^ 53) :
    2 ^ 53 ≤ (if (quotient num 1 971).2 = true then (quotient num 1 971).1 + 1
        else (quotient num 1 971).1) ↔
      (2 ^ 54 - 1) * twoTo 970 ≤ num := by
  have power : twoTo 971 = twoTo 970 * 2 := by
    rw [show 971 = 970 + 1 from rfl, twoTo_add, show twoTo 1 = 2 from rfl]
  have positive := twoTo_pos 970
  unfold quotient at bits ⊢
  dsimp only at bits ⊢
  simp only [show (-(971 : Int)).toNat = 0 by omega, show (971 : Int).toNat = 971 by omega,
    show twoTo 0 = 1 from rfl, power, Nat.mul_one, Nat.one_mul] at bits ⊢
  generalize twoTo 970 = unit at *
  have parts := Nat.div_add_mod num (unit * 2)
  have small := Nat.mod_lt num (show 0 < unit * 2 by omega)
  generalize num / (unit * 2) = whole at *
  generalize num % (unit * 2) = rest at *
  simp only [Bool.or_eq_true, decide_eq_true_eq, Bool.and_eq_true, beq_iff_eq]
  by_cases full : whole = 2 ^ 53 - 1
  · subst full
    split <;> omega
  · have less : unit * 2 * (whole + 1) ≤ unit * 2 * (2 ^ 53 - 1) := Nat.mul_le_mul_left _ (by omega)
    rw [Nat.mul_add] at less
    split <;> omega

/-- A whole number is beyond all doubles if it is at least as close to the power of two after the largest of
them as to that one. -/
theorem isInf_ofInt (n : Int) : (ofInt n).isInf = decide ((2 ^ 54 - 1) * twoTo 970 ≤ n.natAbs) := by
  unfold ofInt nearest
  generalize n.natAbs = num
  have positive := twoTo_pos 970
  by_cases zero : num = 0
  · rw [zero, if_pos (beq_self_eq_true 0), isInf_ofMagnitude, decide_eq_decide]
    omega
  · rw [if_neg (by simpa using zero)]
    dsimp only
    rw [lastExponent_one zero, isInf_ofMagnitude, decide_eq_decide, show twoTo 52 = 2 ^ 52 from rfl]
    have low : twoTo num.log2 ≤ num := Nat.log2_self_le zero
    have high : num < twoTo (num.log2 + 1) := Nat.lt_log2_self
    have grows {j k : Nat} (le : j ≤ k) : twoTo j ≤ twoTo k := Nat.pow_le_pow_right (by decide) le
    obtain ⟨few, many⟩ := quotient_bounds zero
    -- A number is judged by its size, and only at the size of the largest double by its bits.
    rcases Nat.lt_trichotomy num.log2 1023 with small | same | large
    · have below : num < twoTo (970 + 53) := Nat.lt_of_lt_of_le high (grows small)
      rw [twoTo_add, show twoTo 53 = 2 ^ 53 from rfl] at below
      split <;> omega
    · rw [same, show ((1023 : Nat) : Int) - 52 = 971 by omega] at few many ⊢
      rw [← runs_over_iff many]
      omega
    · have above : twoTo (970 + 54) ≤ num := Nat.le_trans (grows large) low
      rw [twoTo_add, show twoTo 54 = 2 ^ 54 from rfl] at above
      split <;> omega

theorem isNaN_ofInt (n : Int) : (ofInt n).isNaN = false := by
  unfold ofInt nearest
  split
  · exact isNaN_ofMagnitude _ _
  · exact isNaN_ofMagnitude _ _

end Decimal

namespace Number

theorem overflows_int_iff (n : Int) :
    (Number.int n).overflows = true ↔ (2 ^ 54 - 1) * Decimal.twoTo 970 ≤ n.natAbs := by
  change (Decimal.ofInt n).isInf = true ↔ _
  rw [Decimal.isInf_ofInt, decide_eq_true_iff]

/-- Numbers that doubles can say exactly are not beyond their range. -/
theorem overflows_of_small {n : Int} (small : n.natAbs < 2 ^ 54 - 1) : (Number.int n).overflows = false := by
  rw [Bool.eq_false_iff, ne_eq, overflows_int_iff, Nat.not_le]
  exact Nat.lt_of_lt_of_le small (Nat.le_mul_of_pos_right _ (Decimal.twoTo_pos 970))

/-- Below a whole number there are as many numbers from zero on as it says. -/
theorem countBelow_of_whole {x : Number} {n : Int} (whole : x.whole? = some n) : x.countBelow = n.toNat := by
  cases x with
  | int m =>
    obtain rfl : m = n := Option.some.inj whole
    unfold countBelow
    rw [show (Number.int m).toFloat.isNaN = false from Decimal.isNaN_ofInt m]
    rfl
  | flag b =>
    obtain rfl : b.toInt = n := Option.some.inj whole
    cases b <;> rfl
  | float x => cases whole

/-- The whole number that a number is by its kind has a double if the number has one. -/
theorem overflows_of_whole {x : Number} {n : Int} (fits : x.overflows = false) (whole : x.whole? = some n) :
    (Number.int n).overflows = false := by
  cases x with
  | int m =>
    cases whole
    exact fits
  | flag b =>
    cases whole
    cases b <;> rfl
  | float x => cases whole

/-- A number that is a double, or a whole number from zero up to a bound. -/
def Within (x : Number) (most : Int) : Prop := ∀ n, x.whole? = some n → 0 ≤ n ∧ n ≤ most

/-- A number within a bound that has a double has a double. -/
theorem Within.overflows {x : Number} {most : Int} (within : x.Within most)
    (bound : (Number.int most).overflows = false) : x.overflows = false := by
  cases x with
  | int n =>
    obtain ⟨low, high⟩ := within n rfl
    rw [Bool.eq_false_iff, ne_eq, overflows_int_iff] at bound ⊢
    omega
  | flag b => rfl
  | float x => rfl

theorem within_float (x : Float) (most : Int) : (Number.float x).Within most := by
  intro n whole
  cases whole

theorem lt_of_whole {x y : Number} {m n : Int} (left : x.whole? = some m) (right : y.whole? = some n) :
    x.lt y = decide (m < n) := by
  unfold lt order
  rw [left, right]
  change (some (compare m n) == some .lt) = _
  rcases Int.lt_trichotomy m n with less | rfl | more
  · rw [Int.compare_eq_lt.2 less, decide_eq_true less]
    rfl
  · simp
  · rw [Int.compare_eq_gt.2 more, decide_eq_false (by omega)]
    rfl

theorem le_of_whole {x y : Number} {m n : Int} (left : x.whole? = some m) (right : y.whole? = some n) :
    x.le y = decide (m ≤ n) := by
  unfold le order
  rw [left, right]
  dsimp only
  rcases Int.lt_trichotomy m n with less | rfl | more
  · rw [Int.compare_eq_lt.2 less, decide_eq_true (by omega)]
  · simp
  · rw [Int.compare_eq_gt.2 more, decide_eq_false (by omega)]

theorem Within.mono {x : Number} {few most : Int} (within : x.Within few) (le : few ≤ most) :
    x.Within most := by
  intro n whole
  obtain ⟨low, high⟩ := within n whole
  exact ⟨low, Int.le_trans high le⟩

/-- Twice a number within any bound is within a bound that it is not above. -/
theorem Within.double {x bound : Number} {any most : Int} (within : x.Within any)
    (limit : bound.whole? = some most) (small : bound.lt (x * 2) = false) : (x * 2).Within most := by
  intro n whole
  rw [lt_of_whole limit whole, decide_eq_false_iff_not] at small
  cases x with
  | int m =>
    obtain rfl : m * 2 = n := Option.some.inj whole
    have := within m rfl
    omega
  | flag b =>
    obtain rfl : b.toInt * 2 = n := Option.some.inj whole
    have := within b.toInt rfl
    omega
  | float x => cases whole

end Number

end LiveLint
