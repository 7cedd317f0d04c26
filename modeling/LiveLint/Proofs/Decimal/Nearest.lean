import LiveLint.Proofs.Doubles
import Mathlib.Algebra.Order.Field.Power
import Mathlib.Data.Rat.Floor
import Mathlib.Tactic.FieldSimp
import Mathlib.Tactic.Linarith
import Mathlib.Tactic.Positivity
import Mathlib.Tactic.Ring

/-!
# Nearest doubles

A double is nothing but its bits, and its bits are a sign and a magnitude. So it is made from what it is
decoded to: an infinity, the one value that is no number, or a significand and an exponent in their range.

The double nearest to a quotient is the one in whose neighbourhood the quotient lies. The exponent of its
last bit is the only one that leaves as many bits as there is room for, so it is that of the neighbourhood,
except just below a power of two, where it is one less and the significand runs over.
-/

namespace LiveLint.Decimal

open Float.Model UnpackedFloat

/-!
## Doubles and their bits
-/

theorem toNat_unpackExponent (b : BitVec Format.binary64.numBits) :
    (unpackExponent b).toNat = b.toNat / 2 ^ 52 % 2 ^ 11 := by
  unfold unpackExponent
  rw [BitVec.toNat_cast, BitVec.extractLsb_toNat, Nat.shiftRight_eq_div_pow]
  rfl

theorem toNat_unpackMantissa (b : BitVec Format.binary64.numBits) :
    (unpackMantissa b).toNat = b.toNat % 2 ^ 52 := by
  unfold unpackMantissa
  rw [BitVec.toNat_cast, BitVec.extractLsb_toNat]
  rfl

theorem toNat_unpackSign (b : BitVec Format.binary64.numBits) :
    (unpackSign b).toNat = b.toNat / 2 ^ 63 := by
  have small : b.toNat < 2 ^ 64 := b.isLt
  unfold unpackSign
  rw [BitVec.toNat_cast, BitVec.extractLsb_toNat, Nat.shiftRight_eq_div_pow]
  change b.toNat / 2 ^ 63 % 2 ^ 1 = _
  omega

theorem toNat_packComponents (s : BitVec 1) (exponent : BitVec 11) (mantissa : BitVec 52) :
    (s ++ exponent ++ mantissa).toNat = s.toNat * 2 ^ 63 + exponent.toNat * 2 ^ 52 + mantissa.toNat := by
  rw [BitVec.toNat_append, ← Nat.shiftLeft_add_eq_or_of_lt mantissa.isLt, BitVec.toNat_append,
    ← Nat.shiftLeft_add_eq_or_of_lt exponent.isLt, Nat.shiftLeft_eq, Nat.shiftLeft_eq]
  omega

theorem toBitVec_ofBitVec (b : BitVec 1) : (Sign.ofBitVec b).toBitVec = b := by
  revert b
  decide

/-- Bits are made of their parts. -/
theorem packComponents_unpack (b : BitVec Format.binary64.numBits) :
    packComponents .binary64 (Sign.ofBitVec (unpackSign b)) (unpackExponent b) (unpackMantissa b) = b := by
  refine BitVec.eq_of_toNat_eq ?_
  have small : b.toNat < 2 ^ 64 := b.isLt
  have sum := toNat_packComponents (unpackSign b) (unpackExponent b) (unpackMantissa b)
  rw [toNat_unpackSign, toNat_unpackExponent, toNat_unpackMantissa] at sum
  unfold packComponents
  rw [toBitVec_ofBitVec]
  refine Eq.trans sum ?_
  omega

/-- Significands without the leading bit are packed with an exponent of zeros. -/
theorem pack_subnormal (s : Sign) {m : BitVec 52} {e : Int} (least : e = -1074) (positive : 0 < m.toNat) :
    UnpackedFloat.pack .binary64 (.finite s m.toNat e positive) = packComponents .binary64 s 0#11 m := by
  subst least
  have short : m.toNat.log2 < 52 := (Nat.log2_lt (Nat.ne_of_gt positive)).2 m.isLt
  have other : ¬ m.toNat.log2 + 1 = Format.binary64.mantissaBits := by
    change ¬ m.toNat.log2 + 1 = 53
    omega
  rw [UnpackedFloat.pack.eq_def]
  dsimp only
  rw [if_neg (by decide), if_neg other]
  exact congrArg _ (BitVec.ofNat_toNat 52 m)

/-- Significands with the leading bit are packed without it. -/
theorem pack_normal (s : Sign) {m : BitVec 52} {e : BitVec 11} (ones : e ≠ -1#11) (positive : 0 < (1#1 ++ m).toNat) :
    UnpackedFloat.pack .binary64 (.finite s (1#1 ++ m).toNat ((e.toNat : Int) - 1075) positive) =
      packComponents .binary64 s e m := by
  have value : (1#1 ++ m).toNat = 2 ^ 52 + m.toNat := by
    rw [BitVec.toNat_append, ← Nat.shiftLeft_add_eq_or_of_lt m.isLt]
    rfl
  have small := m.isLt
  have leading : (1#1 ++ m).toNat.log2 = 52 := by
    rw [value, Nat.log2_eq_iff (by omega)]
    omega
  have below : e.toNat + 1 < 2 ^ 11 := by
    have bound := e.isLt
    have : e.toNat ≠ 2047 := fun same => ones (BitVec.eq_of_toNat_eq same)
    omega
  have biased : ((e.toNat : Int) - 1075 + 1023 + 52).toNat = e.toNat := by omega
  rw [UnpackedFloat.pack.eq_def]
  change (if 2 ^ 11 ≤ ((e.toNat : Int) - 1075 + 1023 + 52).toNat + 1 then _ else
    if (1#1 ++ m).toNat.log2 + 1 = 53 then _ else _) = _
  have exponent : BitVec.ofNat 11 ((e.toNat : Int) - 1075 + 1023 + 52).toNat = e := by
    rw [biased]
    exact BitVec.ofNat_toNat 11 e
  have mantissa : BitVec.ofNat 52 (1#1 ++ m).toNat = m := by
    refine BitVec.eq_of_toNat_eq ?_
    rw [BitVec.toNat_ofNat, value]
    omega
  rw [biased, if_neg (Nat.not_le.2 below), leading, if_pos rfl]
  exact congr (congrArg (packComponents .binary64 s) exponent) mantissa

/-- Bits are made of what any of their parts are known to be. -/
theorem packComponents_of_parts {b : BitVec Format.binary64.numBits} {exponent : BitVec 11}
    {mantissa : BitVec 52} (isExponent : unpackExponent b = exponent) (isMantissa : unpackMantissa b = mantissa) :
    packComponents .binary64 (Sign.ofBitVec (unpackSign b)) exponent mantissa = b := by
  subst isExponent isMantissa
  exact packComponents_unpack b

/-- Unpacking loses nothing if there is only one value that is no number. -/
theorem pack_unpack {b : BitVec Format.binary64.numBits} (valid : Format.binary64.Valid b) :
    UnpackedFloat.pack .binary64 (UnpackedFloat.unpack .binary64 b) = b := by
  unfold UnpackedFloat.unpack
  dsimp only
  by_cases ones : unpackExponent b = -1#11
  · rw [if_pos ones]
    by_cases zero : unpackMantissa b = 0#52
    · rw [if_pos zero]
      exact packComponents_of_parts ones zero
    · rw [if_neg zero]
      exact (valid.eq_packedNaN ones zero).symm
  · rw [if_neg ones]
    by_cases subnormal : unpackExponent b = 0#11
    · rw [if_pos subnormal]
      by_cases zero : unpackMantissa b = 0#52
      · rw [dif_pos zero]
        exact packComponents_of_parts subnormal zero
      · rw [dif_neg zero]
        have least : ((unpackExponent b).toNat : Int) - 1075 + 1 = -1074 := by
          rw [subnormal]
          rfl
        exact (pack_subnormal _ least _).trans (packComponents_of_parts subnormal rfl)
    · rw [if_neg subnormal]
      exact (pack_normal _ ones _).trans (packComponents_unpack b)

/-- A double is made of its bits. -/
theorem ofBits_toBits (x : Float) : Float.ofBits x.toBits = x := by
  obtain ⟨⟨bits, valid⟩⟩ := x
  have same : (Float.ofBits bits).toBits = bits := by
    change UInt64.ofBitVec (UnpackedFloat.pack .binary64 (UnpackedFloat.unpack .binary64 bits.toBitVec)) = bits
    rw [pack_unpack valid]
  generalize made : Float.ofBits bits = y at same
  obtain ⟨⟨bits', valid'⟩⟩ := y
  obtain rfl : bits' = bits := same
  exact made

/-- A significand and an exponent in their range: with an exponent that is not the least, the significand
has all bits that there is room for. -/
structure InRange (significand : Nat) (exponent : Int) : Prop where
  short : significand < 2 ^ 53
  least : -1074 ≤ exponent
  most : exponent ≤ 971
  full : exponent = -1074 ∨ 2 ^ 52 ≤ significand

def ofParts (negative : Bool) (significand : Nat) (exponent : Int) : Float :=
  ofMagnitude negative ((exponent + 1074).toNat * twoTo 52 + significand)

/-- Bits with an exponent of ones and some fraction are those of the one value that is no number. -/
theorem eq_notANumber {x : Float} (ones : x.toBits.toNat / 2 ^ 52 % 2 ^ 11 = 2047)
    (nonzero : x.toBits.toNat % 2 ^ 52 ≠ 0) : x = notANumber := by
  have exponent : @unpackExponent .binary64 x.toBits.toBitVec = -1#11 :=
    BitVec.eq_of_toNat_eq ((toNat_unpackExponent _).trans ones)
  have fraction : @unpackMantissa .binary64 x.toBits.toBitVec ≠ 0#52 := by
    intro zero
    exact nonzero ((toNat_unpackMantissa _).symm.trans (congrArg BitVec.toNat zero))
  have bits : x.toBits = 0x7FF8000000000000 :=
    UInt64.toBitVec_inj.1 (x.toModel.valid.eq_packedNaN exponent fraction)
  rw [← ofBits_toBits x, bits]
  rfl

/-- A double is its sign and its magnitude. -/
theorem eq_ofMagnitude {x : Float} (number : x.toBits.toNat % 2 ^ 63 ≤ 2047 * 2 ^ 52) :
    x = ofMagnitude (x.toBits.toNat / 2 ^ 63 == 1) (x.toBits.toNat % 2 ^ 63) := by
  have small : x.toBits.toNat < 2 ^ 64 := x.toBits.toNat_lt
  have made := ofBits_toBits x
  have whole : UInt64.ofNat x.toBits.toNat = x.toBits := UInt64.ofNat_toNat
  generalize x.toBits = bits at *
  generalize bits.toNat = n at *
  unfold ofMagnitude
  rw [show twoTo 52 = 2 ^ 52 from rfl, show twoTo 63 = 2 ^ 63 from rfl]
  dsimp only
  have capped : (if n % 2 ^ 63 ≥ 2047 * 2 ^ 52 then 2047 * 2 ^ 52 else n % 2 ^ 63) = n % 2 ^ 63 := by
    split <;> omega
  have signed : (if (n / 2 ^ 63 == 1) = true then n % 2 ^ 63 + 2 ^ 63 else n % 2 ^ 63) = n := by
    simp only [beq_iff_eq]
    split <;> omega
  rw [capped, signed, whole, made]

/-- A double is made of what it is decoded to. -/
theorem decode_cases (x : Float) :
    (decode x = .notANumber ∧ x = notANumber) ∨
      (∃ negative, decode x = .infinite negative ∧ x = ofMagnitude negative (2047 * twoTo 52)) ∨
        ∃ negative m e, decode x = .finite negative m e ∧ InRange m e ∧ x = ofParts negative m e := by
  have made := @eq_ofMagnitude x
  have none := @eq_notANumber x
  have small : x.toBits.toNat < 2 ^ 64 := x.toBits.toNat_lt
  unfold decode
  rw [show twoTo 63 = 2 ^ 63 from rfl, show twoTo 52 = 2 ^ 52 from rfl, show twoTo 11 = 2 ^ 11 from rfl]
  dsimp only
  generalize x.toBits.toNat = bits at *
  simp only [beq_iff_eq]
  split
  · next ones =>
    split
    · next zero =>
      refine Or.inr (Or.inl ⟨_, rfl, ?_⟩)
      have magnitude : bits % 2 ^ 63 = 2047 * 2 ^ 52 := by omega
      rw [magnitude] at made
      exact made (Nat.le_refl _)
    · next nonzero => exact Or.inl ⟨rfl, none ones nonzero⟩
  · next finite =>
    have number := made (by omega)
    split
    · next zeros =>
      refine Or.inr (Or.inr ⟨_, _, _, rfl, ⟨by omega, by omega, by omega, by omega⟩, ?_⟩)
      have magnitude : bits % 2 ^ 63 = ((-1074 : Int) + 1074).toNat * 2 ^ 52 + bits % 2 ^ 52 := by omega
      rw [magnitude] at number
      exact number
    · next nonzero =>
      refine Or.inr (Or.inr ⟨_, _, _, rfl, ⟨by omega, by omega, by omega, by omega⟩, ?_⟩)
      have magnitude : bits % 2 ^ 63 =
          (((bits / 2 ^ 52 % 2 ^ 11 : Nat) : Int) - 1075 + 1074).toNat * 2 ^ 52 +
            (bits % 2 ^ 52 + 2 ^ 52) := by omega
      rw [magnitude] at number
      exact number

/-!
## Rounding
-/

theorem cast_twoTo (n : Nat) : ((twoTo n : Nat) : ℚ) = 2 ^ n := Nat.cast_pow 2 n

theorem cast_tenTo (n : Nat) : ((tenTo n : Nat) : ℚ) = 10 ^ n := Nat.cast_pow 10 n

/-- A power with a sign, written with two powers without. -/
theorem mul_pow_toNat (b : ℚ) (nonzero : b ≠ 0) (e : Int) :
    b ^ e * b ^ (-e).toNat = b ^ e.toNat := by
  rw [← zpow_natCast, ← zpow_natCast, ← zpow_add₀ nonzero]
  congr 1
  omega

/-- A quotient with its whole part and its rest. -/
theorem div_eq_add {num den : Nat} (positive : 0 < den) :
    (num : ℚ) / den = (num / den : Nat) + (num % den : Nat) / (den : ℚ) := by
  have whole : ((den * (num / den) + num % den : Nat) : ℚ) = num := by rw [Nat.div_add_mod]
  have nonzero : (den : ℚ) ≠ 0 := by positivity
  rw [div_eq_iff nonzero, ← whole]
  push_cast
  field_simp

/-- In units of a power of two a quotient is its whole part and a rest, which is rounded by its size, and by
the last bit if it is just half a unit. -/
theorem quotient_spec (num : Nat) {den : Nat} (positive : 0 < den) (e : Int) :
    ∃ w up, quotient num den e = (w, up) ∧ ∃ rest : ℚ, (num : ℚ) / den = (w + rest) * 2 ^ e ∧
      0 ≤ rest ∧ rest < 1 ∧ (up = true ↔ 1 / 2 < rest ∨ rest = 1 / 2 ∧ w % 2 = 1) := by
  refine ⟨_, _, rfl, ?_⟩
  have units : (num : ℚ) / den =
      (num * twoTo (-e).toNat : Nat) / (den * twoTo e.toNat : Nat) * 2 ^ e := by
    have power := mul_pow_toNat 2 (by norm_num) e
    have nonzero : (den : ℚ) ≠ 0 := by positivity
    push_cast [cast_twoTo]
    rw [← power]
    have zpow : (2 : ℚ) ^ e ≠ 0 := by positivity
    field_simp
  have enough : 0 < den * twoTo e.toNat := Nat.mul_pos positive (twoTo_pos _)
  rw [units]
  generalize num * twoTo (-e).toNat = a
  generalize den * twoTo e.toNat = b at *
  have unit : (0 : ℚ) < b := by exact_mod_cast enough
  refine ⟨(a % b : Nat) / (b : ℚ), by rw [div_eq_add enough], by positivity, ?_, ?_⟩
  · rw [div_lt_one unit]
    exact_mod_cast Nat.mod_lt a enough
  · have more : 1 / 2 < (a % b : Nat) / (b : ℚ) ↔ b < 2 * (a % b) := by
      rw [div_lt_div_iff₀ two_pos unit, one_mul, mul_comm]
      exact_mod_cast Iff.rfl
    have half : (a % b : Nat) / (b : ℚ) = 1 / 2 ↔ 2 * (a % b) = b := by
      rw [div_eq_div_iff unit.ne' two_ne_zero, one_mul, mul_comm]
      exact_mod_cast Iff.rfl
    rw [more, half]
    simp

def rounded (num den : Nat) (e : Int) : Nat :=
  if (quotient num den e).2 then (quotient num den e).1 + 1 else (quotient num den e).1

/-- A quotient that is at most half a unit from a whole number is rounded to it, if that is even or the
distance is less. -/
theorem rounded_eq {num den : Nat} (positive : 0 < den) {e : Int} {m : Nat}
    (low : (m - 1 / 2) * (2 : ℚ) ^ e ≤ num / den) (high : (num : ℚ) / den ≤ (m + 1 / 2) * 2 ^ e)
    (tie : (num : ℚ) / den = (m - 1 / 2) * 2 ^ e ∨ (num : ℚ) / den = (m + 1 / 2) * 2 ^ e → m % 2 = 0) :
    rounded num den e = m := by
  obtain ⟨w, up, parts, rest, value, nonneg, small, rounds⟩ := quotient_spec num positive e
  have unit : (0 : ℚ) < 2 ^ e := by positivity
  simp only [value, mul_le_mul_iff_left₀ unit, mul_left_inj' unit.ne'] at low high tie
  simp only [rounded, parts]
  have above : w ≤ m := by
    have : (w : ℚ) < m + 1 := by linarith
    exact_mod_cast Nat.lt_succ_iff.1 (by exact_mod_cast this)
  have below : m ≤ w + 1 := by
    have : (m : ℚ) < w + 2 := by linarith
    exact_mod_cast Nat.lt_succ_iff.1 (by exact_mod_cast this)
  rcases Nat.lt_or_eq_of_le above with less | rfl
  · obtain rfl : m = w + 1 := by omega
    push_cast at low tie
    rw [if_pos]
    rw [rounds]
    rcases lt_or_eq_of_le (show 1 / 2 ≤ rest by linarith) with more | half
    · exact Or.inl more
    · have even := tie (Or.inl (by linarith))
      exact Or.inr ⟨half.symm, by omega⟩
  · rw [if_neg]
    rw [rounds]
    rintro (more | ⟨half, odd⟩)
    · linarith
    · have even := tie (Or.inr (by linarith))
      omega

/-- The exponent of the last bit that there is room for: a number has no more bits above it than a double
keeps, and not fewer, unless it is the least exponent. -/
structure Last (v : ℚ) (e : Int) : Prop where
  least : -1074 ≤ e
  below : v < 2 ^ 53 * 2 ^ e
  full : e = -1074 ∨ 2 ^ 52 * 2 ^ e ≤ v

theorem zpow_mono {d e : Int} (le : d ≤ e) : (2 : ℚ) ^ d ≤ 2 ^ e := zpow_le_zpow_right₀ (by norm_num) le

/-- There is one last exponent. -/
theorem Last.unique {v : ℚ} {d e : Int} (first : Last v d) (second : Last v e) : d = e := by
  have none {d e : Int} (first : Last v d) (second : Last v e) : ¬ d < e := by
    intro less
    have least := first.least
    have full := second.full.resolve_left (by omega)
    have grows := zpow_mono (show d + 1 ≤ e by omega)
    rw [zpow_add_one₀ two_ne_zero] at grows
    have below := first.below
    linarith
  have left := none first second
  have right := none second first
  omega

/-- Where a number stands among the powers of two. -/
theorem log2_bounds {n : Nat} (positive : 0 < n) :
    (2 : ℚ) ^ (n.log2 : Int) ≤ n ∧ (n : ℚ) < 2 ^ (n.log2 : Int) * 2 := by
  have low : 2 ^ n.log2 ≤ n := Nat.log2_self_le positive.ne'
  have high : n < 2 ^ n.log2 * 2 := Nat.lt_log2_self
  constructor
  · exact_mod_cast low
  · exact_mod_cast high

theorem two_pow_le_iff {num den : Nat} (positive : 0 < den) (e : Int) (k : Nat) :
    k ≤ (quotient num den e).1 ↔ (k : ℚ) * 2 ^ e ≤ num / den := by
  obtain ⟨w, up, parts, rest, value, nonneg, small, -⟩ := quotient_spec num positive e
  have unit : (0 : ℚ) < 2 ^ e := by positivity
  rw [parts, value, mul_le_mul_iff_left₀ unit]
  constructor
  · intro le
    have le : (k : ℚ) ≤ w := by exact_mod_cast le
    linarith
  · intro le
    have less : (k : ℚ) < w + 1 := by linarith
    exact Nat.lt_succ_iff.1 (by exact_mod_cast less)

/-- The sizes of two numbers leave two places for the size of their quotient. -/
theorem div_bounds {num den : Nat} (nonzero : 0 < num) (positive : 0 < den) :
    let e : Int := num.log2 - den.log2 - 52
    2 ^ 51 * 2 ^ e ≤ (num : ℚ) / den ∧ (num : ℚ) / den < 2 ^ 53 * 2 ^ e := by
  intro e
  obtain ⟨low, high⟩ := log2_bounds nonzero
  obtain ⟨low', high'⟩ := log2_bounds positive
  have den_pos : (0 : ℚ) < den := by exact_mod_cast positive
  have unit : (0 : ℚ) < 2 ^ e := by positivity
  have shift : (2 : ℚ) ^ (num.log2 : Int) = 2 ^ 52 * 2 ^ e * 2 ^ (den.log2 : Int) := by
    rw [← zpow_natCast, ← zpow_add₀ two_ne_zero, ← zpow_add₀ two_ne_zero]
    congr 1
    simp only [e]
    omega
  rw [shift] at low high
  constructor
  · rw [le_div_iff₀ den_pos]
    nlinarith
  · rw [div_lt_iff₀ den_pos]
    nlinarith

theorem last_lastExponent {num den : Nat} (nonzero : 0 < num) (positive : 0 < den) :
    Last ((num : ℚ) / den) (lastExponent num den) := by
  obtain ⟨low, high⟩ := div_bounds nonzero positive
  unfold lastExponent
  dsimp only
  generalize (num.log2 : Int) - den.log2 - 52 = e at low high
  have below : (num : ℚ) / den < 2 ^ 53 * 2 ^ max e (-1074) := by
    have grows := zpow_mono (le_max_left e (-1074))
    linarith
  have bits (k : Nat) : twoTo k ≤ (quotient num den (max e (-1074))).1 ↔
      2 ^ k * 2 ^ max e (-1074) ≤ (num : ℚ) / den := by
    rw [two_pow_le_iff positive, cast_twoTo]
  rw [if_neg (by rw [ge_iff_le, bits]; exact not_le.2 below)]
  split
  · next short =>
    rw [← not_le, bits, not_le] at short
    rcases le_or_gt e (-1074) with least | more
    · rw [max_eq_right least] at below ⊢
      rw [show max ((-1074 : Int) - 1) (-1074) = -1074 by decide]
      exact ⟨le_rfl, below, Or.inl rfl⟩
    · rw [max_eq_left more.le] at short ⊢
      rw [max_eq_left (by omega)]
      have half : (2 : ℚ) ^ e = 2 ^ (e - 1) * 2 := by
        rw [← zpow_add_one₀ two_ne_zero, sub_add_cancel]
      rw [half] at short low
      exact ⟨by omega, by linarith, Or.inr (by linarith)⟩
  · next long =>
    rw [not_lt, bits] at long
    exact ⟨le_max_right _ _, below, Or.inr long⟩

/-- Half the distance to the double below, in units of the last bit. It is half of that below a power of
two. -/
def gap (m : Nat) (e : Int) : ℚ := if m = 2 ^ 52 ∧ -1074 < e then 1 / 4 else 1 / 2

/-- A number lies in the neighbourhood of a double, whose ends belong to it if the significand is even. -/
structure Near (m : Nat) (e : Int) (v : ℚ) : Prop where
  low : (m - gap m e) * 2 ^ e ≤ v
  high : v ≤ (m + 1 / 2) * 2 ^ e
  tie : v = (m - gap m e) * 2 ^ e ∨ v = (m + 1 / 2) * 2 ^ e → m % 2 = 0

theorem gap_cases (m : Nat) (e : Int) :
    gap m e = 1 / 2 ∧ ¬ (m = 2 ^ 52 ∧ -1074 < e) ∨ m = 2 ^ 52 ∧ gap m e = 1 / 4 := by
  unfold gap
  split
  · next below => exact Or.inr ⟨below.1, rfl⟩
  · next regular => exact Or.inl ⟨rfl, regular⟩

theorem nearest_eq (negative : Bool) {num den : Nat} (nonzero : 0 < num) (positive : 0 < den) {e : Int}
    (last : Last ((num : ℚ) / den) e) :
    nearest negative num den = ofParts negative (rounded num den e) e := by
  have same := (last_lastExponent nonzero positive).unique last
  unfold nearest
  rw [if_neg (by simpa using nonzero.ne')]
  dsimp only
  rw [same]
  rfl

/-- The double nearest to a quotient in the neighbourhood of a double is that one. -/
theorem nearest_of_near {m : Nat} {e : Int} (range : InRange m e) {num den : Nat} (nonzero : 0 < num)
    (positive : 0 < den) (near : Near m e ((num : ℚ) / den)) (negative : Bool) :
    nearest negative num den = ofParts negative m e := by
  have unit : (0 : ℚ) < 2 ^ e := by positivity
  have short : (m : ℚ) + 1 ≤ 2 ^ 53 := by exact_mod_cast range.short
  obtain ⟨low, high, tie⟩ := near
  by_cases above : e = -1074 ∨ 2 ^ 52 * 2 ^ e ≤ (num : ℚ) / den
  · have last : Last ((num : ℚ) / den) e := ⟨range.least, by nlinarith, above⟩
    have close : rounded num den e = m := by
      rcases gap_cases m e with ⟨half, -⟩ | ⟨-, quarter⟩
      · rw [half] at low tie
        exact rounded_eq positive low high tie
      · rw [quarter] at low
        refine rounded_eq positive (by nlinarith) high fun ends => ?_
        rcases ends with same | same
        · nlinarith
        · exact tie (Or.inr same)
    rw [nearest_eq negative nonzero positive last, close]
  · -- Below the power of two the last bit counts half as much.
    obtain ⟨more, below⟩ := not_or.1 above
    have least := range.least
    have half : (2 : ℚ) ^ e = 2 ^ (e - 1) * 2 := by rw [← zpow_add_one₀ two_ne_zero, sub_add_cancel]
    rcases gap_cases m e with ⟨regular, other⟩ | ⟨rfl, quarter⟩
    · have full := range.full.resolve_left more
      have larger : 2 ^ 52 + 1 ≤ m := by omega
      have larger : (2 : ℚ) ^ 52 + 1 ≤ m := by exact_mod_cast larger
      rw [regular] at low
      nlinarith
    · rw [quarter] at low
      rw [half] at low high below
      push_cast at low high
      have last : Last ((num : ℚ) / den) (e - 1) := ⟨by omega, by linarith, Or.inr (by linarith)⟩
      have close : rounded num den (e - 1) = 2 ^ 53 :=
        rounded_eq positive (by push_cast; linarith) (by push_cast; linarith) fun _ => by decide
      rw [nearest_eq negative nonzero positive last, close]
      refine congrArg (ofMagnitude negative) ?_
      rw [show twoTo 52 = 2 ^ 52 from rfl]
      omega

end LiveLint.Decimal
