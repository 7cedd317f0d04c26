import LiveLint.Proofs.Decimal.Nearest
import Mathlib.Algebra.Order.Floor.Semifield
import Mathlib.Data.Nat.Cast.Order.Field

/-!
# Shortest decimals

A decimal in the neighbourhood of a double is read as that double. The shortest decimal of a double is in its
neighbourhood: multiples of a power of ten that leaves seventeen digits are so close together that one of
the two next to the double is.
-/

namespace LiveLint.Decimal

def decimalValue (n : Nat) (k : Int) : ℚ := n * 10 ^ k

/-- Zeros at the end of a number can be moved into its exponent. -/
theorem decimalValue_mul_pow (n count : Nat) (k : Int) :
    decimalValue (n * 10 ^ count) k = decimalValue n (k + count) := by
  simp only [decimalValue]
  push_cast
  rw [zpow_add₀ (by norm_num), zpow_natCast]
  ring

theorem scaled_spec (n : Nat) (k : Int) :
    0 < (scaled n k).2 ∧ ((scaled n k).1 : ℚ) / (scaled n k).2 = decimalValue n k := by
  have positive : 0 < tenTo (-k).toNat := Nat.pow_pos (by decide)
  refine ⟨positive, ?_⟩
  have power := mul_pow_toNat 10 (by norm_num) k
  have nonzero : (10 : ℚ) ^ (-k).toNat ≠ 0 := by positivity
  simp only [scaled, decimalValue]
  push_cast [cast_tenTo]
  rw [← power]
  field_simp

/-- A neighbourhood as fractions. -/
theorem neighbourhood_spec {m : Nat} (positive : 0 < m) (e : Int) :
    let h := neighbourhood m e
    0 < h.den ∧ (h.value : ℚ) / h.den = m * 2 ^ e ∧ (h.low : ℚ) / h.den = (m - gap m e) * 2 ^ e ∧
      (h.high : ℚ) / h.den = (m + 1 / 2) * 2 ^ e ∧ (h.closed = true ↔ m % 2 = 0) := by
  intro h
  have units (x : ℚ) : x * 2 ^ e.toNat / (4 * 2 ^ (-e).toNat) = x / 4 * 2 ^ e := by
    have unit : (2 : ℚ) ^ (-e).toNat ≠ 0 := by positivity
    rw [← mul_pow_toNat 2 (by norm_num) e]
    field_simp
  have whole : 0 < h.den := Nat.mul_pos (by decide) (twoTo_pos _)
  refine ⟨whole, ?_, ?_, ?_, by simp [h, neighbourhood]⟩
  · simp only [h, neighbourhood]
    push_cast [cast_twoTo]
    rw [units]
    ring
  · have half : ((if (m == twoTo 52 && decide (e > -1074)) = true then twoTo e.toNat
        else 2 * twoTo e.toNat : Nat) : ℚ) = gap m e * 4 * 2 ^ e.toNat := by
      unfold gap
      by_cases below : m = 2 ^ 52 ∧ -1074 < e
      · rw [if_pos below, if_pos (by simpa [twoTo] using below), cast_twoTo]
        ring
      · rw [if_neg below, if_neg (by simpa [twoTo] using below)]
        push_cast [cast_twoTo]
        ring
    have less : (if (m == twoTo 52 && decide (e > -1074)) = true then twoTo e.toNat
        else 2 * twoTo e.toNat) ≤ 4 * m * twoTo e.toNat := by
      have least := Nat.mul_le_mul_right (twoTo e.toNat) (show 2 ≤ 4 * m by omega)
      split <;> omega
    simp only [h, neighbourhood]
    rw [Nat.cast_sub less, half]
    push_cast [cast_twoTo]
    rw [← sub_mul, units]
    ring
  · simp only [h, neighbourhood]
    push_cast [cast_twoTo]
    rw [← add_mul, units]
    ring

theorem mul_le_mul_iff_div {a b c d : Nat} (left : 0 < b) (right : 0 < d) :
    a * d ≤ c * b ↔ (a : ℚ) / b ≤ c / d := by
  rw [div_le_div_iff₀ (by exact_mod_cast left) (by exact_mod_cast right)]
  exact_mod_cast Iff.rfl

theorem mul_lt_mul_iff_div {a b c d : Nat} (left : 0 < b) (right : 0 < d) :
    a * d < c * b ↔ (a : ℚ) / b < c / d := by
  rw [← not_le, mul_le_mul_iff_div right left, not_le]

/-- A decimal is held by a neighbourhood if its number lies in it. -/
theorem holds_iff {m : Nat} (positive : 0 < m) {e : Int} (n : Nat) (k : Int) :
    (neighbourhood m e).holds n k = true ↔ Near m e (decimalValue n k) := by
  obtain ⟨den, -, low, high, closed⟩ := neighbourhood_spec positive e
  obtain ⟨den', value⟩ := scaled_spec n k
  have above : (neighbourhood m e).low * (scaled n k).2 ≤ (scaled n k).1 * (neighbourhood m e).den ↔
      (m - gap m e) * 2 ^ e ≤ decimalValue n k := by
    rw [mul_le_mul_iff_div den den', low, value]
  have below : (scaled n k).1 * (neighbourhood m e).den ≤ (neighbourhood m e).high * (scaled n k).2 ↔
      decimalValue n k ≤ (m + 1 / 2) * 2 ^ e := by
    rw [mul_le_mul_iff_div den' den, high, value]
  have above' : (neighbourhood m e).low * (scaled n k).2 < (scaled n k).1 * (neighbourhood m e).den ↔
      (m - gap m e) * 2 ^ e < decimalValue n k := by
    rw [mul_lt_mul_iff_div den den', low, value]
  have below' : (scaled n k).1 * (neighbourhood m e).den < (neighbourhood m e).high * (scaled n k).2 ↔
      decimalValue n k < (m + 1 / 2) * 2 ^ e := by
    rw [mul_lt_mul_iff_div den' den, high, value]
  unfold Neighbourhood.holds
  dsimp only
  split
  · next even =>
    simp only [Bool.and_eq_true, decide_eq_true_eq, ge_iff_le, above, below]
    exact ⟨fun inside => ⟨inside.1, inside.2, fun _ => closed.1 even⟩, fun near => ⟨near.low, near.high⟩⟩
  · next odd =>
    rw [closed] at odd
    simp only [Bool.and_eq_true, decide_eq_true_eq, gt_iff_lt, above', below']
    constructor
    · rintro ⟨low, high⟩
      exact ⟨low.le, high.le, fun ends => (ends.elim low.ne' high.ne).elim⟩
    · intro near
      exact ⟨lt_of_le_of_ne near.low fun same => odd (near.tie (Or.inl same.symm)),
        lt_of_le_of_ne near.high fun same => odd (near.tie (Or.inr same))⟩

/-- A candidate is held. -/
theorem holds_of_candidate {h : Neighbourhood} {k : Int} {n : Nat} (found : h.candidate? k = some n) :
    h.holds n k = true := by
  unfold Neighbourhood.candidate? at found
  dsimp only at found
  split at found
  · next left right =>
    split at found
    · cases found
      exact (Bool.and_eq_true_iff.1 left).1
    · cases found
      exact right
  · next left right =>
    cases found
    exact (Bool.and_eq_true_iff.1 left).1
  · next left right =>
    cases found
    exact right
  · cases found

/-- A search that reaches a grid with a candidate finds a decimal that is held. -/
theorem holds_searchDigits {h : Neighbourhood} {top : Int} {fuel count : Nat}
    (last : (h.candidate? (top - (count + fuel : Nat) + 1)).isSome) :
    h.holds (searchDigits h top (fuel + 1) count).1 (searchDigits h top (fuel + 1) count).2 = true := by
  induction fuel generalizing count with
  | zero =>
    rw [Nat.add_zero] at last
    obtain ⟨n, found⟩ := Option.isSome_iff_exists.1 last
    simp only [searchDigits, found]
    exact holds_of_candidate found
  | succ fuel ih =>
    rw [searchDigits]
    split
    · next n found => exact holds_of_candidate found
    · exact ih (by rwa [show count + 1 + fuel = count + (fuel + 1) by omega])

/-- Seventeen digits are more than a significand has room for: the neighbourhood of a double is wider than a
unit in the seventeenth digit. -/
theorem unit_lt_width {m : Nat} {e : Int} (range : InRange m e) {g : ℚ} (nonneg : 0 ≤ g)
    (digits : 10 ^ 16 * g ≤ m * 2 ^ e) : g < (gap m e + 1 / 2) * 2 ^ e := by
  have unit : (0 : ℚ) < 2 ^ e := by positivity
  have short : (m : ℚ) + 1 ≤ 2 ^ 53 := by exact_mod_cast range.short
  rcases gap_cases m e with ⟨half, -⟩ | ⟨rfl, quarter⟩
  · rw [half]
    nlinarith
  · rw [quarter]
    push_cast at digits
    linarith

/-- Of two neighbours on a grid around a double one is in its neighbourhood, if the grid is finer than that
is wide. -/
theorem near_or_near {m : Nat} {e : Int} {below above : ℚ} (left : below ≤ m * 2 ^ e)
    (right : m * 2 ^ e ≤ above) (fine : above - below < (gap m e + 1 / 2) * 2 ^ e) :
    Near m e below ∨ Near m e above := by
  have unit : (0 : ℚ) < 2 ^ e := by positivity
  have some : 0 < gap m e := by
    rcases gap_cases m e with ⟨half, -⟩ | ⟨-, quarter⟩
    · rw [half]
      norm_num
    · rw [quarter]
      norm_num
  have inside : 0 < gap m e * 2 ^ e := mul_pos some unit
  by_cases low : (m - gap m e) * 2 ^ e < below
  · refine Or.inl ⟨low.le, by linarith, fun ends => ?_⟩
    rcases ends with same | same <;> linarith
  · have high : above < (m + 1 / 2) * 2 ^ e := by linarith
    refine Or.inr ⟨by linarith, high.le, fun ends => ?_⟩
    rcases ends with same | same <;> linarith

/-- A grid that leaves seventeen digits has a candidate. -/
theorem candidate_isSome {m : Nat} (positive : 0 < m) {e : Int} (range : InRange m e) {k : Int}
    (digits : 10 ^ 16 * 10 ^ k ≤ (m : ℚ) * 2 ^ e) : ((neighbourhood m e).candidate? k).isSome := by
  obtain ⟨den, value, -⟩ := neighbourhood_spec positive e
  obtain ⟨den', grid⟩ := scaled_spec 1 k
  have unit : (0 : ℚ) < 10 ^ k := by positivity
  replace grid : ((scaled 1 k).1 : ℚ) / (scaled 1 k).2 = 10 ^ k := by
    rw [grid, decimalValue, Nat.cast_one, one_mul]
  unfold Neighbourhood.candidate?
  dsimp only
  have floor : (neighbourhood m e).value * (scaled 1 k).2 / ((neighbourhood m e).den * (scaled 1 k).1) =
      ⌊(m : ℚ) * 2 ^ e / 10 ^ k⌋₊ := by
    rw [← Nat.floor_div_eq_div (K := ℚ), ← value, ← grid, div_div_div_eq]
    push_cast
    rfl
  rw [floor]
  have quotient : 10 ^ 16 ≤ (m : ℚ) * 2 ^ e / 10 ^ k := by rwa [le_div_iff₀ unit]
  have below : decimalValue ⌊(m : ℚ) * 2 ^ e / 10 ^ k⌋₊ k ≤ m * 2 ^ e := by
    rw [decimalValue, ← le_div_iff₀ unit]
    exact Nat.floor_le (by linarith)
  have above : m * 2 ^ e ≤ decimalValue (⌊(m : ℚ) * 2 ^ e / 10 ^ k⌋₊ + 1) k := by
    rw [decimalValue, ← div_le_iff₀ unit]
    push_cast
    exact (Nat.lt_floor_add_one _).le
  have some : 0 < ⌊(m : ℚ) * 2 ^ e / 10 ^ k⌋₊ := Nat.floor_pos.2 (by linarith)
  generalize ⌊(m : ℚ) * 2 ^ e / 10 ^ k⌋₊ = down at *
  have step : decimalValue (down + 1) k - decimalValue down k = 10 ^ k := by
    simp only [decimalValue]
    push_cast
    ring
  have fine := unit_lt_width range unit.le digits
  rw [← step] at fine
  rcases near_or_near below above fine with near | near
  · rw [← holds_iff positive] at near
    simp only [near, some, decide_true, Bool.and_self]
    cases (neighbourhood m e).holds (down + 1) k with
    | true => dsimp only; split <;> rfl
    | false => rfl
  · rw [← holds_iff positive] at near
    simp only [near]
    cases (neighbourhood m e).holds down k && decide (down > 0) with
    | true => dsimp only; split <;> rfl
    | false => rfl

/-- The number of digits of a number tells its size. -/
theorem length_toDigits_bounds {n : Nat} (positive : 0 < n) :
    10 ^ ((Nat.toDigits 10 n).length - 1) ≤ n ∧ n < 10 ^ (Nat.toDigits 10 n).length := by
  have some : 0 < (Nat.toDigits 10 n).length := List.length_pos_iff.2 Nat.toDigits_ne_nil
  refine ⟨?_, (Nat.length_toDigits_le_iff (by decide) some).1 le_rfl⟩
  rcases Nat.eq_zero_or_pos ((Nat.toDigits 10 n).length - 1) with one | more
  · rw [one]
    exact positive
  · refine Nat.not_lt.1 fun less => ?_
    have few := (Nat.length_toDigits_le_iff (by decide) more).2 less
    omega

/-- The power of ten that a quotient reaches, unless it is too small. -/
theorem pow_decimalExponent_le {num den : Nat} (positive : 0 < den)
    (large : (10 : ℚ) ^ (-350 : Int) ≤ num / den) :
    (10 : ℚ) ^ decimalExponent num den ≤ num / den := by
  have power : ((tenTo 350 : Nat) : ℚ) = 10 ^ (350 : Int) := (cast_tenTo 350).trans (zpow_natCast 10 350).symm
  have whole := Nat.cast_div_le (α := ℚ) (m := num * tenTo 350) (n := den)
  rw [Nat.cast_mul, power, mul_div_right_comm] at whole
  have some : 0 < num * tenTo 350 / den := by
    refine Nat.div_pos ?_ positive
    rw [zpow_neg, inv_le_iff_one_le_mul₀ (by positivity), ← power, div_mul_eq_mul_div,
      one_le_div (by exact_mod_cast positive)] at large
    exact_mod_cast large
  obtain ⟨reached, -⟩ := length_toDigits_bounds some
  unfold decimalExponent
  have digits : 0 < (Nat.toDigits 10 (num * tenTo 350 / den)).length :=
    List.length_pos_iff.2 Nat.toDigits_ne_nil
  generalize (Nat.toDigits 10 (num * tenTo 350 / den)).length = count at *
  have reached : (10 : ℚ) ^ (count - 1) ≤ (num * tenTo 350 / den : Nat) := by exact_mod_cast reached
  rw [show (count : Int) - 351 = ((count - 1 : Nat) : Int) - 350 by omega, zpow_sub₀ (by norm_num),
    zpow_natCast, div_le_iff₀ (by positivity)]
  exact reached.trans whole

/-- Powers of two and of ten are compared as whole numbers. -/
theorem zpow_le_zpow_of_le {a b : Nat} (le : twoTo a ≤ tenTo b) : (2 : ℚ) ^ (a : Int) ≤ 10 ^ (b : Int) := by
  rw [zpow_natCast, zpow_natCast, ← cast_twoTo, ← cast_tenTo]
  exact_mod_cast le

/-- The shortest decimal of a double lies in its neighbourhood. -/
theorem near_shortest {m : Nat} (positive : 0 < m) {e : Int} (range : InRange m e) :
    Near m e (decimalValue (shortest m e).1 (shortest m e).2) := by
  obtain ⟨den, value, -⟩ := neighbourhood_spec positive e
  have large : (10 : ℚ) ^ (-350 : Int) ≤ m * 2 ^ e := by
    have least := zpow_mono range.least
    have one : (1 : ℚ) ≤ m := by exact_mod_cast positive
    have unit : (0 : ℚ) < 2 ^ e := by positivity
    have small : (10 : ℚ) ^ (-350 : Int) ≤ 2 ^ (-1074 : Int)  := by
      rw [zpow_neg, zpow_neg]
      exact inv_anti₀ (by positivity) (zpow_le_zpow_of_le (a := 1074) (b := 350) (by decide +kernel))
    nlinarith
  have reached := pow_decimalExponent_le den (value ▸ large)
  rw [value] at reached
  refine (holds_iff positive _ _).1 (@holds_searchDigits _ _ 16 1 ?_)
  refine candidate_isSome positive range ?_
  rw [← zpow_natCast, ← zpow_add₀ (by norm_num)]
  refine Eq.trans_le ?_ reached
  congr 1
  push_cast
  ring

theorem gap_le (m : Nat) (e : Int) : gap m e ≤ 1 / 2 := by
  rcases gap_cases m e with ⟨half, -⟩ | ⟨-, quarter⟩
  · exact half.le
  · rw [quarter]
    norm_num

/-- What lies in the neighbourhood of a double is below the power of two that none reaches. -/
theorem Near.lt_largest {m : Nat} {e : Int} {v : ℚ} (near : Near m e v) (range : InRange m e) :
    v < 2 ^ (1024 : Int) := by
  have short : (m : ℚ) + 1 ≤ 2 ^ 53 := by exact_mod_cast range.short
  have unit : (0 : ℚ) < 2 ^ e := by positivity
  calc v ≤ (m + 1 / 2) * 2 ^ e := near.high
    _ < 2 ^ 53 * 2 ^ e := mul_lt_mul_of_pos_right (by linarith) unit
    _ ≤ 2 ^ 53 * 2 ^ (971 : Int) := mul_le_mul_of_nonneg_left (zpow_mono range.most) (by positivity)
    _ = 2 ^ (1024 : Int) := by rw [← zpow_natCast, ← zpow_add₀ two_ne_zero]; rfl

/-- What lies in the neighbourhood of a double that is not zero is at least half the least one. -/
theorem Near.least_le {m : Nat} {e : Int} {v : ℚ} (near : Near m e v) (positive : 0 < m)
    (range : InRange m e) : 2 ^ (-1075 : Int) ≤ v := by
  have one : (1 : ℚ) ≤ m := by exact_mod_cast positive
  have below := gap_le m e
  calc (2 : ℚ) ^ (-1075 : Int) = 1 / 2 * 2 ^ (-1074 : Int) := by
        rw [show (-1075 : Int) = -1074 - 1 from rfl, zpow_sub_one₀ two_ne_zero]
        ring
    _ ≤ 1 / 2 * 2 ^ e := mul_le_mul_of_nonneg_left (zpow_mono range.least) (by norm_num)
    _ ≤ (m - gap m e) * 2 ^ e := mul_le_mul_of_nonneg_right (by linarith) (by positivity)
    _ ≤ v := near.low

/-- The number of digits before its point tells the size of a decimal. -/
theorem decimalValue_bounds {n : Nat} (positive : 0 < n) (k : Int) :
    (10 : ℚ) ^ ((Nat.toDigits 10 n).length + k - 1) ≤ decimalValue n k ∧
      decimalValue n k < 10 ^ ((Nat.toDigits 10 n).length + k) := by
  obtain ⟨reached, below⟩ := length_toDigits_bounds positive
  have digits : 0 < (Nat.toDigits 10 n).length := List.length_pos_iff.2 Nat.toDigits_ne_nil
  generalize (Nat.toDigits 10 n).length = count at *
  have reached : (10 : ℚ) ^ (count - 1) ≤ n := by exact_mod_cast reached
  have below : (n : ℚ) < 10 ^ count := by exact_mod_cast below
  constructor
  · rw [show count + k - 1 = ((count - 1 : Nat) : Int) + k by omega, zpow_add₀ (by norm_num), zpow_natCast]
    exact mul_le_mul_of_nonneg_right reached (by positivity)
  · rw [zpow_add₀ (by norm_num), zpow_natCast]
    exact mul_lt_mul_of_pos_right below (by positivity)

/-- A decimal in the neighbourhood of a double is neither too large nor too small to be looked at. -/
theorem size_of_near {m : Nat} (positive : 0 < m) {e : Int} (range : InRange m e) {n : Nat} {k : Int}
    (some : 0 < n) (near : Near m e (decimalValue n k)) :
    (Nat.toDigits 10 n).length + k ≤ 400 ∧ -400 ≤ (Nat.toDigits 10 n).length + k := by
  obtain ⟨above, below⟩ := decimalValue_bounds some k
  generalize ((Nat.toDigits 10 n).length : Int) + k = size at *
  have grows {a b : Int} (le : a ≤ b) : (10 : ℚ) ^ a ≤ 10 ^ b := zpow_le_zpow_right₀ (by norm_num) le
  constructor
  · by_contra! large
    have power : (2 : ℚ) ^ (1024 : Int) ≤ 10 ^ (400 : Int) := zpow_le_zpow_of_le (by decide +kernel)
    have beyond : (10 : ℚ) ^ (400 : Int) ≤ 10 ^ (size - 1) := grows (by omega)
    exact absurd (near.lt_largest range) (not_lt.2 (power.trans (beyond.trans above)))
  · by_contra! tiny
    have power : (10 : ℚ) ^ (-400 : Int) ≤ 2 ^ (-1075 : Int) := by
      rw [zpow_neg, zpow_neg]
      exact inv_anti₀ (by positivity) (zpow_le_zpow_of_le (by decide +kernel))
    have beyond : (10 : ℚ) ^ size ≤ 10 ^ (-400 : Int) := grows (by omega)
    exact absurd (near.least_le positive range) (not_le.2 (below.trans_le (beyond.trans power)))

theorem pos_of_near {m : Nat} (positive : 0 < m) {e : Int} (range : InRange m e) {n : Nat} {k : Int}
    (near : Near m e (decimalValue n k)) : 0 < n := by
  have inside : 0 < decimalValue n k := lt_of_lt_of_le (by positivity) (near.least_le positive range)
  refine Nat.pos_of_ne_zero ?_
  rintro rfl
  simp [decimalValue] at inside

/-- A decimal in the neighbourhood of a double is read as that double. -/
theorem ofDecimal_of_near {m : Nat} (positive : 0 < m) {e : Int} (range : InRange m e) {n : Nat} {k : Int}
    (near : Near m e (decimalValue n k)) (negative : Bool) :
    ofDecimal negative n k = ofParts negative m e := by
  have some := pos_of_near positive range near
  obtain ⟨small, large⟩ := size_of_near positive range some near
  unfold ofDecimal
  dsimp only
  rw [if_neg (by simpa using some.ne'), if_neg (by omega), if_neg (by omega)]
  obtain ⟨den, value⟩ := scaled_spec n k
  exact nearest_of_near range (Nat.mul_pos some (Nat.pow_pos (by decide))) den (value ▸ near) negative

end LiveLint.Decimal
