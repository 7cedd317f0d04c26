import LiveLint.Proofs.Decimal.Shortest
import LiveLint.Proofs.Json.Values

/-!
# Written doubles

Every double reads back. The infinities and the value that is no number have words of their own. Otherwise
the shortest decimal is written plain or with an exponent, and either way what is read stands for the same
number, so the double nearest to it is the one that was written.
-/

namespace LiveLint

namespace Json

open Decimal (zeros decimalValue)

theorem foldl_digits (cs : List Char) (n : Nat) :
    cs.foldl (fun n c => n * 10 + (c.toNat - 48)) n = n * 10 ^ cs.length + digitsValue cs := by
  induction cs generalizing n with
  | nil => simp [digitsValue]
  | cons c rest ih =>
    simp only [digitsValue, List.foldl_cons, List.length_cons, Nat.zero_mul, Nat.zero_add] at ih ⊢
    rw [ih (n * 10 + _), ih (c.toNat - 48), pow_succ]
    ring

/-- The digits behind others count less. -/
theorem digitsValue_append (front back : List Char) :
    digitsValue (front ++ back) = digitsValue front * 10 ^ back.length + digitsValue back := by
  rw [digitsValue, List.foldl_append, foldl_digits]
  rfl

theorem digitsValue_zeros (n : Nat) : digitsValue (zeros n) = 0 := by
  induction n with
  | zero => rfl
  | succ n ih => exact ih

/-- Zeros before digits do not count. -/
theorem digitsValue_zeros_append (n : Nat) (cs : List Char) :
    digitsValue (zeros n ++ cs) = digitsValue cs := by
  rw [digitsValue_append, digitsValue_zeros, Nat.zero_mul, Nat.zero_add]

/-- Zeros behind digits move the point. -/
theorem decimalValue_zeros (ds : List Char) (count : Nat) (k : Int) :
    decimalValue (digitsValue (ds ++ zeros count)) k = decimalValue (digitsValue ds) (k + count) := by
  rw [digitsValue_append, digitsValue_zeros, Nat.add_zero, Decimal.decimalValue_mul_pow, zeros,
    List.length_replicate]

def Digits (cs : List Char) : Prop := ∀ c ∈ cs, c.isDigit = true

theorem digits_toDigits (n : Nat) : Digits (Nat.toDigits 10 n) := fun _ member =>
  Nat.isDigit_of_mem_toDigits (by decide) (by decide) member

theorem digits_zeros (n : Nat) : Digits (zeros n) := by
  intro c member
  rw [List.eq_of_mem_replicate member]
  rfl

theorem Digits.append {front back : List Char} (left : Digits front) (right : Digits back) :
    Digits (front ++ back) := by
  intro c member
  exact (List.mem_append.1 member).elim (left c) (right c)

def Ends (cs : List Char) : Prop := ∀ c, cs.head? = some c → c.isDigit = false

/-- Digits are read to their end. -/
theorem Digits.takeWhile {cs rest : List Char} (digits : Digits cs) (ends : Ends rest) :
    (cs ++ rest).takeWhile Char.isDigit = cs := by
  rw [List.takeWhile_append_of_pos digits]
  cases rest with
  | nil => simp
  | cons c tail => simp [ends c rfl]

theorem wholePart_of_digits {cs rest : List Char} (digits : Digits cs) (head : cs.head? ≠ some '0')
    (present : cs ≠ []) (ends : Ends rest) : wholePart (cs ++ rest) = cs := by
  obtain ⟨c, tail, rfl⟩ := List.exists_cons_of_ne_nil present
  rw [wholePart.eq_2 _ fun rest begins => head (by rw [(List.cons.inj begins).1]; rfl)]
  exact digits.takeWhile ends

theorem fractionPart_of_digits {cs rest : List Char} (digits : Digits cs) (present : cs ≠ [])
    (ends : Ends rest) : fractionPart ('.' :: cs ++ rest) = (cs, ('.' :: cs).length) := by
  simp [fractionPart, digits.takeWhile ends, present]

/-- A text is read as the double nearest to a decimal with some value. -/
def IsRead (cs : List Char) (v : ℚ) : Prop :=
  ∃ n k, decimalValue n k = v ∧ ∀ negative pos, ∃ p,
    unsigned? negative ⟨pos, cs⟩ = some (.ok (.float (Decimal.ofDecimal negative n k), ⟨p, []⟩))

/-- A number literal is read in parts: digits, a point with digits behind it, and an exponent. -/
theorem isRead_of_parts (whole point scale fraction : List Char) {exponent : Int}
    (isWhole : wholePart (whole ++ (point ++ scale)) = whole) (present : whole ≠ [])
    (isPoint : fractionPart (point ++ scale) = (fraction, point.length))
    (isScale : exponentPart scale = (exponent, scale.length)) (more : point ++ scale ≠ []) :
    IsRead (whole ++ (point ++ scale))
      (decimalValue (digitsValue (whole ++ fraction)) (exponent - fraction.length)) := by
  have nonempty : whole.isEmpty = false := List.isEmpty_eq_false_iff.2 present
  have rest : (whole ++ (point ++ scale)).drop (whole.length + point.length) = scale := by
    rw [← List.append_assoc, ← List.length_append, List.drop_left]
  have float : (point.length == 0 && scale.length == 0) = false := by
    rw [Bool.eq_false_iff]
    intro none
    simp at none
    simp [none] at more
  have all : (whole ++ (point ++ scale)).length = whole.length + point.length + scale.length := by
    simp [Nat.add_assoc]
  refine ⟨_, _, rfl, fun negative pos => ⟨pos + (whole ++ (point ++ scale)).length, ?_⟩⟩
  unfold unsigned?
  simp only [isWhole, nonempty, List.drop_left, isPoint, rest, isScale, float, Input.skip, ← all,
    List.drop_length]
  rfl

/-- Zeros at the beginning do not count. -/
theorem digitsValue_dropWhile (cs : List Char) :
    digitsValue (cs.dropWhile (· == '0')) = digitsValue cs := by
  induction cs with
  | nil => rfl
  | cons c rest ih =>
    by_cases zero : c = '0'
    · subst zero
      exact ih
    · simp [zero]

/-- An exponent of up to nine digits, with zeros before them, is read as it was written. -/
theorem exponentPart_written {x : Int} (short : x.natAbs < 10 ^ 9) (count : Nat) :
    let scale := 'e' :: (if x < 0 then '-' else '+') :: (zeros count ++ Nat.toDigits 10 x.natAbs)
    exponentPart scale = (x, scale.length) := by
  intro scale
  have digits : Digits (zeros count ++ Nat.toDigits 10 x.natAbs) :=
    (digits_zeros count).append (digits_toDigits _)
  have whole : (zeros count ++ Nat.toDigits 10 x.natAbs).takeWhile Char.isDigit =
      zeros count ++ Nat.toDigits 10 x.natAbs := List.takeWhile_eq_self_iff.2 digits
  have nonempty : (zeros count ++ Nat.toDigits 10 x.natAbs).isEmpty = false := by
    simp [Nat.toDigits_ne_nil]
  have few : ((zeros count ++ Nat.toDigits 10 x.natAbs).dropWhile (· == '0')).length ≤ 9 := by
    rw [List.dropWhile_append_of_pos (by simp [zeros])]
    have size := (Nat.length_toDigits_le_iff (b := 10) (by decide) (by decide : 0 < 9)).2 short
    exact (List.dropWhile_sublist _).length_le.trans size
  have value (negative : Bool) :
      exponentDigits negative 2 (zeros count ++ Nat.toDigits 10 x.natAbs) =
        (if negative then -(x.natAbs : Int) else x.natAbs,
          2 + (zeros count ++ Nat.toDigits 10 x.natAbs).length) := by
    simp only [exponentDigits, whole, nonempty, List.take_of_length_le few, digitsValue_dropWhile,
      digitsValue_zeros_append, digitsValue_toDigits]
    rfl
  have length : scale.length = 2 + (zeros count ++ Nat.toDigits 10 x.natAbs).length := by
    simp [scale]
    omega
  rw [length]
  by_cases negative : x < 0
  · have read : exponentPart scale = exponentDigits true 2 (zeros count ++ Nat.toDigits 10 x.natAbs) := by
      simp only [scale, if_pos negative]
      rfl
    rw [read, value, if_pos rfl, show -(x.natAbs : Int) = x by omega]
  · have read : exponentPart scale = exponentDigits false 2 (zeros count ++ Nat.toDigits 10 x.natAbs) := by
      simp only [scale, if_neg negative]
      rfl
    rw [read, value, if_neg Bool.false_ne_true, show (x.natAbs : Int) = x by omega]

theorem ends_nil : Ends [] := nofun

theorem ends_cons {c : Char} (other : c.isDigit = false) (tail : List Char) : Ends (c :: tail) :=
  fun _ head => Option.some.inj head ▸ other

/-- Digits with a point among them are read as what they stand for. -/
theorem isRead_point (whole fraction : List Char) (isWhole : wholePart (whole ++ '.' :: fraction) = whole)
    (present : whole ≠ []) (digits : Digits fraction) (more : fraction ≠ []) :
    IsRead (whole ++ '.' :: fraction) (decimalValue (digitsValue (whole ++ fraction)) (-fraction.length)) := by
  have point : fractionPart ('.' :: fraction ++ []) = (fraction, ('.' :: fraction).length) :=
    fractionPart_of_digits digits more ends_nil
  have read := isRead_of_parts whole ('.' :: fraction) [] fraction (by rwa [List.append_nil]) present point
    rfl (by simp)
  rwa [List.append_nil, zero_sub] at read

/-- Plain notation is read as what the digits stand for with the point at its place. -/
theorem isRead_plain {ds : List Char} (digits : Digits ds) (head : ds.head? ≠ some '0') (present : ds ≠ [])
    (place : Int) :
    IsRead (Decimal.plain ds place true) (decimalValue (digitsValue ds) (place - ds.length)) := by
  unfold Decimal.plain
  split
  · -- The point is before the digits.
    next small =>
    have read := isRead_point ['0'] (zeros (-place).toNat ++ ds) rfl (by simp)
      ((digits_zeros _).append digits) (by simp [present])
    rw [show ['0'] = zeros 1 from rfl, digitsValue_zeros_append, digitsValue_zeros_append] at read
    rw [show place - ds.length = -((zeros (-place).toNat ++ ds).length : Int) by simp [zeros]; omega]
    exact read
  · next large =>
    split
    · -- The point is behind them.
      next whole =>
      have run : Digits (ds ++ zeros (place.toNat - ds.length)) := digits.append (digits_zeros _)
      have first : (ds ++ zeros (place.toNat - ds.length)).head? ≠ some '0' := by
        rwa [List.head?_append_of_ne_nil _ present]
      have read := isRead_point _ (zeros 1)
        (wholePart_of_digits run first (by simp [present]) (ends_cons rfl _)) (by simp [present])
        (digits_zeros 1) (by decide)
      have more : ds ++ zeros (place.toNat - ds.length) ++ zeros 1 =
          ds ++ zeros (place.toNat - ds.length + 1) := by
        simp [zeros, List.replicate_succ']
      rw [more, decimalValue_zeros] at read
      rw [show place - ds.length =
        -((zeros 1).length : Int) + (place.toNat - ds.length + 1 : Nat) by simp [zeros]; omega]
      exact read
    · -- The point is among them.
      next part =>
      have fraction : Digits (ds.drop place.toNat) := fun c member => digits c (List.mem_of_mem_drop member)
      have run : Digits (ds.take place.toNat) := fun c member => digits c (List.mem_of_mem_take member)
      have first : (ds.take place.toNat).head? ≠ some '0' := by
        rwa [List.head?_take, if_neg (by omega)]
      have some : ds.take place.toNat ≠ [] := by
        simp [present]
        omega
      have read := isRead_point _ _ (wholePart_of_digits run first some (ends_cons rfl _)) some fraction
        (by simp; omega)
      rw [List.take_append_drop] at read
      rw [show place - ds.length = -((ds.drop place.toNat).length : Int) by simp; omega]
      exact read

/-- Exponent notation is read as what the digits stand for with the point after the first of them. -/
theorem isRead_withExponent {ds : List Char} (digits : Digits ds) (head : ds.head? ≠ some '0')
    (present : ds ≠ []) {x : Int} (short : x.natAbs < 10 ^ 9) :
    IsRead (Decimal.withExponent ds x) (decimalValue (digitsValue ds) (x + 1 - ds.length)) := by
  have scale := exponentPart_written short (2 - (Nat.toDigits 10 x.natAbs).length)
  unfold Decimal.withExponent
  match ds, digits, head, present with
  | [d], digits, head, present =>
    have read := isRead_of_parts _ [] _ []
      (wholePart_of_digits digits head present (ends_cons rfl _)) present rfl scale (by simp)
    rw [List.append_nil] at read
    rw [show x + 1 - ([d].length : Int) = x - (([] : List Char).length : Int) by simp]
    exact read
  | d :: e :: rest, digits, head, _ =>
    have first : Digits [d] := fun c member => digits c (by simp_all)
    have fraction : Digits (e :: rest) := fun c member => digits c (List.mem_cons_of_mem d member)
    have read := isRead_of_parts _ ('.' :: e :: rest) _ _
      (wholePart_of_digits first head (by simp) (ends_cons rfl _)) (by simp)
      (fractionPart_of_digits fraction (by simp) (ends_cons rfl _)) scale (by simp)
    rw [show x + 1 - ((d :: e :: rest).length : Int) = x - ((e :: rest).length : Int) by simp]
    simpa only [List.cons_append, List.nil_append, List.append_assoc] using read

/-- Moving zeros at the end of a number into its exponent does not change its value. -/
theorem decimalValue_trimZeros (fuel n : Nat) (k : Int) :
    decimalValue (Decimal.trimZeros fuel n k).1 (Decimal.trimZeros fuel n k).2 = decimalValue n k := by
  induction fuel generalizing n k with
  | zero => rfl
  | succ fuel ih =>
    rw [Decimal.trimZeros]
    split
    · next zero =>
      simp only [Bool.and_eq_true, bne_iff_ne, beq_iff_eq] at zero
      obtain ⟨m, rfl⟩ : 10 ∣ n := Nat.dvd_of_mod_eq_zero zero.2
      have moved := Decimal.decimalValue_mul_pow m 1 k
      rw [pow_one, mul_comm] at moved
      rw [ih, Nat.mul_div_cancel_left m (by decide)]
      exact moved.symm
    · rfl

/-- A decimal in the neighbourhood of a double is read as its value, in whatever notation it is written. -/
theorem isRead_write {m : Nat} (positive : 0 < m) {e : Int} (range : Decimal.InRange m e) {n : Nat} {k : Int}
    (near : Decimal.Near m e (decimalValue n k)) :
    IsRead (Decimal.Style.standard.write n k) (decimalValue n k) := by
  rw [← decimalValue_trimZeros 400] at near ⊢
  unfold Decimal.Style.write
  generalize Decimal.trimZeros 400 n k = trimmed at near ⊢
  obtain ⟨n, k⟩ := trimmed
  dsimp only at near ⊢
  have some := Decimal.pos_of_near positive range near
  obtain ⟨large, small⟩ := Decimal.size_of_near positive range some near
  have value := digitsValue_toDigits n
  have digits := digits_toDigits n
  have head := head_toDigits n some.ne'
  have present := Nat.toDigits_ne_nil (b := 10) (n := n)
  generalize Nat.toDigits 10 n = ds at *
  split
  · have read := isRead_plain digits head present (ds.length + k)
    rwa [value, add_sub_cancel_left] at read
  · have read := isRead_withExponent digits head present (x := ds.length + k - 1) (by omega)
    rwa [value, show (ds.length + k - 1 + 1 - ds.length : Int) = k by omega] at read

/-- Only what begins with a digit is read as a number. -/
theorem digit_of_unsigned? {negative : Bool} {pos : Nat} {cs : List Char}
    (read : (unsigned? negative ⟨pos, cs⟩).isSome) : ∃ c tail, cs = c :: tail ∧ c.isDigit = true := by
  cases cs with
  | nil => cases read
  | cons c tail =>
    refine ⟨c, tail, rfl, ?_⟩
    by_cases zero : c = '0'
    · subst zero
      rfl
    · have run : wholePart (c :: tail) = (c :: tail).takeWhile Char.isDigit :=
        wholePart.eq_2 _ fun tail begins => zero (List.cons.inj begins).1
      cases digit : c.isDigit with
      | true => rfl
      | false => simp [unsigned?, run, digit] at read

/-- The text of a double that is not zero is read as that double. -/
theorem readsBack_of_decode {x : Float} {negative : Bool} {m : Nat} {e : Int}
    (decoded : Decimal.decode x = .finite negative m e) (positive : 0 < m) (range : Decimal.InRange m e)
    (made : x = Decimal.ofParts negative m e) : ReadsBack (.float x) := by
  have near := Decimal.near_shortest positive range
  obtain ⟨n, k, value, read⟩ := isRead_write positive range near
  have same := Decimal.ofDecimal_of_near positive range (value ▸ near) negative
  have text : (print (.float x)).toList =
      if negative then '-' :: Decimal.Style.standard.write (Decimal.shortest m e).1 (Decimal.shortest m e).2
      else Decimal.Style.standard.write (Decimal.shortest m e).1 (Decimal.shortest m e).2 := by
    obtain ⟨m, rfl⟩ := Nat.exists_eq_succ_of_ne_zero positive.ne'
    simp only [print, printFloat, decoded, Decimal.text, Decimal.signed, String.toList_ofList]
  obtain ⟨p, first⟩ := read negative 0
  obtain ⟨c, tail, begins, digit⟩ := digit_of_unsigned? (by rw [first]; rfl)
  rw [begins] at text read
  refine readsBack_of_unsigned negative digit text fun pos => ?_
  rw [made, ← same]
  exact read negative pos

/-- Every double reads back. -/
theorem readsBack_float (x : Float) : ReadsBack (.float x) := by
  rcases Decimal.decode_cases x with ⟨-, rfl⟩ | ⟨negative, -, rfl⟩ | ⟨negative, m, e, decoded, range, made⟩
  · decide +kernel
  · cases negative <;> decide +kernel
  · rcases Nat.eq_zero_or_pos m with rfl | positive
    · obtain rfl : e = -1074 := range.full.resolve_right (by decide)
      rw [made]
      cases negative <;> decide +kernel
    · exact readsBack_of_decode decoded positive range made

end Json

end LiveLint
