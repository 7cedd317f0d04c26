import LiveLint.Json.Parser
import LiveLint.Json.Printer

/-!
# Written texts

A text is written character by character, each as itself or as an escape. Reading takes the escapes back
one by one, so a text that was written is read as it was, whatever comes after its closing quote. A
character beyond the basic plane is written as two units, and only the second one tells that they belong
together: this is why the reader looks ahead, and why there must be something to look at.
-/

namespace LiveLint

/-- The last hexadecimal digit of a number and the digits before it. -/
theorem Text.hex_succ (width n : Nat) :
    hex (width + 2) n = hex (width + 1) (n / 16) ++ [Nat.digitChar (n % 16)] := by
  unfold hex
  rw [Nat.toDigits_eq_if (n := n) (by decide)]
  split
  · next small =>
    rw [Nat.div_eq_of_lt small, Nat.mod_eq_of_lt small, Nat.toDigits_zero]
    simp [← List.replicate_succ']
  · simp

/-- Four hexadecimal digits of a number. -/
theorem Text.hex_four {n : Nat} (small : n < 65536) :
    hex 4 n = [Nat.digitChar (n / 4096), Nat.digitChar (n / 256 % 16), Nat.digitChar (n / 16 % 16),
      Nat.digitChar (n % 16)] := by
  have first : hex 1 (n / 16 / 16 / 16) = [Nat.digitChar (n / 4096)] := by
    have one : n / 16 / 16 / 16 < 16 := by omega
    have same : n / 16 / 16 / 16 = n / 4096 := by omega
    unfold hex
    rw [Nat.toDigits_of_lt_base one, same]
    rfl
  have second : n / 16 / 16 = n / 256 := by omega
  rw [hex_succ, hex_succ, hex_succ, first, second]
  rfl

namespace Json

theorem value?_digitChar : ∀ n < 16, Text.Hex.value? (Nat.digitChar n) = some n := by decide

/-- The escape of a unit reads back. -/
theorem unitEscape_eq {n : Nat} (small : n < 65536) :
    ∃ a b c d, unitEscape n = ['\\', 'u', a, b, c, d] ∧ hex4? a b c d = some n := by
  refine ⟨_, _, _, _, by rw [unitEscape, Text.hex_four small], ?_⟩
  have first := value?_digitChar (n / 4096) (by omega)
  have second := value?_digitChar (n / 256 % 16) (Nat.mod_lt _ (by decide))
  have third := value?_digitChar (n / 16 % 16) (Nat.mod_lt _ (by decide))
  have last := value?_digitChar (n % 16) (Nat.mod_lt _ (by decide))
  have number : (((n / 4096) * 16 + n / 256 % 16) * 16 + n / 16 % 16) * 16 + n % 16 = n := by omega
  simp [hex4?, Text.Hex.isDigit, Text.Hex.ofDigits, first, second, third, last, number]

/-- A unit that is not the first half of a pair is read by itself. -/
theorem stringFrom_unit {a b c d : Char} {n : Nat} (unit : hex4? a b c d = some n)
    (alone : Text.Encoding.isHigh n = false) {rest : List Char} (more : rest ≠ [])
    (start pos : Nat) (done : List Char) :
    stringFrom start pos done ('\\' :: 'u' :: a :: b :: c :: d :: rest) =
      stringFrom start (pos + 6) (Text.Encoding.charOf n :: done) rest := by
  obtain ⟨next, tail, rfl⟩ := List.exists_cons_of_ne_nil more
  by_cases another : ∃ e f g h next' rest', next = '\\' ∧
      tail = 'u' :: e :: f :: g :: h :: next' :: rest'
  · obtain ⟨e, f, g, h, next', rest', rfl, rfl⟩ := another
    rw [stringFrom.eq_4, unit]
    simp only [alone, Bool.false_eq_true, if_false]
  · rw [stringFrom.eq_5, unit]
    intro e f g h next' rest' slash unit'
    exact another ⟨e, f, g, h, next', rest', slash, unit'⟩

/-- Two units that belong together are read as one character. -/
theorem stringFrom_pair {a b c d e f g h : Char} {high low : Nat}
    (first : hex4? a b c d = some high) (second : hex4? e f g h = some low)
    (isHigh : Text.Encoding.isHigh high = true) (isLow : Text.Encoding.isLow low = true)
    {rest : List Char} (more : rest ≠ []) (start pos : Nat) (done : List Char) :
    stringFrom start pos done
        ('\\' :: 'u' :: a :: b :: c :: d :: '\\' :: 'u' :: e :: f :: g :: h :: rest) =
      stringFrom start (pos + 12) (Text.Encoding.pairChar high low :: done) rest := by
  obtain ⟨next, tail, rfl⟩ := List.exists_cons_of_ne_nil more
  rw [stringFrom.eq_4, first, second]
  simp only [isHigh, isLow, if_true]

/-- An escape of one letter is read as its character. -/
theorem stringFrom_letter {c e : Char} (letter : simpleEscape? c = some e) (start pos : Nat)
    (done rest : List Char) :
    stringFrom start pos done ('\\' :: c :: rest) = stringFrom start (pos + 2) (e :: done) rest := by
  have other : c ≠ 'u' := by
    rintro rfl
    cases letter
  rw [stringFrom.eq_7, letter]
  · exact fun _ _ _ _ _ _ _ _ _ _ same _ => other same
  · exact fun _ _ _ _ _ _ same _ => other same
  · exact other

/-- A character that is neither a quote nor a backslash nor a control character stands for itself. -/
theorem stringFrom_self {c : Char} (quote : c ≠ '"') (slash : c ≠ '\\') (control : ¬ c.toNat < 32)
    (start pos : Nat) (done rest : List Char) :
    stringFrom start pos done (c :: rest) = stringFrom start (pos + 1) (c :: done) rest := by
  rw [stringFrom.eq_8, if_neg control]
  · exact quote
  · exact fun same _ => slash same
  · exact fun _ _ _ _ _ _ _ _ _ _ same _ => slash same
  · exact fun _ _ _ _ _ _ same _ => slash same
  · exact fun _ same _ => slash same
  · exact fun _ _ same _ => slash same

/-- No character is half of a pair. -/
theorem charOf_toNat (c : Char) :
    Text.Encoding.isHigh c.toNat = false ∧ Text.Encoding.charOf c.toNat = c := by
  have scalar : c.toNat < 0xD800 ∨ 0xDFFF < c.toNat ∧ c.toNat < 0x110000 := c.valid
  have isHigh : Text.Encoding.isHigh c.toNat = false := by
    simp only [Text.Encoding.isHigh, Bool.and_eq_false_iff, decide_eq_false_iff_not]
    omega
  have isLow : Text.Encoding.isLow c.toNat = false := by
    simp only [Text.Encoding.isLow, Bool.and_eq_false_iff, decide_eq_false_iff_not]
    omega
  exact ⟨isHigh, by simp [Text.Encoding.charOf, isHigh, isLow]⟩

/-- A character beyond the basic plane is the one of its two units. -/
theorem pairChar_toNat {c : Char} (beyond : 0x10000 ≤ c.toNat) :
    let high := 0xD800 + (c.toNat - 0x10000) / 0x400
    let low := 0xDC00 + (c.toNat - 0x10000) % 0x400
    high < 65536 ∧ low < 65536 ∧ Text.Encoding.isHigh high = true ∧
      Text.Encoding.isLow low = true ∧ Text.Encoding.pairChar high low = c := by
  intro high low
  have scalar : c.toNat < 0xD800 ∨ 0xDFFF < c.toNat ∧ c.toNat < 0x110000 := c.valid
  have remainder := Nat.mod_lt (c.toNat - 0x10000) (show 0x400 > 0 by decide)
  refine ⟨by omega, by omega, ?_, ?_, ?_⟩
  · simp only [Text.Encoding.isHigh, Bool.and_eq_true, decide_eq_true_eq]
    omega
  · simp only [Text.Encoding.isLow, Bool.and_eq_true, decide_eq_true_eq]
    omega
  · have number : 0x10000 + (high - 0xD800) * 0x400 + (low - 0xDC00) = c.toNat := by omega
    rw [Text.Encoding.pairChar, number, Char.ofNat_toNat]

/-- How a character is written: by a letter, as itself, or by one unit or two. -/
theorem escapeChar_cases (c : Char) :
    (∃ letter, escapeChar c = ['\\', letter] ∧ simpleEscape? letter = some c) ∨
    (escapeChar c = [c] ∧ c ≠ '"' ∧ c ≠ '\\' ∧ ¬ c.toNat < 32) ∨
    (escapeChar c = unitEscape c.toNat ∧ c.toNat < 0x10000) ∨
    (escapeChar c = unitEscape (0xD800 + (c.toNat - 0x10000) / 0x400) ++
      unitEscape (0xDC00 + (c.toNat - 0x10000) % 0x400) ∧ 0x10000 ≤ c.toNat) := by
  by_cases quote : c = '"'
  · exact Or.inl ⟨'"', by rw [quote]; decide, by rw [quote]; decide⟩
  by_cases slash : c = '\\'
  · exact Or.inl ⟨'\\', by rw [slash]; decide, by rw [slash]; decide⟩
  by_cases newline : c = '\n'
  · exact Or.inl ⟨'n', by rw [newline]; decide, by rw [newline]; decide⟩
  by_cases carriageReturn : c = '\r'
  · exact Or.inl ⟨'r', by rw [carriageReturn]; decide, by rw [carriageReturn]; decide⟩
  by_cases tab : c = '\t'
  · exact Or.inl ⟨'t', by rw [tab]; decide, by rw [tab]; decide⟩
  by_cases backspace : c.toNat = 8
  · obtain rfl : c = '\x08' := Char.toNat_inj.1 backspace
    exact Or.inl ⟨'b', by decide, by decide⟩
  by_cases formFeed : c.toNat = 12
  · obtain rfl : c = '\x0c' := Char.toNat_inj.1 formFeed
    exact Or.inl ⟨'f', by decide, by decide⟩
  refine Or.inr ?_
  by_cases plain : 32 ≤ c.toNat ∧ c.toNat < 127
  · refine Or.inl ⟨?_, quote, slash, by omega⟩
    simp [escapeChar, quote, slash, newline, carriageReturn, tab, backspace, formFeed, plain]
  refine Or.inr ?_
  by_cases basic : c.toNat < 0x10000
  · refine Or.inl ⟨?_, basic⟩
    simp [escapeChar, quote, slash, newline, carriageReturn, tab, backspace, formFeed, plain, basic]
  · refine Or.inr ⟨?_, Nat.le_of_not_lt basic⟩
    simp [escapeChar, quote, slash, newline, carriageReturn, tab, backspace, formFeed, plain, basic]

/-- A written character is read as it was. -/
theorem stringFrom_escapeChar (c : Char) {rest : List Char} (more : rest ≠ []) (start pos : Nat)
    (done : List Char) :
    ∃ pos', stringFrom start pos done (escapeChar c ++ rest) =
      stringFrom start pos' (c :: done) rest := by
  rcases escapeChar_cases c with ⟨letter, form, value⟩ | ⟨form, quote, slash, control⟩ |
    ⟨form, basic⟩ | ⟨form, beyond⟩
  · rw [form]
    exact ⟨_, stringFrom_letter value start pos done rest⟩
  · rw [form]
    exact ⟨_, stringFrom_self quote slash control start pos done rest⟩
  · obtain ⟨alone, same⟩ := charOf_toNat c
    obtain ⟨a, b, d, e, digits, unit⟩ := unitEscape_eq basic
    have read := stringFrom_unit unit alone more start pos done
    rw [same] at read
    rw [form, digits]
    exact ⟨_, read⟩
  · obtain ⟨high, low, isHigh, isLow, same⟩ := pairChar_toNat beyond
    obtain ⟨a, b, d, e, digits, unit⟩ := unitEscape_eq high
    obtain ⟨a', b', d', e', digits', unit'⟩ := unitEscape_eq low
    have read := stringFrom_pair unit unit' isHigh isLow more start pos done
    rw [same] at read
    rw [form, digits, digits']
    exact ⟨_, read⟩

/-- A written text is read up to its closing quote, and as it was. -/
theorem stringFrom_flatMap (cs rest : List Char) (start pos : Nat) (done : List Char) :
    ∃ pos', stringFrom start pos done (cs.flatMap escapeChar ++ '"' :: rest) =
      .ok (String.ofList (done.reverse ++ cs), ⟨pos', rest⟩) := by
  induction cs generalizing pos done with
  | nil => exact ⟨pos + 1, by rw [List.flatMap_nil, List.nil_append, stringFrom.eq_2, List.append_nil]⟩
  | cons c cs ih =>
    have more : cs.flatMap escapeChar ++ '"' :: rest ≠ [] := by simp
    obtain ⟨next, first⟩ := stringFrom_escapeChar c more start pos done
    obtain ⟨last, others⟩ := ih next (c :: done)
    refine ⟨last, ?_⟩
    rw [List.flatMap_cons, List.append_assoc, first, others, List.reverse_cons, List.append_assoc]
    rfl

/-- What is written for a text is read as that text. -/
theorem stringFrom_printText (s : String) (rest : List Char) (start pos : Nat) :
    ∃ body pos', (printText s).toList = '"' :: body ∧
      stringFrom start pos [] (body ++ rest) = .ok (s, ⟨pos', rest⟩) := by
  obtain ⟨pos', read⟩ := stringFrom_flatMap s.toList rest start pos []
  refine ⟨s.toList.flatMap escapeChar ++ ['"'], pos', ?_, ?_⟩
  · rw [printText, String.toList_ofList]
    rfl
  · rw [List.append_assoc, List.singleton_append, read, List.reverse_nil, List.nil_append,
      String.ofList_toList]

end Json

end LiveLint
