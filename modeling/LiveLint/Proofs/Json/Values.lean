import LiveLint.Proofs.Json.Texts
import LiveLint.Proofs.Outcomes
import Mathlib.Data.List.TakeWhile

/-!
# Written values

The compact form of a value is read back wherever it stands. A word or a number ends where a comma or a
closing bracket follows, so what comes after it does not change how it is read; a text ends at its closing
quote. From the parts this goes over to lists, and to tables with distinct keys.

That a single double reads back by itself is a matter of decimals and not of this format.
-/

namespace LiveLint.Json

def ReadsBack (v : Value) : Prop := parse (print v).toList = .ok v

def double? : Except Fault Value → Option Float
  | .ok (.float x) => some x
  | _ => none

theorem double?_eq_some_iff {read : Except Fault Value} {x : Float} :
    double? read = some x ↔ read = .ok (.float x) := by
  cases read with
  | error fault => exact ⟨nofun, nofun⟩
  | ok v => cases v <;> simp [double?]

instance (x : Float) : Decidable (ReadsBack (.float x)) :=
  decidable_of_iff (double? (parse (print (.float x)).toList) = some x) double?_eq_some_iff

/-- What may come after a value: nothing, a comma or a closing bracket. -/
def Closes (rest : List Char) : Prop := ∀ c, rest.head? = some c → c = ',' ∨ c = ']' ∨ c = '\x7d'

theorem closes_nil : Closes [] := nofun

/-- Not one of the characters that may come after a value has a property. -/
structure Excludes (p : Char → Bool) : Prop where
  comma : p ',' = false
  bracket : p ']' = false
  brace : p '\x7d' = false

theorem Excludes.head {p : Char → Bool} (excludes : Excludes p) {c : Char} {rest : List Char}
    (closes : Closes (c :: rest)) : p c = false := by
  rcases closes c rfl with rfl | rfl | rfl
  · exact excludes.comma
  · exact excludes.bracket
  · exact excludes.brace

theorem excludes_isDigit : Excludes Char.isDigit := ⟨rfl, rfl, rfl⟩

theorem excludes_isSpace : Excludes isSpace := ⟨rfl, rfl, rfl⟩

section Parts

variable {rest : List Char} (closes : Closes rest) (cs : List Char)

include closes

/-- A run of characters ends at the latest where the value does. -/
theorem takeWhile_append {p : Char → Bool} (excludes : Excludes p) :
    (cs ++ rest).takeWhile p = cs.takeWhile p := by
  induction cs with
  | nil =>
    cases rest with
    | nil => rfl
    | cons c tail => simp [excludes.head closes]
  | cons c tail ih => simp only [List.cons_append, List.takeWhile_cons, ih]

theorem dropWhile_append {p : Char → Bool} (excludes : Excludes p) :
    (cs ++ rest).dropWhile p = cs.dropWhile p ++ rest := by
  induction cs with
  | nil =>
    cases rest with
    | nil => rfl
    | cons c tail => simp [excludes.head closes]
  | cons c tail ih =>
    simp only [List.cons_append, List.dropWhile_cons, ih]
    split <;> rfl

/-- What begins with another character did so before something was appended. -/
theorem exists_cons_of_append {c : Char} (other : ¬ (c = ',' ∨ c = ']' ∨ c = '\x7d'))
    {tail : List Char} (begins : cs ++ rest = c :: tail) : ∃ front, cs = c :: front := by
  cases cs with
  | nil =>
    rw [List.nil_append] at begins
    exact absurd (closes c (by rw [begins]; rfl)) other
  | cons d front => exact ⟨front, by rw [(List.cons.inj begins).1]⟩

theorem wholePart_append : wholePart (cs ++ rest) = wholePart cs := by
  by_cases zero : ∃ tail, cs = '0' :: tail
  · obtain ⟨tail, rfl⟩ := zero
    rfl
  · have longer : ∀ tail, cs ++ rest = '0' :: tail → False :=
      fun tail begins => zero (exists_cons_of_append closes cs (by decide) begins)
    rw [wholePart.eq_2 _ longer, wholePart.eq_2 _ fun tail begins => zero ⟨tail, begins⟩,
      takeWhile_append closes cs excludes_isDigit]

theorem fractionPart_append : fractionPart (cs ++ rest) = fractionPart cs := by
  by_cases point : ∃ tail, cs = '.' :: tail
  · obtain ⟨tail, rfl⟩ := point
    simp only [List.cons_append, fractionPart, takeWhile_append closes tail excludes_isDigit]
  · have longer : ∀ tail, cs ++ rest = '.' :: tail → False :=
      fun tail begins => point (exists_cons_of_append closes cs (by decide) begins)
    rw [fractionPart.eq_2 _ longer, fractionPart.eq_2 _ fun tail begins => point ⟨tail, begins⟩]

theorem exponentDigits_append (negative : Bool) (before : Nat) :
    exponentDigits negative before (cs ++ rest) = exponentDigits negative before cs := by
  unfold exponentDigits
  rw [takeWhile_append closes cs excludes_isDigit]

theorem signedExponent_append : signedExponent (cs ++ rest) = signedExponent cs := by
  have digits := exponentDigits_append closes
  by_cases minus : ∃ tail, cs = '-' :: tail
  · obtain ⟨tail, rfl⟩ := minus
    exact digits tail true 2
  by_cases plus : ∃ tail, cs = '+' :: tail
  · obtain ⟨tail, rfl⟩ := plus
    exact digits tail false 2
  have notMinus : ∀ tail, cs ++ rest = '-' :: tail → False :=
    fun tail begins => minus (exists_cons_of_append closes cs (by decide) begins)
  have notPlus : ∀ tail, cs ++ rest = '+' :: tail → False :=
    fun tail begins => plus (exists_cons_of_append closes cs (by decide) begins)
  rw [signedExponent.eq_3 _ notMinus notPlus, signedExponent.eq_3, digits]
  · exact fun tail begins => minus ⟨tail, begins⟩
  · exact fun tail begins => plus ⟨tail, begins⟩

theorem exponentPart_append : exponentPart (cs ++ rest) = exponentPart cs := by
  cases cs with
  | nil =>
    cases rest with
    | nil => rfl
    | cons c tail =>
      have mark : (c != 'e' && c != 'E') = true := by
        rcases closes c rfl with rfl | rfl | rfl <;> rfl
      rw [List.nil_append, exponentPart, if_pos mark]
      rfl
  | cons e after => rw [List.cons_append, exponentPart, exponentPart, signedExponent_append closes]

end Parts

theorem length_wholePart_le (cs : List Char) : (wholePart cs).length ≤ cs.length := by
  unfold wholePart
  split
  · simp
  · exact (List.takeWhile_sublist _).length_le

theorem fractionPart_le (cs : List Char) : (fractionPart cs).2 ≤ cs.length := by
  unfold fractionPart
  split
  · next rest =>
    have digits := (List.takeWhile_sublist (l := rest) Char.isDigit).length_le
    dsimp only
    split
    · exact Nat.zero_le _
    · exact Nat.succ_le_succ digits
  · exact Nat.zero_le _

theorem exponentDigits_le (negative : Bool) (before : Nat) (cs : List Char) :
    (exponentDigits negative before cs).2 ≤ before + cs.length := by
  have digits := (List.takeWhile_sublist (l := cs) Char.isDigit).length_le
  unfold exponentDigits
  dsimp only
  split
  · exact Nat.zero_le _
  · exact Nat.add_le_add_left digits before

theorem signedExponent_le (cs : List Char) : (signedExponent cs).2 ≤ cs.length + 1 := by
  unfold signedExponent
  split
  · next tail =>
    have bound := exponentDigits_le true 2 tail
    rw [List.length_cons]
    omega
  · next tail =>
    have bound := exponentDigits_le false 2 tail
    rw [List.length_cons]
    omega
  · have bound := exponentDigits_le false 1 cs
    omega

theorem exponentPart_le (cs : List Char) : (exponentPart cs).2 ≤ cs.length := by
  cases cs with
  | nil => exact Nat.le_refl 0
  | cons e after =>
    rw [exponentPart]
    split
    · exact Nat.zero_le _
    · exact signedExponent_le after

/-- What was read with something left of the text, and then more after it. -/
def further (pos : Nat) (rest : List Char) (read : Value × Input) : Value × Input :=
  (read.1, ⟨pos + read.2.pos, read.2.rest ++ rest⟩)

/-- A number ends where the value does. -/
theorem unsigned?_append {rest : List Char} (closes : Closes rest) (negative : Bool) (pos : Nat)
    (cs : List Char) :
    unsigned? negative ⟨pos, cs ++ rest⟩ =
      (unsigned? negative ⟨0, cs⟩).map (·.map (further pos rest)) := by
  have whole := length_wholePart_le cs
  have fraction := fractionPart_le (cs.drop (wholePart cs).length)
  have exponent := exponentPart_le
    (cs.drop ((wholePart cs).length + (fractionPart (cs.drop (wholePart cs).length)).2))
  rw [List.length_drop] at fraction exponent
  unfold unsigned?
  dsimp only [Input.skip]
  rw [wholePart_append closes, List.drop_append_of_le_length whole, fractionPart_append closes,
    List.drop_append_of_le_length (by omega), exponentPart_append closes,
    List.drop_append_of_le_length (by omega)]
  split
  · rfl
  · split
    · split <;> simp [further, Except.map]
    · simp [further, Except.map]

theorem number?_append {rest : List Char} (closes : Closes rest) (pos : Nat) (cs : List Char) :
    number? ⟨pos, cs ++ rest⟩ = (number? ⟨0, cs⟩).map (·.map (further pos rest)) := by
  by_cases minus : ∃ tail, cs = '-' :: tail
  · obtain ⟨tail, rfl⟩ := minus
    have read := unsigned?_append closes true (pos + 1) tail
    have alone := unsigned?_append closes_nil true 1 tail
    rw [List.append_nil] at alone
    change unsigned? true ⟨pos + 1, tail ++ rest⟩ =
      (unsigned? true ⟨1, tail⟩).map (·.map (further pos rest))
    rw [read, alone]
    rcases unsigned? true ⟨0, tail⟩ with _ | _ | read
    · rfl
    · rfl
    · simp [further, Except.map, Nat.add_assoc]
  · have unsigned : ∀ pos more, Closes more → number? ⟨pos, cs ++ more⟩ =
        unsigned? false ⟨pos, cs ++ more⟩ := by
      intro pos more closes
      unfold number?
      split
      · next tail begins =>
        exact absurd (exists_cons_of_append closes cs (by decide) begins) minus
      · rfl
    have alone := unsigned 0 [] closes_nil
    rw [List.append_nil] at alone
    rw [unsigned pos rest closes, alone]
    exact unsigned?_append closes false pos cs

theorem isPrefixOf_append {rest : List Char} (closes : Closes rest) {word : List Char}
    (free : (word.all fun c => !(c == ',' || c == ']' || c == '\x7d')) = true) (cs : List Char) :
    word.isPrefixOf (cs ++ rest) = word.isPrefixOf cs := by
  induction word generalizing cs with
  | nil => rfl
  | cons c word ih =>
    rw [List.all_cons, Bool.and_eq_true] at free
    cases cs with
    | nil =>
      cases rest with
      | nil => rfl
      | cons d tail =>
        have other : c ≠ d := by
          rintro rfl
          rcases closes c rfl with rfl | rfl | rfl <;> exact Bool.false_ne_true free.1
        simp [List.isPrefixOf, other]
    | cons d tail => simp only [List.cons_append, List.isPrefixOf, ih free.2]

theorem find?_literals_append {rest : List Char} (closes : Closes rest) (cs : List Char) :
    (literals.find? fun literal => literal.1.toList.isPrefixOf (cs ++ rest)) =
      literals.find? fun literal => literal.1.toList.isPrefixOf cs := by
  have free : (literals.all fun literal => literal.1.toList.all fun c =>
      !(c == ',' || c == ']' || c == '\x7d')) = true := by
    decide
  have same : ∀ literal ∈ literals, literal.1.toList.isPrefixOf (cs ++ rest) =
      literal.1.toList.isPrefixOf cs :=
    fun literal known => isPrefixOf_append closes (List.all_eq_true.1 free literal known) cs
  generalize literals = words at same
  induction words with
  | nil => rfl
  | cons literal words ih =>
    rw [List.find?_cons, List.find?_cons, same literal List.mem_cons_self,
      ih fun other later => same other (List.mem_cons_of_mem _ later)]

/-- A word or a number is read in the same way before a comma or a closing bracket. -/
theorem scalar_append {rest : List Char} (closes : Closes rest) {pos : Nat} {cs : List Char} {v : Value}
    {next : Input} (read : scalar ⟨pos, cs⟩ = .ok (v, next)) (pos' : Nat) :
    ∃ p, scalar ⟨pos', cs ++ rest⟩ = .ok (v, ⟨p, next.rest ++ rest⟩) := by
  unfold scalar at read ⊢
  dsimp only at read ⊢
  rw [find?_literals_append closes]
  cases word : literals.find? fun literal => literal.1.toList.isPrefixOf cs with
  | some literal =>
    rw [word] at read
    have begins := List.find?_some word
    have short : literal.1.length ≤ cs.length := (List.isPrefixOf_iff_prefix.1 begins).length_le
    cases read
    refine ⟨pos' + literal.1.length, ?_⟩
    simp only [Input.skip, List.drop_append_of_le_length short]
  | none =>
    rw [word] at read
    have alone := number?_append closes_nil pos cs
    rw [List.append_nil] at alone
    rw [alone] at read
    rw [number?_append closes pos' cs]
    cases number : number? ⟨0, cs⟩ with
    | none =>
      rw [number] at read
      cases read
    | some outcome =>
      rw [number] at read
      cases outcome with
      | error fault => cases read
      | ok found =>
        cases read
        exact ⟨pos' + found.2.pos, by simp [further, Except.map]⟩

/-- The compact form of a value is read back wherever it stands. -/
def Embeds (v : Value) : Prop :=
  ∀ fuel pos rest, (print v).toList.length < fuel → Closes rest →
    ∃ next p, value fuel (Input.trim ⟨pos, (print v).toList ++ rest⟩) = .ok (v, next) ∧
      next.trim = ⟨p, rest⟩

theorem rest_trim (i : Input) : i.trim.rest = i.rest.dropWhile isSpace := by
  change i.rest.drop (i.rest.takeWhile isSpace).length = _
  induction i.rest with
  | nil => rfl
  | cons c cs ih =>
    rw [List.takeWhile_cons, List.dropWhile_cons]
    split
    · exact ih
    · rfl

/-- White space before what is left of a text does not matter. -/
theorem trim_append {rest : List Char} (closes : Closes rest) (pos : Nat) (cs : List Char) :
    ∃ p, Input.trim ⟨pos, cs ++ rest⟩ = ⟨p, cs.dropWhile isSpace ++ rest⟩ := by
  have left := rest_trim ⟨pos, cs ++ rest⟩
  rw [dropWhile_append closes cs excludes_isSpace] at left
  exact ⟨(Input.trim ⟨pos, cs ++ rest⟩).pos, by rw [← left]⟩

/-- A value that is neither a text nor a list nor a table. -/
def Simple : Value → Prop
  | .text _ | .list _ | .table _ => False
  | _ => True

theorem value_quote (fuel pos : Nat) (tail : List Char) :
    value (fuel + 1) ⟨pos, '"' :: tail⟩ =
      (stringFrom pos (pos + 1) [] tail).map fun (s, next) => (.text s, next) := by
  change (stringFrom pos (pos + 1) [] tail >>= _) = _
  cases stringFrom pos (pos + 1) [] tail <;> rfl

theorem value_bracket (fuel pos : Nat) (tail : List Char) :
    value (fuel + 1) ⟨pos, '[' :: tail⟩ =
      let inner := Input.trim ⟨pos + 1, tail⟩
      if inner.rest.head? == some ']' then .ok (.list [], inner.skip 1)
      else (items fuel inner).map fun (vs, next) => (.list vs, next) := by
  dsimp only
  change (if (Input.trim ⟨pos + 1, tail⟩).rest.head? == some ']' then _ else _) = _
  split
  · rfl
  · change (items fuel (Input.trim ⟨pos + 1, tail⟩) >>= _) = _
    cases items fuel (Input.trim ⟨pos + 1, tail⟩) <;> rfl

theorem value_brace (fuel pos : Nat) (tail : List Char) :
    value (fuel + 1) ⟨pos, '\x7b' :: tail⟩ =
      let inner := Input.trim ⟨pos + 1, tail⟩
      if inner.rest.head? == some '\x7d' then .ok (.table [], inner.skip 1)
      else (fields fuel [] inner).map fun (fs, next) => (.table fs, next) := by
  dsimp only
  change (if (Input.trim ⟨pos + 1, tail⟩).rest.head? == some '\x7d' then _ else _) = _
  split
  · rfl
  · change (fields fuel [] (Input.trim ⟨pos + 1, tail⟩) >>= _) = _
    cases fields fuel [] (Input.trim ⟨pos + 1, tail⟩) <;> rfl

/-- What does not begin like a text, a list or a table is read as a word or a number. -/
theorem value_scalar {c : Char} (quote : c ≠ '"') (bracket : c ≠ '[') (brace : c ≠ '\x7b')
    (fuel pos : Nat) (tail : List Char) :
    value (fuel + 1) ⟨pos, c :: tail⟩ = scalar ⟨pos, c :: tail⟩ := by
  rw [value]
  dsimp only
  split
  · next same => exact absurd (List.cons.inj same).1 quote
  · next same => exact absurd (List.cons.inj same).1 bracket
  · next same => exact absurd (List.cons.inj same).1 brace
  · rfl

/-- Only a word or a number is read as a simple value. -/
theorem scalar_of_value {v : Value} (simple : Simple v) {fuel pos : Nat} {cs : List Char}
    {next : Input} (read : value fuel ⟨pos, cs⟩ = .ok (v, next)) :
    ∃ c tail, cs = c :: tail ∧ c ≠ '"' ∧ c ≠ '[' ∧ c ≠ '\x7b' ∧
      scalar ⟨pos, cs⟩ = .ok (v, next) := by
  cases fuel with
  | zero => cases read
  | succ fuel =>
    cases cs with
    | nil => cases read
    | cons c tail =>
      refine ⟨c, tail, rfl, ?_⟩
      by_cases quote : c = '"'
      · rw [quote, value_quote] at read
        obtain ⟨found, -, same⟩ := map_eq_ok_iff.1 read
        cases same
        exact simple.elim
      by_cases bracket : c = '['
      · rw [bracket, value_bracket] at read
        dsimp only at read
        split at read
        · cases read
          exact simple.elim
        · obtain ⟨found, -, same⟩ := map_eq_ok_iff.1 read
          cases same
          exact simple.elim
      by_cases brace : c = '\x7b'
      · rw [brace, value_brace] at read
        dsimp only at read
        split at read
        · cases read
          exact simple.elim
        · obtain ⟨found, -, same⟩ := map_eq_ok_iff.1 read
          cases same
          exact simple.elim
      rw [value_scalar quote bracket brace] at read
      exact ⟨quote, bracket, brace, read⟩

/-- A value that reads back was read from its form without the white space around it. -/
theorem value_of_readsBack {v : Value} (back : ReadsBack v) :
    ∃ fuel pos next, value fuel ⟨pos, (print v).toList.dropWhile isSpace⟩ = .ok (v, next) ∧
      next.rest.dropWhile isSpace = [] := by
  unfold ReadsBack parse at back
  split at back
  · cases back
  · unfold document at back
    obtain ⟨p, start⟩ := trim_append closes_nil 0 (print v).toList
    rw [List.append_nil, List.append_nil] at start
    rw [start] at back
    obtain ⟨⟨found, next⟩, read, done⟩ := bind_eq_ok_iff.1 back
    dsimp only at done
    rw [rest_trim] at done
    split at done
    · next ended =>
      cases done
      exact ⟨_, p, next, read, List.isEmpty_iff.1 ended⟩
    · cases done

/-- A simple value that reads back by itself is read back wherever it stands. -/
theorem embeds_of_readsBack {v : Value} (simple : Simple v) (back : ReadsBack v) : Embeds v := by
  intro fuel pos rest enough closes
  obtain ⟨fuel', pos', next, read, ended⟩ := value_of_readsBack back
  obtain ⟨c, tail, begins, quote, bracket, brace, read⟩ := scalar_of_value simple read
  obtain ⟨start, trimmed⟩ := trim_append closes pos (print v).toList
  obtain ⟨stop, more⟩ := scalar_append closes read start
  obtain ⟨p, left⟩ := trim_append closes stop next.rest
  rw [ended, List.nil_append] at left
  refine ⟨_, p, ?_, left⟩
  obtain ⟨fuel, rfl⟩ := Nat.exists_eq_succ_of_ne_zero (Nat.ne_of_gt (Nat.zero_lt_of_lt enough))
  rw [trimmed, begins, List.cons_append, value_scalar quote bracket brace, ← List.cons_append, ← begins]
  exact more

theorem trim_cons {c : Char} (other : isSpace c = false) (pos : Nat) (tail : List Char) :
    Input.trim ⟨pos, c :: tail⟩ = ⟨pos, c :: tail⟩ := by
  simp [Input.trim, Input.skip, other]

theorem closes_cons {c : Char} (closing : c = ',' ∨ c = ']' ∨ c = '\x7d') (tail : List Char) :
    Closes (c :: tail) := fun _ head => Option.some.inj head ▸ closing

theorem embeds_text (s : String) : Embeds (.text s) := by
  intro fuel pos rest enough closes
  obtain ⟨body, stop, form, read⟩ := stringFrom_printText s rest pos (pos + 1)
  obtain ⟨p, left⟩ := trim_append closes stop []
  obtain ⟨fuel, rfl⟩ := Nat.exists_eq_succ_of_ne_zero (Nat.ne_of_gt (Nat.zero_lt_of_lt enough))
  refine ⟨⟨stop, rest⟩, p, ?_, left⟩
  rw [print, form, List.cons_append, trim_cons rfl, value_quote, read]
  rfl

/-- A text begins like a number: with a digit, or with a minus sign and a digit. -/
def beginsNumber (cs : List Char) : Bool :=
  (if cs.head? == some '-' then cs.tail else cs).head?.any Char.isDigit

theorem beginsNumber_of_digit {c : Char} (digit : c.isDigit = true) (tail : List Char) :
    beginsNumber (c :: tail) = true ∧ beginsNumber ('-' :: c :: tail) = true := by
  refine ⟨?_, digit⟩
  have other : c ≠ '-' := by
    rintro rfl
    cases digit
  simp [beginsNumber, other, digit]

/-- What begins like a number begins with a digit or a minus sign. -/
theorem head_of_beginsNumber {c : Char} {tail : List Char} (begins : beginsNumber (c :: tail) = true) :
    c.isDigit = true ∨ c = '-' := by
  by_cases minus : c = '-'
  · exact Or.inr minus
  · refine Or.inl ?_
    simpa [beginsNumber, minus] using begins

/-- No word of the format begins like a number. -/
theorem scalar_of_beginsNumber {cs : List Char} (begins : beginsNumber cs = true) (pos : Nat) :
    scalar ⟨pos, cs⟩ = (number? ⟨pos, cs⟩).getD (.error (.malformed .value pos)) := by
  have letters : (literals.all fun literal =>
      decide (2 ≤ literal.1.toList.length) && !beginsNumber literal.1.toList) = true := by decide
  have noWord : (literals.find? fun literal => literal.1.toList.isPrefixOf cs) = none := by
    refine List.find?_eq_none.2 fun literal known found => ?_
    obtain ⟨rest, rfl⟩ := List.isPrefixOf_iff_prefix.1 found
    have word := List.all_eq_true.1 letters literal known
    match literal.1.toList, word, begins with
    | [], short, _ | [_], short, _ => simp at short
    | a :: b :: more, other, begins =>
      have same : beginsNumber (a :: b :: more) = true := by
        by_cases minus : a = '-' <;> simpa [beginsNumber, minus] using begins
      simp [same] at other
  unfold scalar
  rw [noWord]

theorem head_toDigits (n : Nat) (positive : n ≠ 0) : (Nat.toDigits 10 n).head? ≠ some '0' := by
  induction n using Nat.strongRecOn with
  | ind n ih =>
    rw [Nat.toDigits_eq_if (by decide)]
    split
    · next small =>
      simpa [Nat.digitChar_eq_zero] using positive
    · next large =>
      have before := ih (n / 10) (by omega) (by omega)
      rw [List.head?_append_of_ne_nil _ Nat.toDigits_ne_nil]
      exact before

theorem wholePart_toDigits (n : Nat) : wholePart (Nat.toDigits 10 n) = Nat.toDigits 10 n := by
  by_cases zero : n = 0
  · subst zero
    rfl
  · rw [wholePart.eq_2 _ fun tail begins => head_toDigits n zero (by rw [begins]; rfl)]
    exact List.takeWhile_eq_self_iff.2 fun c => Nat.isDigit_of_mem_toDigits (by decide) (by decide)

theorem digitsValue_toDigits (n : Nat) : digitsValue (Nat.toDigits 10 n) = n := by
  refine Eq.trans ?_ (Nat.ofDigitChars_toDigits (by decide) (Nat.le_refl 10))
  simp only [digitsValue, Nat.ofDigitChars_eq_foldl, Nat.mul_comm]
  rfl

/-- Digits alone are read as a whole number. -/
theorem unsigned?_toDigits {n : Nat} (short : n < Decimal.tenTo maxDigits) (negative : Bool) (pos : Nat) :
    unsigned? negative ⟨pos, Nat.toDigits 10 n⟩ =
      some (.ok (.int (if negative then -n else n), ⟨pos + (Nat.toDigits 10 n).length, []⟩)) := by
  -- For the limit itself the power would be evaluated.
  have limit : ∀ k, 0 < k → n < Decimal.tenTo k → (Nat.toDigits 10 n).length ≤ k :=
    fun k positive small => (Nat.length_toDigits_le_iff (by decide) positive).2 small
  have few : (Nat.toDigits 10 n).length ≤ maxDigits := limit maxDigits (by decide) short
  have nonempty : (Nat.toDigits 10 n).isEmpty = false := by
    rw [List.isEmpty_eq_false_iff]
    exact Nat.toDigits_ne_nil
  unfold unsigned?
  simp only [wholePart_toDigits, nonempty, List.drop_length, fractionPart, exponentPart, Input.skip,
    Nat.add_zero, digitsValue_toDigits, Nat.not_lt.2 few]
  rfl

/-- What is read as a number is a text that is read as a whole. -/
theorem readsBack_of_unsigned {v : Value} (negative : Bool) {c : Char} {tail : List Char}
    (digit : c.isDigit = true)
    (form : (print v).toList = if negative then '-' :: c :: tail else c :: tail)
    (read : ∀ pos, ∃ p, unsigned? negative ⟨pos, c :: tail⟩ = some (.ok (v, ⟨p, []⟩))) : ReadsBack v := by
  obtain ⟨plain, minus⟩ := beginsNumber_of_digit digit tail
  have begins : beginsNumber (print v).toList = true := by
    rw [form]
    cases negative
    · exact plain
    · exact minus
  have whole : ∃ p, number? ⟨0, (print v).toList⟩ = some (.ok (v, ⟨p, []⟩)) := by
    rw [form]
    cases negative with
    | true => exact read 1
    | false =>
      have other : c ≠ '-' := by
        rintro rfl
        cases digit
      unfold number?
      split
      · next same => exact absurd (List.cons.inj same).1 other
      · exact read 0
  obtain ⟨p, whole⟩ := whole
  have scalar := scalar_of_beginsNumber begins 0
  rw [whole] at scalar
  unfold ReadsBack
  generalize (print v).toList = cs at *
  cases cs with
  | nil => cases begins
  | cons d rest =>
    have other : ∀ e : Char, e.isDigit = false → e ≠ '-' → d ≠ e := by
      rintro e letter sign rfl
      rcases head_of_beginsNumber begins with same | same
      · rw [letter] at same
        cases same
      · exact sign same
    have mark : ((d :: rest).head? == some '\uFEFF') = false :=
      beq_eq_false_iff_ne.2 fun same => other '\uFEFF' rfl (by decide) (Option.some.inj same)
    have space : isSpace d = false := by
      simp [isSpace, other ' ' rfl (by decide), other '\t' rfl (by decide), other '\n' rfl (by decide),
        other '\r' rfl (by decide)]
    rw [parse, mark, document, trim_cons space, value_scalar (other '"' rfl (by decide))
      (other '[' rfl (by decide)) (other '\x7b' rfl (by decide)), scalar]
    rfl

/-- A whole number reads back unless it has too many digits. -/
theorem readsBack_int {n : Int} (short : n.natAbs < Decimal.tenTo maxDigits) : ReadsBack (.int n) := by
  obtain ⟨c, tail, digits⟩ := List.exists_cons_of_ne_nil (Nat.toDigits_ne_nil (b := 10) (n := n.natAbs))
  have digit : c.isDigit = true :=
    Nat.isDigit_of_mem_toDigits (by decide) (by decide) (digits ▸ List.mem_cons_self)
  have read (negative : Bool) (pos : Nat) := unsigned?_toDigits short negative pos
  rw [digits] at read
  cases n with
  | ofNat m =>
    have form : (print (.int m)).toList = Nat.toDigits 10 m := Nat.toList_repr
    exact readsBack_of_unsigned false digit (form.trans digits) fun pos => ⟨_, read false pos⟩
  | negSucc m =>
    have form : (print (.int (.negSucc m))).toList = '-' :: Nat.toDigits 10 (m + 1) := by
      change ("-" ++ (m + 1).repr).toList = _
      rw [String.toList_append, Nat.toList_repr]
      rfl
    exact readsBack_of_unsigned true digit (form.trans (congrArg ('-' :: ·) digits))
      fun pos => ⟨_, read true pos⟩

end LiveLint.Json
