import LiveLint.Proofs.Json.Values

/-!
# Written lists and tables

A list is read back where each of its items is, a table where each of its values is and its keys are
distinct. The fuel for a part is what the fuel for the whole leaves, because every part is shorter.
-/

namespace LiveLint.Json

theorem items_last {fuel p : Nat} {i next : Input} {v : Value} {rest : List Char}
    (read : value fuel i = .ok (v, next)) (left : next.trim = ⟨p, ']' :: rest⟩) :
    items (fuel + 1) i = .ok ([v], ⟨p + 1, rest⟩) := by
  rw [items, read]
  simp only [bind, Except.bind]
  rw [left]
  rfl

theorem items_more {fuel p : Nat} {i next : Input} {v : Value} {rest : List Char}
    (read : value fuel i = .ok (v, next)) (left : next.trim = ⟨p, ',' :: rest⟩) :
    items (fuel + 1) i =
      (items fuel (Input.trim ⟨p + 1, rest⟩)).map fun (vs, next) => (v :: vs, next) := by
  rw [items, read]
  simp only [bind, Except.bind]
  rw [left]
  simp only [Input.skip, List.drop_succ_cons, List.drop_zero]
  cases items fuel (Input.trim ⟨p + 1, rest⟩) <;> rfl

def joined (parts : List String) : List Char := (",".intercalate parts).toList

theorem joined_one (part : String) : joined [part] = part.toList := by
  rw [joined, String.intercalate_singleton]

theorem joined_more (part next : String) (more : List String) :
    joined (part :: next :: more) = part.toList ++ ',' :: joined (next :: more) := by
  simp [joined, String.intercalate_cons_cons]

/-- The items of a list that is not empty are read up to the closing bracket. -/
theorem items_embeds (v : Value) (more : List Value) (all : ∀ w ∈ v :: more, Embeds w)
    (fuel pos : Nat) (rest : List Char) (enough : (joined (printItems (v :: more))).length + 1 < fuel) :
    ∃ p, items fuel (Input.trim ⟨pos, joined (printItems (v :: more)) ++ ']' :: rest⟩) =
      .ok (v :: more, ⟨p, rest⟩) := by
  induction more generalizing v fuel pos with
  | nil =>
    rw [printItems, printItems, joined_one] at enough ⊢
    obtain ⟨fuel, rfl⟩ := Nat.exists_eq_succ_of_ne_zero (Nat.ne_of_gt (Nat.zero_lt_of_lt enough))
    obtain ⟨next, p, read, left⟩ :=
      all v List.mem_cons_self fuel pos (']' :: rest) (by omega) (closes_cons (by simp) rest)
    exact ⟨p + 1, items_last read left⟩
  | cons w more ih =>
    rw [printItems, printItems, joined_more, ← printItems] at enough ⊢
    rw [List.length_append, List.length_cons] at enough
    obtain ⟨fuel, rfl⟩ := Nat.exists_eq_succ_of_ne_zero (Nat.ne_of_gt (Nat.zero_lt_of_lt enough))
    obtain ⟨next, p, read, left⟩ :=
      all v List.mem_cons_self fuel pos (',' :: (joined (printItems (w :: more)) ++ ']' :: rest))
        (by omega) (closes_cons (by simp) _)
    obtain ⟨q, others⟩ := ih w (fun x later => all x (List.mem_cons_of_mem _ later)) fuel (p + 1)
      (by omega)
    refine ⟨q, ?_⟩
    rw [List.append_assoc, List.cons_append, items_more read left, others]
    rfl

/-- Where items were read there is no closing bracket. -/
theorem head?_of_items {fuel : Nat} {i : Input} {read : List Value × Input}
    (done : items fuel i = .ok read) : (i.rest.head? == some ']') = false := by
  obtain ⟨pos, cs⟩ := i
  refine beq_eq_false_iff_ne.2 fun closing => ?_
  obtain ⟨tail, rfl⟩ := List.head?_eq_some_iff.1 closing
  cases fuel with
  | zero => cases done
  | succ fuel =>
    obtain ⟨first, read, -⟩ := bind_eq_ok_iff.1 (show (value fuel _ >>= _) = _ from done)
    cases fuel with
    | zero => cases read
    | succ fuel =>
      rw [value_scalar (by decide) (by decide) (by decide)] at read
      cases read

theorem embeds_list (vs : List Value) (all : ∀ v ∈ vs, Embeds v) : Embeds (.list vs) := by
  intro fuel pos rest enough closes
  obtain ⟨fuel, rfl⟩ := Nat.exists_eq_succ_of_ne_zero (Nat.ne_of_gt (Nat.zero_lt_of_lt enough))
  have form : (print (.list vs)).toList = '[' :: (joined (printItems vs) ++ [']']) := by
    rw [print, joined]
    simp
  rw [form] at enough ⊢
  rw [List.length_cons, List.length_append] at enough
  rw [List.cons_append, List.append_assoc, trim_cons rfl, value_bracket]
  cases vs with
  | nil =>
    obtain ⟨p, left⟩ := trim_append closes (pos + 2) []
    exact ⟨⟨pos + 2, rest⟩, p, rfl, left⟩
  | cons v more =>
    obtain ⟨stop, read⟩ := items_embeds v more all fuel (pos + 1) rest (by simpa using enough)
    obtain ⟨p, left⟩ := trim_append closes stop []
    refine ⟨⟨stop, rest⟩, p, ?_, left⟩
    rw [List.singleton_append]
    dsimp only
    rw [head?_of_items read, read]
    rfl

/-- What is done with a field whose name and value were read depends on the sign behind it. -/
theorem fields_step {fuel pos p : Nat} {done : Fields} {key : String} {v : Value} {text tail : List Char}
    {next : Input} (name : stringFrom pos (pos + 1) [] tail = .ok (key, ⟨p, ':' :: text⟩))
    (read : value fuel (Input.trim ⟨p + 1, text⟩) = .ok (v, next)) :
    fields (fuel + 1) done ⟨pos, '"' :: tail⟩ =
      match next.trim.rest with
      | '\x7d' :: _ => .ok (Table.set key v done, next.trim.skip 1)
      | ',' :: _ => fields fuel (Table.set key v done) (next.trim.skip 1).trim
      | _ => .error (.malformed .comma next.trim.pos) := by
  change (stringFrom pos (pos + 1) [] tail >>= _) = _
  rw [name]
  simp only [bind, Except.bind, trim_cons (show isSpace ':' = false from rfl), Input.skip,
    List.drop_succ_cons, List.drop_zero, read]
  rfl

theorem fields_last {fuel pos p q : Nat} {done : Fields} {key : String} {v : Value}
    {text tail rest : List Char} {next : Input}
    (name : stringFrom pos (pos + 1) [] tail = .ok (key, ⟨p, ':' :: text⟩))
    (read : value fuel (Input.trim ⟨p + 1, text⟩) = .ok (v, next))
    (left : next.trim = ⟨q, '\x7d' :: rest⟩) :
    fields (fuel + 1) done ⟨pos, '"' :: tail⟩ = .ok (Table.set key v done, ⟨q + 1, rest⟩) := by
  rw [fields_step name read, left]
  rfl

theorem fields_more {fuel pos p q : Nat} {done : Fields} {key : String} {v : Value}
    {text tail rest : List Char} {next : Input}
    (name : stringFrom pos (pos + 1) [] tail = .ok (key, ⟨p, ':' :: text⟩))
    (read : value fuel (Input.trim ⟨p + 1, text⟩) = .ok (v, next))
    (left : next.trim = ⟨q, ',' :: rest⟩) :
    fields (fuel + 1) done ⟨pos, '"' :: tail⟩ =
      fields fuel (Table.set key v done) (Input.trim ⟨q + 1, rest⟩) := by
  rw [fields_step name read, left]
  rfl

theorem printFields_cons (field : String × Value) (more : Fields) :
    printFields (field :: more) =
      (printText field.1 ++ ":" ++ print field.2) :: printFields more := by
  rw [printFields]

/-- A field is a quoted name, a colon and a value. -/
theorem exists_body_of_field (key : String) (v : Value) (pos : Nat) :
    ∃ body, (printText key ++ ":" ++ print v).toList = '"' :: (body ++ ':' :: (print v).toList) ∧
      ∀ text, ∃ p, stringFrom pos (pos + 1) [] (body ++ ':' :: text) = .ok (key, ⟨p, ':' :: text⟩) := by
  obtain ⟨body, -, form, -⟩ := stringFrom_printText key [] pos (pos + 1)
  refine ⟨body, by simp [form], fun text => ?_⟩
  obtain ⟨other, p, same, read⟩ := stringFrom_printText key (':' :: text) pos (pos + 1)
  obtain rfl : body = other := (List.cons.inj (form.symm.trans same)).2
  exact ⟨p, read⟩

/-- The fields of a table that is not empty are read up to the closing bracket. -/
theorem fields_embeds (field : String × Value) (more : Fields)
    (all : ∀ f ∈ field :: more, Embeds f.2) (fuel pos : Nat) (done : Fields) (rest : List Char)
    (enough : (joined (printFields (field :: more))).length + 1 < fuel) :
    ∃ p, fields fuel done
        (Input.trim ⟨pos, joined (printFields (field :: more)) ++ '\x7d' :: rest⟩) =
      .ok (Table.setAll done (field :: more), ⟨p, rest⟩) := by
  induction more generalizing field fuel pos done with
  | nil =>
    obtain ⟨body, form, name⟩ := exists_body_of_field field.1 field.2 pos
    rw [printFields_cons, printFields, joined_one, form] at enough ⊢
    simp only [List.length_cons, List.length_append] at enough
    obtain ⟨fuel, rfl⟩ := Nat.exists_eq_succ_of_ne_zero (Nat.ne_of_gt (Nat.zero_lt_of_lt enough))
    obtain ⟨p, name⟩ := name ((print field.2).toList ++ '\x7d' :: rest)
    obtain ⟨next, q, read, left⟩ :=
      all field List.mem_cons_self fuel (p + 1) ('\x7d' :: rest) (by omega) (closes_cons (by simp) rest)
    refine ⟨q + 1, ?_⟩
    rw [List.cons_append, List.append_assoc, List.cons_append, trim_cons rfl, fields_last name read left]
    rfl
  | cons other more ih =>
    obtain ⟨body, form, name⟩ := exists_body_of_field field.1 field.2 pos
    rw [printFields_cons, printFields_cons, joined_more, ← printFields_cons, form] at enough ⊢
    simp only [List.length_cons, List.length_append] at enough
    obtain ⟨fuel, rfl⟩ := Nat.exists_eq_succ_of_ne_zero (Nat.ne_of_gt (Nat.zero_lt_of_lt enough))
    let after := joined (printFields (other :: more)) ++ '\x7d' :: rest
    obtain ⟨p, name⟩ := name ((print field.2).toList ++ ',' :: after)
    obtain ⟨next, q, read, left⟩ :=
      all field List.mem_cons_self fuel (p + 1) (',' :: after) (by omega) (closes_cons (by simp) after)
    obtain ⟨stop, others⟩ := ih other (fun f later => all f (List.mem_cons_of_mem _ later)) fuel (q + 1)
      (Table.set field.1 field.2 done) (by omega)
    refine ⟨stop, ?_⟩
    rw [List.cons_append, List.cons_append, List.append_assoc, List.append_assoc, List.cons_append,
      List.cons_append, trim_cons rfl, fields_more name read left, others]
    rfl

/-- Where fields were read there is no closing bracket. -/
theorem head?_of_fields {fuel : Nat} {done : Fields} {i : Input} {read : Fields × Input}
    (ends : fields fuel done i = .ok read) : (i.rest.head? == some '\x7d') = false := by
  obtain ⟨pos, cs⟩ := i
  refine beq_eq_false_iff_ne.2 fun closing => ?_
  obtain ⟨tail, rfl⟩ := List.head?_eq_some_iff.1 closing
  cases fuel with
  | zero => cases ends
  | succ fuel =>
    cases ends

theorem toList_print_table (fs : Fields) :
    (print (.table fs)).toList = '\x7b' :: (joined (printFields fs) ++ ['\x7d']) := by
  rw [print, joined]
  simp

theorem embeds_table (fs : Fields) (distinct : (fs.map Prod.fst).Nodup) (all : ∀ f ∈ fs, Embeds f.2) :
    Embeds (.table fs) := by
  intro fuel pos rest enough closes
  obtain ⟨fuel, rfl⟩ := Nat.exists_eq_succ_of_ne_zero (Nat.ne_of_gt (Nat.zero_lt_of_lt enough))
  rw [toList_print_table] at enough ⊢
  rw [List.length_cons, List.length_append] at enough
  rw [List.cons_append, List.append_assoc, trim_cons rfl, value_brace]
  cases fs with
  | nil =>
    obtain ⟨p, left⟩ := trim_append closes (pos + 2) []
    exact ⟨⟨pos + 2, rest⟩, p, rfl, left⟩
  | cons field more =>
    obtain ⟨stop, read⟩ := fields_embeds field more all fuel (pos + 1) [] rest (by simpa using enough)
    obtain ⟨p, left⟩ := trim_append closes stop []
    rw [Table.setAll_of_nodup [] _ distinct] at read
    refine ⟨⟨stop, rest⟩, p, ?_, left⟩
    rw [List.singleton_append]
    dsimp only
    rw [head?_of_fields read, read]
    rfl

/-- A table with distinct keys is read back as soon as each of its values is. -/
theorem readsBack_table (fs : Fields) (distinct : (fs.map Prod.fst).Nodup)
    (all : ∀ f ∈ fs, Embeds f.2) : ReadsBack (.table fs) := by
  obtain ⟨next, p, read, left⟩ := embeds_table fs distinct all ((print (.table fs)).toList.length + 1) 0 []
    (Nat.lt_succ_self _) closes_nil
  rw [List.append_nil] at read
  rw [ReadsBack, parse, toList_print_table, List.head?_cons, ← toList_print_table,
    if_neg (by decide), document, read]
  change (if next.trim.rest.isEmpty = true then _ else _) = _
  rw [left]
  rfl

end LiveLint.Json
