import LiveLint.Proofs.Outcomes
import LiveLint.Toml.Parser
import Mathlib.Data.List.Nodup

/-!
# Keys of documents

A table that is read gives no key twice, and neither does any table in it. Statements see to this: what they set under
a key is either new there, or it is the table or the list that stood there with one more part. A value is read from
the front of a text together with the values in it, so all ways of reading are followed at once.
-/

namespace LiveLint

namespace Value

/-- No table in a value, however deep, gives a key twice. -/
inductive Distinct : Value → Prop
  | table {fields : Fields} (keys : (fields.map Prod.fst).Nodup) (each : ∀ field ∈ fields, Distinct field.2) :
    Distinct (.table fields)
  | list {items : List Value} (each : ∀ item ∈ items, Distinct item) : Distinct (.list items)
  | single {v : Value} (alone : Toml.hasParts v = false) : Distinct v

theorem distinct_table_iff {fields : Fields} :
    (Value.table fields).Distinct ↔ (fields.map Prod.fst).Nodup ∧ ∀ field ∈ fields, field.2.Distinct := by
  refine ⟨?_, fun ⟨keys, each⟩ => .table keys each⟩
  rintro (⟨keys, each⟩ | _ | ⟨⟨⟩⟩)
  exact ⟨keys, each⟩

theorem distinct_list_iff {items : List Value} : (Value.list items).Distinct ↔ ∀ item ∈ items, item.Distinct := by
  refine ⟨?_, .list⟩
  rintro (_ | each | ⟨⟨⟩⟩)
  exact each

theorem distinct_empty : (Value.table []).Distinct := .table List.nodup_nil nofun

end Value

namespace Toml

open Value

/-!
## Statements
-/

theorem distinct_set {t : Fields} (distinct : (Value.table t).Distinct) (key : String) {v : Value}
    (value : v.Distinct) : (Value.table (Table.set key v t)).Distinct := by
  obtain ⟨keys, each⟩ := distinct_table_iff.1 distinct
  refine .table (Table.nodup_set keys key v) fun field member => ?_
  rcases Table.mem_set member with old | new
  · exact each field old
  · rw [new]
    exact value

theorem distinct_of_get? {t : Fields} (distinct : (Value.table t).Distinct) {key : String} {v : Value}
    (found : Table.get? t key = some v) : v.Distinct :=
  (distinct_table_iff.1 distinct).2 _ (Table.mem_of_get? found)

theorem distinct_put {refusal : Cause} {key : String} {v : Value} (value : v.Distinct) {t t' : Fields}
    (distinct : (Value.table t).Distinct) (done : put refusal key v t = .ok t') : (Value.table t').Distinct := by
  unfold put at done
  split at done
  · cases done
  · cases done
    exact distinct_set distinct key value

theorem distinct_pushTable {key : String} {t t' : Fields} (distinct : (Value.table t).Distinct)
    (done : pushTable key t = .ok t') : (Value.table t').Distinct := by
  unfold pushTable at done
  split at done
  · cases done
    exact distinct_set distinct key (.list <| List.forall_mem_singleton.2 distinct_empty)
  · rename_i items found
    cases done
    have each := distinct_list_iff.1 (distinct_of_get? distinct found)
    exact distinct_set distinct key
      (.list <| List.forall_mem_append.2 ⟨each, List.forall_mem_singleton.2 distinct_empty⟩)
  · cases done

/-- A change deep in a table keeps the keys of the table apart if it keeps those apart that it is made to. -/
theorem distinct_modifyAt {f : Fields → Except Cause Fields}
    (keeps : ∀ {t t'}, (Value.table t).Distinct → f t = .ok t' → (Value.table t').Distinct) {path : Path}
    {t t' : Fields} (distinct : (Value.table t).Distinct) (done : modifyAt f path t = .ok t') :
    (Value.table t').Distinct := by
  induction path generalizing t t' with
  | nil => exact keeps distinct done
  | cons key path ih =>
    unfold modifyAt at done
    split at done
    · obtain ⟨inner, changed, rfl⟩ := map_eq_ok_iff.1 done
      exact distinct_set distinct key (ih distinct_empty changed)
    · rename_i old found
      obtain ⟨inner, changed, rfl⟩ := map_eq_ok_iff.1 done
      exact distinct_set distinct key (ih (distinct_of_get? distinct found) changed)
    -- A list stands for its last table, and the others stay as they are.
    · rename_i items found
      have each := distinct_list_iff.1 (distinct_of_get? distinct found)
      split at done
      · rename_i old last
        obtain ⟨inner, changed, rfl⟩ := map_eq_ok_iff.1 done
        have before : ∀ item ∈ items.dropLast, item.Distinct :=
          fun item member => each item (List.dropLast_subset _ member)
        have changes := ih (each _ (List.mem_of_getLast? last)) changed
        exact distinct_set distinct key
          (.list <| List.forall_mem_append.2 ⟨before, List.forall_mem_singleton.2 changes⟩)
      · cases done
    · cases done

namespace Document

/-- The tables of a document give no key twice. -/
def Distinct (d : Document) : Prop := (Value.table d.data).Distinct

theorem data_close (d : Document) (path : Path) (v : Value) : (d.close path v).data = d.data := by
  unfold close
  split <;> rfl

/-- What changes a table of a document keeps keys apart in the document if it does so in the table. -/
theorem distinct_change {f : Fields → Except Cause Fields}
    (keeps : ∀ {t t'}, (Value.table t).Distinct → f t = .ok t' → (Value.table t').Distinct) {d d' : Document}
    {path : Path} {change : Fields → Document} (data : ∀ t, (change t).data = t) (distinct : d.Distinct)
    (done : (modifyAt f path d.data).map change = .ok d') : d'.Distinct := by
  obtain ⟨t, changed, rfl⟩ := map_eq_ok_iff.1 done
  rw [Distinct, data]
  exact distinct_modifyAt keeps distinct changed

theorem distinct_assign {d d' : Document} {k : Key} {v : Value} (distinct : d.Distinct) (value : v.Distinct)
    (done : d.assign k v = .ok d') : d'.Distinct := by
  unfold assign at done
  dsimp only at done
  split at done
  · cases done
  · split at done
    · cases done
    · exact distinct_change (distinct_put value) (fun _ => data_close ..) distinct done

theorem distinct_assignInline {d d' : Document} {k : Key} {v : Value} (distinct : d.Distinct) (value : v.Distinct)
    (done : d.assignInline k v = .ok d') : d'.Distinct := by
  unfold assignInline at done
  split at done
  · cases done
  · exact distinct_change (distinct_put value) (fun _ => data_close ..) distinct done

theorem distinct_openTable {d d' : Document} {path : Path} (distinct : d.Distinct)
    (done : d.openTable path = .ok d') : d'.Distinct := by
  unfold openTable at done
  dsimp only at done
  split at done
  · cases done
  · refine distinct_change (f := .ok) ?_ (fun _ => rfl) (d := d.settle) distinct done
    rintro t t' same ⟨⟩
    exact same

theorem distinct_openItem {d d' : Document} {k : Key} (distinct : d.Distinct) (done : d.openItem k = .ok d') :
    d'.Distinct := by
  unfold openItem at done
  dsimp only at done
  split at done
  · cases done
  · exact distinct_change distinct_pushTable (fun _ => rfl) (d := d.settle) distinct done

end Document

theorem of_located {α : Type} {unread : List Char} {change : Except Cause α} {a : α}
    (done : located unread change = .ok a) : change = .ok a := by
  cases change with
  | error cause => cases done
  | ok b =>
    cases done
    rfl

/-!
## Values
-/

theorem word_mem {words : List (String × Value)} {cs rest : List Char} {v : Value}
    (read : word words cs = some (v, rest)) : v ∈ words.map Prod.snd := by
  obtain ⟨⟨name, w⟩, member, found⟩ := List.exists_of_findSome?_eq_some read
  dsimp only at found
  split at found
  · cases found
    exact List.mem_map_of_mem member
  · cases found

theorem hasParts_inBase {letter : Char} {isDigit : Char → Bool} {base : Nat} {cs rest : List Char} {v : Value}
    (read : inBase letter isDigit base cs = some (v, rest)) : hasParts v = false := by
  unfold inBase at read
  split at read
  · split at read
    · cases read
    · dsimp only at read
      split at read
      · cases read
      · cases read
        rfl
  · cases read

theorem hasParts_decimal {cs rest : List Char} {v : Value} (read : decimal cs = some (.ok (v, rest))) :
    hasParts v = false := by
  unfold decimal at read
  dsimp only at read
  repeat' split at read
  all_goals cases read
  all_goals rfl

theorem hasParts_number {cs rest : List Char} {v : Value} (read : number cs = some (.ok (v, rest))) :
    hasParts v = false := by
  rcases Option.or_eq_some_iff.1 read with based | ⟨-, read⟩
  · obtain ⟨found, based, same⟩ := Option.map_eq_some_iff.1 based
    cases same
    simp only [Option.or_eq_some_iff] at based
    rcases based with hex | ⟨-, binary | ⟨-, octal⟩⟩
    · exact hasParts_inBase hex
    · exact hasParts_inBase binary
    · exact hasParts_inBase octal
  · rcases Option.or_eq_some_iff.1 read with ten | ⟨-, special⟩
    · exact hasParts_decimal ten
    · obtain ⟨found, special, same⟩ := Option.map_eq_some_iff.1 special
      cases same
      have each : ∀ w ∈ specials.map Prod.snd, hasParts w = false := by simp [specials, hasParts]
      exact each v (word_mem special)

theorem hasParts_scalar {cs rest : List Char} {v : Value} (read : scalar cs = .ok (v, rest)) :
    hasParts v = false := by
  unfold scalar at read
  split at read
  · rename_i found truth
    cases read
    have each : ∀ w ∈ [Value.bool true, Value.bool false], hasParts w = false := by simp [hasParts]
    exact each v (word_mem truth)
  · split at read
    · split at read
      · cases read
        rfl
      · cases read
    · cases found : number cs with
      | none =>
        rw [found] at read
        cases read
      | some result =>
        rw [found, Option.getD_some] at read
        exact hasParts_number (read ▸ found)

/-- What is read in a number of steps gives no key twice. -/
structure ReadsDistinct (fuel : Nat) : Prop where
  value {cs rest : List Char} {v : Value} : value fuel cs = .ok (v, rest) → v.Distinct
  items {cs rest : List Char} {vs : List Value} : items fuel cs = .ok (vs, rest) → ∀ v ∈ vs, v.Distinct
  fields {d d' : Document} {cs rest : List Char} :
    d.Distinct → inlineFields fuel d cs = .ok (d', rest) → d'.Distinct
  pair {k : Key} {cs rest : List Char} {v : Value} : pair fuel cs = .ok ((k, v), rest) → v.Distinct

theorem distinct_value_succ {fuel : Nat} (before : ReadsDistinct fuel) {cs rest : List Char} {v : Value}
    (read : value (fuel + 1) cs = .ok (v, rest)) : v.Distinct := by
  unfold value at read
  split at read
  · obtain ⟨s, -, same⟩ := map_eq_ok_iff.1 read
    cases same
    exact .single rfl
  · obtain ⟨s, -, same⟩ := map_eq_ok_iff.1 read
    cases same
    exact .single rfl
  · obtain ⟨front, -, read⟩ := bind_eq_ok_iff.1 read
    obtain ⟨⟨vs, behind⟩, items, done⟩ := bind_eq_ok_iff.1 read
    cases done
    exact .list (before.items items)
  · split at read
    · cases read
      exact distinct_empty
    · obtain ⟨⟨d, behind⟩, fields, done⟩ := map_eq_ok_iff.1 read
      cases done
      exact before.fields (d := {}) distinct_empty fields
  · exact .single (hasParts_scalar read)

theorem distinct_items_succ {fuel : Nat} (before : ReadsDistinct fuel) {cs rest : List Char} {vs : List Value}
    (read : items (fuel + 1) cs = .ok (vs, rest)) : ∀ v ∈ vs, v.Distinct := by
  unfold items at read
  split at read
  · cases read
    exact nofun
  · obtain ⟨⟨v, behind⟩, first, read⟩ := bind_eq_ok_iff.1 read
    have distinct := before.value first
    obtain ⟨next, -, read⟩ := bind_eq_ok_iff.1 read
    split at read
    · cases read
      exact List.forall_mem_singleton.2 distinct
    · obtain ⟨start, -, read⟩ := bind_eq_ok_iff.1 read
      obtain ⟨⟨more, behind⟩, others, done⟩ := bind_eq_ok_iff.1 read
      cases done
      exact List.forall_mem_cons.2 ⟨distinct, before.items others⟩
    · cases read

theorem distinct_fields_succ {fuel : Nat} (before : ReadsDistinct fuel) {d d' : Document} {cs rest : List Char}
    (distinct : d.Distinct) (read : inlineFields (fuel + 1) d cs = .ok (d', rest)) : d'.Distinct := by
  unfold inlineFields at read
  obtain ⟨⟨⟨k, v⟩, behind⟩, first, read⟩ := bind_eq_ok_iff.1 read
  obtain ⟨next, assigned, read⟩ := bind_eq_ok_iff.1 read
  have changed : next.Distinct := Document.distinct_assignInline distinct (before.pair first) (of_located assigned)
  split at read
  · cases read
    exact changed
  · exact before.fields changed read
  · cases read

theorem distinct_pair_succ {fuel : Nat} (before : ReadsDistinct fuel) {k : Key} {cs rest : List Char} {v : Value}
    (read : pair (fuel + 1) cs = .ok ((k, v), rest)) : v.Distinct := by
  unfold pair at read
  obtain ⟨⟨key, behind⟩, -, read⟩ := bind_eq_ok_iff.1 read
  dsimp only at read
  split at read
  · obtain ⟨⟨w, behind⟩, first, done⟩ := bind_eq_ok_iff.1 read
    cases done
    exact before.value first
  · cases read

theorem readsDistinct (fuel : Nat) : ReadsDistinct fuel := by
  -- The readers call each other with one step less, so one induction serves all of them.
  induction fuel with
  | zero => exact ⟨nofun, nofun, nofun, nofun⟩
  | succ fuel before =>
    exact ⟨distinct_value_succ before, distinct_items_succ before, distinct_fields_succ before,
      distinct_pair_succ before⟩

/-!
## Documents
-/

theorem distinct_header {d d' : Document} {cs rest : List Char} (distinct : d.Distinct)
    (read : header d cs = .ok (d', rest)) : d'.Distinct := by
  unfold header at read
  split at read
  · obtain ⟨⟨k, behind⟩, -, read⟩ := bind_eq_ok_iff.1 read
    obtain ⟨next, opened, read⟩ := bind_eq_ok_iff.1 read
    split at read
    · cases read
      exact Document.distinct_openItem distinct (of_located opened)
    · cases read
  · obtain ⟨⟨k, behind⟩, -, read⟩ := bind_eq_ok_iff.1 read
    obtain ⟨next, opened, read⟩ := bind_eq_ok_iff.1 read
    split at read
    · cases read
      exact Document.distinct_openTable distinct (of_located opened)
    · cases read

theorem distinct_statement {d d' : Document} {cs rest : List Char} (distinct : d.Distinct)
    (read : statement d cs = .ok (d', rest)) : d'.Distinct := by
  unfold statement at read
  split at read
  · cases read
    exact distinct
  · exact distinct_header distinct read
  · split at read
    · obtain ⟨⟨⟨k, v⟩, behind⟩, first, read⟩ := bind_eq_ok_iff.1 read
      obtain ⟨next, assigned, done⟩ := bind_eq_ok_iff.1 read
      cases done
      exact Document.distinct_assign distinct ((readsDistinct _).pair first) (of_located assigned)
    · split at read
      · cases read
        exact distinct
      · cases read

theorem distinct_lines {fuel : Nat} {d d' : Document} {cs : List Char} (distinct : d.Distinct)
    (read : lines fuel d cs = .ok d') : d'.Distinct := by
  induction fuel generalizing d cs with
  | zero => cases read
  | succ fuel ih =>
    unfold lines at read
    obtain ⟨⟨next, behind⟩, first, read⟩ := bind_eq_ok_iff.1 read
    have changed := distinct_statement distinct first
    obtain ⟨rest, -, read⟩ := bind_eq_ok_iff.1 read
    split at read
    · cases read
      exact changed
    · exact ih changed read
    · cases read

/-- A document gives no key twice. -/
theorem distinct_parseBytes {bytes : List UInt8} {document : Fields} (read : parseBytes bytes = .ok document) :
    (Value.table document).Distinct := by
  unfold parseBytes at read
  split at read
  · unfold parse at read
    dsimp only at read
    split at read
    · rename_i d lines
      cases read
      exact distinct_lines (d := {}) distinct_empty lines
    · cases read
  · cases read

end Toml

end LiveLint
