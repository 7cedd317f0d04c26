/-!
# Ordered tables

Finite maps as lists of pairs with distinct keys, in the order in which the keys were first set.
-/

namespace LiveLint

/-- A finite map that remembers the order of its keys. -/
abbrev Table (κ ν : Type) := List (κ × ν)

namespace Table

variable {κ ν : Type} [BEq κ]

def get? (t : Table κ ν) (key : κ) : Option ν := t.lookup key

/-- Sets a key: an old key keeps its place, a new one comes last. -/
def set (key : κ) (value : ν) : Table κ ν → Table κ ν
  | [] => [(key, value)]
  | (k, v) :: rest => if k == key then (k, value) :: rest else (k, v) :: set key value rest

def erase (t : Table κ ν) (key : κ) : Table κ ν := t.filter (·.1 != key)

/-- Sets every key of a second table. -/
def setAll (t more : Table κ ν) : Table κ ν := more.foldl (fun t (k, v) => set k v t) t

theorem mem_set {t : Table κ ν} {key : κ} {v : ν} {field : κ × ν} (member : field ∈ set key v t) :
    field ∈ t ∨ field.2 = v := by
  induction t with
  | nil =>
    obtain rfl := List.mem_singleton.1 member
    exact Or.inr rfl
  | cons first rest ih =>
    unfold set at member
    split at member
    · rcases List.mem_cons.1 member with rfl | later
      · exact Or.inr rfl
      · exact Or.inl (List.mem_cons_of_mem _ later)
    · rcases List.mem_cons.1 member with rfl | later
      · exact Or.inl List.mem_cons_self
      · exact (ih later).imp_left (List.mem_cons_of_mem _)

theorem nodup_erase {t : Table κ ν} (keys : (t.map Prod.fst).Nodup) (key : κ) :
    ((erase t key).map Prod.fst).Nodup :=
  keys.sublist (List.filter_sublist.map _)

theorem get?_map {μ : Type} (f : ν → μ) (t : Table κ ν) (key : κ) :
    get? (t.map fun (k, v) => (k, f v)) key = (get? t key).map f := by
  unfold get?
  induction t with
  | nil => rfl
  | cons field rest ih =>
    rw [List.map_cons, List.lookup_cons, List.lookup_cons]
    split
    · rfl
    · exact ih

theorem get?_reverse_cons (field : κ × ν) (rest : Table κ ν) (key : κ) :
    get? (field :: rest).reverse key = (get? rest.reverse key).or (get? [field] key) := by
  rw [List.reverse_cons]
  exact List.lookup_append

variable [LawfulBEq κ]

theorem get?_set_self (t : Table κ ν) (key : κ) (value : ν) :
    get? (set key value t) key = some value := by
  induction t with
  | nil => simp [set, get?]
  | cons f rest ih =>
    obtain ⟨k, v⟩ := f
    by_cases h : k = key
    · simp [set, get?, h]
    · have h' : (key == k) = false := by simpa using Ne.symm h
      simp only [get?] at ih
      simp [set, get?, List.lookup_cons, h, h', ih]

theorem get?_set_of_ne (t : Table κ ν) {key other : κ} (value : ν) (ne : other ≠ key) :
    get? (set key value t) other = get? t other := by
  induction t with
  | nil =>
    have h' : (other == key) = false := by simpa using ne
    simp [set, get?, List.lookup_cons, h']
  | cons f rest ih =>
    obtain ⟨k, v⟩ := f
    by_cases h : k = key
    · have h' : (other == key) = false := by simpa using ne
      simp [set, get?, List.lookup_cons, h, h']
    · simp only [get?] at ih
      by_cases hk : other = k
      · simp [set, get?, h, hk]
      · have h' : (other == k) = false := by simpa using hk
        simp [set, get?, List.lookup_cons, h, h', ih]

theorem get?_erase_self (t : Table κ ν) (key : κ) : get? (erase t key) key = none := by
  induction t with
  | nil => rfl
  | cons f rest ih =>
    obtain ⟨k, v⟩ := f
    simp only [get?, erase] at ih
    by_cases h : k = key
    · simpa [get?, erase, List.filter_cons, h] using ih
    · have h' : (key == k) = false := by simpa using Ne.symm h
      simpa [get?, erase, List.filter_cons, h, List.lookup_cons, h'] using ih

theorem get?_erase_of_ne (t : Table κ ν) {key other : κ} (ne : other ≠ key) :
    get? (erase t key) other = get? t other := by
  induction t with
  | nil => rfl
  | cons f rest ih =>
    obtain ⟨k, v⟩ := f
    simp only [get?, erase] at ih
    by_cases h : k = key
    · have h' : (other == k) = false := by simpa [h] using ne
      simpa [get?, erase, List.filter_cons, h, List.lookup_cons, h ▸ h'] using ih
    · by_cases hk : other = k
      · subst hk; simp [get?, erase, h]
      · have h' : (other == k) = false := by simpa using hk
        simpa [get?, erase, List.filter_cons, h, List.lookup_cons, h'] using ih

theorem set_of_notMem (t : Table κ ν) {key : κ} (value : ν) (fresh : key ∉ t.map Prod.fst) :
    set key value t = t ++ [(key, value)] := by
  induction t with
  | nil => rfl
  | cons f rest ih =>
    obtain ⟨k, v⟩ := f
    rw [List.map_cons, List.mem_cons, not_or] at fresh
    have other : (k == key) = false := beq_eq_false_iff_ne.2 (Ne.symm fresh.1)
    simp only [set, other, Bool.false_eq_true, if_false, ih fresh.2, List.cons_append]

theorem setAll_of_nodup (t more : Table κ ν) (distinct : ((t ++ more).map Prod.fst).Nodup) :
    setAll t more = t ++ more := by
  induction more generalizing t with
  | nil => exact (List.append_nil t).symm
  | cons f more ih =>
    have fresh : f.1 ∉ t.map Prod.fst := by
      rw [List.map_append, List.nodup_append] at distinct
      exact fun old => distinct.2.2 f.1 old f.1 List.mem_cons_self rfl
    rw [List.append_cons] at distinct ⊢
    change setAll (set f.1 f.2 t) more = _
    rw [set_of_notMem t f.2 fresh, ih _ distinct]

theorem get?_cons_self (t : Table κ ν) (key : κ) (v : ν) : get? ((key, v) :: t) key = some v :=
  List.lookup_cons_self

theorem get?_cons_of_ne (t : Table κ ν) {key other : κ} (v : ν) (ne : other ≠ key) :
    get? ((key, v) :: t) other = get? t other := by
  unfold get?
  rw [List.lookup_cons, beq_eq_false_iff_ne.2 ne]

theorem mem_of_get? {t : Table κ ν} {key : κ} {v : ν} (found : get? t key = some v) : (key, v) ∈ t := by
  obtain ⟨before, behind, rfl, -⟩ := List.lookup_eq_some_iff.1 found
  exact List.mem_append_right _ List.mem_cons_self

theorem mem_keys_set_iff {t : Table κ ν} {key k : κ} {v : ν} :
    k ∈ (set key v t).map Prod.fst ↔ k = key ∨ k ∈ t.map Prod.fst := by
  induction t with
  | nil => simp [set]
  | cons first rest ih =>
    unfold set
    split
    · rename_i same
      obtain rfl := eq_of_beq same
      simp
    · simp only [List.map_cons, List.mem_cons, ih]
      exact or_left_comm

/-- Setting a key keeps keys apart. -/
theorem nodup_set {t : Table κ ν} (keys : (t.map Prod.fst).Nodup) (key : κ) (v : ν) :
    ((set key v t).map Prod.fst).Nodup := by
  induction t with
  | nil => exact List.pairwise_singleton _ _
  | cons first rest ih =>
    obtain ⟨fresh, others⟩ := List.nodup_cons.1 keys
    unfold set
    split
    · exact keys
    · rename_i different
      refine List.nodup_cons.2 ⟨fun member => ?_, ih others⟩
      rcases mem_keys_set_iff.1 member with same | old
      · exact different (beq_iff_eq.2 same)
      · exact fresh old

theorem nodup_setAll {t : Table κ ν} (keys : (t.map Prod.fst).Nodup) (more : Table κ ν) :
    ((setAll t more).map Prod.fst).Nodup := by
  induction more generalizing t with
  | nil => exact keys
  | cons field more ih => exact ih (nodup_set keys _ _)

/-!
## Tables on top of each other

A table that is laid over another one hides what the other says of its keys, and of two values for one key the later
one counts.
-/

theorem get?_set (t : Table κ ν) (key other : κ) (v : ν) :
    get? (set key v t) other = (get? [(key, v)] other).or (get? t other) := by
  by_cases same : other = key
  · rw [same, get?_set_self, get?_cons_self, Option.some_or]
  · rw [get?_set_of_ne t v same, get?_cons_of_ne [] v same]
    rfl

/-- What is set later counts. -/
theorem get?_setAll (t more : Table κ ν) (key : κ) :
    get? (setAll t more) key = (get? more.reverse key).or (get? t key) := by
  induction more generalizing t with
  | nil => rfl
  | cons field more ih =>
    obtain ⟨k, v⟩ := field
    change get? (setAll (set k v t) more) key = _
    rw [ih, get?_set, get?_reverse_cons, Option.or_assoc]

theorem get?_eq_none {t : Table κ ν} {key : κ} (missing : key ∉ t.map Prod.fst) : get? t key = none := by
  refine List.lookup_eq_none_iff.2 fun field member => bne_iff_ne.2 fun same => missing ?_
  rw [same]
  exact List.mem_map_of_mem member

theorem get?_reverse {t : Table κ ν} (keys : (t.map Prod.fst).Nodup) (key : κ) : get? t.reverse key = get? t key := by
  induction t with
  | nil => rfl
  | cons field rest ih =>
    obtain ⟨k, v⟩ := field
    obtain ⟨fresh, others⟩ := List.nodup_cons.1 keys
    rw [get?_reverse_cons, ih others]
    by_cases same : key = k
    · have missing : get? rest key = none := get?_eq_none (same ▸ fresh)
      rw [missing, Option.none_or, same, get?_cons_self, get?_cons_self]
    · rw [get?_cons_of_ne [] v same, get?_cons_of_ne rest v same]
      exact Option.or_none

theorem get?_setAll_of_nodup (t : Table κ ν) {more : Table κ ν} (keys : (more.map Prod.fst).Nodup)
    (key : κ) : get? (setAll t more) key = (get? more key).or (get? t key) := by
  rw [get?_setAll, get?_reverse keys]

end Table

end LiveLint
