import LiveLint.Notice.Journal
import LiveLint.Proofs.Json.Nested
import LiveLint.Proofs.Outcomes

/-!
# What stored values stand for

When a snapshot is trusted, and which notices its items stand for, said without the order in which the
reader looks for faults. An item stands for at most one notice. The reader agrees with this on every
value that a store may hold.
-/

namespace LiveLint

namespace Snapshot

/-- A record with a payload, its checksum, and items under the version that is read. -/
def Holds (record : Value) (items : List Value) : Prop :=
  ∃ payload data,
    record.field? "payload" = some (.text payload) ∧
    record.field? "checksum" = some (.text (checksum payload)) ∧
    Json.parse payload.toList = .ok (.table data) ∧
    isVersion (Table.get? data "schema_version") = true ∧
    Table.get? data "entries" = some (.list items)

/-- An item with a name of a file, an identity and two times; flags and a kind may be missing. -/
structure StandsFor (item : Value) (n : Notice Float) : Prop where
  file : (item.field? "file").map Value.plain = some n.file
  identity : (item.field? "identity").map Value.plain = some n.identity
  createdAt : (item.field? "created_at").map Value.real = some (.ok n.createdAt)
  expiresAt : (item.field? "expires_at").map Value.real = some (.ok n.expiresAt)
  dismissed : (fieldOr item "dismissed" (.bool false)).truthy = n.dismissed
  shown : (fieldOr item "shown" (.bool false)).truthy = n.shown
  kind : (fieldOr item "kind" (.text "")).plain = n.kind

/-- A whole number that is larger or smaller than all doubles. -/
def Beyond (v : Value) : Prop := ∃ n, v = .int n ∧ (Number.int n).overflows = true

/-- An item whose first time that is no double is a whole number beyond all doubles. -/
def Overflows (item : Value) : Prop :=
  (item.field? "file").isSome ∧ (item.field? "identity").isSome ∧
    ∃ created, item.field? "created_at" = some created ∧
      (Beyond created ∨
        (∃ x, created.real = .ok x) ∧ ∃ expires, item.field? "expires_at" = some expires ∧ Beyond expires)

theorem isText_iff {s : String} {v : Value} : isText s v = true ↔ v = .text s := by
  cases v <;> simp [isText]

theorem items_eq_ok_iff {payload : String} {found : List Value} :
    items payload = .ok found ↔
      ∃ data, Json.parse payload.toList = .ok (.table data) ∧
        isVersion (Table.get? data "schema_version") = true ∧
        Table.get? data "entries" = some (.list found) := by
  unfold items
  split
  · next fault refused =>
    rw [refused]
    exact ⟨nofun, nofun⟩
  · next data parsed =>
    rw [parsed]
    constructor
    · intro done
      split at done
      · next known =>
        split at done
        · next stored present =>
          cases done
          exact ⟨data, rfl, known, present⟩
        · cases done
      · cases done
    · rintro ⟨data', same, known, present⟩
      cases same
      rw [if_pos known, present]
  · next v other parsed =>
    rw [parsed]
    refine ⟨nofun, ?_⟩
    rintro ⟨data, same, -⟩
    cases same
    exact absurd rfl (other data)

/-- The reader trusts exactly the records that hold items. -/
theorem read_eq_ok_iff {record : Value} {found : List Value} :
    read record = .ok found ↔ Holds record found := by
  unfold read Holds
  split
  · next payload sum named summed =>
    rw [named, summed]
    split
    · next payload =>
      constructor
      · intro done
        split at done
        · next own =>
          obtain ⟨data, read⟩ := items_eq_ok_iff.1 done
          exact ⟨payload, data, rfl, congrArg some (isText_iff.1 own), read⟩
        · cases done
      · rintro ⟨payload', data, same, own, read⟩
        cases same
        cases own
        rw [if_pos (isText_iff.2 rfl)]
        exact items_eq_ok_iff.2 ⟨data, read⟩
    · next other =>
      refine ⟨nofun, ?_⟩
      rintro ⟨payload', data, same, -⟩
      cases same
      exact absurd rfl (other payload')
  · next missing =>
    refine ⟨nofun, ?_⟩
    rintro ⟨payload, data, named, summed, -⟩
    exact absurd summed (missing _ _ named)

theorem real_eq_tooLarge_iff {v : Value} : v.real = .error .numberTooLarge ↔ Beyond v := by
  have whole : ∀ n : Number, n.real = .error .numberTooLarge ↔ n.overflows = true := by
    intro n
    unfold Number.real
    split
    · next beyond => exact ⟨fun _ => beyond, fun _ => rfl⟩
    · next inside => exact ⟨nofun, fun beyond => absurd beyond inside⟩
  unfold Beyond
  cases v with
  | int n =>
    refine (whole (.int n)).trans ⟨fun beyond => ⟨n, rfl, beyond⟩, ?_⟩
    rintro ⟨n', same, beyond⟩
    cases same
    exact beyond
  | text s =>
    rw [Value.real]
    cases Text.Numeral.real? s.toList <;> simp
  | _ =>
    refine ⟨nofun, ?_⟩
    rintro ⟨n, same, -⟩
    cases same

/-- A field is there, or what says that it is not is no fault of a number. -/
theorem field_cases (item : Value) (name : String) :
    (∃ v, field item name = .ok v ∧ item.field? name = some v) ∨
      (∃ fault, field item name = .error fault ∧ fault ≠ .numberTooLarge ∧ item.field? name = none) := by
  cases item with
  | table fields =>
    cases present : Table.get? fields name with
    | some v => exact Or.inl ⟨v, by simp only [field, present], present⟩
    | none => exact Or.inr ⟨.missingKey name, by simp only [field, present], nofun, present⟩
  | _ => exact Or.inr ⟨_, rfl, nofun, rfl⟩

theorem field_eq_ok_iff {item v : Value} {name : String} :
    field item name = .ok v ↔ item.field? name = some v := by
  rcases field_cases item name with ⟨found, done, present⟩ | ⟨fault, failed, -, missing⟩
  · rw [done, present, Except.ok.injEq, Option.some.injEq]
  · rw [failed, missing]
    exact ⟨nofun, nofun⟩

theorem field_ne_tooLarge {item : Value} {name : String} : field item name ≠ .error .numberTooLarge := by
  rcases field_cases item name with ⟨found, done, -⟩ | ⟨fault, failed, other, -⟩
  · rw [done]
    nofun
  · rw [failed]
    exact fun same => other (Except.error.inj same)

/-- The notice that is read is the one that the item stands for. -/
theorem notice_eq_ok_iff {item : Value} {n : Notice Float} : notice item = .ok n ↔ StandsFor item n := by
  unfold notice
  simp only [bind_eq_ok_iff, field_eq_ok_iff]
  constructor
  · rintro ⟨file, hasFile, identity, hasIdentity, created, hasCreated, start, isStart, expires,
      hasExpires, stop, isStop, same⟩
    cases same
    exact ⟨by rw [hasFile]; rfl, by rw [hasIdentity]; rfl, by rw [hasCreated, Option.map_some, isStart],
      by rw [hasExpires, Option.map_some, isStop], rfl, rfl, rfl⟩
  · intro stands
    obtain ⟨file, hasFile, isFile⟩ := Option.map_eq_some_iff.1 stands.file
    obtain ⟨identity, hasIdentity, isIdentity⟩ := Option.map_eq_some_iff.1 stands.identity
    obtain ⟨created, hasCreated, isStart⟩ := Option.map_eq_some_iff.1 stands.createdAt
    obtain ⟨expires, hasExpires, isStop⟩ := Option.map_eq_some_iff.1 stands.expiresAt
    refine ⟨file, hasFile, identity, hasIdentity, created, hasCreated, _, isStart, expires, hasExpires,
      _, isStop, ?_⟩
    rw [isFile, isIdentity, stands.dismissed, stands.shown, stands.kind]
    rfl

/-- Reading an item fails for the size of a number exactly if one of its times is too large. -/
theorem notice_eq_tooLarge_iff {item : Value} :
    notice item = .error .numberTooLarge ↔ Overflows item := by
  unfold notice Overflows
  simp only [bind_eq_error_iff, field_eq_ok_iff, field_ne_tooLarge, real_eq_tooLarge_iff, false_or,
    Option.isSome_iff_exists]
  constructor
  · rintro ⟨file, hasFile, identity, hasIdentity, created, hasCreated, beyond | later⟩
    · exact ⟨⟨file, hasFile⟩, ⟨identity, hasIdentity⟩, created, hasCreated, Or.inl beyond⟩
    · obtain ⟨start, isStart, expires, hasExpires, beyond | ⟨stop, -, same⟩⟩ := later
      · exact ⟨⟨file, hasFile⟩, ⟨identity, hasIdentity⟩, created, hasCreated,
          Or.inr ⟨⟨start, isStart⟩, expires, hasExpires, beyond⟩⟩
      · cases same
  · rintro ⟨⟨file, hasFile⟩, ⟨identity, hasIdentity⟩, created, hasCreated, beyond | later⟩
    · exact ⟨file, hasFile, identity, hasIdentity, created, hasCreated, Or.inl beyond⟩
    · obtain ⟨⟨start, isStart⟩, expires, hasExpires, beyond⟩ := later
      exact ⟨file, hasFile, identity, hasIdentity, created, hasCreated,
        Or.inr ⟨start, isStart, expires, hasExpires, Or.inl beyond⟩⟩

end Snapshot

/-- A store that can be read offers the items of a trusted record; if nothing is stored, there are no
items. -/
def SnapshotStore.Offers (s : SnapshotStore) (items : List Value) : Prop :=
  s.readFault = none ∧
    ((s.record = none ∨ s.record = some .null) ∧ items = [] ∨
      ∃ record, s.record = some record ∧ Snapshot.Holds record items)

/-- All items that a store offers stand for notices. -/
def SnapshotStore.Holds (s : SnapshotStore) (entries : List (Notice Float)) : Prop :=
  ∃ items, s.Offers items ∧ List.Forall₂ Snapshot.StandsFor items entries

/-- The first item of a store that stands for no notice has a time beyond all doubles. -/
def SnapshotStore.TooLarge (s : SnapshotStore) : Prop :=
  ∃ before item after, s.Offers (before ++ item :: after) ∧
    (∀ other ∈ before, ∃ n, Snapshot.StandsFor other n) ∧ Snapshot.Overflows item

namespace SnapshotStore

variable {s : SnapshotStore}

theorem load_of_record {record : Value} (readable : s.readFault = none)
    (stored : s.record = some record) (present : record ≠ .null) :
    s.load = ((Snapshot.read record).mapError s.corrupt).map some := by
  unfold load
  simp only [readable, stored]
  cases Snapshot.read record <;> rfl

/-- A store loads what it offers. -/
theorem offers_iff {items : List Value} :
    s.Offers items ↔ ∃ found, s.load = .ok found ∧ found.getD [] = items := by
  unfold Offers
  cases readable : s.readFault with
  | some text =>
    rw [load, readable]
    exact ⟨nofun, nofun⟩
  | none =>
    cases stored : s.record with
    | none => simp [load, readable, stored, eq_comm]
    | some record =>
      by_cases null : record = .null
      · have untrusted : ¬ Snapshot.Holds .null items := nofun
        subst null
        simp [load, readable, stored, untrusted, eq_comm]
      · rw [load_of_record readable stored null]
        simp only [true_and, Option.some.injEq, null, reduceCtorEq, or_self, false_and, false_or,
          exists_eq_left', ← Snapshot.read_eq_ok_iff]
        cases Snapshot.read record <;> simp [Except.mapError, Except.map]

theorem holds_iff {entries : List (Notice Float)} :
    s.Holds entries ↔
      ∃ found, s.load = .ok found ∧ (found.getD []).mapM Snapshot.notice = .ok entries := by
  unfold Holds
  simp only [offers_iff, mapM_eq_ok_iff, Snapshot.notice_eq_ok_iff]
  constructor
  · rintro ⟨items, ⟨found, loaded, rfl⟩, stand⟩
    exact ⟨found, loaded, stand⟩
  · rintro ⟨found, loaded, stand⟩
    exact ⟨_, ⟨found, loaded, rfl⟩, stand⟩

theorem tooLarge_iff :
    s.TooLarge ↔
      ∃ found, s.load = .ok found ∧
        (found.getD []).mapM Snapshot.notice = .error .numberTooLarge := by
  unfold TooLarge
  simp only [offers_iff, mapM_eq_error_iff, Snapshot.notice_eq_ok_iff, Snapshot.notice_eq_tooLarge_iff]
  constructor
  · rintro ⟨before, item, after, ⟨found, loaded, split⟩, stand, overflows⟩
    exact ⟨found, loaded, before, item, after, split, stand, overflows⟩
  · rintro ⟨found, loaded, before, item, after, split, stand, overflows⟩
    exact ⟨before, item, after, ⟨found, loaded, split⟩, stand, overflows⟩

end SnapshotStore

namespace Journal

theorem decode_eq_ok_iff {store : SnapshotStore} {entries : List (Notice Float)} :
    decode store = .ok (.ok entries) ↔ store.Holds entries := by
  rw [SnapshotStore.holds_iff]
  unfold decode
  cases store.load with
  | error failure => exact ⟨nofun, nofun⟩
  | ok found =>
    simp only [Except.ok.injEq, exists_eq_left']
    split
    · next notices done => rw [done, Except.ok.injEq, Except.ok.injEq]
    · next failed => rw [failed]; exact ⟨nofun, nofun⟩
    · next fault other failed => rw [failed]; exact ⟨nofun, nofun⟩

theorem decode_eq_fault_iff {store : SnapshotStore} {fault : Fault} :
    decode store = .ok (.error fault) ↔ fault = .numberTooLarge ∧ store.TooLarge := by
  rw [SnapshotStore.tooLarge_iff]
  unfold decode
  cases store.load with
  | error failure => exact ⟨nofun, nofun⟩
  | ok found =>
    simp only [Except.ok.injEq, exists_eq_left']
    split
    · next notices done => rw [done]; exact ⟨nofun, nofun⟩
    · next failed => simp [failed, eq_comm]
    · next fault' other failed =>
      rw [failed]
      refine ⟨nofun, ?_⟩
      rintro ⟨-, same⟩
      exact absurd (Except.error.inj same) other

end Journal

/-!
## What a snapshot holds

A snapshot that was written is trusted when it is read, and its items stand for the notices that were
written. The texts in it always survive; that the decimals of its times do is a hypothesis here.
-/

/-- The decimals of the times of a notice are read as these times. -/
structure Notice.Timed (n : Notice Float) : Prop where
  createdAt : Json.ReadsBack (.float n.createdAt)
  expiresAt : Json.ReadsBack (.float n.expiresAt)

instance (n : Notice Float) : Decidable n.Timed :=
  decidable_of_iff _ (Iff.intro (fun both => ⟨both.1, both.2⟩) fun timed : n.Timed =>
    (⟨timed.createdAt, timed.expiresAt⟩ :
      Json.ReadsBack (.float n.createdAt) ∧ Json.ReadsBack (.float n.expiresAt)))

namespace Snapshot

/-- The fields of a notice stand for it, in whatever order they are written. -/
theorem standsFor_sortedFields (n : Notice Float) : StandsFor (.table (sortedFields n)) n :=
  notice_eq_ok_iff.1 rfl

theorem embeds_sortedFields {n : Notice Float} (timed : n.Timed) :
    Json.Embeds (.table (sortedFields n)) := by
  have flag : ∀ b, Json.Embeds (.bool b) := by
    intro b
    refine Json.embeds_of_readsBack trivial ?_
    cases b <;> rfl
  have created := Json.embeds_of_readsBack (v := .float n.createdAt) trivial timed.createdAt
  have expires := Json.embeds_of_readsBack (v := .float n.expiresAt) trivial timed.expiresAt
  have distinct : ((sortedFields n).map Prod.fst).Nodup := by
    change ["created_at", "dismissed", "expires_at", "file", "identity", "kind", "shown"].Nodup
    decide
  refine Json.embeds_table _ distinct ?_
  simp only [sortedFields, List.forall_mem_cons]
  exact ⟨created, flag _, expires, Json.embeds_text _, Json.embeds_text _, Json.embeds_text _, flag _,
    nofun⟩

/-- The payload for some notices is read as a table with their fields and the version. -/
theorem parse_payload {entries : List (Notice Float)} (timed : ∀ n ∈ entries, n.Timed) :
    Json.parse (payload entries).toList = .ok (.table
      [("entries", .list (entries.map fun n => .table (sortedFields n))),
        ("schema_version", .int version)]) := by
  have distinct : ["entries", "schema_version"].Nodup := by decide
  refine Json.readsBack_table _ distinct ?_
  simp only [List.forall_mem_cons]
  refine ⟨Json.embeds_list _ ?_, Json.embeds_of_readsBack trivial rfl, nofun⟩
  intro item member
  obtain ⟨n, stored, rfl⟩ := List.mem_map.1 member
  exact embeds_sortedFields (timed n stored)

/-- The record for some notices holds their fields. -/
theorem holds_record {entries : List (Notice Float)} (timed : ∀ n ∈ entries, n.Timed) :
    Holds (record entries) (entries.map fun n => .table (sortedFields n)) :=
  ⟨payload entries, _, rfl, rfl, parse_payload timed, rfl, rfl⟩

end Snapshot

/-- What was saved is held by a store that can be read. -/
theorem SnapshotStore.holds_of_saved {store : SnapshotStore} (readable : store.readFault = none)
    {entries : List (Notice Float)} (timed : ∀ n ∈ entries, n.Timed)
    (saved : store.record = some (Snapshot.record entries)) : store.Holds entries := by
  refine ⟨_, ⟨readable, Or.inr ⟨_, saved, Snapshot.holds_record timed⟩⟩, ?_⟩
  rw [List.forall₂_map_left_iff, List.forall₂_same]
  exact fun n _ => Snapshot.standsFor_sortedFields n

end LiveLint
