import LiveLint.Notice.Journal
import LiveLint.Proofs.Notice.Accounts
import LiveLint.Proofs.Notice.Decoding
import LiveLint.Proofs.Notice.Steps
import Mathlib.Data.List.Induction

/-!
# Loaded journals

Whatever a store holds, a journal that opens on it has either all notices of a trusted snapshot, stored
one after the other, or none. Nothing is stored before every item was read. The one value that keeps a
journal from opening is a time beyond all doubles.
-/

namespace LiveLint

/-!
## Storing many notices

Notices that are stored one after the other are cut to the cap after each of them. What was dropped on
the way would not fit in the end either, because everything that is stored later stands behind it. So
notices with distinct keys are left as if they had been cut once.
-/

namespace NoticeCache

section Fitting

variable {τ : Type} [Moment τ]

/-- What is left of a list is left of any end of it that holds every end within the cap. -/
theorem fit_of_suffix {cap : SizeCap} {shorter longer : List (Notice τ)} (ends : shorter <:+ longer)
    (covers : ∀ behind, behind <:+ longer → (total (·.size) behind : Int) ≤ cap.bytes →
      behind <:+ shorter) :
    fit cap shorter (total (·.size) shorter) = fit cap longer (total (·.size) longer) := by
  obtain ⟨suffix, size⟩ := fit_suffix cap shorter
  obtain ⟨suffix', size'⟩ := fit_suffix cap longer
  have settled := fit_settled cap shorter
  have settled' := fit_settled cap longer
  rw [size] at settled
  rw [size'] at settled'
  have left : (fit cap shorter (total (·.size) shorter)).1 <:+
      (fit cap longer (total (·.size) longer)).1 := by
    rcases settled with none | within
    · exact none ▸ List.nil_suffix
    · exact suffix_fit (suffix.trans ends) within
  have right : (fit cap longer (total (·.size) longer)).1 <:+
      (fit cap shorter (total (·.size) shorter)).1 := by
    rcases settled' with none | within
    · exact none ▸ List.nil_suffix
    · exact suffix_fit (covers _ suffix' within) within
  have same := left.eq_of_length (Nat.le_antisymm left.length_le right.length_le)
  exact Prod.ext same (by rw [size, size', same])

/-- Cutting a list before something comes behind it makes no difference. -/
theorem fit_append (cap : SizeCap) (before behind : List (Notice τ)) :
    let kept := (fit cap before (total (·.size) before)).1 ++ behind
    fit cap kept (total (·.size) kept) =
      fit cap (before ++ behind) (total (·.size) (before ++ behind)) := by
  obtain ⟨suffix, -⟩ := fit_suffix cap before
  refine fit_of_suffix (List.suffix_append_self_iff.2 suffix) fun tail ends within => ?_
  rcases List.suffix_or_suffix_of_suffix ends (List.suffix_append before behind) with short | long
  · exact short.trans (List.suffix_append _ behind)
  · obtain ⟨front, rfl⟩ := long
    rw [total_append] at within
    exact List.suffix_append_self_iff.2
      (suffix_fit (List.suffix_append_self_iff.1 ends) (by omega))

end Fitting

section Extension

variable {τ : Type} [Moment τ] {c : NoticeCache τ}

/-- The cache with notices behind those that it holds, whatever the cap is. -/
def extended (c : NoticeCache τ) (notices : List (Notice τ)) : NoticeCache τ :=
  { c with entries := c.entries ++ notices, size := c.size + total (·.size) notices }

omit [Moment τ] in
/-- Notices with distinct keys: the last one's key is none of the others'. -/
theorem fresh_of_nodup {before : List (Notice τ)} {n : Notice τ}
    (distinct : ((before ++ [n]).map (·.key)).Nodup) :
    (before.map (·.key)).Nodup ∧ n.key ∉ before.map (·.key) := by
  rw [List.map_append, List.nodup_append] at distinct
  exact ⟨distinct.1, fun old => distinct.2.2 _ old _ List.mem_cons_self rfl⟩

omit [Moment τ] in
theorem filter_of_fresh {n : Notice τ} {others : List (Notice τ)} (fresh : n.key ∉ others.map (·.key)) :
    others.filter (fun m => !m.key == n.key) = others := by
  refine List.filter_eq_self.2 fun m member => ?_
  have other : m.key ≠ n.key := fun same => fresh (List.mem_map.2 ⟨m, member, same⟩)
  rw [beq_eq_false_iff_ne.2 other]
  rfl

/-- A notice under a new key comes behind the others. -/
theorem append_of_fresh {n : Notice τ} (fresh : n.key ∉ c.entries.map (·.key)) :
    c.append n = c.extended [n] := by
  have removed : c.entries.filter (fun m => m.key == n.key) = [] := by
    refine List.filter_eq_nil_iff.2 fun m member same => fresh ?_
    exact List.mem_map.2 ⟨m, member, beq_iff_eq.1 same⟩
  simp only [append, extended, removeAll, filter_of_fresh fresh, removed, total, Nat.sub_zero,
    Nat.add_zero]

/-- A cache that was cut before notices came behind those that it holds is cut to the same. -/
theorem Exact.fitted_extended (exact : c.Exact) (notices : List (Notice τ)) :
    (c.fitted.extended notices).fitted = (c.extended notices).fitted := by
  have cut := fit_append c.cap c.entries notices
  rw [← exact.size] at cut
  have before : c.fitted.size + total (·.size) notices = total (·.size) (c.fitted.entries ++ notices) := by
    rw [exact.fitted.size, total_append]
  have after : c.size + total (·.size) notices = total (·.size) (c.entries ++ notices) := by
    rw [exact.size, total_append]
  unfold extended
  rw [before, after]
  exact congrArg (fun kept => ({ c with entries := kept.1, size := kept.2 } : NoticeCache τ)) cut

/-- Notices with distinct keys that are not in the cache yet are left as if the cache were cut once,
with all of them in it. -/
theorem Accounted.insertAll_of_distinct {c : NoticeCache Float} (accounted : c.Accounted)
    (notices : List (Notice Float)) (distinct : ((c.entries ++ notices).map (·.key)).Nodup) :
    (Journal.insertAll notices c).1 = (c.extended notices).fitted := by
  induction notices generalizing c with
  | nil =>
    have same : c.extended [] = c := by simp [extended, total]
    rw [same, fitted_of_settled accounted.settled]
    rfl
  | cons n rest ih =>
    rw [List.append_cons] at distinct
    have fresh : n.key ∉ c.entries.map (·.key) :=
      (fresh_of_nodup (distinct.sublist ((List.sublist_append_left _ rest).map _))).2
    have longer : (c.extended [n]).Exact := append_of_fresh fresh ▸ accounted.toExact.append n
    have distinct' : (((c.extended [n]).fitted.entries ++ rest).map (·.key)).Nodup := by
      refine distinct.sublist (List.Sublist.map _ (List.Sublist.append_right ?_ rest))
      exact longer.fitted_suffix.sublist
    have stored : (c.insert n).1 = (c.extended [n]).fitted :=
      congrArg fitted (append_of_fresh fresh)
    have both : (c.extended [n]).extended rest = c.extended (n :: rest) := by
      simp only [extended, List.append_assoc, List.singleton_append, total, Nat.add_zero, Nat.add_assoc]
    change (Journal.insertAll rest (c.insert n).1).1 = _
    rw [stored, ih longer.fitted distinct', longer.fitted_extended rest, both]

end Extension

end NoticeCache

/-!
## What is loaded
-/

/-- What a cache holds after notices were stored one after the other: none twice, the latest one of
each key, no less than would fit at the end, and without gaps if no key occurs twice. -/
structure NoticeCache.CutOf (c : NoticeCache Float) (notices : List (Notice Float)) : Prop
    extends c.Accounted where
  part : c.entries.Sublist notices
  latest : ∀ n ∈ c.entries, (notices.filter (·.key == n.key)).getLast? = some n
  ends : ∀ behind, behind <:+ notices → (behind.map (·.key)).Nodup →
    (total (·.size) behind : Int) ≤ c.cap.bytes → behind <:+ c.entries
  gapless : (notices.map (·.key)).Nodup → c.entries <:+ notices

namespace NoticeCache.CutOf

variable {c : NoticeCache Float} {notices : List (Notice Float)}

theorem empty (cap : SizeCap) (ttl : Float) : CutOf { cap, ttl } [] where
  toAccounted := Accounted.empty cap ttl
  part := List.Sublist.refl []
  latest := nofun
  ends _ ends _ _ := ends
  gapless _ := List.suffix_refl []

/-- One more notice comes behind the others, in the place of those with its key. -/
theorem insert (cut : c.CutOf notices) (n : Notice Float) : (c.insert n).1.CutOf (notices ++ [n]) := by
  let others := c.entries.filter fun m => !m.key == n.key
  have exact : (c.append n).Exact := cut.toExact.append n
  have suffix : (c.insert n).1.entries <:+ others ++ [n] := exact.fitted_suffix
  constructor
  case toAccounted => exact exact.fitted
  case part =>
    have part : others.Sublist notices := List.filter_sublist.trans cut.part
    exact suffix.sublist.trans (part.append (List.Sublist.refl [n]))
  case latest =>
    intro m member
    rcases List.mem_append.1 (suffix.subset member) with old | new
    · obtain ⟨stored, other⟩ := List.mem_filter.1 old
      have apart : (n.key == m.key) = false := by
        rw [BEq.comm]
        exact Bool.not_eq_true' _ |>.mp other
      rw [List.filter_append, List.filter_singleton, apart]
      simpa using cut.latest m stored
    · rw [List.mem_singleton.1 new]
      simp
  case ends =>
    intro behind ends distinct within
    rcases List.suffix_concat_iff.1 ends with rfl | ⟨front, rfl, inside⟩
    · exact List.nil_suffix
    · obtain ⟨before, fresh⟩ := fresh_of_nodup distinct
      have smaller : (total (·.size) front : Int) ≤ c.cap.bytes := by
        rw [total_append] at within
        exact Int.le_trans (Int.ofNat_le.2 (Nat.le_add_right _ _)) within
      have kept := (cut.ends front inside before smaller).filter fun m => !m.key == n.key
      rw [filter_of_fresh fresh] at kept
      exact exact.suffix_fitted (List.suffix_append_self_iff.2 kept) within
  case gapless =>
    intro distinct
    obtain ⟨before, fresh⟩ := fresh_of_nodup distinct
    have same : others = c.entries := filter_of_fresh fun old => fresh ((cut.part.map _).subset old)
    rw [same] at suffix
    exact suffix.trans (List.suffix_append_self_iff.2 (cut.gapless before))

end NoticeCache.CutOf

namespace Journal

theorem insertAll_append (front behind : List (Notice Float)) (c : NoticeCache Float) :
    (insertAll (front ++ behind) c).1 = (insertAll behind (insertAll front c).1).1 := by
  induction front generalizing c with
  | nil => rfl
  | cons n rest ih => exact ih (c.insert n).1

theorem cutOf_insertAll (cap : SizeCap) (ttl : Float) (notices : List (Notice Float)) :
    (insertAll notices { cap, ttl }).1.CutOf notices := by
  induction notices using List.reverseRecOn with
  | nil => exact NoticeCache.CutOf.empty cap ttl
  | append_singleton notices n ih =>
    rw [insertAll_append]
    exact ih.insert n

/-- A snapshot that is thrown away leaves the cache as it is and the store empty, if it can be cleared. -/
theorem reset_spec (j : Journal) (store : SnapshotStore) (failure : Failure) :
    (j.reset store failure).1.cache = j.cache ∧
      (store.clearFault = none →
        (j.reset store failure).1.store = some { store with record := none }) := by
  unfold reset SnapshotStore.clear
  cases store.clearFault with
  | none => exact ⟨rfl, fun _ => rfl⟩
  | some text => exact ⟨rfl, nofun⟩

/-- A journal opens on every store but one whose first item that stands for no notice has a time beyond
all doubles. It then has all notices that the store holds, stored one after the other and cut to the
cap, and the store as it was; or the store holds none, and the journal is empty and its store cleared. -/
theorem loads_all_or_nothing (ttl : Float) (cap : SizeCap) (autosaveEvery : Int)
    (store : SnapshotStore) :
    let opened := start ttl cap autosaveEvery (some store)
    (∀ fault, opened = .error fault ↔ fault = .numberTooLarge ∧ store.TooLarge) ∧
      ∀ j logs, opened = .ok (j, logs) → j.cache.cap = cap ∧
        ((∃ entries, store.Holds entries ∧ j.store = some store ∧ j.cache.CutOf entries) ∨
          (∀ entries, ¬ store.Holds entries) ∧ j.cache.entries = [] ∧ j.cache.size = 0 ∧
            (store.clearFault = none → j.store = some { store with record := none })) := by
  intro opened
  have holds := @decode_eq_ok_iff store
  have tooLarge := @decode_eq_fault_iff store
  let fresh : Journal := { cache := { cap, ttl }, store := some store, autosaveEvery }
  cases loaded : decode store with
  | error failure =>
    have discards : opened = .ok (fresh.reset store failure) := by
      simp only [opened, start, loaded, fresh]
    rw [loaded] at holds tooLarge
    rw [discards]
    refine ⟨fun fault => ?_, fun j logs same => ?_⟩
    · rw [← tooLarge]
      exact ⟨nofun, nofun⟩
    · obtain ⟨cache, cleared⟩ := fresh.reset_spec store failure
      rw [Except.ok.inj same] at cache cleared
      have kept : j.cache = { cap, ttl } := cache
      rw [kept]
      exact ⟨rfl, Or.inr ⟨fun entries held => (nomatch holds.2 held), rfl, rfl, cleared⟩⟩
  | ok decoded =>
    cases decoded with
    | error fault =>
      have ends : opened = .error fault := by
        simp only [opened, start, loaded]
      rw [loaded] at tooLarge
      rw [ends]
      refine ⟨fun other => ?_, nofun⟩
      rw [← tooLarge, Except.ok.injEq]
      exact ⟨fun same => congrArg _ (Except.error.inj same), fun same => congrArg _ (Except.error.inj same)⟩
    | ok entries =>
      have stores : opened = .ok ({ fresh with cache := (insertAll entries fresh.cache).1 },
          (insertAll entries fresh.cache).2) := by
        simp only [opened, start, loaded, fresh]
      rw [loaded] at holds tooLarge
      rw [stores]
      refine ⟨fun fault => ?_, fun j logs same => ?_⟩
      · rw [← tooLarge]
        exact ⟨nofun, nofun⟩
      · cases same
        have cut := cutOf_insertAll cap ttl entries
        have kept := (accounted_insertAll (NoticeCache.Accounted.empty cap ttl) entries).2
        exact ⟨kept, Or.inl ⟨entries, holds.1 rfl, rfl, cut⟩⟩

/-- A creation time of ten to the power of four hundred, in a record that is otherwise in order, keeps
a journal from opening. -/
theorem loads_all_or_nothing_huge_time :
    let item : Value := .table [("created_at", .int (Decimal.tenTo 400)), ("expires_at", .int 2),
      ("file", .text "a"), ("identity", .text "p")]
    let payload := Json.print (.table [("entries", .list [item]), ("schema_version", .int 1)])
    let record : Value :=
      .table [("checksum", .text (Snapshot.checksum payload)), ("payload", .text payload)]
    start 10 { bytes := 400 } 50 (some { directory := .null, record := some record }) =
      .error .numberTooLarge := by
  intro item payload record
  have longer : ∀ a b, a < b → Decimal.tenTo a < Decimal.tenTo b :=
    fun a b less => Nat.pow_lt_pow_right (by decide) less
  have whole : ∀ n : Nat, n ≤ Decimal.tenTo 400 → Json.Embeds (.int n) := by
    intro n small
    refine Json.embeds_of_readsBack trivial (Json.readsBack_int (Nat.lt_of_le_of_lt small ?_))
    exact longer 400 Json.maxDigits (by decide)
  have embeds : Json.Embeds item := by
    refine Json.embeds_table _ (by decide) ?_
    simp only [List.forall_mem_cons]
    exact ⟨whole _ (Nat.le_refl _), whole 2 (by decide +kernel), Json.embeds_text _, Json.embeds_text _,
      nofun⟩
  have parsed : Json.parse payload.toList =
      .ok (.table [("entries", .list [item]), ("schema_version", .int 1)]) := by
    refine Json.readsBack_table _ (by decide) ?_
    simp only [List.forall_mem_cons]
    exact ⟨Json.embeds_list _ (by simpa using embeds), whole 1 (by decide +kernel), nofun⟩
  have beyond : Snapshot.Beyond (.int (Decimal.tenTo 400)) := ⟨_, rfl, by decide +kernel⟩
  refine ((loads_all_or_nothing _ _ _ _).1 _).2 ⟨rfl, [], item, [], ?_, nofun, ?_⟩
  · exact ⟨rfl, Or.inr ⟨record, rfl, payload, _, rfl, rfl, parsed, by decide, rfl⟩⟩
  · exact ⟨rfl, rfl, _, rfl, Or.inl beyond⟩

end Journal

end LiveLint
