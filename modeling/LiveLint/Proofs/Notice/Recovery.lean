import LiveLint.Proofs.Json.Doubles
import LiveLint.Proofs.Notice.Evictions
import LiveLint.Proofs.Notice.Loading
import LiveLint.Proofs.Notice.Reopening

/-!
# What a crash loses

A journal counts the changes since its last snapshot, and writes one when there are as many as it was told.
So what is in the store is never more than one change less than that behind: whoever opens it holds the
notices that the journal held then. Opening a store changes nothing in it, unless it cannot be trusted, so
what was dropped while a journal was opened is dropped again.
-/

namespace LiveLint

/-- Whatever the times of a notice are, their decimals are read as them. -/
theorem Notice.timed (n : Notice Float) : n.Timed :=
  ⟨Json.readsBack_float n.createdAt, Json.readsBack_float n.expiresAt⟩

namespace NoticeCache

variable {τ : Type} [Moment τ]

/-- An operation changes the cache: it records a notice, or fewer notices are left. -/
def mutates (c : NoticeCache τ) (step : NoticeStep τ) : Bool :=
  (c.recorded? step).isSome || (c.apply step).entries.length < c.entries.length

def mutations (c : NoticeCache τ) : List (NoticeStep τ) → Nat
  | [] => 0
  | step :: rest => (if c.mutates step then 1 else 0) + (c.apply step).mutations rest

theorem mutations_append (c : NoticeCache τ) (steps more : List (NoticeStep τ)) :
    c.mutations (steps ++ more) = c.mutations steps + (c.run steps).mutations more := by
  induction steps generalizing c with
  | nil => simp [mutations, run]
  | cons step rest ih => simp [mutations, run, ih, Nat.add_assoc]

end NoticeCache

namespace Journal

/-- How long a showing counts does not matter when notices are stored. -/
theorem insertAll_ttl (notices : List (Notice Float)) (c : NoticeCache Float) (ttl : Float) :
    (insertAll notices { c with ttl }).1 = { (insertAll notices c).1 with ttl } := by
  induction notices generalizing c with
  | nil => rfl
  | cons n rest ih => exact ih (c.insert n).1

/-- A journal that is opened on the store with some cap holds these notices. -/
def Recovers (store : Option SnapshotStore) (limit : SizeCap) (entries : List (Notice Float)) : Prop :=
  ∀ ttl autosaveEvery, ∃ j logs, start ttl limit autosaveEvery store = .ok (j, logs) ∧
    j.cache.entries = entries

theorem recovers_of_decode {store : SnapshotStore} {entries : List (Notice Float)}
    (loaded : decode store = .ok (.ok entries)) (limit : SizeCap) (ttl : Float) :
    Recovers (some store) limit (insertAll entries { cap := limit, ttl }).1.entries := by
  intro ttl' autosaveEvery
  have opens : start ttl' limit autosaveEvery (some store) = .ok
      ({ cache := (insertAll entries { cap := limit, ttl := ttl' }).1, store := some store, autosaveEvery },
        (insertAll entries { cap := limit, ttl := ttl' }).2) := by
    simp only [start, loaded]
  have same := congrArg NoticeCache.entries (insertAll_ttl entries { cap := limit, ttl } ttl')
  exact ⟨_, _, opens, same⟩

/-- On a store with nothing in it a journal is opened without notices. -/
theorem recovers_empty {store : SnapshotStore} (readable : store.readFault = none) (limit : SizeCap) :
    Recovers (some { store with record := none }) limit [] := by
  have loaded : decode { store with record := none } = .ok (.ok []) := by
    simp only [decode, SnapshotStore.load, readable]
    rfl
  exact recovers_of_decode loaded limit 0

/-- Where a journal left its snapshot, one with the same cap is opened with all its notices. -/
theorem recovers_saved {store : SnapshotStore} (readable : store.readFault = none) {c : NoticeCache Float}
    (accounted : c.Accounted) :
    Recovers (some { store with record := some (Snapshot.record c.entries) }) c.cap c.entries := by
  intro ttl autosaveEvery
  have held : SnapshotStore.Holds { store with record := some (Snapshot.record c.entries) } c.entries := by
    apply SnapshotStore.holds_of_saved
    · exact readable
    · exact fun n _ => n.timed
    · rfl
  obtain ⟨logs, opens⟩ := start_of_decode (decode_eq_ok_iff.2 held) accounted.keys ttl c.cap autosaveEvery
  have whole : NoticeCache.fitted { c with ttl } = { c with ttl } :=
    NoticeCache.fitted_of_settled accounted.settled
  rw [← accounted.size, whole] at opens
  exact ⟨_, logs, opens, rfl⟩

/-- The store of a journal works, and holds what the journal held some changes ago, which are fewer than
those after which a snapshot is written. -/
structure Covered (j : Journal) (limit : SizeCap) (every : Int) (saved : List (Notice Float)) (lost : Nat) :
    Prop where
  accounted : j.cache.Accounted
  cap : j.cache.cap = limit
  autosaves : j.autosaveEvery = every
  reliable : j.store.map SnapshotStore.faults = some (none, none, none)
  recovers : Recovers j.store limit saved
  lost_le : lost ≤ j.unsaved
  due : (j.unsaved : Int) < every

/-- A snapshot brings the store up to date. -/
theorem covered_flush {j : Journal} (accounted : j.cache.Accounted)
    (reliable : j.store.map SnapshotStore.faults = some (none, none, none))
    (positive : 0 < j.autosaveEvery) :
    j.flush.1.Covered j.cache.cap j.autosaveEvery j.cache.entries 0 := by
  obtain ⟨store, present, working⟩ := Option.map_eq_some_iff.1 reliable
  have readable : store.readFault = none := congrArg (·.1) working
  have writable : store.writeFault = none := congrArg (·.2.1) working
  have wrote : j.flush.1 = { j with
      store := some { store with record := some (Snapshot.record j.cache.entries) }, unsaved := 0 } := by
    simp only [flush, present, SnapshotStore.save, writable]
  rw [wrote]
  exact ⟨accounted, rfl, rfl, congrArg some working, recovers_saved readable accounted, Nat.le_refl 0,
    positive⟩

namespace Covered

variable {j : Journal} {limit : SizeCap} {every : Int} {saved : List (Notice Float)} {lost : Nat}

theorem mono (covered : j.Covered limit every saved lost) {fewer : Nat} (le : fewer ≤ lost) :
    j.Covered limit every saved fewer :=
  { covered with lost_le := le.trans covered.lost_le }

theorem positive (covered : j.Covered limit every saved lost) : 0 < every :=
  Int.lt_of_le_of_lt (Int.natCast_nonneg _) covered.due

/-- Removing everything brings the store up to date. -/
theorem clear (covered : j.Covered limit every saved lost) : j.clear.1.Covered limit every [] 0 := by
  obtain ⟨store, present, working⟩ := Option.map_eq_some_iff.1 covered.reliable
  have readable : store.readFault = none := congrArg (·.1) working
  have clearable : store.clearFault = none := congrArg (·.2.2) working
  have cleared : j.clear.1 = { j with
      cache := j.cache.emptied, store := some { store with record := none }, unsaved := 0 } := by
    simp only [Journal.clear, present, SnapshotStore.clear, clearable]
  rw [cleared]
  refine ⟨⟨⟨rfl, List.nodup_nil⟩, Or.inl rfl⟩, covered.cap, covered.autosaves, congrArg some working,
    recovers_empty readable limit, Nat.le_refl 0, covered.positive⟩

/-- A change is counted, or written together with all that were counted before. -/
theorem commit (covered : j.Covered limit every saved lost) {change : NoticeCache.Change Float}
    (accounted : change.cache.Accounted) (cap : change.cache.cap = limit) :
    (j.commit change).1.Covered limit every saved (lost + if change.mutated then 1 else 0) ∨
      (j.commit change).1.Covered limit every change.cache.entries 0 := by
  have present : j.store.isSome = true := by
    obtain ⟨store, present, -⟩ := Option.map_eq_some_iff.1 covered.reliable
    rw [present]
    rfl
  unfold Journal.commit
  cases mutated : change.mutated with
  | false => exact Or.inl { covered with accounted, cap }
  | true =>
    simp only [present, Bool.and_self, if_true]
    split
    · have positive : 0 < j.autosaveEvery := covered.autosaves ▸ covered.positive
      have written := covered_flush (j := { j with cache := change.cache, unsaved := j.unsaved + 1 })
        accounted covered.reliable positive
      exact Or.inr (cap ▸ covered.autosaves ▸ written)
    · next early =>
      have due := Int.not_le.1 early
      rw [covered.autosaves] at due
      exact Or.inl { covered with accounted, cap, due, lost_le := Nat.add_le_add_right covered.lost_le 1 }

end Covered

end Journal

namespace NoticeCache

variable {τ : Type} [Moment τ] {c : NoticeCache τ}

theorem Accounted.cap_apply (accounted : c.Accounted) {step : NoticeStep τ}
    (fixed : ∀ cap, step ≠ .resize cap) : (c.apply step).cap = c.cap := by
  rw [accounted.apply_eq]
  exact (c.settings_stage step).1 fixed

/-- What changes the cache without recording a notice leaves fewer. -/
theorem fewer_of_mutates {step : NoticeStep τ} (mutates : c.mutates step = true)
    (nothing : c.recorded? step = none) : (c.apply step).entries.length < c.entries.length := by
  simpa [NoticeCache.mutates, nothing] using mutates

/-- Whatever is removed is counted. -/
theorem mutated_drop {p : Notice τ → Bool}
    (fewer : (c.removeAll p).entries.length < c.entries.length) : (c.drop p).1.mutated = true := by
  simp only [drop, bne_iff_ne, ne_eq]
  intro none
  have whole : c.entries.filter (!p ·) = c.entries :=
    List.filter_eq_self.2 fun n stored => by simpa using List.countP_eq_zero.1 none n stored
  simp [removeAll, whole] at fewer

theorem mutated_record (mark : Notice τ → Notice τ) (n : Notice τ) (now : τ) :
    (c.record mark n now).1.mutated = true := by
  unfold record
  split <;> rfl

/-- A check that changes the cache says so. -/
theorem mutated_check {key : Notice.Key} {action : NoticeAction} {kind : String} {now : τ}
    (mutates : c.mutates (.check key action kind now) = true) :
    (c.checkAndRecord key action kind now).1.mutated = true := by
  cases action with
  | dismissed => exact mutated_record _ _ _
  | shown =>
    unfold checkAndRecord
    cases suppressed : c.suppresses key now with
    | false => exact mutated_record _ _ _
    | true => simp [NoticeCache.mutates, recorded?, apply, checkAndRecord, suppressed] at mutates

end NoticeCache

namespace Journal

/-- A step is counted if it changes the cache, or it brings the store up to date. -/
theorem Covered.perform {j : Journal} {limit : SizeCap} {every : Int} {saved : List (Notice Float)}
    {lost : Nat} (covered : j.Covered limit every saved lost) {step : NoticeStep Float}
    (fixed : ∀ cap, step ≠ .resize cap) :
    (j.perform step).Covered limit every saved (lost + if j.cache.mutates step then 1 else 0) ∨
      (j.perform step).Covered limit every (j.perform step).cache.entries 0 := by
  have accounted := covered.accounted.apply step
  have cap : (j.cache.apply step).cap = limit := (covered.accounted.cap_apply fixed).trans covered.cap
  -- What is committed was counted if it changes the cache.
  have committed (change : NoticeCache.Change Float) (same : change.cache = j.cache.apply step)
      (counted : j.cache.mutates step = true → change.mutated = true) :
      (j.commit change).1.Covered limit every saved (lost + if j.cache.mutates step then 1 else 0) ∨
        (j.commit change).1.Covered limit every (j.commit change).1.cache.entries 0 := by
    rw [cache_commit]
    refine (covered.commit (same ▸ accounted) (same ▸ cap)).imp_left fun kept => kept.mono ?_
    cases mutates : j.cache.mutates step with
    | false => simp
    | true => simp [counted mutates]
  cases step with
  | check key action kind now => exact committed _ rfl NoticeCache.mutated_check
  | shown n now => exact committed _ rfl fun _ => NoticeCache.mutated_record _ _ _
  | dismissed n now => exact committed _ rfl fun _ => NoticeCache.mutated_record _ _ _
  | sweep now =>
    exact committed _ rfl fun mutates =>
      NoticeCache.mutated_drop (NoticeCache.fewer_of_mutates mutates rfl)
  | forget file =>
    exact committed _ rfl fun mutates =>
      NoticeCache.mutated_drop (NoticeCache.fewer_of_mutates mutates rfl)
  | shrink =>
    refine committed _ rfl fun mutates => ?_
    have fewer : j.cache.fitted.entries.length < j.cache.entries.length :=
      NoticeCache.fewer_of_mutates mutates rfl
    simp only [bne_iff_ne, ne_eq]
    omega
  | resize limit' => exact absurd rfl (fixed limit')
  | clear =>
    refine Or.inr ?_
    rw [cache_perform]
    exact covered.clear
  | lifetime ttl =>
    refine Or.inl ?_
    have unchanged : j.cache.mutates (.lifetime ttl) = false := by
      simp [NoticeCache.mutates, NoticeCache.recorded?, NoticeCache.apply]
    rw [unchanged]
    exact { covered with accounted, cap }
  | flush =>
    refine Or.inr ?_
    rw [cache_perform]
    have positive : 0 < j.autosaveEvery := covered.autosaves ▸ covered.positive
    exact covered.cap ▸ covered.autosaves ▸ covered_flush covered.accounted covered.reliable positive

/-- A journal that was opened on a store that works is covered by what the store held. -/
theorem covered_start {ttl : Float} {limit : SizeCap} {every : Int} {store : SnapshotStore} {j : Journal}
    {logs : List Log.Record} (opens : start ttl limit every (some store) = .ok (j, logs))
    (positive : 1 ≤ every) (reliable : store.faults = (none, none, none)) :
    j.Covered limit every j.cache.entries 0 := by
  obtain ⟨accounted, cap⟩ := accounted_of_start opens
  have faults := (faults_of_start opens).trans (congrArg some reliable)
  have readable : store.readFault = none := congrArg (·.1) reliable
  have clearable : store.clearFault = none := congrArg (·.2.2) reliable
  have cleared : store.clear = .ok { store with record := none } := by
    simp only [SnapshotStore.clear, clearable]
  unfold start at opens
  dsimp only at opens
  split at opens
  · simp only [reset, cleared] at opens
    cases opens
    exact ⟨accounted, cap, rfl, faults, recovers_empty readable limit, Nat.zero_le _, positive⟩
  · cases opens
  · next entries loaded =>
    cases opens
    exact ⟨accounted, cap, rfl, faults, recovers_of_decode loaded limit ttl, Nat.zero_le _, positive⟩

theorem run_concat (j : Journal) (steps : List (NoticeStep Float)) (step : NoticeStep Float) :
    j.run (steps ++ [step]) = (j.run steps).perform step := by
  simp [run]

/-- Whatever is done with a journal that is covered, it is covered by what it held some steps ago, and only
the changes since may not be in the store. -/
theorem Covered.run {j : Journal} {limit : SizeCap} {every : Int}
    (covered : j.Covered limit every j.cache.entries 0) {steps : List (NoticeStep Float)}
    (fixed : ∀ cap, .resize cap ∉ steps) :
    ∃ done since, steps = done ++ since ∧
      (j.run steps).Covered limit every (j.run done).cache.entries ((j.run done).cache.mutations since) := by
  induction steps using List.reverseRecOn with
  | nil => exact ⟨[], [], rfl, covered⟩
  | append_singleton steps step ih =>
    obtain ⟨done, since, rfl, before⟩ := ih fun cap resized => fixed cap (by simp [resized])
    have other : ∀ cap, step ≠ .resize cap := by
      rintro cap rfl
      exact fixed cap (by simp)
    rw [run_concat]
    rcases before.perform other with counted | written
    · refine ⟨done, since ++ [step], (List.append_assoc done since [step]), ?_⟩
      have cache : (j.run (done ++ since)).cache = (j.run done).cache.run since := by
        rw [← cache_run]
        simp [Journal.run]
      rw [NoticeCache.mutations_append, ← cache]
      exact counted
    · refine ⟨(done ++ since) ++ [step], [], (List.append_nil _).symm, ?_⟩
      rw [run_concat]
      exact written

/-- Whatever is done with a journal whose store works and whose cap stays as it is: there was a point, with
fewer changes since than those after which a snapshot is written, at which it held just the notices that a
journal holds that is opened on its store now. -/
theorem recovers_recent {ttl : Float} {limit : SizeCap} {every : Int} {store : SnapshotStore} {j : Journal}
    {logs : List Log.Record} (opens : start ttl limit every (some store) = .ok (j, logs))
    (positive : 1 ≤ every) (reliable : store.faults = (none, none, none))
    {steps : List (NoticeStep Float)} (fixed : ∀ cap, .resize cap ∉ steps) :
    ∃ done since, steps = done ++ since ∧ ((j.run done).cache.mutations since : Int) ≤ every - 1 ∧
      ∀ ttl' every', ∃ reopened logs',
        start ttl' limit every' (j.run steps).store = .ok (reopened, logs') ∧
          reopened.cache.entries = (j.run done).cache.entries := by
  obtain ⟨done, since, parts, covered⟩ := (covered_start opens positive reliable).run fixed
  have lost := covered.lost_le
  have due := covered.due
  exact ⟨done, since, parts, by omega, covered.recovers⟩

/-- With a snapshot after every third change, the fourth one is not in the store yet. -/
theorem recovers_recent_one_behind :
    let steps : List (NoticeStep Float) :=
      [.check ("a", "p") .shown "" 1000, .check ("a", "q") .dismissed "" 1001.5,
        .check ("b", "p") .shown "" 1003, .check ("b", "q") .shown "" 1004]
    ∃ j done since reopened logs, start 10 { bytes := 1000 } 3 (some { directory := .null }) = .ok (j, []) ∧
      (j.run steps).cache.entries.length = 4 ∧ (j.run steps).unsaved = 1 ∧
      steps = done ++ since ∧ ((j.run done).cache.mutations since : Int) ≤ 2 ∧
      start 20 { bytes := 1000 } 1 (j.run steps).store = .ok (reopened, logs) ∧
      reopened.cache.entries = (j.run done).cache.entries := by
  intro steps
  let j : Journal :=
    { cache := { cap := { bytes := 1000 }, ttl := 10 }, store := some { directory := .null }, autosaveEvery := 3 }
  have opens : start 10 { bytes := 1000 } 3 (some { directory := .null }) = .ok (j, []) := rfl
  have fixed : ∀ cap, .resize cap ∉ steps := by simp [steps]
  obtain ⟨done, since, parts, few, recovers⟩ := recovers_recent opens (by decide) rfl fixed
  obtain ⟨reopened, logs, again, entries⟩ := recovers 20 1
  refine ⟨j, done, since, reopened, logs, opens, ?_, ?_, parts, few, again, entries⟩
  · decide +kernel
  · decide +kernel

end Journal

end LiveLint
