import LiveLint.Proofs.Notice.Accounts
import LiveLint.Proofs.Notice.Decoding
import LiveLint.Proofs.Notice.Loading

/-!
# Reopened journals

A journal that is opened where another one left its snapshot holds what that one would hold under the
new cap: storing the notices one after the other leaves the same as cutting them all at once. Which
operations of a store fail does not change in a journal's life.
-/

namespace LiveLint

def SnapshotStore.faults (s : SnapshotStore) : Option String × Option String × Option String :=
  (s.readFault, s.writeFault, s.clearFault)

namespace Journal

theorem faults_flush (j : Journal) :
    j.flush.1.store.map SnapshotStore.faults = j.store.map SnapshotStore.faults := by
  unfold flush
  split
  · rfl
  · next store present =>
    split
    · next saved done =>
      unfold SnapshotStore.save at done
      split at done
      · cases done
      · cases done
        rw [present]
        rfl
    · rfl

theorem faults_commit (j : Journal) (change : NoticeCache.Change Float) :
    (j.commit change).1.store.map SnapshotStore.faults = j.store.map SnapshotStore.faults := by
  unfold commit
  dsimp only
  split
  · split
    · exact faults_flush _
    · rfl
  · rfl

theorem faults_clear (j : Journal) :
    j.clear.1.store.map SnapshotStore.faults = j.store.map SnapshotStore.faults := by
  unfold clear
  dsimp only
  split
  · rfl
  · next store present =>
    split
    · next cleared done =>
      unfold SnapshotStore.clear at done
      split at done
      · cases done
      · cases done
        rw [present]
        rfl
    · rfl

/-- No operation changes which operations of the store fail. -/
theorem faults_perform (j : Journal) (step : NoticeStep Float) :
    (j.perform step).store.map SnapshotStore.faults = j.store.map SnapshotStore.faults := by
  cases step with
  | clear => exact j.faults_clear
  | lifetime ttl => rfl
  | flush => exact j.faults_flush
  | _ => exact faults_commit j _

theorem faults_run (j : Journal) (steps : List (NoticeStep Float)) :
    (j.run steps).store.map SnapshotStore.faults = j.store.map SnapshotStore.faults := by
  induction steps generalizing j with
  | nil => rfl
  | cons step rest ih => exact (ih (j.perform step)).trans (j.faults_perform step)

theorem faults_of_start {ttl : Float} {cap : SizeCap} {autosaveEvery : Int} {store : SnapshotStore}
    {j : Journal} {logs : List Log.Record}
    (opens : start ttl cap autosaveEvery (some store) = .ok (j, logs)) :
    j.store.map SnapshotStore.faults = some store.faults := by
  unfold start at opens
  dsimp only at opens
  split at opens
  · unfold reset at opens
    split at opens
    · next cleared done =>
      cases opens
      unfold SnapshotStore.clear at done
      split at done
      · cases done
      · cases done
        rfl
    · cases opens
      rfl
  · cases opens
  · cases opens
    rfl

/-- A store that is written holds the record of the notices after a flush. -/
theorem store_flush {j : Journal} {store : SnapshotStore} (present : j.store = some store)
    (writable : store.writeFault = none) :
    j.flush.1.store = some { store with record := some (Snapshot.record j.cache.entries) } := by
  unfold flush SnapshotStore.save
  rw [present]
  dsimp only
  rw [writable]

/-- A journal that is opened on a trusted snapshot with distinct keys holds its notices, cut once. -/
theorem start_of_decode {store : SnapshotStore} {entries : List (Notice Float)}
    (loaded : decode store = .ok (.ok entries)) (distinct : (entries.map (·.key)).Nodup)
    (ttl : Float) (cap : SizeCap) (autosaveEvery : Int) :
    ∃ logs, start ttl cap autosaveEvery (some store) =
      .ok ({ cache := NoticeCache.fitted { entries, size := total (·.size) entries, cap, ttl },
             store := some store, autosaveEvery }, logs) := by
  have stored := (NoticeCache.Accounted.empty cap ttl).insertAll_of_distinct entries distinct
  have full : NoticeCache.extended { cap, ttl } entries =
      { entries, size := total (·.size) entries, cap, ttl } := by
    simp [NoticeCache.extended]
  rw [full] at stored
  refine ⟨(insertAll entries { cap, ttl }).2, ?_⟩
  unfold start
  simp only [loaded]
  rw [← stored]

/-- However a journal was opened on a store that reads and writes, and whatever was done with it since:
once it is flushed, a journal that is opened on its store with any cap holds the same notices in the
same order, with the same size, as the first journal would if it were resized to that cap, and all
notices if the cap allows their size. -/
theorem reopened_as_resized {ttl : Float} {cap : SizeCap} {autosaveEvery : Int} {store : SnapshotStore}
    {j : Journal} {logs : List Log.Record}
    (opens : start ttl cap autosaveEvery (some store) = .ok (j, logs))
    (readable : store.readFault = none) (writable : store.writeFault = none)
    (steps : List (NoticeStep Float)) (timed : ∀ n ∈ (j.run steps).cache.entries, n.Timed)
    (ttl' : Float) (other : SizeCap) (autosaveEvery' : Int) :
    let flushed := (j.run steps).flush.1
    let resized := (flushed.cache.resize other).1.cache
    ∃ reopened logs', start ttl' other autosaveEvery' flushed.store = .ok (reopened, logs') ∧
      reopened.cache.entries = resized.entries ∧ reopened.cache.size = resized.size ∧
      ((flushed.cache.size : Int) ≤ other.bytes →
        reopened.cache.entries = flushed.cache.entries ∧ reopened.cache.size = flushed.cache.size) := by
  intro flushed resized
  have kept : flushed.cache = (j.run steps).cache := cache_flush _
  have accounted : flushed.cache.Accounted := by
    rw [kept, cache_run]
    exact (accounted_of_start opens).1.run steps
  have faults := (faults_run j steps).trans (faults_of_start opens)
  obtain ⟨live, present, same⟩ := Option.map_eq_some_iff.1 faults
  have saved : flushed.store = some { live with record := some (Snapshot.record flushed.cache.entries) } := by
    rw [kept]
    exact store_flush present ((congrArg (·.2.1) same).trans writable)
  have loaded : decode { live with record := some (Snapshot.record flushed.cache.entries) } =
      .ok (.ok flushed.cache.entries) := by
    refine decode_eq_ok_iff.2 (SnapshotStore.holds_of_saved ((congrArg (·.1) same).trans readable) ?_ rfl)
    rw [kept]
    exact timed
  obtain ⟨logs', started⟩ := start_of_decode loaded accounted.keys ttl' other autosaveEvery'
  rw [← accounted.size, ← saved] at started
  refine ⟨_, logs', started, rfl, rfl, fun within => ?_⟩
  have whole : resized = { flushed.cache with cap := other } :=
    NoticeCache.fitted_of_settled (c := { flushed.cache with cap := other }) (Or.inr within)
  have unchanged : resized.entries = flushed.cache.entries ∧ resized.size = flushed.cache.size := by
    rw [whole]
    exact ⟨rfl, rfl⟩
  exact unchanged

/-- A smaller cap leaves the latest two of three notices, one of them dismissed. -/
theorem reopened_as_resized_room_for_two :
    let steps : List (NoticeStep Float) :=
      [.check ("a", "p") .shown "" 1000, .check ("a", "q") .dismissed "" 1001.5,
        .check ("b", "p") .shown "" 1003]
    ∃ j reopened logs, start 10 { bytes := 400 } 50 (some { directory := .null }) = .ok (j, []) ∧
      (j.run steps).cache.entries.length = 3 ∧
      start 20 { bytes := 230 } 1 (j.run steps).flush.1.store = .ok (reopened, logs) ∧
      reopened.cache.entries.map (·.key) = [("a", "q"), ("b", "p")] ∧ reopened.cache.size = 216 := by
  intro steps
  have opens : start 10 { bytes := 400 } 50 (some { directory := .null }) =
      .ok ({ cache := { cap := { bytes := 400 }, ttl := 10 }, store := some { directory := .null },
             autosaveEvery := 50 }, []) := rfl
  obtain ⟨reopened, logs, again, entries, size, -⟩ :=
    reopened_as_resized opens rfl rfl steps (by decide +kernel) 20 { bytes := 230 } 1
  refine ⟨_, reopened, logs, opens, ?_, again, ?_, ?_⟩
  · decide +kernel
  · rw [entries]
    decide +kernel
  · rw [size]
    decide +kernel

end Journal

end LiveLint
