import LiveLint.Notice.Journal
import LiveLint.Proofs.Notice.Steps

/-!
# Accounts of a journal

A journal does to its cache what the operations of the cache do; writing a snapshot does not change it.
A journal that was opened, on whatever a store holds, starts with accounts in order, and they stay in
order under all operations.
-/

namespace LiveLint.Journal

def perform (j : Journal) : NoticeStep Float → Journal
  | .check key action kind now => (j.apply (·.checkAndRecord key action kind now)).1
  | .shown n now => (j.apply (·.recordShown n now)).1
  | .dismissed n now => (j.apply (·.recordDismissed n now)).1
  | .sweep now => (j.apply (·.sweep now)).1
  | .shrink => (j.apply (·.shrink)).1
  | .resize cap => (j.apply (·.resize cap)).1
  | .forget file => (j.apply (·.forget file)).1
  | .clear => j.clear.1
  | .lifetime ttl => { j with cache := { j.cache with ttl } }
  | .flush => j.flush.1

def run (j : Journal) (steps : List (NoticeStep Float)) : Journal := steps.foldl perform j

theorem cache_flush (j : Journal) : j.flush.1.cache = j.cache := by
  unfold flush
  split
  · rfl
  · split <;> rfl

theorem cache_commit (j : Journal) (change : NoticeCache.Change Float) :
    (j.commit change).1.cache = change.cache := by
  unfold commit
  dsimp only
  split
  · split
    · exact cache_flush _
    · rfl
  · rfl

theorem cache_clear (j : Journal) : j.clear.1.cache = j.cache.emptied := by
  unfold clear
  dsimp only
  split
  · rfl
  · split <;> rfl

/-- An operation of a journal does to its cache what the operation of the cache does. -/
theorem cache_perform (j : Journal) (step : NoticeStep Float) :
    (j.perform step).cache = j.cache.apply step := by
  cases step with
  | clear => exact j.cache_clear
  | lifetime ttl => rfl
  | flush => exact j.cache_flush
  | _ => exact cache_commit j _

theorem cache_run (j : Journal) (steps : List (NoticeStep Float)) :
    (j.run steps).cache = j.cache.run steps := by
  induction steps generalizing j with
  | nil => rfl
  | cons step rest ih =>
    have later := ih (j.perform step)
    rw [cache_perform] at later
    exact later

/-- Storing notices one after the other keeps the accounts in order, and the cap. -/
theorem accounted_insertAll {c : NoticeCache Float} (accounted : c.Accounted)
    (notices : List (Notice Float)) :
    (insertAll notices c).1.Accounted ∧ (insertAll notices c).1.cap = c.cap := by
  induction notices generalizing c with
  | nil => exact ⟨accounted, rfl⟩
  | cons n rest ih =>
    have stored : (c.insert n).1.Accounted := (accounted.toExact.append n).fitted
    exact ih stored

/-- A journal starts with accounts in order, and the cap that was set. -/
theorem accounted_of_start {ttl : Float} {cap : SizeCap} {autosaveEvery : Int}
    {store : Option SnapshotStore} {j : Journal} {logs : List Log.Record}
    (opens : start ttl cap autosaveEvery store = .ok (j, logs)) :
    j.cache.Accounted ∧ j.cache.cap = cap := by
  have empty := NoticeCache.Accounted.empty cap ttl
  unfold start at opens
  dsimp only at opens
  cases store with
  | none =>
    cases opens
    exact ⟨empty, rfl⟩
  | some store =>
    dsimp only at opens
    split at opens
    · unfold reset at opens
      split at opens <;> cases opens <;> exact ⟨empty, rfl⟩
    · cases opens
    · cases opens
      exact accounted_insertAll empty _

/-- However a journal was opened and whatever was done with it since, its size is that of its notices
together and at most the cap, and every notice is the one that is stored under its key, which no other
one is. -/
theorem size_exact_within_cap {ttl : Float} {cap : SizeCap} {autosaveEvery : Int}
    {store : Option SnapshotStore} {j : Journal} {logs : List Log.Record}
    (opens : start ttl cap autosaveEvery store = .ok (j, logs)) (nonneg : 0 ≤ cap.bytes)
    (steps : List (NoticeStep Float))
    (resized : ∀ cap, NoticeStep.resize cap ∈ steps → 0 ≤ cap.bytes) :
    let c := (j.run steps).cache
    c.size = total (·.size) c.entries ∧ (c.size : Int) ≤ c.cap.bytes ∧
      (c.entries.map (·.key)).Nodup ∧ ∀ n ∈ c.entries, c.get? n.key = some n := by
  intro c
  obtain ⟨start, rfl⟩ := accounted_of_start opens
  have accounted : c.Accounted := by
    have after := start.run steps
    rw [← cache_run] at after
    exact after
  have positive : 0 ≤ c.cap.bytes := by
    have after := start.cap_run_nonneg nonneg resized
    rw [← cache_run] at after
    exact after
  refine ⟨accounted.size, accounted.within positive, accounted.keys, ?_⟩
  exact fun n member => accounted.toExact.get?_of_mem member

/-- Of two patterns of one file and one of another only as many are kept as there is room for, the
latest ones. -/
theorem size_exact_within_cap_room_for_two :
    let steps : List (NoticeStep Float) :=
      [.check ("a", "p") .shown "" 1000, .check ("a", "p") .dismissed "" 1001,
        .check ("a", "q") .shown "" 1002, .check ("b", "p") .shown "" 1003]
    ∃ j, start 10 { bytes := 230 } 50 none = .ok (j, []) ∧
      ((j.run steps).cache.entries.map (·.key) = [("a", "q"), ("b", "p")]) ∧
      (j.run steps).cache.size = 216 ∧
      (j.run steps).cache.size = total (·.size) (j.run steps).cache.entries ∧
      ((j.run steps).cache.size : Int) ≤ (j.run steps).cache.cap.bytes := by
  intro steps
  have opens : start 10 { bytes := 230 } 50 none =
      .ok ({ cache := { cap := { bytes := 230 }, ttl := 10 }, autosaveEvery := 50 }, []) := rfl
  obtain ⟨exact, within, -, -⟩ := size_exact_within_cap opens (by decide) steps (by simp [steps])
  refine ⟨_, opens, ?_, ?_, exact, within⟩
  · decide +kernel
  · decide +kernel

end LiveLint.Journal
