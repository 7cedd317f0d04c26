import LiveLint.Proofs.Notice.Accounts
import Mathlib.Data.List.Nodup

/-!
# What a new notice drives out

A notice that is stored as a new one comes behind all others, without the one that was under its key
before. What is kept of them is the longest end that is within the cap: notices go in their order, each of
them only if those behind it leave it no room, and the new one only if it is too large by itself. If a cache
is filled by checks alone, and time does not run backwards, then this is the order in which the notices were
made; a check that marks an old notice leaves it where it is.
-/

namespace LiveLint

/-- The longest end of a list of notices that is within a cap. -/
structure LongestEnd {τ : Type} [Moment τ] (cap : Int) (all kept : List (Notice τ)) : Prop where
  ends : kept <:+ all
  within : (total (·.size) kept : Int) ≤ cap
  longest : ∀ behind, behind <:+ all → (total (·.size) behind : Int) ≤ cap → behind <:+ kept

namespace LongestEnd

variable {τ : Type} [Moment τ] {cap : Int} {all kept : List (Notice τ)}

/-- Everything behind a notice that is kept is kept as well. -/
theorem behind_kept (longest : LongestEnd cap all kept) (distinct : (all.map (·.key)).Nodup)
    {front behind : List (Notice τ)} {n : Notice τ} (parts : all = front ++ n :: behind)
    (member : n ∈ kept) : n :: behind <:+ kept := by
  have here : n :: behind <:+ all := ⟨front, parts.symm⟩
  rcases List.suffix_or_suffix_of_suffix longest.ends here with shorter | longer
  · rcases List.suffix_cons_iff.1 shorter with rfl | later
    · exact List.suffix_refl _
    · have once : (n :: behind).Nodup := (List.Nodup.of_map _ distinct).sublist here.sublist
      exact absurd (later.subset member) (List.nodup_cons.1 once).1
  · exact longer

/-- Whatever is not kept has no room beside what is behind it. -/
theorem cap_lt (longest : LongestEnd cap all kept) {front behind : List (Notice τ)} {n : Notice τ}
    (parts : all = front ++ n :: behind) (dropped : n ∉ kept) :
    cap < (total (·.size) (n :: behind) : Int) := by
  refine Int.not_le.1 fun fits => dropped ?_
  have left := longest.longest (n :: behind) ⟨front, parts.symm⟩ fits
  exact left.subset List.mem_cons_self

/-- The last of some notices is dropped only if it is too large by itself, and then none is left. -/
theorem last_dropped_iff {n : Notice τ} (longest : LongestEnd cap (all ++ [n]) kept) :
    n ∉ kept ↔ cap < n.size := by
  constructor
  · intro dropped
    simpa [total] using longest.cap_lt rfl dropped
  · intro large member
    have le := total_sublist_le (·.size) (List.singleton_sublist.2 member)
    have within := longest.within
    simp only [total, Nat.add_zero] at le
    omega

end LongestEnd

namespace NoticeCache

variable {τ : Type} [Moment τ]

/-- The notice that an operation records, as it would be stored, and the moment it does so. Showing a
suppressed pattern in a check records nothing. -/
def recorded? (c : NoticeCache τ) : NoticeStep τ → Option (Notice τ × τ)
  | .check key .shown kind now =>
    if c.suppresses key now then none else some ((Notice.create key kind now c.ttl).markShown, now)
  | .check key .dismissed kind now => some ((Notice.create key kind now c.ttl).markDismissed, now)
  | .shown n now => some (n.markShown, now)
  | .dismissed n now => some (n.markDismissed, now)
  | _ => none

/-- The notice that an operation stores as a new one: it records it, and no other one under its key counts
at that moment. -/
def inserted? (c : NoticeCache τ) (step : NoticeStep τ) : Option (Notice τ) :=
  ((c.recorded? step).filter fun (n, now) => !c.suppresses n.key now).map (·.1)

/-- A check that shows a pattern stores a notice if the pattern is not suppressed. -/
theorem inserted?_shown {c : NoticeCache τ} {key : Notice.Key} (kind : String) {now : τ}
    (unsuppressed : c.suppresses key now = false) :
    c.inserted? (.check key .shown kind now) = some (Notice.create key kind now c.ttl).markShown := by
  have own : (Notice.create key kind now c.ttl).markShown.key = key := rfl
  simp [inserted?, recorded?, unsuppressed, Option.filter, own]

theorem put_of_unsuppressed {c : NoticeCache τ} (mark : Notice τ → Notice τ) {n : Notice τ} {now : τ}
    (unsuppressed : c.suppresses n.key now = false) : c.put mark n now = c.append (mark n) := by
  unfold put
  split
  · next old kept =>
    obtain ⟨found, counts⟩ := Option.filter_eq_some_iff.1 kept
    simp [suppresses, found, counts] at unsuppressed
  · rfl

/-- A new notice comes behind those under other keys. -/
theorem stage_of_inserted {c : NoticeCache τ} {step : NoticeStep τ} {e : Notice τ}
    (inserted : c.inserted? step = some e) : c.stage step = c.append e := by
  obtain ⟨⟨n, now⟩, passed, rfl⟩ := Option.map_eq_some_iff.1 inserted
  obtain ⟨recorded, unsuppressed⟩ := Option.filter_eq_some_iff.1 passed
  replace unsuppressed : c.suppresses n.key now = false := by simpa using unsuppressed
  cases step with
  | check key action kind when =>
    cases action with
    | dismissed =>
      cases recorded
      exact put_of_unsuppressed Notice.markDismissed unsuppressed
    | shown =>
      simp only [recorded?] at recorded
      split at recorded
      · cases recorded
      · next free =>
        cases recorded
        simp only [stage, if_neg free]
        exact put_of_unsuppressed Notice.markShown unsuppressed
  | shown m when =>
    cases recorded
    exact put_of_unsuppressed Notice.markShown unsuppressed
  | dismissed m when =>
    cases recorded
    exact put_of_unsuppressed Notice.markDismissed unsuppressed
  | _ => cases recorded

/-- Storing a new notice keeps the longest end that is within the cap. -/
theorem Accounted.longestEnd_insert {c : NoticeCache τ} (accounted : c.Accounted)
    (nonneg : 0 ≤ c.cap.bytes) {step : NoticeStep τ} {e : Notice τ}
    (inserted : c.inserted? step = some e) :
    LongestEnd c.cap.bytes (c.append e).entries (c.apply step).entries := by
  have exact := accounted.toExact.append e
  rw [accounted.apply_eq, stage_of_inserted inserted]
  refine ⟨exact.fitted_suffix, ?_, fun behind => exact.suffix_fitted⟩
  have within := exact.fitted.within nonneg
  rwa [exact.fitted.size] at within

end NoticeCache

namespace NoticeStep

variable {τ : Type}

/-- The moments at which the operations check patterns. -/
def checkTime? : NoticeStep τ → Option τ
  | .check _ _ _ now => some now
  | _ => none

/-- The operation records nothing, unless it is a check. -/
def Checks : NoticeStep τ → Prop
  | .shown _ _ | .dismissed _ _ => False
  | _ => True

end NoticeStep

namespace NoticeCache

variable {τ : Type} [Moment τ] {c : NoticeCache τ}

/-- Storing or marking a notice leaves the moments at which notices were made in their order, with that of
the new one behind them. -/
theorem Exact.createdAt_put (exact : c.Exact) (mark : Notice τ → Notice τ)
    (keeps : ∀ n, (mark n).createdAt = n.createdAt ∧ (mark n).key = n.key) (n : Notice τ) (now : τ) :
    ((c.put mark n now).entries.map (·.createdAt)).Sublist
      (c.entries.map (·.createdAt) ++ [n.createdAt]) := by
  unfold NoticeCache.put
  split
  · next old kept =>
    have stored := (mem_of_get? (Option.filter_eq_some_iff.1 kept).1).1
    have same : (c.replace old (mark old)).entries.map (·.createdAt) = c.entries.map (·.createdAt) := by
      simp only [NoticeCache.replace, List.map_map]
      refine List.map_congr_left fun m member => ?_
      by_cases own : m.key = old.key
      · rw [exact.eq_of_key member stored own]
        simp [keeps]
      · simp [keeps, own]
    rw [same]
    exact List.sublist_append_left _ _
  · simp only [NoticeCache.append, NoticeCache.removeAll, List.map_append, List.map_singleton, keeps]
    exact (List.filter_sublist.map _).append_right _

/-- The moments at which notices were made stay in their order in a cache that is filled by checks. -/
theorem Exact.createdAt_stage (exact : c.Exact) {step : NoticeStep τ} (checks : step.Checks) :
    ((c.stage step).entries.map (·.createdAt)).Sublist
      (c.entries.map (·.createdAt) ++ step.checkTime?.toList) := by
  have same : (c.entries.map (·.createdAt)).Sublist
      (c.entries.map (·.createdAt) ++ step.checkTime?.toList) := List.sublist_append_left _ _
  cases step with
  | check key action kind now =>
    cases action with
    | dismissed => exact exact.createdAt_put Notice.markDismissed (fun n => ⟨rfl, rfl⟩) _ now
    | shown =>
      simp only [NoticeCache.stage]
      split
      · exact same
      · exact exact.createdAt_put Notice.markShown (fun n => ⟨rfl, rfl⟩) _ now
  | shown n now => exact checks.elim
  | dismissed n now => exact checks.elim
  | sweep now => exact (List.filter_sublist.map _).trans same
  | forget file => exact (List.filter_sublist.map _).trans same
  | clear => exact List.nil_sublist _
  | shrink | resize | lifetime | flush => exact same

theorem Accounted.createdAt_run (accounted : c.Accounted) (steps : List (NoticeStep τ))
    (checks : ∀ step ∈ steps, step.Checks) :
    ((c.run steps).entries.map (·.createdAt)).Sublist
      (c.entries.map (·.createdAt) ++ steps.filterMap NoticeStep.checkTime?) := by
  induction steps generalizing c with
  | nil => exact List.sublist_append_left _ _
  | cons step rest ih =>
    have after := ih (accounted.apply step) fun step later => checks step (List.mem_cons_of_mem _ later)
    have first : ((c.apply step).entries.map (·.createdAt)).Sublist
        (c.entries.map (·.createdAt) ++ step.checkTime?.toList) := by
      rw [accounted.apply_eq]
      have staged := accounted.toExact.stage step
      have moved := accounted.toExact.createdAt_stage (checks step List.mem_cons_self)
      exact (staged.fitted_suffix.sublist.map _).trans moved
    have times : step.checkTime?.toList ++ rest.filterMap NoticeStep.checkTime? =
        (step :: rest).filterMap NoticeStep.checkTime? := by
      cases time : step.checkTime? <;> simp [time]
    rw [← times, ← List.append_assoc]
    exact after.trans (first.append_right _)

end NoticeCache

namespace Journal

/-- Recording a notice under whose key none counts leaves the longest end that is within the cap of what
there was under other keys, with the new notice behind it. So nothing is dropped while something older
stays, nothing is dropped for which there was room, and the new one is dropped only if it is too large by
itself. If the cache was filled by checks at moments that do not run backwards, then the order is that in
which the notices were made. -/
theorem insertion_keeps_longest_end {ttl : Float} {cap : SizeCap} {autosaveEvery : Int}
    {store : Option SnapshotStore} {j : Journal} {logs : List Log.Record}
    (opens : start ttl cap autosaveEvery store = .ok (j, logs)) (steps : List (NoticeStep Float))
    (nonneg : 0 ≤ (j.run steps).cache.cap.bytes) {step : NoticeStep Float} {e : Notice Float}
    (inserted : (j.run steps).cache.inserted? step = some e) :
    let c := (j.run steps).cache
    let all := c.entries.filter (·.key != e.key) ++ [e]
    let kept := ((j.run steps).perform step).cache.entries
    LongestEnd c.cap.bytes all kept ∧
      (∀ front n behind, all = front ++ n :: behind →
        (n ∈ kept → n :: behind <:+ kept) ∧
          (n ∉ kept → c.cap.bytes < (total (·.size) (n :: behind) : Int))) ∧
      (e ∉ kept ↔ c.cap.bytes < e.size) ∧
      (j.cache.entries = [] → (∀ s ∈ steps ++ [step], s.Checks) →
        ((steps ++ [step]).filterMap NoticeStep.checkTime?).Pairwise (Moment.le · ·) →
          all.Pairwise (Moment.le ·.createdAt ·.createdAt)) := by
  intro c all kept
  obtain ⟨first, -⟩ := accounted_of_start opens
  have same : c = j.cache.run steps := cache_run j steps
  have accounted : c.Accounted := same ▸ first.run steps
  have entries : (c.append e).entries = all := rfl
  have longest : LongestEnd c.cap.bytes all kept := by
    have cut := accounted.longestEnd_insert nonneg inserted
    rwa [← cache_perform] at cut
  have distinct : (all.map (·.key)).Nodup := (accounted.toExact.append e).keys
  refine ⟨longest, fun front n behind parts => ?_, longest.last_dropped_iff, ?_⟩
  · exact ⟨longest.behind_kept distinct parts, longest.cap_lt parts⟩
  · intro empty checks ordered
    have before := first.createdAt_run steps fun s known => checks s (by simp [known])
    have made := accounted.toExact.createdAt_stage (checks step (by simp))
    rw [NoticeCache.stage_of_inserted inserted, entries, same] at made
    have times : (all.map (·.createdAt)).Sublist ((steps ++ [step]).filterMap NoticeStep.checkTime?) := by
      cases time : step.checkTime? <;>
        simpa [empty, time, List.filterMap_append] using made.trans (before.append_right _)
    exact List.pairwise_map.1 (ordered.sublist times)

/-- A pattern that is shown again when its first showing no longer counts moves behind another one. With
room for two notices the other one goes when a third pattern is shown. -/
theorem insertion_keeps_longest_end_room_for_two :
    let steps : List (NoticeStep Float) :=
      [.check ("a", "p") .shown "" 1000, .check ("a", "q") .shown "" 1005, .check ("a", "p") .shown "" 1011]
    let step : NoticeStep Float := .check ("b", "p") .shown "" 1012
    ∃ j e, start 10 { bytes := 230 } 50 none = .ok (j, []) ∧
      (j.run steps).cache.inserted? step = some e ∧
      ((j.run steps).cache.entries.map (·.key) = [("a", "q"), ("a", "p")]) ∧
      (((j.run steps).perform step).cache.entries.map (·.key) = [("a", "p"), ("b", "p")]) ∧
      e ∈ ((j.run steps).perform step).cache.entries ∧
      ((j.run steps).perform step).cache.entries.Pairwise (Moment.le ·.createdAt ·.createdAt) := by
  intro steps step
  let j : Journal := { cache := { cap := { bytes := 230 }, ttl := 10 }, autosaveEvery := 50 }
  let e : Notice Float := (Notice.create ("b", "p") "" 1012 (j.run steps).cache.ttl).markShown
  have opens : start 10 { bytes := 230 } 50 none = .ok (j, []) := rfl
  have inserted : (j.run steps).cache.inserted? step = some e :=
    NoticeCache.inserted?_shown _ (by decide +kernel)
  obtain ⟨longest, -, dropped, ordered⟩ :=
    insertion_keeps_longest_end opens steps (by decide +kernel) inserted
  refine ⟨j, e, opens, inserted, ?_, ?_, ?_, ?_⟩
  · decide +kernel
  · decide +kernel
  · exact Classical.not_not.1 (dropped.not.2 (by decide +kernel))
  · have made := ordered rfl (by simp [steps, step, NoticeStep.Checks]) (by decide +kernel)
    exact made.sublist longest.ends.sublist

end Journal

end LiveLint
