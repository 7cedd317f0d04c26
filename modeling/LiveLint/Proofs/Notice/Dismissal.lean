import LiveLint.Proofs.Notice.Accounts
import Mathlib.Data.List.Induction
import Mathlib.Data.List.TakeWhile

/-!
# Dismissals

A dismissal never expires and is never swept, and nothing that is recorded undoes it. Only what drops
notices by their age can drop it: it is dropped by the first operation that leaves it and the notices
stored after it larger than the cap, and kept by all others that do not forget its file or clear the
cache.
-/

namespace LiveLint

namespace NoticeStep

variable {τ : Type}

def Dismisses (key : Notice.Key) : NoticeStep τ → Prop
  | .check key' action _ _ => key' = key ∧ action = .dismissed
  | .dismissed n _ => n.key = key
  | _ => False

/-- The operation removes all notices of the file of a pattern. -/
def Wipes (key : Notice.Key) : NoticeStep τ → Prop
  | .forget file => file = key.1
  | .clear => True
  | _ => False

end NoticeStep

namespace NoticeCache

variable {τ : Type} {c : NoticeCache τ} {key : Notice.Key}

/-- A pattern was dismissed, and the dismissal is still stored. -/
def Dismissed (c : NoticeCache τ) (key : Notice.Key) : Prop :=
  ∃ n ∈ c.entries, n.key = key ∧ n.dismissed = true

/-- The notice under a key and those stored after it. -/
def since (c : NoticeCache τ) (key : Notice.Key) : List (Notice τ) :=
  c.entries.dropWhile (·.key != key)

theorem mem_since {n : Notice τ} (member : n ∈ c.entries) : n ∈ c.since n.key := by
  rw [← List.takeWhile_append_dropWhile (p := (·.key != n.key)) (l := c.entries)] at member
  rcases List.mem_append.1 member with before | since
  · have other := List.mem_takeWhile_imp before
    simp at other
  · exact since

variable [Moment τ]

/-- What an operation leaves of the notice under a key and those stored after it is larger than the
cap. -/
def Crowds (c : NoticeCache τ) (key : Notice.Key) (step : NoticeStep τ) : Prop :=
  (c.stage step).cap.bytes < (total (·.size) ((c.stage step).since key) : Int)

instance (step : NoticeStep τ) : Decidable (c.Crowds key step) :=
  inferInstanceAs (Decidable (_ < _))

theorem Dismissed.suppresses (dismissed : c.Dismissed key) (exact : c.Exact) (now : τ) :
    c.suppresses key now = true := by
  obtain ⟨n, member, rfl, marked⟩ := dismissed
  simp [NoticeCache.suppresses, exact.get?_of_mem member, Notice.suppresses, marked]

/-- What one cache holds is over at a moment, or another cache holds it as well, unless a dismissal under
the same key. -/
def Carries (c after : NoticeCache τ) (now : τ) : Prop :=
  ∀ n ∈ c.entries, n.suppresses now = false ∨
    ∃ m ∈ after.entries, m.key = n.key ∧
      (m.dismissed = true ∨ m.dismissed = n.dismissed ∧ m.expiresAt = n.expiresAt)

theorem Exact.carries_put (exact : c.Exact) {mark : Notice τ → Notice τ}
    (marks : Notice.IsMark mark) (n : Notice τ) (now : τ) : c.Carries (c.put mark n now) now := by
  obtain ⟨o, origin, members⟩ := exact.mem_put marks n now
  intro m stored
  by_cases own : m.key = n.key
  · rcases origin with ⟨kept, same, -⟩ | ⟨-, expired⟩
    · obtain rfl := exact.eq_of_key stored kept (own.trans same.symm)
      refine Or.inr ⟨mark m, (members _).2 (Or.inl rfl), marks.key m, ?_⟩
      cases dismissed : (mark m).dismissed with
      | true => exact Or.inl rfl
      | false =>
        refine Or.inr ⟨?_, marks.expiresAt m⟩
        cases before : m.dismissed with
        | false => rfl
        | true => exact absurd (marks.dismissed m before) (by simp [dismissed])
    · exact Or.inl (expired m stored own)
  · exact Or.inr ⟨m, (members m).2 (Or.inr ⟨stored, own⟩), rfl, Or.inr ⟨rfl, rfl⟩⟩

theorem Dismissed.of_carries {after : NoticeCache τ} {now : τ} (dismissed : c.Dismissed key)
    (carries : c.Carries after now) : after.Dismissed key := by
  obtain ⟨n, stored, own, marked⟩ := dismissed
  rcases carries n stored with expired | ⟨m, kept, same, marks | ⟨marks, -⟩⟩
  · simp [Notice.suppresses, marked] at expired
  · exact ⟨m, kept, same.trans own, marks⟩
  · exact ⟨m, kept, same.trans own, marks.trans marked⟩

theorem Dismissed.removeAll (dismissed : c.Dismissed key) {p : Notice τ → Bool}
    (spares : ∀ n, n.key = key → n.dismissed = true → p n = false) :
    (c.removeAll p).Dismissed key := by
  obtain ⟨n, member, own, marked⟩ := dismissed
  refine ⟨n, ?_, own, marked⟩
  simp [NoticeCache.removeAll, member, spares n own marked]

/-- An operation drops no dismissal but by its age or with its file. -/
theorem Dismissed.stage (dismissed : c.Dismissed key) (exact : c.Exact) {step : NoticeStep τ}
    (spares : ¬ step.Wipes key) : (c.stage step).Dismissed key := by
  cases step with
  | check key' action kind now =>
    cases action with
    | dismissed => exact dismissed.of_carries (exact.carries_put Notice.isMark_dismissed _ now)
    | shown =>
      dsimp only [NoticeCache.stage]
      split
      · exact dismissed
      · exact dismissed.of_carries (exact.carries_put Notice.isMark_shown _ now)
  | shown n now => exact dismissed.of_carries (exact.carries_put Notice.isMark_shown n now)
  | dismissed n now => exact dismissed.of_carries (exact.carries_put Notice.isMark_dismissed n now)
  | sweep now => exact dismissed.removeAll fun n _ marked => by simp [marked]
  | shrink => exact dismissed
  | resize cap => exact dismissed
  | forget file =>
    refine dismissed.removeAll fun n own _ => ?_
    rw [beq_eq_false_iff_ne]
    intro same
    exact spares (same.symm.trans (congrArg Prod.fst own))
  | clear => exact absurd trivial spares
  | lifetime ttl => exact dismissed
  | flush => exact dismissed

/-- A dismissed pattern stays dismissed under an operation that leaves enough room. -/
theorem Dismissed.apply (dismissed : c.Dismissed key) (accounted : c.Accounted)
    {step : NoticeStep τ} (spares : ¬ step.Wipes key) (room : ¬ c.Crowds key step) :
    (c.apply step).Dismissed key := by
  have exact := accounted.toExact.stage step
  obtain ⟨n, member, rfl, marked⟩ := dismissed.stage accounted.toExact spares
  have left : (c.stage step).since n.key <:+ (c.stage step).fitted.entries :=
    exact.suffix_fitted (List.dropWhile_suffix _) (Int.not_lt.1 room)
  rw [accounted.apply_eq step]
  exact ⟨n, left.mem (mem_since member), rfl, marked⟩

/-- An operation that leaves too little room for the notice under a key drops it. -/
theorem Accounted.get?_of_crowds (accounted : c.Accounted) {step : NoticeStep τ}
    (crowds : c.Crowds key step) : (c.apply step).get? key = none := by
  have exact := accounted.toExact.stage step
  have left := exact.fitted
  rw [accounted.apply_eq step]
  by_contra found
  obtain ⟨n, found⟩ := Option.ne_none_iff_exists'.1 found
  obtain ⟨member, rfl⟩ := mem_of_get? found
  -- the notice is among those that are left, so all stored after it are
  obtain ⟨front, parts⟩ := exact.fitted_suffix
  have within : ((c.stage step).fitted.size : Int) ≤ (c.stage step).cap.bytes := by
    refine left.settled.resolve_left ?_
    intro none
    rw [none] at member
    cases member
  have keys := exact.keys
  rw [← parts, List.map_append, List.nodup_append] at keys
  have others : ∀ m ∈ front, (m.key != n.key) = true := by
    intro m before
    rw [bne_iff_ne]
    exact keys.2.2 _ (List.mem_map_of_mem before) _ (List.mem_map_of_mem member)
  have since : (c.stage step).since n.key <:+ (c.stage step).fitted.entries := by
    unfold NoticeCache.since
    rw [← parts, List.dropWhile_append_of_pos others]
    exact List.dropWhile_suffix _
  have le := total_sublist_le (·.size) since.sublist
  rw [← left.size] at le
  unfold Crowds at crowds
  omega

/-- A dismissed pattern stays suppressed as long as no operation leaves too little room for its dismissal
and the notices stored after it. -/
theorem Dismissed.suppresses_run (dismissed : c.Dismissed key) (accounted : c.Accounted)
    {steps : List (NoticeStep τ)} (spares : ∀ step ∈ steps, ¬ step.Wipes key)
    (room : ∀ done step, done ++ [step] <+: steps → ¬ (c.run done).Crowds key step) (now : τ) :
    (c.run steps).suppresses key now = true := by
  have lasts : (c.run steps).Dismissed key := by
    induction steps using List.reverseRecOn with
    | nil => exact dismissed
    | append_singleton done step ih =>
      have earlier : (c.run done).Dismissed key := by
        refine ih (fun step known => spares step (List.mem_append_left _ known)) ?_
        exact fun done' step' started => room done' step' (started.trans (List.prefix_append _ _))
      have next := earlier.apply (accounted.run done) (spares step (by simp))
        (room done step (List.prefix_refl _))
      simpa [run] using next
  exact lasts.suppresses (accounted.run steps).toExact now

/-- A dismissal that is kept dismisses its pattern. -/
theorem Accounted.dismissed_of_kept (accounted : c.Accounted) {step : NoticeStep τ}
    (dismisses : step.Dismisses key) (kept : ((c.apply step).get? key).isSome) :
    (c.apply step).Dismissed key := by
  obtain ⟨n, found⟩ := Option.isSome_iff_exists.1 kept
  obtain ⟨member, own⟩ := mem_of_get? found
  refine ⟨n, member, own, ?_⟩
  have staged : n ∈ (c.stage step).entries := by
    rw [accounted.apply_eq step] at member
    exact (accounted.toExact.stage step).fitted_suffix.mem member
  have marked : ∀ (m : Notice τ) (now : τ), m.key = key →
      n ∈ (c.put Notice.markDismissed m now).entries → n.dismissed = true := by
    intro m now same stored
    obtain ⟨o, -, members⟩ := accounted.toExact.mem_put Notice.isMark_dismissed m now
    rcases (members n).1 stored with rfl | ⟨-, other⟩
    · rfl
    · exact absurd (own.trans same.symm) other
  cases step with
  | check key' action kind now =>
    obtain ⟨rfl, rfl⟩ := dismisses
    exact marked _ now rfl staged
  | dismissed m now => exact marked m now dismisses staged
  | _ => exact dismisses.elim

end NoticeCache

namespace Journal

/-- After a dismissal that was kept, and as long as neither its file is forgotten nor the cache cleared,
the pattern is suppressed at all times as long as no operation leaves too little room for the dismissal
and the notices stored after it; after an operation that does, it is suppressed at no time. -/
theorem dismissal_lasts_until_crowded_out {ttl : Float} {cap : SizeCap} {autosaveEvery : Int}
    {store : Option SnapshotStore} {j : Journal} {logs : List Log.Record}
    (opens : start ttl cap autosaveEvery store = .ok (j, logs)) {key : Notice.Key}
    (before : List (NoticeStep Float)) {dismissal : NoticeStep Float}
    (dismisses : dismissal.Dismisses key)
    (kept : ((j.run (before ++ [dismissal])).cache.get? key).isSome)
    {after : List (NoticeStep Float)} (spares : ∀ step ∈ after, ¬ step.Wipes key) :
    ((∀ done step, done ++ [step] <+: after →
        ¬ (j.run (before ++ dismissal :: done)).cache.Crowds key step) →
      ∀ now, (j.run (before ++ dismissal :: after)).cache.suppresses key now = true) ∧
    ∀ step, (j.run (before ++ dismissal :: after)).cache.Crowds key step →
      ∀ now, (j.run (before ++ dismissal :: after ++ [step])).cache.suppresses key now = false := by
  have earlier : (j.run before).cache.Accounted := by
    have run := (accounted_of_start opens).1.run before
    rwa [← cache_run] at run
  have accounted := earlier.apply dismissal
  have later : ∀ done, (j.run (before ++ dismissal :: done)).cache =
      ((j.run before).cache.apply dismissal).run done := by
    intro done
    rw [cache_run, cache_run]
    simp [NoticeCache.run]
  have dismissed : ((j.run before).cache.apply dismissal).Dismissed key := by
    refine earlier.dismissed_of_kept dismisses ?_
    rwa [later []] at kept
  constructor
  case left =>
    intro room now
    simp only [later] at room ⊢
    exact dismissed.suppresses_run accounted spares room now
  case right =>
    intro step crowds now
    rw [later] at crowds
    have dropped := (accounted.run after).get?_of_crowds crowds
    have last : (j.run (before ++ dismissal :: after ++ [step])).cache =
        (((j.run before).cache.apply dismissal).run after).apply step := by
      rw [List.append_assoc, List.cons_append, later]
      simp [NoticeCache.run]
    rw [last, NoticeCache.suppresses, dropped]
    rfl

/-- A dismissal outlives a sweep and a showing that it leaves room for. -/
theorem dismissal_lasts_beside_showing :
    let j : Journal := { cache := { cap := { bytes := 230 }, ttl := 10 } }
    let dismissal : NoticeStep Float := .check ("a", "p") .dismissed "" 1000
    let after : List (NoticeStep Float) := [.sweep 5000, .check ("b", "q") .shown "" 5001]
    ∀ now, (j.run (dismissal :: after)).cache.suppresses ("a", "p") now = true := by
  intro j dismissal after
  have opens : start 10 { bytes := 230 } 50 none = .ok (j, []) := rfl
  have dismisses : dismissal.Dismisses ("a", "p") := ⟨rfl, rfl⟩
  have kept : ((j.run ([] ++ [dismissal])).cache.get? ("a", "p")).isSome := by decide +kernel
  have spares : ∀ step ∈ after, ¬ step.Wipes ("a", "p") := by simp [after, NoticeStep.Wipes]
  refine (dismissal_lasts_until_crowded_out opens [] dismisses kept spares).1 fun done step started => ?_
  rcases done with _ | ⟨first, _ | ⟨second, done⟩⟩
  · simp only [after, List.nil_append, List.cons_prefix_cons] at started
    obtain ⟨rfl, -⟩ := started
    decide +kernel
  · simp only [after, List.cons_append, List.nil_append, List.cons_prefix_cons] at started
    obtain ⟨rfl, rfl, -⟩ := started
    decide +kernel
  · have short := started.length_le
    simp [after] at short

/-- A dismissal is dropped when two patterns of another file are shown for which there is no more room,
although nothing was forgotten or cleared. -/
theorem dismissal_crowded_out :
    let j : Journal := { cache := { cap := { bytes := 230 }, ttl := 10 } }
    let dismissal : NoticeStep Float := .check ("a", "p") .dismissed "" 1000
    let after : List (NoticeStep Float) :=
      [.check ("b", "q") .shown "" 1001, .check ("b", "r") .shown "" 1002]
    start 10 { bytes := 230 } 50 none = .ok (j, []) ∧
      ((j.run [dismissal]).cache.get? ("a", "p")).isSome ∧
      (∀ step ∈ after, ¬ step.Wipes ("a", "p")) ∧
      (j.run (dismissal :: after)).cache.suppresses ("a", "p") 1003 = false := by
  intro j dismissal after
  refine ⟨rfl, ?_, by simp [after, NoticeStep.Wipes], ?_⟩ <;> decide +kernel

end Journal

end LiveLint
