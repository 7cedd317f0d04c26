import LiveLint.Notice.Cache

/-!
# Operations of a notice cache

An operation of a cache first changes the notices and then drops the oldest ones until the rest is
within the cap. Some operations drop nothing, but then nothing is to be dropped, because what they
change never makes the cache larger. So after every operation the accounts of a cache are in order: its
size is that of its notices together, it is within the cap, and no two notices are stored under one key.
-/

namespace LiveLint

/-!
## Sizes of notices

Marking a notice as shown or dismissed never makes it larger, because the word for true is the shorter
one. Dropping the oldest notices keeps the longest end of a list that is within the cap.
-/

namespace Notice

variable {τ : Type}

/-- A flag that is not set takes one byte more than one that is. -/
theorem size_flags [Moment τ] (n : Notice τ) (dismissed shown : Bool) :
    size { n with dismissed, shown } =
      size { n with dismissed := true, shown := true } +
        ((if dismissed then 0 else 1) + (if shown then 0 else 1)) := by
  have four : "true".utf8ByteSize = 4 := by decide
  have five : "false".utf8ByteSize = 5 := by decide
  cases dismissed <;> cases shown <;>
    simp [size, fields, Json.print, Json.printFields, String.intercalate_cons_cons, four, five] <;>
    omega

/-- A way of marking notices: it keeps what they are stored under and how long they count, undoes no
dismissal, and makes none larger. -/
structure IsMark [Moment τ] (mark : Notice τ → Notice τ) : Prop where
  key : ∀ n, (mark n).key = n.key
  expiresAt : ∀ n, (mark n).expiresAt = n.expiresAt
  dismissed : ∀ n, n.dismissed = true → (mark n).dismissed = true
  size_le : ∀ n, (mark n).size ≤ n.size

theorem isMark_shown [Moment τ] : IsMark (markShown (τ := τ)) := by
  refine ⟨fun _ => rfl, fun _ => rfl, fun _ dismissed => dismissed, fun n => ?_⟩
  have before := n.size_flags n.dismissed n.shown
  have marked := n.size_flags n.dismissed true
  rw [if_pos rfl] at marked
  change n.markShown.size = _ at marked
  change n.size = _ at before
  omega

theorem isMark_dismissed [Moment τ] : IsMark (markDismissed (τ := τ)) := by
  refine ⟨fun _ => rfl, fun _ => rfl, fun _ _ => rfl, fun n => ?_⟩
  have before := n.size_flags n.dismissed n.shown
  have marked := n.size_flags true n.shown
  rw [if_pos rfl] at marked
  change n.markDismissed.size = _ at marked
  change n.size = _ at before
  omega

end Notice

/-- The members of a list that have a property and those that do not make up its total. -/
theorem total_filter {α : Type} (quantity : α → Nat) (p : α → Bool) (xs : List α) :
    total quantity (xs.filter p) + total quantity (xs.filter (!p ·)) = total quantity xs := by
  induction xs with
  | nil => rfl
  | cons x rest ih =>
    cases holds : p x <;> simp [holds, total_cons] <;> omega

/-- A part of a list has no greater total than the list. -/
theorem total_sublist_le {α : Type} (quantity : α → Nat) {xs ys : List α} (part : xs.Sublist ys) :
    total quantity xs ≤ total quantity ys := by
  induction part with
  | slnil => exact Nat.le_refl 0
  | cons y _ ih => exact Nat.le_trans ih (Nat.le_add_left _ _)
  | cons_cons y _ ih => exact Nat.add_le_add_left ih _

/-- Replacing the one member with some key changes the total by the difference of the two members. -/
theorem total_replace {α κ : Type} [BEq κ] [LawfulBEq κ] (key : α → κ) (quantity : α → Nat)
    {xs : List α} {old new : α} (keys : (xs.map key).Nodup) (member : old ∈ xs)
    (same : key new = key old) :
    total quantity (xs.map fun x => if key x == key new then new else x) + quantity old =
      total quantity xs + quantity new := by
  induction xs with
  | nil => cases member
  | cons x rest ih =>
    rw [List.map_cons, List.nodup_cons] at keys
    rw [List.map_cons, total_cons, total_cons]
    rcases List.mem_cons.1 member with rfl | later
    · have others : (rest.map fun x => if key x == key new then new else x) = rest := by
        refine (List.map_congr_left fun y kept => ?_).trans (List.map_id' rest)
        have other : key y ≠ key new := by
          intro equal
          exact keys.1 (same ▸ equal ▸ List.mem_map_of_mem kept)
        rw [if_neg (by simpa using other)]
      rw [others, if_pos (by simp [same])]
      omega
    · have other : key x ≠ key new := by
        intro equal
        exact keys.1 (equal.trans same ▸ List.mem_map_of_mem later)
      rw [if_neg (by simpa using other)]
      have := ih keys.2 later
      omega

namespace NoticeCache

variable {τ : Type} [Moment τ]

/-- What is left when the oldest notices are dropped is an end of the list, with its own size. -/
theorem fit_suffix (cap : SizeCap) (entries : List (Notice τ)) :
    (fit cap entries (total (·.size) entries)).1 <:+ entries ∧
      (fit cap entries (total (·.size) entries)).2 =
        total (·.size) (fit cap entries (total (·.size) entries)).1 := by
  induction entries with
  | nil => exact ⟨List.suffix_refl [], rfl⟩
  | cons n rest ih =>
    rw [fit]
    split
    · rw [total_cons, Nat.add_sub_cancel_left]
      exact ⟨ih.1.trans (List.suffix_cons n rest), ih.2⟩
    · exact ⟨List.suffix_refl _, rfl⟩

/-- When the oldest notices are dropped, the rest is within the cap or nothing is left. -/
theorem fit_settled (cap : SizeCap) (entries : List (Notice τ)) :
    (fit cap entries (total (·.size) entries)).1 = [] ∨
      ((fit cap entries (total (·.size) entries)).2 : Int) ≤ cap.bytes := by
  induction entries with
  | nil => exact Or.inl rfl
  | cons n rest ih =>
    rw [fit]
    split
    · rw [total_cons, Nat.add_sub_cancel_left]
      exact ih
    · next within => exact Or.inr (Int.not_lt.1 within)

/-- Every end of the list that is within the cap is left when the oldest notices are dropped. -/
theorem suffix_fit {cap : SizeCap} {entries behind : List (Notice τ)} (ends : behind <:+ entries)
    (within : (total (·.size) behind : Int) ≤ cap.bytes) :
    behind <:+ (fit cap entries (total (·.size) entries)).1 := by
  induction entries with
  | nil => exact ends
  | cons n rest ih =>
    rw [fit]
    split
    · next beyond =>
      rw [total_cons, Nat.add_sub_cancel_left]
      rcases List.suffix_cons_iff.1 ends with rfl | ends
      · exact absurd within (Int.not_le.2 beyond)
      · exact ih ends
    · exact ends

end NoticeCache

/-!
## Operations
-/

inductive NoticeStep (τ : Type) where
  | check (key : Notice.Key) (action : NoticeAction) (kind : String) (now : τ)
  | shown (n : Notice τ) (now : τ)
  | dismissed (n : Notice τ) (now : τ)
  | sweep (now : τ)
  | shrink
  | resize (cap : SizeCap)
  | forget (file : String)
  | clear
  /-- From now on showings count for another time. -/
  | lifetime (ttl : τ)
  /-- A snapshot is written, which does not change the cache. -/
  | flush

namespace NoticeCache

variable {τ : Type}

theorem mem_of_get? {c : NoticeCache τ} {key : Notice.Key} {n : Notice τ}
    (found : c.get? key = some n) : n ∈ c.entries ∧ n.key = key :=
  ⟨List.mem_of_find?_eq_some found, by simpa using List.find?_some found⟩

variable [Moment τ]

def apply (c : NoticeCache τ) : NoticeStep τ → NoticeCache τ
  | .check key action kind now => (c.checkAndRecord key action kind now).1.cache
  | .shown n now => (c.recordShown n now).1.cache
  | .dismissed n now => (c.recordDismissed n now).1.cache
  | .sweep now => (c.sweep now).1.cache
  | .shrink => c.shrink.1.cache
  | .resize cap => (c.resize cap).1.cache
  | .forget file => (c.forget file).1.cache
  | .clear => c.emptied
  | .lifetime ttl => { c with ttl }
  | .flush => c

def run (c : NoticeCache τ) (steps : List (NoticeStep τ)) : NoticeCache τ := steps.foldl apply c

/-- The cache with a notice as the latest one, in place of an older one under its key, whatever the cap
is. -/
def append (c : NoticeCache τ) (n : Notice τ) : NoticeCache τ :=
  let rest := c.removeAll (·.key == n.key)
  { rest with entries := rest.entries ++ [n], size := rest.size + n.size }

/-- The cache with the notice under the key of `n` marked if it still counts, and otherwise with `n`
marked as the latest one, whatever the cap is. -/
def put (c : NoticeCache τ) (mark : Notice τ → Notice τ) (n : Notice τ) (now : τ) : NoticeCache τ :=
  match (c.get? n.key).filter (·.suppresses now) with
  | some old => c.replace old (mark old)
  | none => c.append (mark n)

/-- The cache as an operation leaves it before its size is compared with the cap. -/
def stage (c : NoticeCache τ) : NoticeStep τ → NoticeCache τ
  | .check key .dismissed kind now =>
    c.put Notice.markDismissed (Notice.create key kind now c.ttl) now
  | .check key .shown kind now =>
    if c.suppresses key now then c
    else c.put Notice.markShown (Notice.create key kind now c.ttl) now
  | .shown n now => c.put Notice.markShown n now
  | .dismissed n now => c.put Notice.markDismissed n now
  | .sweep now => c.removeAll fun n => !n.dismissed && n.isExpired now
  | .shrink => c
  | .resize cap => { c with cap }
  | .forget file => c.removeAll (·.file == file)
  | .clear => c.emptied
  | .lifetime ttl => { c with ttl }
  | .flush => c

/-- Storing or marking a notice changes neither the cap nor how long a showing counts. -/
theorem settings_put (c : NoticeCache τ) (mark : Notice τ → Notice τ) (n : Notice τ) (now : τ) :
    (c.put mark n now).cap = c.cap ∧ (c.put mark n now).ttl = c.ttl := by
  unfold put
  split <;> exact ⟨rfl, rfl⟩

/-- The cap, and how long a showing counts, change only when they are set. -/
theorem settings_stage (c : NoticeCache τ) (step : NoticeStep τ) :
    ((∀ cap, step ≠ .resize cap) → (c.stage step).cap = c.cap) ∧
      ((∀ ttl, step ≠ .lifetime ttl) → (c.stage step).ttl = c.ttl) := by
  cases step with
  | check key action kind now =>
    cases action with
    | dismissed =>
      have put := c.settings_put Notice.markDismissed (Notice.create key kind now c.ttl) now
      exact ⟨fun _ => put.1, fun _ => put.2⟩
    | shown =>
      have put := c.settings_put Notice.markShown (Notice.create key kind now c.ttl) now
      dsimp only [stage]
      split
      · exact ⟨fun _ => rfl, fun _ => rfl⟩
      · exact ⟨fun _ => put.1, fun _ => put.2⟩
  | shown n now =>
    have put := c.settings_put Notice.markShown n now
    exact ⟨fun _ => put.1, fun _ => put.2⟩
  | dismissed n now =>
    have put := c.settings_put Notice.markDismissed n now
    exact ⟨fun _ => put.1, fun _ => put.2⟩
  | resize cap => exact ⟨fun kept => absurd rfl (kept cap), fun _ => rfl⟩
  | lifetime ttl => exact ⟨fun _ => rfl, fun kept => absurd rfl (kept ttl)⟩
  | sweep | shrink | forget | clear | flush => exact ⟨fun _ => rfl, fun _ => rfl⟩

/-- The size of a cache is that of its notices together, and no two of them are stored under one key. -/
structure Exact (c : NoticeCache τ) : Prop where
  size : c.size = total (·.size) c.entries
  keys : (c.entries.map (·.key)).Nodup

/-- The accounts of a cache are in order: its size is that of its notices together, no two of them are
stored under one key, and there is nothing to be dropped. -/
structure Accounted (c : NoticeCache τ) : Prop extends Exact c where
  settled : c.entries = [] ∨ (c.size : Int) ≤ c.cap.bytes

namespace Exact

variable {c : NoticeCache τ}

/-- Every notice is stored under its own key. -/
theorem get?_of_mem (exact : c.Exact) {n : Notice τ} (member : n ∈ c.entries) :
    c.get? n.key = some n := by
  obtain ⟨-, keys⟩ := exact
  unfold get?
  generalize c.entries = entries at member keys
  induction entries with
  | nil => cases member
  | cons m rest ih =>
    rw [List.map_cons, List.nodup_cons] at keys
    rw [List.find?_cons]
    rcases List.mem_cons.1 member with rfl | later
    · simp
    · have other : (m.key == n.key) = false := by
        rw [beq_eq_false_iff_ne]
        intro same
        exact keys.1 (same ▸ List.mem_map_of_mem later)
      rw [other]
      exact ih later keys.2

theorem get?_eq_some_iff (exact : c.Exact) {key : Notice.Key} {n : Notice τ} :
    c.get? key = some n ↔ n ∈ c.entries ∧ n.key = key := by
  constructor
  · exact mem_of_get?
  · rintro ⟨member, rfl⟩
    exact exact.get?_of_mem member

/-- Two notices under one key are one. -/
theorem eq_of_key (exact : c.Exact) {m n : Notice τ} (left : m ∈ c.entries) (right : n ∈ c.entries)
    (same : m.key = n.key) : m = n := by
  have found := exact.get?_of_mem left
  rw [same, exact.get?_of_mem right] at found
  exact (Option.some.inj found).symm

theorem removeAll (exact : c.Exact) (p : Notice τ → Bool) : (c.removeAll p).Exact := by
  constructor
  case size =>
    have parts := total_filter (·.size) p c.entries
    have whole := exact.size
    simp only [NoticeCache.removeAll]
    omega
  case keys => exact exact.keys.sublist (List.filter_sublist.map _)

theorem append (exact : c.Exact) (n : Notice τ) : (c.append n).Exact := by
  have rest := exact.removeAll (·.key == n.key)
  constructor
  case size => simp only [NoticeCache.append, total_append, rest.size, total, Nat.add_zero]
  case keys =>
    simp only [NoticeCache.append, List.map_append, List.map_singleton, List.nodup_append]
    refine ⟨rest.keys, List.pairwise_singleton _ _, ?_⟩
    intro key member key' own same
    rw [List.mem_singleton.1 own] at same
    obtain ⟨m, kept, rfl⟩ := List.mem_map.1 member
    simp [NoticeCache.removeAll, same] at kept

theorem replace (exact : c.Exact) {old new : Notice τ} (found : c.get? new.key = some old) :
    (c.replace old new).Exact := by
  obtain ⟨member, key⟩ := mem_of_get? found
  constructor
  case size =>
    have swapped := total_replace Notice.key (·.size) exact.keys member key.symm
    have whole := exact.size
    simp only [NoticeCache.replace]
    omega
  case keys =>
    have same : (c.replace old new).entries.map (·.key) = c.entries.map (·.key) := by
      simp only [NoticeCache.replace, List.map_map]
      refine List.map_congr_left fun n _ => ?_
      by_cases own : n.key = new.key <;> simp [own]
    rw [same]
    exact exact.keys

/-- Storing or marking a notice leaves those under other keys and one notice under its own key, which is
the old one marked if that still counts, and otherwise the new one marked. -/
theorem mem_put (exact : c.Exact) {mark : Notice τ → Notice τ} (marks : Notice.IsMark mark)
    (n : Notice τ) (now : τ) :
    ∃ o, (o ∈ c.entries ∧ o.key = n.key ∧ o.suppresses now = true ∨
        o = n ∧ ∀ old ∈ c.entries, old.key = n.key → old.suppresses now = false) ∧
      ∀ m, m ∈ (c.put mark n now).entries ↔ m = mark o ∨ m ∈ c.entries ∧ m.key ≠ n.key := by
  unfold NoticeCache.put
  split
  · next old kept =>
    obtain ⟨found, counts⟩ := Option.filter_eq_some_iff.1 kept
    obtain ⟨member, key⟩ := mem_of_get? found
    refine ⟨old, Or.inl ⟨member, key, counts⟩, fun m => ?_⟩
    simp only [NoticeCache.replace, List.mem_map, marks.key, key, beq_iff_eq]
    constructor
    · rintro ⟨x, stored, rfl⟩
      by_cases own : x.key = n.key
      · simp [own]
      · simp [own, stored]
    · rintro (rfl | ⟨stored, other⟩)
      · exact ⟨old, member, if_pos key⟩
      · exact ⟨m, stored, if_neg other⟩
  · next none =>
    refine ⟨n, Or.inr ⟨rfl, fun old member key => ?_⟩, fun m => ?_⟩
    · have found := exact.get?_eq_some_iff.2 ⟨member, key⟩
      simpa [found] using none
    · simp only [NoticeCache.append, NoticeCache.removeAll, marks.key, List.mem_append,
        List.mem_filter, List.mem_singleton]
      simp [or_comm]

theorem put (exact : c.Exact) {mark : Notice τ → Notice τ} (marks : Notice.IsMark mark)
    (n : Notice τ) (now : τ) : (c.put mark n now).Exact := by
  unfold NoticeCache.put
  split
  · next old kept =>
    have found := (Option.filter_eq_some_iff.1 kept).1
    refine exact.replace ?_
    rw [marks.key, (mem_of_get? found).2]
    exact found
  · exact exact.append (mark n)

theorem stage (exact : c.Exact) (step : NoticeStep τ) : (c.stage step).Exact := by
  cases step with
  | check key action kind now =>
    cases action with
    | dismissed => exact exact.put Notice.isMark_dismissed _ now
    | shown =>
      dsimp only [NoticeCache.stage]
      split
      · exact exact
      · exact exact.put Notice.isMark_shown _ now
  | shown n now => exact exact.put Notice.isMark_shown n now
  | dismissed n now => exact exact.put Notice.isMark_dismissed n now
  | sweep now => exact exact.removeAll _
  | shrink => exact exact
  | resize cap => exact ⟨exact.size, exact.keys⟩
  | forget file => exact exact.removeAll _
  | clear => exact ⟨rfl, List.nodup_nil⟩
  | lifetime ttl => exact ⟨exact.size, exact.keys⟩
  | flush => exact exact

/-- What is left when the oldest notices are dropped is an end of the list. -/
theorem fitted_suffix (exact : c.Exact) : c.fitted.entries <:+ c.entries := by
  have suffix := (fit_suffix c.cap c.entries).1
  rwa [← exact.size] at suffix

/-- Every end of the list that is within the cap is left when the oldest notices are dropped. -/
theorem suffix_fitted (exact : c.Exact) {behind : List (Notice τ)} (ends : behind <:+ c.entries)
    (within : (total (·.size) behind : Int) ≤ c.cap.bytes) : behind <:+ c.fitted.entries := by
  have suffix := suffix_fit ends within
  rwa [← exact.size] at suffix

/-- Dropping the oldest notices brings the accounts in order. -/
theorem fitted (exact : c.Exact) : c.fitted.Accounted := by
  have size := (fit_suffix c.cap c.entries).2
  have settled := fit_settled c.cap c.entries
  rw [← exact.size] at size settled
  exact ⟨⟨size, exact.keys.sublist (exact.fitted_suffix.sublist.map _)⟩, settled⟩

end Exact

/-- Where there is nothing to be dropped, nothing is dropped. -/
theorem fitted_of_settled {c : NoticeCache τ}
    (settled : c.entries = [] ∨ (c.size : Int) ≤ c.cap.bytes) : c.fitted = c := by
  obtain ⟨entries, size, cap, ttl⟩ := c
  unfold fitted
  cases entries with
  | nil => rfl
  | cons n rest =>
    have within : (size : Int) ≤ cap.bytes := settled.resolve_left nofun
    simp only [fit, if_neg (Int.not_lt.2 within)]

namespace Accounted

variable {c : NoticeCache τ}

theorem empty (cap : SizeCap) (ttl : τ) : Accounted { cap, ttl } :=
  ⟨⟨rfl, List.nodup_nil⟩, Or.inl rfl⟩

/-- Removing notices drops nothing else. -/
theorem fitted_removeAll (accounted : c.Accounted) (p : Notice τ → Bool) :
    (c.removeAll p).fitted = c.removeAll p := by
  refine fitted_of_settled ?_
  rcases accounted.settled with none | within
  · exact Or.inl (by simp [NoticeCache.removeAll, none])
  · refine Or.inr ?_
    simp only [NoticeCache.removeAll]
    omega

/-- Recording a notice drops the oldest ones if it is a new one, and none if an old one is marked. -/
theorem cache_record (accounted : c.Accounted) {mark : Notice τ → Notice τ}
    (marks : Notice.IsMark mark) (n : Notice τ) (now : τ) :
    (c.record mark n now).1.cache = (c.put mark n now).fitted := by
  unfold record put
  cases kept : (c.get? n.key).filter (·.suppresses now) with
  | none => rfl
  | some old =>
    have member := (mem_of_get? (Option.filter_eq_some_iff.1 kept).1).1
    have le := marks.size_le old
    refine (fitted_of_settled (Or.inr ?_)).symm
    rcases accounted.settled with none | within
    · rw [none] at member
      cases member
    · simp only [NoticeCache.replace]
      omega

/-- Every operation is a change of the notices after which the oldest ones are dropped until the rest
is within the cap. -/
theorem apply_eq (accounted : c.Accounted) (step : NoticeStep τ) :
    c.apply step = (c.stage step).fitted := by
  cases step with
  | check key action kind now =>
    cases action with
    | dismissed => exact accounted.cache_record Notice.isMark_dismissed _ now
    | shown =>
      dsimp only [apply, checkAndRecord, stage]
      split
      · exact (fitted_of_settled accounted.settled).symm
      · exact accounted.cache_record Notice.isMark_shown _ now
  | shown n now => exact accounted.cache_record Notice.isMark_shown n now
  | dismissed n now => exact accounted.cache_record Notice.isMark_dismissed n now
  | sweep now => exact (accounted.fitted_removeAll _).symm
  | shrink => rfl
  | resize cap => rfl
  | forget file => exact (accounted.fitted_removeAll _).symm
  | clear => exact (fitted_of_settled (Or.inl rfl)).symm
  | lifetime ttl =>
    exact (fitted_of_settled (c := { c with ttl }) accounted.settled).symm
  | flush => exact (fitted_of_settled accounted.settled).symm

/-- An operation keeps the accounts in order. -/
theorem apply (accounted : c.Accounted) (step : NoticeStep τ) : (c.apply step).Accounted := by
  rw [accounted.apply_eq step]
  exact (accounted.toExact.stage step).fitted

theorem run (accounted : c.Accounted) (steps : List (NoticeStep τ)) : (c.run steps).Accounted := by
  induction steps generalizing c with
  | nil => exact accounted
  | cons step rest ih => exact ih (accounted.apply step)

/-- No cap below zero comes about unless one is set. -/
theorem cap_run_nonneg (accounted : c.Accounted) (nonneg : 0 ≤ c.cap.bytes)
    {steps : List (NoticeStep τ)} (resized : ∀ cap, .resize cap ∈ steps → 0 ≤ cap.bytes) :
    0 ≤ (c.run steps).cap.bytes := by
  induction steps generalizing c with
  | nil => exact nonneg
  | cons step rest ih =>
    refine ih (accounted.apply step) ?_ fun cap later => resized cap (List.mem_cons_of_mem _ later)
    rw [accounted.apply_eq step]
    change 0 ≤ (c.stage step).cap.bytes
    by_cases sets : ∃ cap, step = .resize cap
    · obtain ⟨cap, rfl⟩ := sets
      exact resized cap List.mem_cons_self
    · rw [(c.settings_stage step).1 fun cap equal => sets ⟨cap, equal⟩]
      exact nonneg

/-- The size is at most the cap, unless that is below zero. -/
theorem within (accounted : c.Accounted) (nonneg : 0 ≤ c.cap.bytes) :
    (c.size : Int) ≤ c.cap.bytes := by
  rcases accounted.settled with none | within
  · have size := accounted.size
    rw [none, total] at size
    omega
  · exact within

end Accounted

end NoticeCache

end LiveLint
