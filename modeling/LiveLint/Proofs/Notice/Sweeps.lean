import LiveLint.Proofs.Moments
import LiveLint.Proofs.Notice.Steps

/-!
# Sweeps

A sweep removes only showings that no longer count, and as long as time does not run backwards they
never count again. So a cache that was swept more often holds fewer notices than one that went through
the same checks, but those that still count are the same in both. In particular sweeping makes no cache
larger.
-/

namespace LiveLint

/-- What a user of a cache does in the course of time. -/
inductive NoticeCall (τ : Type) where
  | check (key : Notice.Key) (action : NoticeAction) (kind : String) (now : τ)
  | sweep (now : τ)

namespace NoticeCall

variable {τ : Type}

def now : NoticeCall τ → τ
  | .check _ _ _ now => now
  | .sweep now => now

def step : NoticeCall τ → NoticeStep τ
  | .check key action kind now => .check key action kind now
  | .sweep now => .sweep now

/-- Time does not run backwards from call to call. -/
def Ordered [Moment τ] (calls : List (NoticeCall τ)) : Prop :=
  calls.Pairwise fun a b => Moment.le a.now b.now = true

/-- Some calls with sweeps added among them. -/
inductive Swept : List (NoticeCall τ) → List (NoticeCall τ) → Prop where
  | nil : Swept [] []
  | call (call : NoticeCall τ) {calls more : List (NoticeCall τ)} (rest : Swept calls more) :
      Swept (call :: calls) (call :: more)
  | sweep (now : τ) {calls more : List (NoticeCall τ)} (rest : Swept calls more) :
      Swept calls (.sweep now :: more)

end NoticeCall

namespace NoticeCache

variable {τ : Type} [Moment τ]

/-- The size of the cache never exceeds the cap, so that nothing is dropped for its age. -/
def Roomy : NoticeCache τ → List (NoticeCall τ) → Prop
  | c, [] => (c.size : Int) ≤ c.cap.bytes
  | c, call :: rest => (c.size : Int) ≤ c.cap.bytes ∧ Roomy (c.stage call.step) rest

instance Roomy.decide : (c : NoticeCache τ) → (calls : List (NoticeCall τ)) → Decidable (c.Roomy calls)
  | _, [] => inferInstanceAs (Decidable (_ ≤ _))
  | c, call :: rest =>
    have := Roomy.decide (c.stage call.step) rest
    inferInstanceAs (Decidable (_ ∧ _))

/-- All of these moments come no later than a moment. -/
def Past (times : List τ) (t : τ) : Prop := ∀ w ∈ times, Moment.le w t = true

/-- One cache holds the notices of another but for some showings that no longer counted at one of some
moments. -/
structure Thins (thin full : NoticeCache τ) (times : List τ) : Prop where
  entries : thin.entries.Sublist full.entries
  cap : thin.cap = full.cap
  ttl : thin.ttl = full.ttl
  missing : ∀ n ∈ full.entries, n ∉ thin.entries →
    n.dismissed = false ∧ ∃ t ∈ times, n.isExpired t = true

variable {c thin full : NoticeCache τ} {times : List τ}

theorem Roomy.within {calls : List (NoticeCall τ)} (roomy : c.Roomy calls) :
    (c.size : Int) ≤ c.cap.bytes := by
  cases calls with
  | nil => exact roomy
  | cons call rest => exact roomy.1

namespace Thins

theorem removeAll (thins : Thins thin full times) (p : Notice τ → Bool) :
    Thins (thin.removeAll p) (full.removeAll p) times := by
  constructor
  case entries => exact thins.entries.filter _
  case cap => exact thins.cap
  case ttl => exact thins.ttl
  case missing =>
    intro m member absent
    simp only [NoticeCache.removeAll, List.mem_filter] at member absent
    exact thins.missing m member.1 fun there => absent ⟨there, member.2⟩

/-- One more sweep keeps a cache a part of another. -/
theorem sweep (thins : Thins thin full times) (now : τ) :
    Thins (thin.stage (.sweep now)) full (now :: times) := by
  constructor
  case entries => exact List.filter_sublist.trans thins.entries
  case cap => exact thins.cap
  case ttl => exact thins.ttl
  case missing =>
    intro n member absent
    by_cases there : n ∈ thin.entries
    · have swept : n.dismissed = false ∧ n.isExpired now = true := by
        simpa [NoticeCache.stage, NoticeCache.removeAll, there] using absent
      exact ⟨swept.1, now, List.mem_cons_self, swept.2⟩
    · obtain ⟨undismissed, t, known, expired⟩ := thins.missing n member there
      exact ⟨undismissed, t, List.mem_cons_of_mem _ known, expired⟩

theorem within (thins : Thins thin full times) (exact : thin.Exact) (exact' : full.Exact)
    (within : (full.size : Int) ≤ full.cap.bytes) : (thin.size : Int) ≤ thin.cap.bytes := by
  have fewer := total_sublist_le (·.size) thins.entries
  rw [exact.size, thins.cap]
  rw [exact'.size] at within
  omega

end Thins

variable [Moment.Lawful τ]

/-- A showing that no longer counted at some moment does not count at a later one. -/
theorem expired_of_past {n : Notice τ} {t : τ} (past : Past times t)
    (expired : ∃ w ∈ times, n.isExpired w = true) : n.isExpired t = true := by
  obtain ⟨w, member, before⟩ := expired
  exact Moment.Lawful.trans before (past w member)

namespace Thins

/-- The notices that still count are the same in both caches. -/
theorem live (thins : Thins thin full times) (exact : thin.Exact) (exact' : full.Exact)
    (key : Notice.Key) {t : τ} (past : Past times t) :
    (thin.get? key).filter (·.suppresses t) = (full.get? key).filter (·.suppresses t) := by
  ext n
  simp only [Option.filter_eq_some_iff, exact.get?_eq_some_iff, exact'.get?_eq_some_iff]
  constructor
  · rintro ⟨⟨member, own⟩, counts⟩
    exact ⟨⟨thins.entries.mem member, own⟩, counts⟩
  · rintro ⟨⟨member, own⟩, counts⟩
    refine ⟨⟨?_, own⟩, counts⟩
    by_cases there : n ∈ thin.entries
    · exact there
    · obtain ⟨undismissed, expired⟩ := thins.missing n member there
      simp [Notice.suppresses, undismissed, expired_of_past past expired] at counts

theorem put (thins : Thins thin full times) (exact : thin.Exact) (exact' : full.Exact)
    {mark : Notice τ → Notice τ} (marks : Notice.IsMark mark) (n : Notice τ) {now : τ}
    (past : Past times now) : Thins (thin.put mark n now) (full.put mark n now) times := by
  have same := thins.live exact exact' n.key past
  unfold NoticeCache.put
  rw [same]
  cases kept : (full.get? n.key).filter (·.suppresses now) with
  | some old =>
    rw [kept] at same
    have own := exact.get?_eq_some_iff.1 (Option.filter_eq_some_iff.1 same).1
    have own' := exact'.get?_eq_some_iff.1 (Option.filter_eq_some_iff.1 kept).1
    constructor
    case entries => exact thins.entries.map _
    case cap => exact thins.cap
    case ttl => exact thins.ttl
    case missing =>
      intro m member absent
      simp only [NoticeCache.replace, List.mem_map] at member absent
      obtain ⟨x, stored, rfl⟩ := member
      have gone : x ∉ thin.entries := fun there => absent ⟨x, there, rfl⟩
      have other : x.key ≠ (mark old).key := by
        intro equal
        rw [marks.key] at equal
        exact gone (exact'.eq_of_key stored own'.1 equal ▸ own.1)
      rw [if_neg (by simpa using other)]
      exact thins.missing x stored gone
  | none =>
    constructor
    case entries => exact (thins.entries.filter _).append (List.Sublist.refl _)
    case cap => exact thins.cap
    case ttl => exact thins.ttl
    case missing =>
      intro m member absent
      simp only [NoticeCache.append, NoticeCache.removeAll, List.mem_append, List.mem_filter,
        List.mem_singleton, not_or] at member absent
      rcases member with ⟨stored, other⟩ | equal
      · exact thins.missing m stored fun there => absent.1 ⟨there, other⟩
      · exact absurd equal absent.2

/-- The same call keeps one cache a part of the other. -/
theorem stage (thins : Thins thin full times) (exact : thin.Exact) (exact' : full.Exact)
    {call : NoticeCall τ} (past : Past times call.now) :
    Thins (thin.stage call.step) (full.stage call.step) times := by
  cases call with
  | sweep now => exact thins.removeAll _
  | check key action kind now =>
    replace past : Past times now := past
    dsimp only [NoticeCall.step]
    cases action with
    | dismissed =>
      dsimp only [NoticeCache.stage]
      rw [thins.ttl]
      exact thins.put exact exact' Notice.isMark_dismissed _ past
    | shown =>
      have same : thin.suppresses key now = full.suppresses key now := by
        have live := congrArg Option.isSome (thins.live exact exact' key past)
        simpa [NoticeCache.suppresses] using live
      dsimp only [NoticeCache.stage]
      rw [thins.ttl, same]
      split
      · exact thins
      · exact thins.put exact exact' Notice.isMark_shown _ past

end Thins

/-- If nothing is dropped for its age, nothing is when the cache is swept more often. -/
theorem Roomy.of_swept {calls more : List (NoticeCall τ)} (swept : NoticeCall.Swept calls more)
    (roomy : full.Roomy calls) (thins : Thins thin full times) (exact : thin.Exact)
    (exact' : full.Exact) (ordered : NoticeCall.Ordered more)
    (past : ∀ call ∈ more, Past times call.now) : thin.Roomy more := by
  induction swept generalizing thin full times with
  | nil => exact thins.within exact exact' roomy.within
  | call call rest ih =>
    have thins' := thins.stage exact exact' (past call List.mem_cons_self)
    refine ⟨thins.within exact exact' roomy.within, ?_⟩
    refine ih roomy.2 thins' (exact.stage _) (exact'.stage _) ordered.of_cons ?_
    exact fun later known => past later (List.mem_cons_of_mem _ known)
  | sweep now rest ih =>
    refine ⟨thins.within exact exact' roomy.within, ?_⟩
    refine ih roomy (thins.sweep now) (exact.stage _) exact' ordered.of_cons ?_
    intro later known w member
    rcases List.mem_cons.1 member with rfl | earlier
    · exact (List.pairwise_cons.1 ordered).1 later known
    · exact past later (List.mem_cons_of_mem _ known) w earlier

end NoticeCache

end LiveLint
