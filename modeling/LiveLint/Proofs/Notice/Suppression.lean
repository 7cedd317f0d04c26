import LiveLint.Proofs.Notice.Dismissal
import LiveLint.Proofs.Notice.Sweeps

/-!
# Suppression

What a cache answers follows from the checks before alone, as long as time does not run backwards and
nothing is dropped for its age: a pattern is suppressed if it was dismissed, or if it was shown without
being suppressed and that showing still counts. That every stored notice stems from such a check, and that
every such check is still stored or no longer counts, is kept by every call.
-/

namespace LiveLint

structure Sighting (τ : Type) where
  key : Notice.Key
  action : NoticeAction
  now : τ
  answer : Bool
  deriving DecidableEq, Repr

/-- A cache and the checks that were made of it. -/
structure NoticeLog (τ : Type) where
  cache : NoticeCache τ
  sightings : List (Sighting τ) := []

variable {τ : Type} [Moment τ]

namespace Sighting

/-- A pattern was dismissed by one of some checks, or shown unsuppressed by one of them so that this
still counts. -/
def Due (past : List (Sighting τ)) (ttl : τ) (key : Notice.Key) (t : τ) : Prop :=
  ∃ s ∈ past, s.key = key ∧
    (s.action = .dismissed ∨
      s.action = .shown ∧ s.answer = false ∧ Moment.lt t (s.now + ttl) = true)

instance (past : List (Sighting τ)) (ttl : τ) (key : Notice.Key) (t : τ) :
    Decidable (Due past ttl key t) :=
  inferInstanceAs (Decidable (∃ s ∈ past, _))

/-- Some checks, and the one that a call makes as those before determine its answer. -/
def extend (ttl : τ) (past : List (Sighting τ)) : NoticeCall τ → List (Sighting τ)
  | .check key action _ now => past ++ [{ key, action, now, answer := decide (Due past ttl key now) }]
  | .sweep _ => past

/-- The checks that some calls make, each with the answer that those before determine. -/
def history (ttl : τ) (calls : List (NoticeCall τ)) : List (Sighting τ) := calls.foldl (extend ttl) []

end Sighting

namespace NoticeLog

def record (l : NoticeLog τ) : NoticeCall τ → NoticeLog τ
  | .check key action kind now =>
    let (change, answer) := l.cache.checkAndRecord key action kind now
    { cache := change.cache, sightings := l.sightings ++ [{ key, action, now, answer }] }
  | .sweep now => { l with cache := (l.cache.sweep now).1.cache }

def run (l : NoticeLog τ) (calls : List (NoticeCall τ)) : NoticeLog τ := calls.foldl record l

theorem cache_record (l : NoticeLog τ) (call : NoticeCall τ) :
    (l.record call).cache = l.cache.apply call.step := by
  cases call <;> rfl

theorem sightings_check (l : NoticeLog τ) (key : Notice.Key) (action : NoticeAction) (kind : String)
    (now : τ) :
    (l.record (.check key action kind now)).sightings =
      l.sightings ++ [{ key, action, now, answer := l.cache.suppresses key now }] := by
  cases action with
  | dismissed => rfl
  | shown =>
    simp only [record, NoticeCache.checkAndRecord]
    split <;> rfl

end NoticeLog

namespace NoticeCache

/-- A notice stems from a check that dismissed its pattern, or from one that showed it unsuppressed. -/
def Stems (past : List (Sighting τ)) (ttl : τ) (n : Notice τ) : Prop :=
  (∃ s ∈ past, s.key = n.key ∧ s.action = .dismissed) ∨
    n.dismissed = false ∧
      ∃ s ∈ past, s.key = n.key ∧ s.action = .shown ∧ s.answer = false ∧ n.expiresAt = s.now + ttl

theorem Stems.mono {past more : List (Sighting τ)} {ttl : τ} {n : Notice τ} (stems : Stems past ttl n)
    (kept : past ⊆ more) : Stems more ttl n := by
  rcases stems with ⟨s, known, dismissed⟩ | ⟨undismissed, s, known, shown⟩
  · exact Or.inl ⟨s, kept known, dismissed⟩
  · exact Or.inr ⟨undismissed, s, kept known, shown⟩

/-- What a check stored is still there, or no longer counted at one of some moments. -/
structure Keeps (c : NoticeCache τ) (times : List τ) (s : Sighting τ) : Prop where
  dismissed : s.action = .dismissed → c.Dismissed s.key
  shown : s.action = .shown → s.answer = false →
    (∃ t ∈ times, Moment.le (s.now + c.ttl) t = true) ∨
      ∃ n ∈ c.entries, n.key = s.key ∧ (n.dismissed = true ∨ n.expiresAt = s.now + c.ttl)

/-- A cache holds what some checks stored, as long as it counts, and nothing else. The moments are those
of all calls. -/
structure Faithful (c : NoticeCache τ) (past : List (Sighting τ)) (times : List τ) : Prop where
  accounted : c.Accounted
  timely : ∀ s ∈ past, s.now ∈ times
  ends : ∀ s ∈ past, Moment.le (s.now + c.ttl) (s.now + c.ttl) = true
  stems : ∀ n ∈ c.entries, Stems past c.ttl n
  keeps : ∀ s ∈ past, c.Keeps times s

/-- A call drops only what is over. -/
theorem Exact.carries_stage {c : NoticeCache τ} (exact : c.Exact) (call : NoticeCall τ) :
    c.Carries (c.stage call.step) call.now := by
  have same : ∀ now, c.Carries c now := fun now n stored => Or.inr ⟨n, stored, rfl, Or.inr ⟨rfl, rfl⟩⟩
  cases call with
  | sweep now =>
    intro n stored
    cases counts : n.suppresses now with
    | false => exact Or.inl counts
    | true =>
      refine Or.inr ⟨n, List.mem_filter.2 ⟨stored, ?_⟩, rfl, Or.inr ⟨rfl, rfl⟩⟩
      rwa [Bool.not_and, Bool.not_not]
  | check key action kind now =>
    cases action with
    | dismissed => exact exact.carries_put Notice.isMark_dismissed _ now
    | shown =>
      dsimp only [NoticeCall.step, NoticeCache.stage]
      split
      · exact same now
      · exact exact.carries_put Notice.isMark_shown _ now

/-- A check of a suppressed pattern that shows it changes nothing; every other check leaves one notice
under its key, a dismissal or a showing that ends after the time a showing counts. -/
theorem Exact.mem_check {c : NoticeCache τ} (exact : c.Exact) (key : Notice.Key) (action : NoticeAction)
    (kind : String) (now : τ) :
    (action = .shown ∧ c.suppresses key now = true ∧ c.stage (.check key action kind now) = c) ∨
      ∃ m, m.key = key ∧
        (action = .dismissed ∧ m.dismissed = true ∨
          action = .shown ∧ c.suppresses key now = false ∧ m.dismissed = false ∧
            m.expiresAt = now + c.ttl) ∧
        ∀ n, n ∈ (c.stage (.check key action kind now)).entries ↔ n = m ∨ n ∈ c.entries ∧ n.key ≠ key := by
  cases action with
  | dismissed =>
    obtain ⟨o, origin, members⟩ :=
      exact.mem_put Notice.isMark_dismissed (Notice.create key kind now c.ttl) now
    refine Or.inr ⟨o.markDismissed, ?_, Or.inl ⟨rfl, rfl⟩, members⟩
    rcases origin with ⟨-, same, -⟩ | ⟨rfl, -⟩
    · exact same
    · rfl
  | shown =>
    cases suppressed : c.suppresses key now with
    | true => exact Or.inl ⟨rfl, rfl, if_pos suppressed⟩
    | false =>
      have stored : c.stage (.check key .shown kind now) =
          c.put Notice.markShown (Notice.create key kind now c.ttl) now :=
        if_neg (by simp [suppressed])
      obtain ⟨o, ⟨kept, same, counts⟩ | ⟨rfl, -⟩, members⟩ :=
        exact.mem_put Notice.isMark_shown (Notice.create key kind now c.ttl) now
      · have found : c.get? key = some o := exact.get?_eq_some_iff.2 ⟨kept, same⟩
        simp [NoticeCache.suppresses, found, counts] at suppressed
      · exact Or.inr ⟨_, rfl, Or.inr ⟨rfl, rfl, rfl, rfl⟩, stored ▸ members⟩

/-- After a check every notice was there before or stems from the check. -/
theorem Exact.stems_check {c : NoticeCache τ} (exact : c.Exact) (key : Notice.Key)
    (action : NoticeAction) (kind : String) (now : τ) :
    ∀ n ∈ (c.stage (.check key action kind now)).entries, n ∈ c.entries ∨
      Stems [{ key, action, now, answer := c.suppresses key now }] c.ttl n := by
  intro n member
  rcases exact.mem_check key action kind now with ⟨-, -, unchanged⟩ | ⟨m, rfl, stored, members⟩
  · rw [unchanged] at member
    exact Or.inl member
  · rcases (members n).1 member with rfl | ⟨kept, -⟩
    · refine Or.inr ?_
      rcases stored with ⟨rfl, -⟩ | ⟨rfl, unsuppressed, undismissed, ends⟩
      · exact Or.inl ⟨_, List.mem_cons_self, rfl, rfl⟩
      · exact Or.inr ⟨undismissed, _, List.mem_cons_self, rfl, rfl, unsuppressed, ends⟩
    · exact Or.inl kept

/-- After a check the cache keeps what it stored. -/
theorem Exact.keeps_check {c : NoticeCache τ} (exact : c.Exact) (key : Notice.Key)
    (action : NoticeAction) (kind : String) (times : List τ) (now : τ) :
    (c.stage (.check key action kind now)).Keeps times
      { key, action, now, answer := c.suppresses key now } := by
  have ttl : (c.stage (.check key action kind now)).ttl = c.ttl := (c.settings_stage _).2 nofun
  rcases exact.mem_check key action kind now with ⟨rfl, suppressed, -⟩ | ⟨m, own, stored, members⟩
  · exact ⟨nofun, fun _ answered => absurd (suppressed.symm.trans answered) (by decide)⟩
  · have kept := (members m).2 (Or.inl rfl)
    rcases stored with ⟨rfl, dismissed⟩ | ⟨rfl, -, -, ends⟩
    · exact ⟨fun _ => ⟨m, kept, own, dismissed⟩, nofun⟩
    · refine ⟨nofun, fun _ _ => Or.inr ⟨m, kept, own, Or.inr ?_⟩⟩
      rw [ttl]
      exact ends

theorem Keeps.of_carries {c after : NoticeCache τ} {times : List τ} {s : Sighting τ} {now : τ}
    (keeps : c.Keeps times s) (carries : c.Carries after now) (ttl : after.ttl = c.ttl) :
    after.Keeps (now :: times) s := by
  constructor
  case dismissed => exact fun dismissed => (keeps.dismissed dismissed).of_carries carries
  case shown =>
    intro shown answered
    rw [ttl]
    rcases keeps.shown shown answered with ⟨t, member, expired⟩ | ⟨n, stored, own, lasts⟩
    · exact Or.inl ⟨t, List.mem_cons_of_mem _ member, expired⟩
    · rcases carries n stored with expired | ⟨m, kept, same, marks | ⟨marks, ends⟩⟩
      · refine Or.inl ⟨now, List.mem_cons_self, ?_⟩
        simp only [Notice.suppresses, Notice.isExpired, Bool.or_eq_false_iff, Bool.not_eq_false'] at expired
        rcases lasts with dismissed | ends
        · rw [expired.1] at dismissed
          cases dismissed
        · rw [← ends]
          exact expired.2
      · exact Or.inr ⟨m, kept, same.trans own, Or.inl marks⟩
      · exact Or.inr ⟨m, kept, same.trans own, by rwa [marks, ends]⟩

namespace Faithful

variable {c : NoticeCache τ} {past : List (Sighting τ)} {times : List τ}

theorem empty (cap : SizeCap) (ttl : τ) : Faithful { cap, ttl } [] [] where
  accounted := .empty cap ttl
  timely := nofun
  ends := nofun
  stems := nofun
  keeps := nofun

/-- A call keeps the cache faithful if it was to the checks before and is to those that it makes. -/
theorem extend (faithful : c.Faithful past times) (call : NoticeCall τ) {made : List (Sighting τ)}
    (accounted : (c.stage call.step).Accounted)
    (number : Moment.le (call.now + c.ttl) (call.now + c.ttl) = true)
    (timely : ∀ s ∈ made, s.now = call.now)
    (stems : ∀ n ∈ (c.stage call.step).entries, n ∈ c.entries ∨ Stems made c.ttl n)
    (keeps : ∀ s ∈ made, (c.stage call.step).Keeps (call.now :: times) s) :
    (c.stage call.step).Faithful (past ++ made) (call.now :: times) := by
  have ttl : (c.stage call.step).ttl = c.ttl :=
    (c.settings_stage call.step).2 (by cases call <;> nofun)
  constructor
  case accounted => exact accounted
  case timely =>
    intro s known
    rcases List.mem_append.1 known with earlier | now
    · exact List.mem_cons_of_mem _ (faithful.timely s earlier)
    · rw [timely s now]
      exact List.mem_cons_self
  case ends =>
    intro s known
    rw [ttl]
    rcases List.mem_append.1 known with earlier | now
    · exact faithful.ends s earlier
    · rw [timely s now]
      exact number
  case stems =>
    intro n member
    rw [ttl]
    rcases stems n member with stored | stems
    · exact (faithful.stems n stored).mono (List.subset_append_left _ _)
    · exact stems.mono (List.subset_append_right _ _)
  case keeps =>
    intro s known
    rcases List.mem_append.1 known with earlier | now
    · have carries := faithful.accounted.toExact.carries_stage call
      exact (faithful.keeps s earlier).of_carries carries ttl
    · exact keeps s now

/-- A call that drops nothing for its age keeps the cache faithful to the checks. -/
theorem record {l : NoticeLog τ} (faithful : l.cache.Faithful l.sightings times) {call : NoticeCall τ}
    (number : Moment.le (call.now + l.cache.ttl) (call.now + l.cache.ttl) = true)
    (roomy : ((l.cache.stage call.step).size : Int) ≤ (l.cache.stage call.step).cap.bytes) :
    (l.record call).cache = l.cache.stage call.step ∧
      (l.record call).cache.Faithful (l.record call).sightings (call.now :: times) := by
  have staged : (l.record call).cache = l.cache.stage call.step := by
    rw [l.cache_record, faithful.accounted.apply_eq, fitted_of_settled (Or.inr roomy)]
  have accounted : (l.cache.stage call.step).Accounted := by
    rw [← staged, l.cache_record]
    exact faithful.accounted.apply call.step
  refine ⟨staged, ?_⟩
  rw [staged]
  cases call with
  | sweep now =>
    have kept : (l.cache.stage (.sweep now)).Faithful (l.sightings ++ []) (now :: times) :=
      faithful.extend (.sweep now) accounted number nofun
        (fun n member => Or.inl (List.mem_filter.1 member).1) nofun
    rwa [List.append_nil] at kept
  | check key action kind now =>
    rw [l.sightings_check]
    have exact := faithful.accounted.toExact
    refine faithful.extend (.check key action kind now) accounted number ?_
      (exact.stems_check key action kind now) ?_
    · intro s made
      rw [List.mem_singleton.1 made]
      rfl
    · intro s made
      rw [List.mem_singleton.1 made]
      exact exact.keeps_check key action kind _ now

variable [Moment.Lawful τ]

/-- What the cache suppresses is what is due after the checks. -/
theorem suppresses_iff (faithful : c.Faithful past times) (key : Notice.Key) {t : τ}
    (later : Past times t) : c.suppresses key t = true ↔ Sighting.Due past c.ttl key t := by
  have exact := faithful.accounted.toExact
  -- a showing counts at the moment exactly if the moment is before its end
  have counts : ∀ s ∈ past, (Moment.lt t (s.now + c.ttl) = true ↔
      Moment.le (s.now + c.ttl) t = false) := by
    intro s known
    have number := Moment.Lawful.self_of_le (later s.now (faithful.timely s known))
    exact Moment.Lawful.lt_iff number (faithful.ends s known)
  constructor
  case mp =>
    intro suppressed
    obtain ⟨n, found, counting⟩ := (Option.any_eq_true _ _).1 suppressed
    obtain ⟨member, rfl⟩ := mem_of_get? found
    rcases faithful.stems n member with ⟨s, known, own, dismissed⟩ |
      ⟨undismissed, s, known, own, shown, answered, ends⟩
    · exact ⟨s, known, own, Or.inl dismissed⟩
    · refine ⟨s, known, own, Or.inr ⟨shown, answered, (counts s known).2 ?_⟩⟩
      simpa [Notice.suppresses, Notice.isExpired, undismissed, ends] using counting
  case mpr =>
    rintro ⟨s, known, rfl, dismissed | ⟨shown, answered, before⟩⟩
    · exact ((faithful.keeps s known).dismissed dismissed).suppresses exact t
    · have unexpired := (counts s known).1 before
      rcases (faithful.keeps s known).shown shown answered with ⟨w, member, expired⟩ |
        ⟨n, member, own, lasts⟩
      · rw [Moment.Lawful.trans expired (later w member)] at unexpired
        cases unexpired
      · rw [← own]
        rcases lasts with dismissed | ends
        · simp [NoticeCache.suppresses, exact.get?_of_mem member, Notice.suppresses, dismissed]
        · simp [NoticeCache.suppresses, exact.get?_of_mem member, Notice.suppresses,
            Notice.isExpired, ends, unexpired]

/-- The checks of a call are answered as those before determine. -/
theorem sightings_record {l : NoticeLog τ} (faithful : l.cache.Faithful l.sightings times)
    {call : NoticeCall τ} (later : Past times call.now) :
    (l.record call).sightings = Sighting.extend l.cache.ttl l.sightings call := by
  cases call with
  | sweep now => rfl
  | check key action kind now =>
    have answer : l.cache.suppresses key now = decide (Sighting.Due l.sightings l.cache.ttl key now) := by
      rw [Bool.eq_iff_iff, decide_eq_true_iff]
      exact faithful.suppresses_iff key later
    rw [l.sightings_check, answer]
    rfl

/-- Calls that drop nothing for its age keep the cache faithful to the checks, and the checks are answered
as those before determine. -/
theorem run {l : NoticeLog τ} (faithful : l.cache.Faithful l.sightings times)
    {calls : List (NoticeCall τ)} (ordered : NoticeCall.Ordered calls)
    (later : ∀ call ∈ calls, Past times call.now)
    (numbers : ∀ call ∈ calls, Moment.le (call.now + l.cache.ttl) (call.now + l.cache.ttl) = true)
    (roomy : l.cache.Roomy calls) :
    (l.run calls).cache.Faithful (l.run calls).sightings ((calls.map NoticeCall.now).reverse ++ times) ∧
      (l.run calls).cache.ttl = l.cache.ttl ∧
      (l.run calls).sightings = calls.foldl (Sighting.extend l.cache.ttl) l.sightings := by
  induction calls generalizing l times with
  | nil => exact ⟨faithful, rfl, rfl⟩
  | cons call rest ih =>
    obtain ⟨first, others⟩ := List.pairwise_cons.1 ordered
    obtain ⟨staged, kept⟩ := faithful.record (numbers call List.mem_cons_self) roomy.2.within
    have ttl : (l.record call).cache.ttl = l.cache.ttl := by
      rw [staged]
      exact (l.cache.settings_stage call.step).2 (by cases call <;> nofun)
    have answered := faithful.sightings_record (later call List.mem_cons_self)
    have run := ih kept others ?later ?numbers (staged ▸ roomy.2)
    case later =>
      intro next known w member
      rcases List.mem_cons.1 member with rfl | earlier
      · exact first next known
      · exact later next (List.mem_cons_of_mem _ known) w earlier
    case numbers =>
      intro next known
      rw [ttl]
      exact numbers next (List.mem_cons_of_mem _ known)
    rw [ttl, answered] at run
    simpa [NoticeLog.run] using run

end Faithful

end NoticeCache

namespace NoticeLog

/-- Sweeps determine no answer. -/
theorem history_swept (ttl : τ) {calls more : List (NoticeCall τ)}
    (swept : NoticeCall.Swept calls more) (past : List (Sighting τ)) :
    more.foldl (Sighting.extend ttl) past = calls.foldl (Sighting.extend ttl) past := by
  induction swept generalizing past with
  | nil => rfl
  | call call rest ih => exact ih (Sighting.extend ttl past call)
  | sweep now rest ih => exact ih past

/-- A cache that starts empty is faithful to the checks that were made of it. -/
theorem faithful_run {ttl : Float} (positive : 0 < ttl) (cap : SizeCap)
    {calls : List (NoticeCall Float)} (ordered : NoticeCall.Ordered calls)
    (dated : ∀ call ∈ calls, -1 / 0 < call.now) (roomy : NoticeCache.Roomy { cap, ttl } calls) :
    let l := run { cache := { cap, ttl } } calls
    l.cache.Faithful l.sightings (calls.map NoticeCall.now).reverse ∧ l.cache.ttl = ttl ∧
      l.sightings = Sighting.history ttl calls := by
  have start : NoticeCache.Faithful { cap, ttl } [] [] := .empty cap ttl
  have numbers : ∀ call ∈ calls, Moment.le (call.now + ttl) (call.now + ttl) = true := by
    intro call known
    exact Double.le_self_add (decide_eq_true (dated call known)) (decide_eq_true positive)
  have run := start.run (l := { cache := { cap, ttl } }) ordered (fun _ _ => nofun) numbers roomy
  rwa [List.append_nil] at run

/-- Whatever is checked and swept, after minus infinity, while time does not run backwards and nothing is
dropped for its age: every check is answered, and every pattern suppressed from then on, by the rule that
it was dismissed, or shown unsuppressed so recently that this still counts. More sweeps change no answer,
and showing a suppressed pattern changes nothing. -/
theorem suppression_follows_checks {ttl : Float} (positive : 0 < ttl) (cap : SizeCap)
    {calls : List (NoticeCall Float)} (ordered : NoticeCall.Ordered calls)
    (dated : ∀ call ∈ calls, -1 / 0 < call.now) (roomy : NoticeCache.Roomy { cap, ttl } calls) :
    let l := run { cache := { cap, ttl } } calls
    l.sightings = Sighting.history ttl calls ∧
      (∀ key t, (∀ call ∈ calls, call.now ≤ t) →
        (l.cache.suppresses key t = true ↔ Sighting.Due l.sightings ttl key t)) ∧
      (∀ more, NoticeCall.Swept calls more → NoticeCall.Ordered more →
        (∀ call ∈ more, -1 / 0 < call.now) →
        (run { cache := { cap, ttl } } more).sightings = l.sightings) ∧
      ∀ key kind now, l.cache.suppresses key now = true →
        (l.record (.check key .shown kind now)).cache = l.cache := by
  intro l
  obtain ⟨faithful, lifetime, answered⟩ := faithful_run positive cap ordered dated roomy
  refine ⟨answered, ?due, ?swept, ?shown⟩
  case due =>
    intro key t later
    have past : NoticeCache.Past (calls.map NoticeCall.now).reverse t := by
      simpa [NoticeCache.Past, Moment.le] using later
    have due := faithful.suppresses_iff key past
    rwa [lifetime] at due
  case swept =>
    intro more swept ordered' dated'
    have exact := (NoticeCache.Accounted.empty cap ttl).toExact
    have thins : NoticeCache.Thins { cap, ttl } { cap, ttl } ([] : List Float) :=
      ⟨List.Sublist.refl _, rfl, rfl, fun n stored absent => absurd stored absent⟩
    have roomy' := roomy.of_swept swept thins exact exact ordered' (fun _ _ => nofun)
    obtain ⟨-, -, answered'⟩ := faithful_run positive cap ordered' dated' roomy'
    exact answered'.trans ((history_swept ttl swept []).trans answered.symm)
  case shown =>
    intro key kind now suppressed
    simp only [record, NoticeCache.checkAndRecord]
    rw [if_pos suppressed]

/-- A pattern that is shown again is suppressed until the very end of the time its showing counts. -/
theorem suppression_follows_checks_shown_again :
    let calls : List (NoticeCall Float) :=
      [.check ("a", "p") .shown "" 1000, .sweep 1005, .check ("a", "p") .shown "" 1009,
        .check ("a", "p") .shown "" 1010, .check ("b", "q") .dismissed "" 1010]
    let l := NoticeLog.run { cache := { cap := { bytes := 1000 }, ttl := (10 : Float) } } calls
    l.sightings.map (·.answer) = [false, true, false, false] ∧
      l.cache.suppresses ("a", "p") 1020 = false ∧ l.cache.suppresses ("b", "q") 5000 = true := by
  intro calls l
  have ordered : NoticeCall.Ordered calls := by
    unfold NoticeCall.Ordered
    decide +kernel
  have dated : ∀ call ∈ calls, -1 / 0 < call.now := by decide +kernel
  obtain ⟨answered, due, -, -⟩ :=
    suppression_follows_checks (by decide +kernel : (0 : Float) < 10) { bytes := 1000 } ordered dated
      (by decide +kernel)
  refine ⟨?_, ?_, ?_⟩
  · rw [answered]
    decide +kernel
  · rw [Bool.eq_false_iff, ne_eq, due ("a", "p") 1020 (by decide +kernel), answered]
    decide +kernel
  · rw [due ("b", "q") 5000 (by decide +kernel), answered]
    decide +kernel

end NoticeLog

end LiveLint
