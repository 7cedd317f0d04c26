import LiveLint.Proofs.Engine.Steps

/-!
# The last write wins

However the calls of a session take their turns, no two of them work on one file at once, a call comes to
its end only for the text that was written last, and a call that was overtaken or turned away leaves no
trace. The tree that is kept of a file is always the one of its last analyzed revision.
-/

namespace LiveLint

/-- An engine that is new starts a session without calls, in which everything is in order. -/
theorem Engine.IsNew.session {σ : Type} {e : Engine} (new : e.IsNew) (clock : Float)
    (transport : Transport σ) (remote : σ) :
    (e.session clock transport remote).Queues none ∧
      (e.session clock transport remote).Coherent := by
  obtain ⟨tracker, trees, workspaces, sincere⟩ := new
  have no_call {t : Nat} {c : Call} : (e.session clock transport remote).calls[t]? ≠ some c := nofun
  constructor
  · refine Session.queues_session (fun name => ?_) clock transport remote
    unfold Scheduler.tickets Scheduler.workspace
    rw [workspaces]
    rfl
  · constructor
    case keyed =>
      change e.tracker.Keyed
      rw [tracker]
      exact Tracker.keyed_empty
    case analyzed =>
      intro file r found
      change e.tracker.analyzed.get? file = some r at found
      rw [tracker] at found
      cases found
    case stored =>
      intro file tree found
      change e.trees.get? file = some tree at found
      rw [trees] at found
      cases found
    case sincere => exact sincere
    case call => exact fun t c call => absurd call no_call

namespace Session

variable {σ : Type} {s s' s'' : Session σ}

/-- What the move of a call does. -/
theorem Moves.follows {i : Nat} (move : s.Moves (some i) s') (queues : s.Queues none)
    (coherent : s.Coherent) : s.Follows i s' := by
  cases move with
  | begin request meanwhile => exact begin_follows queues coherent request meanwhile
  | accept request meanwhile => exact accept_follows queues coherent request meanwhile
  | turn ready => exact step_follows queues coherent ready
  | search ready call stage checkpoint stale =>
    exact search_follows queues coherent ready call stage stale

/-- Every move keeps everything in order. -/
theorem Moves.keeps {actor : Option Nat} (move : s.Moves actor s') (queues : s.Queues none)
    (coherent : s.Coherent) : s'.Queues none ∧ s'.Coherent := by
  cases actor with
  | some i =>
    have follows := move.follows queues coherent
    exact ⟨follows.queues, follows.coherent⟩
  | none =>
    cases move with
    | surroundings same =>
      exact ⟨queues.congr same.calls same.ready same.lines same.workspaces,
        coherent.congr same.calls same.tracker same.trees same.queries⟩

/-- Only a call that is new or not over makes a move. -/
theorem Moves.unfinished {i : Nat} (move : s.Moves (some i) s') (queues : s.Queues none) {c : Call}
    (call : s.calls[i]? = some c) : c.stage.isFinished = false := by
  have of_ready (ready : i ∈ s.ready) : c.stage.isFinished = false := by
    obtain ⟨-, c', call', unfinished⟩ := queues.ready_open i ready
    cases call.symm.trans call'
    exact unfinished
  have of_new (new : i = s.calls.size) : c.stage.isFinished = false := by
    rw [new, Array.getElem?_size] at call
    cases call
  cases move with
  | begin => exact of_new rfl
  | accept => exact of_new rfl
  | turn ready => exact of_ready ready
  | search ready => exact of_ready ready

/-- A call that is over stays as it is. -/
theorem Moves.keeps_finished {actor : Option Nat} (move : s.Moves actor s') (queues : s.Queues none)
    (coherent : s.Coherent) {i : Nat} {c : Call} (call : s.calls[i]? = some c)
    (closed : c.stage.isFinished = true) : s'.calls[i]? = some c := by
  cases actor with
  | none =>
    cases move with
    | surroundings same =>
      rw [same.calls]
      exact call
  | some j =>
    have other : i ≠ j := by
      rintro rfl
      rw [move.unfinished queues call] at closed
      cases closed
    rw [(move.follows queues coherent).others i other]
    exact call

theorem Runs.keeps (runs : s.Runs s') (queues : s.Queues none) (coherent : s.Coherent) :
    s'.Queues none ∧ s'.Coherent := by
  induction runs with
  | refl => exact ⟨queues, coherent⟩
  | move _ last ih => exact last.keeps ih.1 ih.2

theorem Runs.keeps_finished (runs : s.Runs s') (queues : s.Queues none) (coherent : s.Coherent)
    {i : Nat} {c : Call} (call : s.calls[i]? = some c) (closed : c.stage.isFinished = true) :
    s'.calls[i]? = some c := by
  induction runs with
  | refl => exact call
  | move before last ih =>
    obtain ⟨queues', coherent'⟩ := before.keeps queues coherent
    exact last.keeps_finished queues' coherent' ih closed

theorem Reachable.keeps (reachable : s.Reachable) : s.Queues none ∧ s.Coherent := by
  induction reachable with
  | start new clock transport remote => exact new.session clock transport remote
  | move _ last ih => exact last.keeps ih.1 ih.2

/-- Two calls that work on one file are one call, because each is the first one in its line. -/
theorem Queues.exclusive (queues : s.Queues none) {i j : Nat} {c d : Call}
    (call : s.calls[i]? = some c) (other : s.calls[j]? = some d) (running : c.stage.isRunning = true)
    (running' : d.stage.isRunning = true) (file : c.request.file = d.request.file) : i = j := by
  have holds {stage : CallStage} (running : stage.isRunning = true) : stage.holdsFile = true := by
    cases stage <;> first | rfl | exact running
  have first := queues.holder i c call nofun (holds running)
  have first' := queues.holder j d other nofun (holds running')
  rw [file] at first
  exact Option.some.inj (first.symm.trans first')

structure LastWriteWins (s : Session σ) : Prop where
  /-- No two calls work on one file at once. -/
  exclusive : ∀ (i j : Nat) (c d : Call), s.calls[i]? = some c → s.calls[j]? = some d →
    c.stage.isRunning = true → d.stage.isRunning = true → c.request.file = d.request.file → i = j
  /-- A call that comes to its end answers for the latest revision of its file, which has the text of
  its request. -/
  latest : ∀ (i : Nat) (s' : Session σ) (c : Call) (result : AnalysisResult),
    s.Moves (some i) s' → s'.calls[i]? = some c → c.stage = .finished (.ok result) →
      result.status = .ok ∨ result.status = .limited ∨ result.status = .unparsable →
        result.file = c.request.file ∧
          ∃ newest, s'.engine.tracker.latest.get? c.request.file = some newest ∧
            newest.number = result.revision ∧ newest.text = c.request.code
  /-- A call that says it was overtaken shows nothing, and its file has a newer revision. -/
  superseded : ∀ (i : Nat) (c : Call) (result : AnalysisResult), s.calls[i]? = some c →
    c.stage = .finished (.ok result) → result.status = .superseded →
      result.issues = [] ∧
        ∃ newest, s.engine.tracker.latest.get? c.request.file = some newest ∧
          result.revision < newest.number
  /-- Nothing that a call ever does touches the trees or the analyzed revisions if it was overtaken or
  turned away in the end. -/
  spared : ∀ (i : Nat) (s' s'' : Session σ) (c : Call) (result : AnalysisResult),
    s.Moves (some i) s' → s'.Runs s'' → s''.calls[i]? = some c →
      c.stage = .finished (.ok result) →
        result.status = .superseded ∨ result.status = .retryLater →
          s'.engine.trees = s.engine.trees ∧
            s'.engine.tracker.analyzed = s.engine.tracker.analyzed
  /-- The tree that is kept of a file is the one of its last analyzed revision. -/
  stored : ∀ (file : String) (tree : Tree), s.engine.trees.get? file = some tree →
    ∃ r, s.engine.tracker.analyzed.get? file = some r ∧ tree.revision = r.number ∧
      tree.source = r.text

/-- Whatever has happened in a session, the last write wins. -/
theorem lastWriteWins_of_reachable (reachable : s.Reachable) : s.LastWriteWins := by
  obtain ⟨queues, coherent⟩ := reachable.keeps
  constructor
  case exclusive =>
    intro i j c d call other running running' file
    exact queues.exclusive call other running running' file
  case latest =>
    intro i s' c result move call closed status
    have follows := move.follows queues coherent
    obtain ⟨recorded, fits⟩ := follows.coherent.call i c call
    rw [closed] at recorded fits
    obtain ⟨file, number, -⟩ := fits
    obtain ⟨-, filed, text⟩ := recorded nofun
    refine ⟨file, c.revision, ?_, number.symm, text⟩
    rcases follows.effect with spares | publishes
    · rcases spares.result c result call closed with ended | ended <;>
        rw [ended] at status <;> rcases status with status | status | status <;> cases status
    · obtain ⟨c', -, call', -, newest, -⟩ := publishes.ended
      cases call.symm.trans call'
      rw [← filed]
      exact newest
  case superseded =>
    intro i c result call closed status
    obtain ⟨recorded, fits⟩ := coherent.call i c call
    rw [closed] at recorded fits
    obtain ⟨-, number, overtaken⟩ := fits
    obtain ⟨-, filed, -⟩ := recorded nofun
    obtain ⟨none_shown, newest, found, less⟩ := overtaken status
    rw [number, ← filed]
    exact ⟨none_shown, newest, found, less⟩
  case spared =>
    intro i s' s'' c result move runs call closed status
    have follows := move.follows queues coherent
    rcases follows.effect with spares | publishes
    · exact ⟨spares.trees, spares.analyzed⟩
    · -- A call that has come to its end stays there, so it was neither overtaken nor turned away.
      obtain ⟨c', ended, call', closed', -, answered⟩ := publishes.ended
      have still := runs.keeps_finished follows.queues follows.coherent call' (by rw [closed']; rfl)
      cases call.symm.trans still
      cases closed.symm.trans closed'
      obtain ⟨current, served⟩ := answered result rfl
      rcases status with status | status
      · exact absurd status current
      · exact absurd status served
  case stored => exact coherent.stored

/-- A file is written twice, and its second analysis begins before the first one has ended. -/
theorem lastWriteWins_two_writes :
    let limits : SchedulerSettings Number :=
      { baseDebounce := .int 0, maxDebounce := .amount (.int 5000),
        latencyThreshold := .amount (.int 1000) }
    let e : Engine :=
      { config := .standard, journal := { cache := { cap := ⟨4096, .int 4096⟩, ttl := 60 } },
        lifetime := .int 60, scheduler := { settings := limits },
        gateway := { machine :=
          { firstDelay := .int 1, moreDelays := [], probeInterval := .int 30,
            nextAttempt := .int 0 } } }
    let s : Session Unit := e.session 0 (fun _ state => (.timedOut, state)) ()
    let s := s.accept { file := "a.py", language := "python", code := "x = 1" }
    let s := s.accept { file := "a.py", language := "python", code := "x = 2" }
    s.Reachable ∧ s.LastWriteWins := by
  intro limits e s₀ s₁ s₂
  have new : e.IsNew := ⟨rfl, rfl, rfl, Query.builtIn_sincere⟩
  have reachable : s₂.Reachable :=
    ((Reachable.start new 0 _ ()).move (.accept _ {})).move (.accept _ {})
  exact ⟨reachable, lastWriteWins_of_reachable reachable⟩

theorem Runs.reachable (runs : s.Runs s') (reachable : s.Reachable) : s'.Reachable := by
  induction runs with
  | refl => exact reachable
  | move _ last ih => exact ih.move last

theorem Runs.trans (first : s.Runs s') (second : s'.Runs s'') : s.Runs s'' := by
  induction second with
  | refl => exact first
  | move _ last ih => exact ih.move last

/-- To take the turns in the order in which they fell due is one of the ways a session goes on. -/
theorem runs_settle (s : Session σ) : s.Runs s.settle := by
  have turns (fuel : Nat) (s : Session σ) : s.Runs (settleWith fuel s) := by
    induction fuel generalizing s with
    | zero => exact .refl
    | succ fuel ih =>
      unfold settleWith
      split
      · exact .refl
      · next ticket rest due =>
        have taken : ({ s with ready := rest } : Session σ) = s.take ticket := by
          simp only [take, due, List.erase_cons_head]
        rw [taken]
        have turn : s.Moves (some ticket) ((s.take ticket).step ticket) :=
          .turn (by rw [due]; exact List.mem_cons_self ..)
        exact (Runs.refl.move turn).trans (ih _)
  exact turns _ s

end Session

/-- A single analysis of a new engine is a session that can be reached. -/
theorem Engine.IsNew.reachable_analyze {σ : Type} {e : Engine} (new : e.IsNew) (clock : Float)
    (transport : Transport σ) (remote : σ) (request : AnalysisRequest) (meanwhile : Meanwhile) :
    (e.analyze clock transport remote request meanwhile).Reachable :=
  (Session.runs_settle _).reachable
    ((Session.Reachable.start new clock transport remote).move (.begin request meanwhile))

end LiveLint
