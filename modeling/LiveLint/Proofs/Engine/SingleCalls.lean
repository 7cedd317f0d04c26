import LiveLint.Proofs.Engine.Queues
import LiveLint.Proofs.Engine.WellTyped

/-!
# Analyses one after the other

An analysis that has the engine to itself never fails: whatever the text, its call comes to an end with a
result, and leaves the engine as it has to be for the next one. The operations of a call are followed from
its end back to its beginning.
-/

namespace LiveLint

/-- An engine that analyzes one file after the other without a remote service. `busy` is the workspace of
which a slot is in use. -/
structure Engine.Ready (e : Engine) (c : Config) (most : Int) (busy : Option String) : Prop where
  config : e.config = c
  offline : e.gateway.client = none
  lifetime : e.lifetime = c.lifetime
  limits : e.scheduler.settings = c.scheduling
  serial : e.scheduler.Serial most busy
  queries : e.detector.queries = Query.builtIn
  keeps : e.detector.Keeps
  rules : e.classifier.Standard

/-- To apply a configuration without a remote service again changes only the journal. -/
theorem Engine.Ready.applyConfig {e : Engine} {c : Config} {most : Int} {busy : Option String}
    (ready : e.Ready c most busy) (offline : c.hasRemote = false) :
    ∃ journal logs, e.applyConfig = ({ e with journal }, logs, none) := by
  -- There was no service before either, so the way to one is not made anew.
  have nowhere (journal : Journal) :
      Engine.applyRemote { e with journal } = .ok ({ e with journal }, []) := by
    unfold Engine.applyRemote Engine.endpoint
    dsimp only
    rw [ready.config, ready.offline, offline]
    rfl
  have limits : e.scheduler.configure e.config.scheduling = e.scheduler := by
    rw [ready.config, ← ready.limits]
    rfl
  obtain ⟨journal, logs, limited⟩ :
      ∃ journal logs, e.applyCache = ({ e with journal }, logs) := by
    unfold Engine.applyCache
    dsimp only
    rw [ready.config, ← ready.lifetime]
    split <;> exact ⟨_, _, rfl⟩
  refine ⟨journal, logs, ?_⟩
  unfold Engine.applyConfig
  rw [limits]
  dsimp only
  rw [limited]
  dsimp only
  rw [nowhere]
  dsimp only
  rw [List.append_nil]

namespace Session

variable {σ : Type}

structure Single (s : Session σ) (c : Config) (most : Int) (busy : Option String) (call : Call)
    (ready : List Nat) : Prop where
  engine : s.engine.Ready c most busy
  calls : s.calls = #[call]
  config : call.config = c
  ready : s.ready = ready

/-- The single call has a slot and works on its file. -/
structure Works (s : Session σ) (c : Config) (most : Int) (call : Call) (ready : List Nat) : Prop
    extends s.Single c most (some call.request.workspace) call ready where
  line : s.lines.get? call.request.file = some [0]

def Ended (s : Session σ) (c : Config) (most : Int) : Prop :=
  ∃ call result, s.Single c most none call [] ∧ call.stage = .finished (.ok result)

/-- The single call comes to its end within some turns. -/
inductive Due (s : Session σ) (c : Config) (most : Int) : Nat → Prop where
  | ended {n : Nat} (ended : s.Ended c most) : Due s c most n
  | detecting {n : Nat} {call : Call} {tree : Tree} {since : Float} (works : s.Works c most call [0])
      (stage : call.stage = .detecting tree since) : Due s c most (n + 1)
  | parsing {n : Nat} {call : Call} {since : Float} (works : s.Works c most call [0])
      (stage : call.stage = .parsing since) : Due s c most (n + 2)
  | heldBack {n : Nat} {call : Call} (single : s.Single c most none call [0])
      (stage : call.stage = .heldBack) (lines : s.lines = []) : Due s c most (n + 3)

variable {s : Session σ} {c : Config} {most : Int} {call : Call} {busy : Option String}

theorem Single.moveTo {ready : List Nat} (single : s.Single c most busy call ready) (stage : CallStage) :
    (s.moveTo 0 stage).Single c most busy { call with stage } ready where
  engine := single.engine
  calls := by
    unfold Session.moveTo update
    dsimp only
    rw [single.calls]
    rfl
  config := single.config
  ready := single.ready

theorem Works.goOn (works : s.Works c most call []) (stage : CallStage) :
    (s.goOn 0 stage).Works c most { call with stage } [0] where
  engine := works.engine
  calls := (works.toSingle.moveTo stage).calls
  config := works.config
  ready := by
    unfold Session.goOn wake
    dsimp only
    rw [(works.toSingle.moveTo stage).ready]
    rfl
  line := works.line

theorem Single.take {ready : List Nat} (single : s.Single c most busy call ready) :
    ({ s with ready := [] } : Session σ).Single c most busy call [] :=
  ⟨single.engine, single.calls, single.config, rfl⟩

theorem Works.take {ready : List Nat} (works : s.Works c most call ready) :
    ({ s with ready := [] } : Session σ).Works c most call [] :=
  ⟨works.toSingle.take, works.line⟩

/-- What a call that works relies on is its engine, the calls and their lines. -/
theorem Works.congr {s₁ : Session σ} {ready : List Nat} (works : s.Works c most call ready)
    (engine : s₁.engine.Ready c most (some call.request.workspace)) (calls : s₁.calls = s.calls)
    (same : s₁.ready = s.ready) (lines : s₁.lines = s.lines) : s₁.Works c most call ready where
  engine
  calls := calls.trans works.calls
  config := works.config
  ready := same.trans works.ready
  line := by
    rw [lines]
    exact works.line

theorem Single.finish (single : s.Single c most none call []) (status : AnalysisStatus) :
    (s.finish 0 call status).Ended c most :=
  ⟨_, _, single.moveTo _, rfl⟩

/-- When the single call leaves its line, nobody is behind it. -/
theorem Single.leaveLine {ready : List Nat} (single : s.Single c most busy call ready) {file : String}
    (line : s.lines.get? file = some [0]) : (s.leaveLine file).Single c most busy call ready := by
  unfold Session.leaveLine
  rw [line]
  exact { single with engine := single.engine }

/-- A slot is given back, and the call is over as it was told to. -/
theorem Works.leave (works : s.Works c most call []) (since : Float)
    {how : Session σ → Except Fault AnalysisResult} (told : ∀ s₁, ∃ result, how s₁ = .ok result) :
    (s.leave 0 call since how).Ended c most := by
  obtain ⟨w, released, serial⟩ := works.engine.serial.release
    (Interval.between (Number.float since) (Number.float s.clock))
  unfold Session.leave
  dsimp only
  rw [released]
  dsimp only [Option.map_none, Option.getD_none]
  generalize freed : ({ s with
    engine := { s.engine with scheduler := s.engine.scheduler.set call.request.workspace w } } :
      Session σ) = s₁
  have single : s₁.Single c most none call [] := by
    rw [← freed]
    exact ⟨{ works.engine with limits := works.engine.limits, serial }, works.calls, works.config,
      works.ready⟩
  have line : s₁.lines.get? call.request.file = some [0] := by
    rw [← freed]
    exact works.line
  obtain ⟨result, done⟩ := told (s₁.leaveLine call.request.file)
  rw [done]
  exact ⟨_, result, (single.leaveLine line).moveTo _, rfl⟩

theorem Works.abandon (works : s.Works c most call []) (since : Float) :
    (s.abandon 0 call since).Ended c most :=
  works.leave since fun _ => ⟨_, rfl⟩

theorem Works.publish (works : s.Works c most call []) (tree : Tree) (since : Float)
    (issues : List Issue) : (s.publish 0 call tree since issues).Ended c most := by
  unfold Session.publish
  split
  · exact works.abandon since
  · refine Works.leave ?_ since fun _ => ⟨_, rfl⟩
    exact works.congr { works.engine with } rfl rfl rfl

/-- Without a remote service the issues are settled as they are. -/
theorem Works.submit (works : s.Works c most call []) (tree : Tree) (since : Float)
    (issues : List Issue) : (s.submit 0 call tree since issues).Ended c most := by
  have settled : Refinement.start s.engine.gateway (.float s.clock) issues =
      (s.engine.gateway, .settled (.ok issues), []) := by
    unfold Refinement.start
    rw [works.engine.offline]
    rfl
  unfold Session.submit
  rw [settled]
  refine Works.publish ?_ tree since issues
  exact works.congr { works.engine with } rfl rfl rfl

theorem Works.classify (works : s.Works c most call []) (typed : c.WellTyped) (tree : Tree)
    (since : Float) {found : List Occurrence} (rated : ∀ o ∈ found, o.Rated) :
    (s.classify 0 call tree since found).Ended c most := by
  obtain ⟨rules, issues, classified⟩ :=
    Classifier.standard_classifyAll works.engine.rules tree.language rated
  obtain ⟨flags, table⟩ := typed.flags
  obtain ⟨selected, chosen⟩ := Engine.exists_select table issues
  unfold Session.classify
  generalize s.engine.classifier.classifyAll tree.language found = out at rules classified
  obtain ⟨classifier, answer, logs⟩ := out
  dsimp only at rules classified ⊢
  subst classified
  have answered : (Except.ok issues).bind (Engine.select call.config) = .ok selected := by
    rw [works.config]
    exact chosen
  rw [answered]
  refine Works.submit ?_ tree since selected
  exact works.congr { works.engine with rules } rfl rfl rfl

/-- The search is interrupted only because the call was overtaken. -/
theorem Works.detect (works : s.Works c most call []) (typed : c.WellTyped) (within : c.WithinDoubles)
    (tree : Tree) (since : Float) : (s.detect 0 call tree since).Ended c most := by
  obtain ⟨keeps, outcome⟩ := works.engine.keeps.detect works.engine.queries
    (Config.settings_sound typed within) tree (s.engine.parser.arena tree.arena) (s.checkpoint call)
  have queries := Detector.queries_detect s.engine.detector c.settings tree
    (s.engine.parser.arena tree.arena) (s.checkpoint call)
  unfold Session.detect Session.search
  dsimp only
  rw [works.config]
  generalize s.engine.detector.detect c.settings tree (s.engine.parser.arena tree.arena)
    (s.checkpoint call) = out at keeps outcome queries ⊢
  obtain ⟨detector, result⟩ := out
  dsimp only at keeps outcome queries ⊢
  have works' : ({ s with engine := { s.engine with detector } } : Session σ).Works c most call [] :=
    works.congr { works.engine with keeps, queries := queries.trans works.engine.queries } rfl rfl rfl
  rcases outcome with ⟨n, fault, stopped, rfl⟩ | ⟨found, rfl, rated⟩
  · -- The queries stop only if a newer text came in, which is not a failure of the call.
    unfold checkpoint at stopped
    split at stopped
    · cases stopped
    · cases stopped
      exact works'.abandon since
  · exact works'.classify typed tree since rated

theorem Works.due (works : s.Works c most call []) {stage : CallStage} {tree : Tree} {since : Float}
    (n : Nat) (detecting : stage = .detecting tree since) : (s.goOn 0 stage).Due c most (n + 1) :=
  .detecting (works.goOn stage) detecting

theorem Works.parse (works : s.Works c most call []) (since : Float) (n : Nat) :
    (s.parse 0 call since).Due c most (n + 1) := by
  unfold Session.parse
  dsimp only
  generalize call.meanwhile.recordIn s.engine.tracker call.request.file = tracker
  generalize s.engine.parser.parse call.revision (s.engine.trees.get? call.request.file) = out
  generalize later : Session.log _ out.logs = s₁
  have works' : s₁.Works c most call [] := by
    rw [← later]
    exact works.congr { works.engine with } rfl rfl rfl
  split
  · exact works'.due n rfl
  · exact .ended (works'.abandon since)

theorem Works.enterSlot (works : s.Works c most call []) (n : Nat) :
    (s.enterSlot 0 call).Due c most (n + 2) := by
  unfold Session.enterSlot
  dsimp only
  split
  · split
    · exact works.due (n + 1) rfl
    · exact .ended (works.abandon _)
  · exact .parsing (works.goOn _) rfl

/-- A call that has the engine to itself gets a slot at once. -/
theorem Single.enterFile (single : s.Single c most none call [])
    (line : s.lines.get? call.request.file = some [0]) (n : Nat) :
    (s.enterFile 0 call).Due c most (n + 2) := by
  unfold Session.enterFile
  split
  · exact .ended ((single.leaveLine line).finish _)
  · obtain ⟨w, acquired, serial⟩ := single.engine.serial.acquire call.request.workspace 0
    rw [acquired]
    have limits : (s.engine.scheduler.set call.request.workspace w).settings = c.scheduling :=
      single.engine.limits
    generalize s.engine.scheduler.set call.request.workspace w = scheduler at serial limits
    have works : ({ s with engine := { s.engine with scheduler } } : Session σ).Works c most call [] :=
      ⟨⟨{ single.engine with limits, serial }, single.calls, single.config, single.ready⟩, line⟩
    exact works.enterSlot n

theorem Single.joinLine (single : s.Single c most none call []) (lines : s.lines = []) (n : Nat) :
    (s.joinLine 0 call).Due c most (n + 2) := by
  unfold Session.joinLine
  rw [lines]
  generalize joined : ({ s with lines := Table.set call.request.file [0] [] } : Session σ) = s₁
  have single' : s₁.Single c most none call [] := by
    rw [← joined]
    exact ⟨single.engine, single.calls, single.config, single.ready⟩
  have line : s₁.lines.get? call.request.file = some [0] := by
    rw [← joined]
    exact Table.get?_set_self [] call.request.file [0]
  subst joined
  exact single'.enterFile line n

/-- The single call takes its step. -/
theorem Due.step {n : Nat} (typed : c.WellTyped) (within : c.WithinDoubles)
    (due : s.Due c most (n + 1)) {ticket : Nat} {rest : List Nat} (turn : s.ready = ticket :: rest) :
    ({ s with ready := rest }.step ticket : Session σ).Due c most n := by
  -- Whatever the stage, the turn is the one of the single call, and no other one is due.
  have taken {busy : Option String} {call : Call} (single : s.Single c most busy call [0]) :
      ticket = 0 ∧ rest = [] ∧ s.calls[ticket]? = some call := by
    rw [single.ready] at turn
    cases turn
    rw [single.calls]
    exact ⟨rfl, rfl, rfl⟩
  generalize reached : n + 1 = m at due
  cases due with
  | ended ended =>
    obtain ⟨call, result, single, -⟩ := ended
    rw [single.ready] at turn
    cases turn
  | detecting works stage =>
    cases reached
    obtain ⟨rfl, rfl, call⟩ := taken works.toSingle
    unfold Session.step
    dsimp only
    rw [call]
    dsimp only
    rw [stage]
    exact .ended (works.take.detect typed within _ _)
  | parsing works stage =>
    cases reached
    obtain ⟨rfl, rfl, call⟩ := taken works.toSingle
    unfold Session.step
    dsimp only
    rw [call]
    dsimp only
    rw [stage]
    exact works.take.parse _ _
  | heldBack single stage lines =>
    cases reached
    obtain ⟨rfl, rfl, call⟩ := taken single
    unfold Session.step
    dsimp only
    rw [call]
    dsimp only
    rw [stage]
    dsimp only
    split
    · exact single.take.joinLine lines _
    · exact .ended (single.take.finish _)

theorem Due.size_calls {n : Nat} (due : s.Due c most n) : s.calls.size = 1 := by
  have size {busy : Option String} {call : Call} {ready : List Nat}
      (single : s.Single c most busy call ready) : s.calls.size = 1 := by
    rw [single.calls]
    rfl
  cases due with
  | ended ended =>
    obtain ⟨call, result, single, -⟩ := ended
    exact size single
  | detecting works => exact size works.toSingle
  | parsing works => exact size works.toSingle
  | heldBack single => exact size single

/-- Turns are taken until the single call is over. -/
theorem Due.settleWith {n : Nat} (typed : c.WellTyped) (within : c.WithinDoubles)
    (due : s.Due c most n) : (settleWith n s).Ended c most := by
  induction n generalizing s with
  | zero =>
    cases due with
    | ended ended => exact ended
  | succ n ih =>
    unfold Session.settleWith
    split
    · next idle =>
      cases due with
      | ended ended => exact ended
      | detecting works => cases idle.symm.trans works.ready
      | parsing works => cases idle.symm.trans works.ready
      | heldBack single => cases idle.symm.trans single.ready
    · next ticket rest turn => exact ih (due.step typed within turn)

/-- A call that comes to an engine that is not busy is held back for as long as the engine can say, or is
taken up at once. -/
theorem due_enter (engine : s.engine.Ready c most none) (calls : s.calls = #[]) (ready : s.ready = [])
    (lines : s.lines = []) (request : AnalysisRequest) (meanwhile : Meanwhile) (revision : Revision) :
    (s.enter request meanwhile revision).Due c most 7 := by
  obtain ⟨pause, paused⟩ : ∃ pause, (s.engine.scheduler.debounce request.workspace).real = .ok pause :=
    ⟨_, Number.real_eq_ok_iff.2 ⟨engine.serial.debounce request.workspace, rfl⟩⟩
  generalize entering :
    ({ request, meanwhile, config := s.engine.config, revision, stage := .heldBack } : Call) = call
  have stage : call.stage = .heldBack := by
    rw [← entering]
  have single : (s.opened request meanwhile revision .heldBack).Single c most none call [] := by
    refine ⟨engine, ?_, ?_, ready⟩
    · unfold opened
      dsimp only
      rw [calls, entering]
      rfl
    · rw [← entering]
      exact engine.config
  unfold enter
  dsimp only
  rw [paused, calls, entering]
  dsimp only
  split
  · refine .heldBack ⟨single.engine, single.calls, single.config, ?_⟩ stage lines
    unfold wake
    dsimp only
    rw [single.ready]
    rfl
  · exact single.joinLine lines 5

end Session

/-- The result of a session whose single call is over. -/
theorem Session.Ended.results {σ : Type} {s : Session σ} {c : Config} {most : Int}
    (ended : s.Ended c most) : ∃ result, s.results = [.ok result] := by
  obtain ⟨call, result, single, closed⟩ := ended
  refine ⟨result, ?_⟩
  unfold Session.results
  rw [single.calls]
  change [s.resultOf call] = _
  unfold resultOf
  rw [closed]

/-- An analysis that has the engine to itself comes to an end with a result. -/
theorem Engine.Ready.analyze {σ : Type} {e : Engine} {c : Config} {most : Int}
    (ready : e.Ready c most none) (typed : c.WellTyped) (within : c.WithinDoubles)
    (offline : c.hasRemote = false) (clock : Float) (transport : Transport σ) (remote : σ)
    (request : AnalysisRequest) (meanwhile : Meanwhile) :
    (e.analyze clock transport remote request meanwhile).Ended c most := by
  obtain ⟨journal, logs, applied⟩ := ready.applyConfig offline
  have due : ((e.session clock transport remote).begin request meanwhile).Due c most 7 := by
    unfold Session.begin Engine.session
    dsimp only
    rw [applied]
    dsimp only
    unfold Session.accept
    dsimp only
    refine Session.due_enter ?_ rfl rfl rfl request meanwhile _
    exact { ready with }
  unfold Engine.analyze Session.settle
  rw [due.size_calls]
  exact due.settleWith typed within

end LiveLint
