import LiveLint.Proofs.Engine.Coherence

/-!
# What a step does

A call that takes its step either leaves the trees and the analyzed revisions alone, or it comes to its
end with the latest revision of its file. The operations of a call are followed from its end back to
its beginning: each hands over to one that was dealt with before.
-/

namespace LiveLint

namespace Engine

theorem SameWork.refl (e : Engine) : e.SameWork e := ⟨rfl, rfl, rfl, rfl⟩

theorem SameWork.trans {e₁ e₂ e₃ : Engine} (first : e₁.SameWork e₂) (second : e₂.SameWork e₃) :
    e₁.SameWork e₃ where
  tracker := second.tracker.trans first.tracker
  trees := second.trees.trans first.trees
  workspaces := second.workspaces.trans first.workspaces
  queries := second.queries.trans first.queries

theorem sameWork_applyCache (e : Engine) : e.SameWork e.applyCache.1 := by
  unfold applyCache
  dsimp only
  split <;> exact ⟨rfl, rfl, rfl, rfl⟩

theorem sameWork_applyRemote {e e' : Engine} {logs : List Log.Record}
    (applied : e.applyRemote = .ok (e', logs)) : e.SameWork e' := by
  unfold applyRemote at applied
  cases root : endpoint e.config with
  | error fault =>
    simp only [root, bind, Except.bind] at applied
    cases applied
  | ok found =>
    simp only [root, bind, Except.bind] at applied
    split at applied
    · cases applied
      exact SameWork.refl _
    · cases way : gatewayOf e.config with
      | error fault =>
        rw [way] at applied
        cases applied
      | ok gateway =>
        rw [way] at applied
        cases applied
        exact ⟨rfl, rfl, rfl, rfl⟩

/-- To apply the configuration changes nothing that calls share. -/
theorem sameWork_applyConfig (e : Engine) : e.SameWork e.applyConfig.1 := by
  have limits : e.SameWork { e with scheduler := e.scheduler.configure e.config.scheduling } :=
    ⟨rfl, rfl, rfl, rfl⟩
  have cache := limits.trans (sameWork_applyCache _)
  unfold applyConfig
  dsimp only
  split
  · next applied => exact cache.trans (sameWork_applyRemote applied)
  · exact cache

end Engine

namespace Session

variable {σ : Type}

/-- A call did not keep its tree, and if it has ended without a fault it was overtaken or turned
away. -/
structure Spares (s : Session σ) (i : Nat) (s' : Session σ) : Prop where
  trees : s'.engine.trees = s.engine.trees
  analyzed : s'.engine.tracker.analyzed = s.engine.tracker.analyzed
  result : ∀ (c : Call) (result : AnalysisResult), s'.calls[i]? = some c →
    c.stage = .finished (.ok result) →
      result.status = .superseded ∨ result.status = .retryLater

/-- A call has come to its end with the latest revision of its file. -/
structure Publishes (i : Nat) (s' : Session σ) : Prop where
  ended : ∃ c result, s'.calls[i]? = some c ∧ c.stage = .finished result ∧
    s'.engine.tracker.latest.get? c.revision.file = some c.revision ∧
    ∀ answer, result = .ok answer →
      answer.status ≠ .superseded ∧ answer.status ≠ .retryLater

/-- What becomes of a session when a call takes its step. -/
structure Follows (s : Session σ) (i : Nat) (s' : Session σ) : Prop where
  queues : s'.Queues none
  coherent : s'.Coherent
  others : ∀ t : Nat, t ≠ i → s'.calls[t]? = s.calls[t]?
  effect : s.Spares i s' ∨ Publishes i s'

structure AtTurn (s : Session σ) (i : Nat) (c : Call) : Prop where
  queues : s.Queues (some i)
  coherent : s.Coherent
  call : s.calls[i]? = some c
  unfinished : c.stage.isFinished = false

def IsFirst (s : Session σ) (i : Nat) (c : Call) : Prop := (s.line c.request.file).head? = some i

/-- A step may be prepared by what does not concern the calls, the trees and the analyzed
revisions. -/
theorem Follows.after {s s₁ s' : Session σ} {i : Nat} (follows : s₁.Follows i s')
    (calls : s₁.calls = s.calls) (trees : s₁.engine.trees = s.engine.trees)
    (analyzed : s₁.engine.tracker.analyzed = s.engine.tracker.analyzed) : s.Follows i s' where
  queues := follows.queues
  coherent := follows.coherent
  others := by
    rw [← calls]
    exact follows.others
  effect := by
    rcases follows.effect with spares | publishes
    · exact Or.inl ⟨spares.trees.trans trees, spares.analyzed.trans analyzed, spares.result⟩
    · exact Or.inr publishes

/-- To move a call to a stage touches neither trees nor revisions, nor any other call. -/
theorem follows_moveTo {s : Session σ} {i : Nat} {c : Call} {stage : CallStage}
    (queues : (s.moveTo i stage).Queues none) (coherent : s.Coherent) (call : s.calls[i]? = some c)
    (unfinished : c.stage.isFinished = false)
    (fits : stage.Fits s.engine.tracker c.request c.revision)
    (spared : ∀ answer, stage = .finished (.ok answer) →
      answer.status = .superseded ∨ answer.status = .retryLater) : s.Follows i (s.moveTo i stage) where
  queues
  coherent := coherent.moveTo call unfinished fits
  others t other := getElem?_moveTo_of_ne s other stage
  effect := by
    refine Or.inl ⟨rfl, rfl, ?_⟩
    intro c' answer call' closed
    cases (getElem?_moveTo_self call _).symm.trans call'
    exact spared answer closed

theorem SameWork.isFirst {s s₁ : Session σ} (same : s.SameWork s₁) {i : Nat} {c : Call}
    (first : s.IsFirst i c) : s₁.IsFirst i c := by
  unfold IsFirst
  rw [line_congr same.lines]
  exact first

namespace AtTurn

variable {s s₁ : Session σ} {i : Nat} {c : Call}

theorem congr (turn : s.AtTurn i c) (same : s.SameWork s₁) : s₁.AtTurn i c where
  queues := turn.queues.congr same.calls same.ready same.lines same.workspaces
  coherent := turn.coherent.congr same.calls same.tracker same.trees same.queries
  call := by
    rw [same.calls]
    exact turn.call
  unfinished := turn.unfinished

/-- The revision of a call at turn was recorded for it. -/
theorem recorded (turn : s.AtTurn i c) : c.revision.IsOf s.engine.tracker c.request := by
  refine (turn.coherent.call i c turn.call).recorded ?_
  intro fault closed
  have unfinished := turn.unfinished
  rw [closed] at unfinished
  cases unfinished

/-- A call at turn that is not current was overtaken. -/
theorem overtaken (turn : s.AtTurn i c) (stale : s.isCurrent c = false) :
    s.engine.tracker.Overtaken c.revision :=
  turn.recorded.known.overtaken stale

/-- To report that a call was overtaken fits a call that was. -/
theorem fits_superseded (turn : s.AtTurn i c) (stale : s.isCurrent c = false) (s₁ : Session σ) :
    (CallStage.finished (.ok (s₁.report c .superseded))).Fits s.engine.tracker c.request c.revision :=
  ⟨rfl, rfl, fun _ => ⟨rfl, turn.overtaken stale⟩⟩

/-- A call that gives its slot back is over. It has ended as it was told to, or with a fault, and
neither a tree nor a revision is touched. -/
theorem leave (turn : s.AtTurn i c) (first : s.IsFirst i c) (since : Float)
    (how : Session σ → Except Fault AnalysisResult)
    (fits : ∀ s₁, (CallStage.finished (how s₁)).Fits s.engine.tracker c.request c.revision) :
    (s.leave i c since how).Queues none ∧ (s.leave i c since how).Coherent ∧
      (∀ t : Nat, t ≠ i → (s.leave i c since how).calls[t]? = s.calls[t]?) ∧
      (s.leave i c since how).engine.trees = s.engine.trees ∧
      (s.leave i c since how).engine.tracker = s.engine.tracker ∧
      ∃ result, (s.leave i c since how).calls[i]? = some { c with stage := .finished result } ∧
        ((∃ fault, result = .error fault) ∨ ∃ s₁, result = how s₁) := by
  unfold Session.leave
  dsimp only
  generalize released : s.engine.scheduler.release c.request.workspace _ = out
  generalize freed :
    ({ s with engine := { s.engine with scheduler := out.scheduler } } : Session σ) = s₁
  have queues := turn.queues.release c.request.workspace _ released freed.symm
  generalize passed : (out.next.map s₁.wake).getD s₁ = s₂ at queues ⊢
  have calls : s₂.calls = s.calls := by
    rw [← passed, wake_next, ← freed]
  have lines : s₂.lines = s.lines := by
    rw [← passed, wake_next, ← freed]
  have tracker : s₂.engine.tracker = s.engine.tracker := by
    rw [← passed, wake_next, ← freed]
  have trees : s₂.engine.trees = s.engine.trees := by
    rw [← passed, wake_next, ← freed]
  have queries : s₂.engine.detector.queries = s.engine.detector.queries := by
    rw [← passed, wake_next, ← freed]
  have call : s₂.calls[i]? = some c := by
    rw [calls]
    exact turn.call
  have front : (s₂.line c.request.file).head? = some i := by
    rw [line_congr lines]
    exact first
  have coherent : (s₂.leaveLine c.request.file).Coherent := by
    refine turn.coherent.congr ?_ ?_ ?_ ?_
    · rw [calls_leaveLine, calls]
    · rw [engine_leaveLine, tracker]
    · rw [engine_leaveLine, trees]
    · rw [engine_leaveLine, queries]
  have call' : (s₂.leaveLine c.request.file).calls[i]? = some c := by
    rw [calls_leaveLine]
    exact call
  generalize told : (out.fault.map Except.error).getD (how (s₂.leaveLine c.request.file)) = result
  have kind : (∃ fault, result = .error fault) ∨ ∃ s₁, result = how s₁ := by
    cases broken : out.fault with
    | none =>
      rw [broken] at told
      exact Or.inr ⟨_, told.symm⟩
    | some fault =>
      rw [broken] at told
      exact Or.inl ⟨fault, told.symm⟩
  have fitting : (CallStage.finished result).Fits s.engine.tracker c.request c.revision := by
    rcases kind with ⟨fault, failed⟩ | ⟨s₁, answered⟩
    · rw [failed]
      trivial
    · rw [answered]
      exact fits s₁
  refine ⟨queues.finished call front result, coherent.moveTo call' turn.unfinished ?_, ?_, ?_, ?_,
    result, getElem?_moveTo_self call' _, kind⟩
  · rw [engine_leaveLine, tracker]
    exact fitting
  · intro t other
    rw [getElem?_moveTo_of_ne _ other, calls_leaveLine, calls]
  · exact (congrArg Engine.trees (engine_leaveLine s₂ _)).trans trees
  · exact (congrArg Engine.tracker (engine_leaveLine s₂ _)).trans tracker

/-- A call that gives its slot back without an answer of its own is spared. -/
theorem leave_spared (turn : s.AtTurn i c) (first : s.IsFirst i c) (since : Float)
    {how : Session σ → Except Fault AnalysisResult}
    (fits : ∀ s₁, (CallStage.finished (how s₁)).Fits s.engine.tracker c.request c.revision)
    (spared : ∀ s₁ answer, how s₁ = .ok answer →
      answer.status = .superseded ∨ answer.status = .retryLater) :
    s.Follows i (s.leave i c since how) := by
  obtain ⟨queues, coherent, others, trees, tracker, result, call, kind⟩ := turn.leave first since how fits
  refine ⟨queues, coherent, others, Or.inl ⟨trees, congrArg Tracker.analyzed tracker, ?_⟩⟩
  intro c' answer call' closed
  cases call.symm.trans call'
  cases closed
  rcases kind with ⟨fault, failed⟩ | ⟨s₁, answered⟩
  · cases failed
  · exact spared s₁ answer answered.symm

theorem abandon (turn : s.AtTurn i c) (first : s.IsFirst i c) (since : Float)
    (stale : s.isCurrent c = false) : s.Follows i (s.abandon i c since) := by
  refine turn.leave_spared first since (turn.fits_superseded stale) ?_
  rintro s₁ answer ⟨⟩
  exact Or.inl rfl

theorem fail (turn : s.AtTurn i c) (first : s.IsFirst i c) (since : Float) (fault : Fault) :
    s.Follows i (s.fail i c since fault) := by
  refine turn.leave_spared first since (fun _ => trivial) ?_
  rintro s₁ answer ⟨⟩

end AtTurn

/-- What is reported about a call that came to its end is about its file and its revision. -/
theorem outcome_about (s : Session σ) (c : Call) (tree : Tree) (issues : List Issue) :
    (s.outcome c tree issues).file = c.request.file ∧
      (s.outcome c tree issues).revision = c.revision.number ∧
      (s.outcome c tree issues).status ≠ .superseded ∧
      (s.outcome c tree issues).status ≠ .retryLater := by
  unfold outcome
  split
  · exact ⟨rfl, rfl, nofun, nofun⟩
  · split <;> exact ⟨rfl, rfl, nofun, nofun⟩

namespace AtTurn

variable {s s₁ : Session σ} {i : Nat} {c : Call}

/-- A call comes to its end only with the latest revision of its file. -/
theorem publish (turn : s.AtTurn i c) (first : s.IsFirst i c) {tree : Tree} (since : Float)
    (issues : List Issue) (number : tree.revision = c.revision.number)
    (text : tree.source = c.revision.text) : s.Follows i (s.publish i c tree since issues) := by
  unfold Session.publish
  by_cases current : s.isCurrent c = true
  · rw [if_neg (by simp [current])]
    obtain ⟨known, filed, -⟩ := turn.recorded
    have latest := known.isCurrent_iff.1 current
    dsimp only
    rw [← filed]
    generalize kept : ({ s with
      engine := { s.engine with
        trees := s.engine.trees.set c.revision.file tree
        tracker := (s.engine.tracker.markAnalyzed c.revision).1 } } : Session σ) = s₁
    have marked : s₁.engine.tracker = (s.engine.tracker.markAnalyzed c.revision).1 := by
      rw [← kept]
    have turn' : s₁.AtTurn i c := by
      subst kept
      exact
        { queues := turn.queues.congr rfl rfl rfl rfl
          coherent := turn.coherent.markAnalyzed latest number text
          call := turn.call
          unfinished := turn.unfinished }
    have first' : s₁.IsFirst i c := by
      subst kept
      exact first
    obtain ⟨queues, coherent, others, -, tracker, result, call, kind⟩ :=
      turn'.leave first' since (fun s => .ok (s.outcome c tree issues)) <| by
        intro s₂
        obtain ⟨file, revision, status, -⟩ := s₂.outcome_about c tree issues
        exact ⟨file, revision, fun overtaken => absurd overtaken status⟩
    refine ⟨queues, coherent, ?_, Or.inr ⟨_, result, call, rfl, ?_, ?_⟩⟩
    · intro t other
      rw [others t other, ← kept]
    · rw [tracker, marked, Tracker.latest_markAnalyzed]
      exact latest
    · rintro answer rfl
      rcases kind with ⟨fault, failed⟩ | ⟨s₂, answered⟩
      · cases failed
      · cases answered
        exact (s₂.outcome_about c tree issues).2.2
  · have stale : s.isCurrent c = false := Bool.eq_false_iff.2 current
    rw [if_pos (by simp [stale])]
    exact turn.abandon first since stale

/-- A call that works goes on with its work. -/
theorem goOn (turn : s.AtTurn i c) (first : s.IsFirst i c) {stage : CallStage}
    (running : stage.isRunning = true)
    (fits : stage.Fits s.engine.tracker c.request c.revision) : s.Follows i (s.goOn i stage) where
  queues := turn.queues.goOn turn.call first running
  coherent := (turn.coherent.moveTo turn.call turn.unfinished fits).congr rfl rfl rfl rfl
  others t other := getElem?_moveTo_of_ne s other stage
  effect := by
    refine Or.inl ⟨rfl, rfl, ?_⟩
    intro c' result call closed
    have moved : some { c with stage } = some c' :=
      (getElem?_moveTo_self turn.call stage).symm.trans call
    cases moved
    cases closed
    cases running

theorem refineFrom (turn : s.AtTurn i c) (first : s.IsFirst i c) {tree : Tree} (since : Float)
    (r : Refinement) (number : tree.revision = c.revision.number)
    (text : tree.source = c.revision.text) : s.Follows i (s.refineFrom i c tree since r) := by
  unfold Session.refineFrom
  split
  · exact turn.publish first since _ number text
  · exact turn.fail first since _
  · exact turn.goOn first rfl ⟨number, text⟩

theorem refine (turn : s.AtTurn i c) (first : s.IsFirst i c) {tree : Tree} (since : Float)
    (r : Refinement) (number : tree.revision = c.revision.number)
    (text : tree.source = c.revision.text) : s.Follows i (s.refine i c tree since r) := by
  unfold Session.refine
  have same (gateway : Gateway) (remote : σ) (logs : List Log.Record) :
      s.SameWork (Session.log { s with engine := { s.engine with gateway }, remote } logs) :=
    ⟨⟨rfl, rfl, rfl, rfl⟩, rfl, rfl, rfl⟩
  exact ((turn.congr (same ..)).refineFrom ((same ..).isFirst first) since _ number text).after rfl rfl rfl

theorem submit (turn : s.AtTurn i c) (first : s.IsFirst i c) {tree : Tree} (since : Float)
    (issues : List Issue) (number : tree.revision = c.revision.number)
    (text : tree.source = c.revision.text) : s.Follows i (s.submit i c tree since issues) := by
  unfold Session.submit
  have same (gateway : Gateway) (logs : List Log.Record) :
      s.SameWork (Session.log { s with engine := { s.engine with gateway } } logs) :=
    ⟨⟨rfl, rfl, rfl, rfl⟩, rfl, rfl, rfl⟩
  exact ((turn.congr (same ..)).refineFrom ((same ..).isFirst first) since _ number text).after rfl rfl rfl

theorem classify (turn : s.AtTurn i c) (first : s.IsFirst i c) {tree : Tree} (since : Float)
    (found : List Occurrence) (number : tree.revision = c.revision.number)
    (text : tree.source = c.revision.text) : s.Follows i (s.classify i c tree since found) := by
  unfold Session.classify
  have same (classifier : Classifier) (logs : List Log.Record) :
      s.SameWork (Session.log { s with engine := { s.engine with classifier } } logs) :=
    ⟨⟨rfl, rfl, rfl, rfl⟩, rfl, rfl, rfl⟩
  dsimp only
  split
  · exact ((turn.congr (same ..)).submit ((same ..).isFirst first) since _ number text).after rfl rfl rfl
  · exact ((turn.congr (same ..)).fail ((same ..).isFirst first) since _).after rfl rfl rfl

/-- The answers a search was given may have been stale refusals only. -/
theorem search (turn : s.AtTurn i c) (first : s.IsFirst i c) {tree : Tree} (since : Float)
    {checkpoint : Detector.Checkpoint}
    (stale : ∀ n fault, checkpoint n = some fault → s.isCurrent c = false)
    (number : tree.revision = c.revision.number) (text : tree.source = c.revision.text) :
    s.Follows i (s.search i c tree since checkpoint) := by
  unfold Session.search
  dsimp only
  generalize searched : s.engine.detector.detect _ _ _ _ = out
  have kept : out.1.queries = s.engine.detector.queries := by
    rw [← searched]
    exact Detector.queries_detect ..
  have same : s.SameWork { s with engine := { s.engine with detector := out.1 } } :=
    ⟨⟨rfl, rfl, rfl, kept⟩, rfl, rfl, rfl⟩
  split
  · exact ((turn.congr same).classify (same.isFirst first) since _ number text).after rfl rfl rfl
  · next file revision latest failed =>
    rw [← searched] at failed
    obtain ⟨n, refused⟩ := Detector.detect_superseded turn.coherent.sincere failed
    exact ((turn.congr same).abandon (same.isFirst first) since (stale n _ refused)).after rfl rfl rfl
  · exact ((turn.congr same).fail (same.isFirst first) since _).after rfl rfl rfl

/-- While a file is parsed a new text may be recorded; then the call is overtaken. -/
theorem parse (turn : s.AtTurn i c) (first : s.IsFirst i c) (since : Float) :
    s.Follows i (s.parse i c since) := by
  obtain ⟨number, text⟩ := s.engine.parser.tree_parse c.revision
    (s.engine.trees.get? c.request.file) .nothing none
  obtain ⟨coherent, analyzed⟩ := turn.coherent.recordIn c.meanwhile c.request.file
  unfold Session.parse
  dsimp only
  generalize s.engine.parser.parse c.revision _ _ _ = out at number text ⊢
  generalize parsed : Session.log { s with
      clock := s.clock + c.meanwhile.seconds
      engine := { s.engine with
        tracker := c.meanwhile.recordIn s.engine.tracker c.request.file
        parser := out.parser } } out.logs = s₁
  have calls : s₁.calls = s.calls := by
    rw [← parsed]
    rfl
  have trees : s₁.engine.trees = s.engine.trees := by
    rw [← parsed]
    rfl
  have kept : s₁.engine.tracker.analyzed = s.engine.tracker.analyzed := by
    rw [← parsed]
    exact analyzed
  have turn' : s₁.AtTurn i c := by
    subst parsed
    exact
      { queues := turn.queues.congr rfl rfl rfl rfl
        coherent := coherent.congr rfl rfl rfl rfl
        call := turn.call
        unfinished := turn.unfinished }
  have first' : s₁.IsFirst i c := by
    subst parsed
    exact first
  by_cases current : s₁.isCurrent c = true
  · rw [if_pos current]
    have fits : (CallStage.detecting out.tree since).Fits s₁.engine.tracker c.request c.revision :=
      ⟨number, text⟩
    exact (turn'.goOn first' rfl fits).after calls trees kept
  · rw [if_neg current]
    exact (turn'.abandon first' since (Bool.eq_false_iff.2 current)).after calls trees kept

theorem enterSlot (turn : s.AtTurn i c) (first : s.IsFirst i c) : s.Follows i (s.enterSlot i c) := by
  unfold Session.enterSlot
  dsimp only
  split
  · next tree kept =>
    obtain ⟨number, text⟩ : tree.revision = c.revision.number ∧ tree.source = c.revision.text := by
      have fitting := (Option.filter_eq_some_iff.1 kept).2
      simpa using fitting
    by_cases current : s.isCurrent c = true
    · rw [if_pos current]
      exact turn.goOn first rfl ⟨number, text⟩
    · rw [if_neg current]
      exact turn.abandon first _ (Bool.eq_false_iff.2 current)
  · exact turn.goOn first rfl trivial

/-- The first call in line is over before it has a slot. -/
theorem turnAway (turn : s.AtTurn i c) (first : s.IsFirst i c)
    {result : Except Fault AnalysisResult}
    (fits : (CallStage.finished result).Fits s.engine.tracker c.request c.revision)
    (spared : ∀ answer, result = .ok answer →
      answer.status = .superseded ∨ answer.status = .retryLater) :
    s.Follows i ((s.leaveLine c.request.file).moveTo i (.finished result)) := by
  have call : (s.leaveLine c.request.file).calls[i]? = some c := by
    rw [calls_leaveLine]
    exact turn.call
  have engine : (s.leaveLine c.request.file).engine = s.engine := engine_leaveLine s _
  have coherent : (s.leaveLine c.request.file).Coherent := by
    refine turn.coherent.congr (calls_leaveLine ..) ?_ ?_ ?_ <;> rw [engine]
  have follows := follows_moveTo (turn.queues.finished turn.call first result) coherent call turn.unfinished
    (by rw [engine]; exact fits) (by rintro answer ⟨⟩; exact spared answer rfl)
  exact follows.after (calls_leaveLine ..) (congrArg Engine.trees engine)
    (congrArg (·.tracker.analyzed) engine)

/-- The first call in line asks for a slot, unless it was overtaken. -/
theorem enterFile (turn : s.AtTurn i c) (first : s.IsFirst i c) : s.Follows i (s.enterFile i c) := by
  unfold Session.enterFile
  by_cases current : s.isCurrent c = true
  · rw [if_neg (by simp [current])]
    dsimp only
    have asked := s.engine.scheduler.tickets_acquire c.request.workspace i
    generalize s.engine.scheduler.acquire c.request.workspace i = out at asked ⊢
    obtain ⟨scheduler, admission⟩ := out
    generalize changed : ({ s with engine := { s.engine with scheduler } } : Session σ) = s₁
    have calls : s₁.calls = s.calls := by rw [← changed]
    have trees : s₁.engine.trees = s.engine.trees := by rw [← changed]
    have tracker : s₁.engine.tracker = s.engine.tracker := by rw [← changed]
    rcases asked with ⟨waits, joined, others⟩ | ⟨moves, kept⟩
    · cases waits
      dsimp only
      have queues := turn.queues.queued turn.call first joined others
      rw [changed] at queues
      have coherent : s₁.Coherent := turn.coherent.congr calls tracker trees (by rw [← changed])
      have call : s₁.calls[i]? = some c := by
        rw [calls]
        exact turn.call
      exact (follows_moveTo queues coherent call turn.unfinished trivial nofun).after calls trees
        (congrArg Tracker.analyzed tracker)
    · have turn' : s₁.AtTurn i c := by
        subst changed
        exact
          { queues := turn.queues.reschedule fun name => (kept name).symm ▸ List.suffix_refl _
            coherent := turn.coherent.congr rfl rfl rfl rfl
            call := turn.call
            unfinished := turn.unfinished }
      have first' : s₁.IsFirst i c := by
        subst changed
        exact first
      cases admission with
      | granted =>
        exact (turn'.enterSlot first').after calls trees (congrArg Tracker.analyzed tracker)
      | queued => exact absurd rfl moves
      | refused f =>
        have fits : (CallStage.finished (.ok ((s₁.leaveLine c.request.file).report c .retryLater))).Fits
            s₁.engine.tracker c.request c.revision := ⟨rfl, rfl, nofun⟩
        refine (turn'.turnAway first' fits ?_).after calls trees (congrArg Tracker.analyzed tracker)
        rintro answer ⟨⟩
        exact Or.inr rfl
      | failed f =>
        have fits : (CallStage.finished (.error f)).Fits s₁.engine.tracker c.request c.revision :=
          trivial
        refine (turn'.turnAway first' fits ?_).after calls trees (congrArg Tracker.analyzed tracker)
        rintro answer ⟨⟩
  · have stale : s.isCurrent c = false := Bool.eq_false_iff.2 current
    rw [if_pos (by simp [stale])]
    refine turn.turnAway first (turn.fits_superseded stale _) ?_
    rintro answer ⟨⟩
    exact Or.inl rfl

/-- A call that was held back joins the line of its file. -/
theorem joinLine (turn : s.AtTurn i c) (outside : ∀ file, i ∉ s.line file) :
    s.Follows i (s.joinLine i c) := by
  have queues := turn.queues.joinLine turn.call outside
  unfold Session.joinLine
  change s.Follows i
    (if (s.line c.request.file).isEmpty then
      Session.enterFile
        { s with lines := s.lines.set c.request.file (s.line c.request.file ++ [i]) } i c
    else
      Session.moveTo
        { s with lines := s.lines.set c.request.file (s.line c.request.file ++ [i]) } i .inLine)
  have turn' : AtTurn
      { s with lines := s.lines.set c.request.file (s.line c.request.file ++ [i]) } i c :=
    { queues
      coherent := turn.coherent.congr rfl rfl rfl rfl
      call := turn.call
      unfinished := turn.unfinished }
  by_cases empty : (s.line c.request.file).isEmpty = true
  · rw [if_pos empty]
    have first : IsFirst
        { s with lines := s.lines.set c.request.file (s.line c.request.file ++ [i]) } i c := by
      unfold IsFirst
      rw [line_set_self, List.isEmpty_iff.1 empty]
      rfl
    exact (turn'.enterFile first).after rfl rfl rfl
  · rw [if_neg empty]
    have spared : ∀ answer, CallStage.inLine = .finished (.ok answer) →
        answer.status = .superseded ∨ answer.status = .retryLater := nofun
    refine Follows.after (follows_moveTo ?_ turn'.coherent turn'.call turn.unfinished trivial spared) rfl rfl
      rfl
    exact queues.moveTo turn'.call (fun _ _ => rfl) nofun

end AtTurn

/-- A call that is at turn takes its step, with the others where they were. -/
theorem step_follows {s : Session σ} (queues : s.Queues none) (coherent : s.Coherent) {i : Nat}
    (ready : i ∈ s.ready) : s.Follows i ((s.take i).step i) := by
  obtain ⟨-, c, call, unfinished⟩ := queues.ready_open i ready
  have turn : (s.take i).AtTurn i c :=
    ⟨queues.take ready, coherent.congr rfl rfl rfl rfl, call, unfinished⟩
  have holds (stage : c.stage.holdsFile = true) : (s.take i).IsFirst i c :=
    queues.holder i c call nofun stage
  have result : (s.take i).Follows i ((s.take i).step i) := by
    unfold step
    rw [turn.call]
    dsimp only
    cases stage : c.stage with
    | heldBack =>
      have outside (file : String) : i ∉ (s.take i).line file := by
        intro member
        obtain ⟨c', call', -, inside⟩ := queues.in_line file i member
        cases call.symm.trans call'
        have inside := inside nofun
        rw [stage] at inside
        cases inside
      dsimp only
      by_cases current : (s.take i).isCurrent c = true
      · rw [if_pos current]
        exact turn.joinLine outside
      · rw [if_neg current]
        have stale : (s.take i).isCurrent c = false := Bool.eq_false_iff.2 current
        refine follows_moveTo
          (turn.queues.moveTo turn.call (fun file member => absurd member (outside file)) nofun)
          turn.coherent turn.call unfinished (turn.fits_superseded stale _) ?_
        rintro answer ⟨⟩
        exact Or.inl rfl
    | inLine => exact turn.enterFile (queues.called i ready c call stage)
    | waiting => exact turn.enterSlot (holds (by rw [stage]; rfl))
    | parsing since => exact turn.parse (holds (by rw [stage]; rfl)) since
    | detecting tree since =>
      obtain ⟨number, text⟩ := coherent.fits call stage
      refine turn.search (holds (by rw [stage]; rfl)) since ?_ number text
      intro n fault refused
      unfold checkpoint at refused
      split at refused
      · cases refused
      · next current => exact Bool.eq_false_iff.2 current
    | refining tree since r =>
      obtain ⟨number, text⟩ := coherent.fits call stage
      exact turn.refine (holds (by rw [stage]; rfl)) since r number text
    | finished result =>
      rw [stage] at unfinished
      cases unfinished
  exact result.after rfl rfl rfl

/-- A call that runs aside is searched with answers it was given before. -/
theorem search_follows {s : Session σ} (queues : s.Queues none) (coherent : s.Coherent) {i : Nat}
    {c : Call} {tree : Tree} {since : Float} (ready : i ∈ s.ready) (call : s.calls[i]? = some c)
    (stage : c.stage = .detecting tree since) {checkpoint : Detector.Checkpoint}
    (stale : ∀ n fault, checkpoint n = some fault → s.isCurrent c = false) :
    s.Follows i ((s.take i).search i c tree since checkpoint) := by
  have turn : (s.take i).AtTurn i c :=
    ⟨queues.take ready, coherent.congr rfl rfl rfl rfl, call, by rw [stage]; rfl⟩
  have first : (s.take i).IsFirst i c := queues.holder i c call nofun (by rw [stage]; rfl)
  obtain ⟨number, text⟩ := coherent.fits call stage
  exact (turn.search first since stale number text).after rfl rfl rfl

/-- A call that fails before its text is recorded, or right after that, leaves everything else as it
was. -/
theorem opened_follows {s : Session σ} (queues : s.Queues none) (coherent : s.Coherent)
    (request : AnalysisRequest) (meanwhile : Meanwhile) (revision : Revision) (fault : Fault) :
    s.Follows s.calls.size (s.opened request meanwhile revision (.finished (.error fault))) where
  queues := queues.opened request meanwhile revision _ rfl
  coherent := coherent.opened _ (fun sound => absurd rfl (sound fault)) trivial meanwhile
  others t other := getElem?_opened_of_ne s other request meanwhile revision _
  effect := by
    refine Or.inl ⟨rfl, rfl, ?_⟩
    intro c answer call closed
    cases (getElem?_opened_self ..).symm.trans call
    cases closed

/-- A call whose text was recorded is held back or put in line. -/
theorem enter_follows {s : Session σ} (queues : s.Queues none) (coherent : s.Coherent)
    {request : AnalysisRequest} {revision : Revision}
    (recorded : revision.IsOf s.engine.tracker request) (meanwhile : Meanwhile) :
    s.Follows s.calls.size (s.enter request meanwhile revision) := by
  obtain ⟨rests, free, outside⟩ := queues.fresh
  unfold enter
  split
  · exact opened_follows queues coherent request meanwhile revision _
  · dsimp only
    have queues' := queues.opened request meanwhile revision .heldBack rfl
    have coherent' : (s.opened request meanwhile revision .heldBack).Coherent :=
      coherent.opened .heldBack (fun _ => recorded) trivial meanwhile
    have call := getElem?_opened_self s request meanwhile revision .heldBack
    have others (t : Nat) (other : t ≠ s.calls.size) :
        (s.opened request meanwhile revision .heldBack).calls[t]? = s.calls[t]? :=
      getElem?_opened_of_ne s other request meanwhile revision _
    split
    · refine ⟨?_, coherent'.congr rfl rfl rfl rfl, others, Or.inl ⟨rfl, rfl, ?_⟩⟩
      · have woken := queues'.wake call nofun rfl rests free nofun
        exact woken.congr rfl rfl rfl rfl
      · intro c answer call' closed
        cases call.symm.trans call'
        cases closed
    · have turn : (s.opened request meanwhile revision .heldBack).AtTurn s.calls.size _ :=
        ⟨queues'.borrow rests free, coherent', call, rfl⟩
      have follows := turn.joinLine outside
      refine ⟨follows.queues, follows.coherent, ?_, ?_⟩
      · intro t other
        rw [follows.others t other, others t other]
      · rcases follows.effect with spares | publishes
        · exact Or.inl ⟨spares.trees, spares.analyzed, spares.result⟩
        · exact Or.inr publishes

/-- A new call is recorded. -/
theorem accept_follows {s : Session σ} (queues : s.Queues none) (coherent : s.Coherent)
    (request : AnalysisRequest) (meanwhile : Meanwhile) :
    s.Follows s.calls.size (s.accept request meanwhile) := by
  have recorded := coherent.record request.file request.code request.ranges request.language
  have revision : (s.engine.tracker.record request.file request.code request.ranges
      request.language).2.IsOf (s.engine.tracker.record request.file request.code request.ranges
        request.language).1 request :=
    ⟨coherent.keyed.knows_record .., coherent.keyed.file_record .., Tracker.text_record ..⟩
  have queues' : Queues none { s with engine := { s.engine with
      tracker := (s.engine.tracker.record request.file request.code request.ranges
        request.language).1 } } := queues.congr rfl rfl rfl rfl
  exact (enter_follows queues' recorded revision meanwhile).after rfl rfl
    (Tracker.analyzed_record ..)

/-- To apply the configuration changes nothing about calls. -/
theorem sameWork_applyConfig (s : Session σ) :
    s.SameWork (Session.log { s with engine := s.engine.applyConfig.1 } s.engine.applyConfig.2.1) :=
  ⟨s.engine.sameWork_applyConfig, rfl, rfl, rfl⟩

/-- A new call begins. -/
theorem begin_follows {s : Session σ} (queues : s.Queues none) (coherent : s.Coherent)
    (request : AnalysisRequest) (meanwhile : Meanwhile) :
    s.Follows s.calls.size (s.begin request meanwhile) := by
  have same := s.sameWork_applyConfig
  have queues' := queues.congr same.calls same.ready same.lines same.workspaces
  have coherent' := coherent.congr same.calls same.tracker same.trees same.queries
  unfold begin
  dsimp only
  split
  · exact (accept_follows queues' coherent' request meanwhile).after same.calls same.trees
      (congrArg Tracker.analyzed same.tracker)
  · exact (opened_follows queues' coherent' request meanwhile _ _).after same.calls same.trees
      (congrArg Tracker.analyzed same.tracker)

end Session

end LiveLint
