import LiveLint.Engine.Host
import LiveLint.Proofs.Engine.Grammar
import LiveLint.Proofs.Engine.SingleCalls

/-!
# The boundary to a host

Whatever a host sends, it gets a table back that carries the version of the format. It is refused exactly if
it breaks the grammar of requests, and then nothing has happened. Otherwise it is the analysis or the record
that was asked for. This holds in every state that requests lead to, as long as the configuration is well
typed and doubles can say its numbers.
-/

namespace LiveLint

/-- The states of an engine that was started with a configuration and has served requests. -/
inductive Engine.Serving (c : Config) : Engine → Prop where
  | start {disk after : Disk} {e : Engine} {logs : List Log.Record}
      (started : Engine.start c disk = .ok (e, after, logs)) : Serving c e
  | serve {σ : Type} {e : Engine} (before : Serving c e) (clock : Float) (transport : Transport σ)
      (remote : σ) (payload : Value) (meanwhile : Meanwhile) :
      Serving c (e.serve clock transport remote (HostRequest.ofValue payload) meanwhile).engine

/-- A reply is a table that carries the version of the format. -/
def Value.IsReply (v : Value) : Prop :=
  ∃ fields, v = .table fields ∧ Table.get? fields "schema_version" = some (.text schemaVersion)

def Value.IsRefusal (v : Value) : Prop :=
  ∃ fields, v = .table fields ∧ Table.get? fields "status" = some (.text "error")

theorem RequestFault.isReply_reply (f : RequestFault) : f.reply.IsReply := ⟨_, rfl, rfl⟩

theorem RequestFault.isRefusal_reply (f : RequestFault) : f.reply.IsRefusal := ⟨_, rfl, rfl⟩

theorem AnalysisResult.isReply_view (r : AnalysisResult) : r.view.IsReply := ⟨_, rfl, rfl⟩

theorem AnalysisResult.not_isRefusal_view (r : AnalysisResult) : ¬ r.view.IsRefusal := by
  rintro ⟨fields, same, refused⟩
  cases same
  have label : r.status.label = "error" := Value.text.inj (Option.some.inj refused)
  cases status : r.status <;> rw [status] at label <;> exact absurd label (by decide)

theorem NoticeAction.isReply_reply (action : NoticeAction) (file identity : String) (suppressed : Bool) :
    (action.reply file identity suppressed).IsReply :=
  ⟨_, rfl, rfl⟩

theorem NoticeAction.not_isRefusal_reply (action : NoticeAction) (file identity : String)
    (suppressed : Bool) : ¬ (action.reply file identity suppressed).IsRefusal := by
  rintro ⟨fields, same, refused⟩
  cases same
  cases refused

namespace Engine

/-- An engine that was just started is ready. -/
theorem ready_of_start {c : Config} {most : Int} (bounded : c.scheduling.Bounded most)
    (offline : c.hasRemote = false) {disk after : Disk} {e : Engine} {logs : List Log.Record}
    (started : Engine.start c disk = .ok (e, after, logs)) : e.Ready c most none := by
  obtain ⟨_, gateway, way, rfl⟩ := eq_of_start started
  exact
    { config := rfl
      offline := client_eq_none offline way
      lifetime := rfl
      limits := rfl
      serial := .new bounded
      queries := rfl
      keeps := Detector.keeps_standard
      rules := ⟨rfl, rfl⟩ }

/-- To record what the user did changes only the journal. -/
theorem Ready.checkAndRecord {e : Engine} {c : Config} {most : Int} {busy : Option String}
    (ready : e.Ready c most busy) (file identity : String) (action : NoticeAction) (now : Float) :
    (e.checkAndRecord file identity action now).1.Ready c most busy := by
  unfold Engine.checkAndRecord
  dsimp only
  split
  · exact ready
  · exact { ready with }

/-- A record can be made if doubles can say how long showings count. -/
theorem exists_checkAndRecord {e : Engine} (short : e.lifetime.overflows = false)
    (file identity : String) (action : NoticeAction) (now : Float) :
    ∃ suppressed, (e.checkAndRecord file identity action now).2.1 = .ok suppressed := by
  unfold Engine.checkAndRecord
  dsimp only
  rw [short, Bool.and_false, if_neg Bool.false_ne_true]
  exact ⟨_, rfl⟩

variable {σ : Type} {e : Engine} {c : Config} {most : Int}

/-- A request leaves an engine ready for the next one. -/
theorem Ready.serve (ready : e.Ready c most none) (typed : c.WellTyped) (within : c.WithinDoubles)
    (offline : c.hasRemote = false) (clock : Float) (transport : Transport σ) (remote : σ)
    (request : Except RequestFault HostRequest) (meanwhile : Meanwhile) :
    (e.serve clock transport remote request meanwhile).engine.Ready c most none := by
  cases request with
  | error fault => exact ready
  | ok request =>
    cases request with
    | analyze request =>
      obtain ⟨_, _, single, -⟩ :=
        ready.analyze typed within offline clock transport remote request meanwhile
      exact single.engine
    | checkAndRecord file identity action => exact ready.checkAndRecord file identity action clock

/-- Whatever requests an engine has served, it is ready for the next one. -/
theorem Serving.ready (serving : e.Serving c) (typed : c.WellTyped) (within : c.WithinDoubles)
    (offline : c.hasRemote = false) (bounded : c.scheduling.Bounded most) : e.Ready c most none := by
  induction serving with
  | start started => exact ready_of_start bounded offline started
  | serve before clock transport remote payload meanwhile ready =>
    exact ready.serve typed within offline clock transport remote _ meanwhile

/-- What a host can rely on when an engine serves a payload. -/
structure Boundary (e : Engine) (clock : Float) (transport : Transport σ) (remote : σ) (payload : Value)
    (meanwhile : Meanwhile) (served : Served σ) : Prop where
  /-- There is a reply that carries the version of the format. -/
  replies : ∃ v, served.reply = .ok v ∧ v.IsReply
  /-- A payload is refused exactly if it does not keep to the grammar of requests. -/
  refuses : (∃ v, served.reply = .ok v ∧ v.IsRefusal) ↔ ∀ request, ¬ payload.Asks request
  /-- Nothing has happened if a payload is refused. -/
  atomic : (∃ v, served.reply = .ok v ∧ v.IsRefusal) →
    served.engine = e ∧ served.clock = clock ∧ served.remote = remote
  /-- A request for an analysis is the analysis, which has a result. -/
  analyzes : ∀ request, payload.Asks (.analyze request) →
    ∃ result, (e.analyze clock transport remote request meanwhile).results = [.ok result] ∧
      served.reply = .ok result.view ∧
      served.engine = (e.analyze clock transport remote request meanwhile).engine ∧
      served.clock = (e.analyze clock transport remote request meanwhile).clock ∧
      served.remote = (e.analyze clock transport remote request meanwhile).remote
  /-- A request for a record is the record, which has an answer. -/
  records : ∀ file identity action, payload.Asks (.checkAndRecord file identity action) →
    ∃ suppressed, (e.checkAndRecord file identity action clock).2.1 = .ok suppressed ∧
      served.reply = .ok (action.reply file identity suppressed) ∧
      served.engine = (e.checkAndRecord file identity action clock).1 ∧
      served.clock = clock ∧ served.remote = remote

section Boundary

variable {clock : Float} {transport : Transport σ} {remote : σ} {payload : Value} {meanwhile : Meanwhile}

/-- A payload that is not refused keeps to the grammar. -/
theorem refuses_of_asks {served : Served σ} {v : Value} {request : HostRequest}
    (reply : served.reply = .ok v) (answer : ¬ v.IsRefusal) (asks : payload.Asks request) :
    (∃ v, served.reply = .ok v ∧ v.IsRefusal) ↔ ∀ request, ¬ payload.Asks request := by
  constructor
  · rintro ⟨v', reply', refusal⟩
    rw [reply, Except.ok.injEq] at reply'
    exact absurd (reply' ▸ refusal) answer
  · exact fun refused => absurd asks (refused request)

theorem boundary_of_error {fault : RequestFault} (refused : HostRequest.ofValue payload = .error fault) :
    e.Boundary clock transport remote payload meanwhile
      (e.serve clock transport remote (.error fault) meanwhile) := by
  have unasked (request : HostRequest) : ¬ payload.Asks request := by
    intro asks
    rw [HostRequest.ofValue_eq_ok_iff.2 asks] at refused
    cases refused
  constructor
  case replies => exact ⟨_, rfl, fault.isReply_reply⟩
  case refuses => exact ⟨fun _ => unasked, fun _ => ⟨_, rfl, fault.isRefusal_reply⟩⟩
  case atomic => exact fun _ => ⟨rfl, rfl, rfl⟩
  case analyzes => exact fun request asks => absurd asks (unasked _)
  case records => exact fun file identity action asks => absurd asks (unasked _)

theorem boundary_of_analysis {request : AnalysisRequest}
    (accepted : HostRequest.ofValue payload = .ok (.analyze request)) {result : AnalysisResult}
    (results : (e.analyze clock transport remote request meanwhile).results = [.ok result]) :
    e.Boundary clock transport remote payload meanwhile
      (e.serve clock transport remote (.ok (.analyze request)) meanwhile) := by
  have asks := HostRequest.ofValue_eq_ok_iff.1 accepted
  have reply : (e.serve clock transport remote (.ok (.analyze request)) meanwhile).reply =
      .ok result.view := by
    unfold Engine.serve serveAnalysis
    dsimp only
    rw [results]
    rfl
  have refuses := refuses_of_asks reply result.not_isRefusal_view asks
  constructor
  case replies => exact ⟨_, reply, result.isReply_view⟩
  case refuses => exact refuses
  case atomic => exact fun refused => absurd asks (refuses.1 refused _)
  case analyzes =>
    intro request' asks'
    rw [HostRequest.ofValue_eq_ok_iff.2 asks'] at accepted
    cases accepted
    exact ⟨result, results, reply, rfl, rfl, rfl⟩
  case records =>
    intro file identity action asks'
    rw [HostRequest.ofValue_eq_ok_iff.2 asks'] at accepted
    cases accepted

theorem boundary_of_record {file identity : String} {action : NoticeAction}
    (accepted : HostRequest.ofValue payload = .ok (.checkAndRecord file identity action))
    {suppressed : Bool} (answered : (e.checkAndRecord file identity action clock).2.1 = .ok suppressed) :
    e.Boundary clock transport remote payload meanwhile
      (e.serve clock transport remote (.ok (.checkAndRecord file identity action)) meanwhile) := by
  have asks := HostRequest.ofValue_eq_ok_iff.1 accepted
  have reply : (e.serve clock transport remote (.ok (.checkAndRecord file identity action))
      meanwhile).reply = .ok (action.reply file identity suppressed) := by
    unfold Engine.serve
    dsimp only
    rw [answered]
    rfl
  have refuses := refuses_of_asks reply (action.not_isRefusal_reply file identity suppressed) asks
  constructor
  case replies => exact ⟨_, reply, action.isReply_reply file identity suppressed⟩
  case refuses => exact refuses
  case atomic => exact fun refused => absurd asks (refuses.1 refused _)
  case analyzes =>
    intro request asks'
    rw [HostRequest.ofValue_eq_ok_iff.2 asks'] at accepted
    cases accepted
  case records =>
    intro file' identity' action' asks'
    rw [HostRequest.ofValue_eq_ok_iff.2 asks'] at accepted
    cases accepted
    exact ⟨suppressed, answered, reply, rfl, rfl, rfl⟩

end Boundary

/-- Whatever requests an engine has served, a host can rely on how it serves the next payload. -/
theorem Serving.boundary (serving : e.Serving c) (typed : c.WellTyped) (within : c.WithinDoubles)
    (offline : c.hasRemote = false) (clock : Float) (transport : Transport σ) (remote : σ)
    (payload : Value) (meanwhile : Meanwhile) :
    e.Boundary clock transport remote payload meanwhile
      (e.serve clock transport remote (HostRequest.ofValue payload) meanwhile) := by
  obtain ⟨most, bounded⟩ := typed.bounded within
  have ready := serving.ready typed within offline bounded
  cases decoded : HostRequest.ofValue payload with
  | error fault => exact boundary_of_error decoded
  | ok request =>
    cases request with
    | analyze request =>
      have ended := ready.analyze typed within offline clock transport remote request meanwhile
      obtain ⟨result, results⟩ := ended.results
      exact boundary_of_analysis decoded results
    | checkAndRecord file identity action =>
      obtain ⟨suppressed, answered⟩ :=
        exists_checkAndRecord (ready.lifetime ▸ within.lifetime) file identity action clock
      exact boundary_of_record decoded answered

/-- With the standard configuration, an analysis that is asked for after a showing was recorded. -/
theorem boundary_standard :
    ∃ e : Engine, e.Serving .standard ∧ Config.standard.WellTyped ∧ Config.standard.WithinDoubles ∧
      Config.standard.hasRemote = false ∧
      e.Boundary 0 (fun _ state => (.timedOut, state)) ()
        (.table
          [("operation", .text "analyze"), ("file", .text "a.py"), ("language", .text "python"),
            ("code", .text "x = 1")])
        {}
        (e.serve 0 (fun _ state => (.timedOut, state)) ()
          (HostRequest.ofValue
            (.table
              [("operation", .text "analyze"), ("file", .text "a.py"), ("language", .text "python"),
                ("code", .text "x = 1")]))
          {}) := by
  obtain ⟨e, after, logs, started⟩ :
      ∃ e after logs, Engine.start .standard {} = .ok (e, after, logs) := ⟨_, _, _, rfl⟩
  have serving :=
    (Serving.start started).serve 0 (fun _ state => (.timedOut, state)) ()
      (.table
        [("operation", .text "checkAndRecord"), ("file", .text "a.py"), ("identity", .text "p")])
      {}
  exact ⟨_, serving, Config.wellTyped_standard, Config.withinDoubles_standard, rfl,
    serving.boundary Config.wellTyped_standard Config.withinDoubles_standard rfl 0 _ () _ {}⟩

end Engine

end LiveLint
