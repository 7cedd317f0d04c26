import LiveLint.Engine.Request
import LiveLint.Engine.Session
import LiveLint.View.Tree

/-!
# Serving a host

Requests of a host are carried out one after the other, and every reply is a table that carries the
version of the format. A request that is refused changes nothing.
-/

namespace LiveLint

def AnalysisResult.view (r : AnalysisResult) : Value :=
  .table
    [("schema_version", .text schemaVersion), ("file", .text r.file),
      ("language", .text r.language), ("revision", .nat r.revision),
      ("status", .text r.status.label), ("patterns", .list (r.issues.map (·.view))),
      ("degraded", .bool r.degraded), ("suppressed", .nat r.suppressed),
      ("backend", .text r.backend.label),
      ("connectivity", .text ((r.connectivity.map (·.label)).getD "local"))]

def NoticeAction.reply (action : NoticeAction) (file identity : String) (suppressed : Bool) : Value :=
  .table
    [("schema_version", .text schemaVersion), ("file", .text file), ("identity", .text identity),
      ("action", .text action.label), ("suppressed", .bool suppressed)]

/-- What is left when a request was served. -/
structure Served (σ : Type) where
  engine : Engine
  clock : Float
  remote : σ
  reply : Except Fault Value
  heldBack : List Number := []
  logs : List Log.Record := []
  /-- The result of the analysis, if there was one. -/
  result : Option AnalysisResult := none

namespace Engine

variable {σ : Type}

def serveAnalysis (e : Engine) (clock : Float) (transport : Transport σ) (remote : σ)
    (request : AnalysisRequest) (meanwhile : Meanwhile := {}) : Served σ :=
  let s := e.analyze clock transport remote request meanwhile
  let result :=
    match s.results with
    | result :: _ => result
    | [] => .error (.interrupted "")
  { engine := s.engine, clock := s.clock, remote := s.remote, reply := result.map (·.view)
    heldBack := s.heldBack, logs := s.logs, result := result.toOption }

/-- Carries out a request, or replies why it is refused. -/
def serve (e : Engine) (clock : Float) (transport : Transport σ) (remote : σ)
    (request : Except RequestFault HostRequest) (meanwhile : Meanwhile := {}) : Served σ :=
  match request with
  | .error f => { engine := e, clock, remote, reply := .ok f.reply }
  | .ok (.analyze request) => e.serveAnalysis clock transport remote request meanwhile
  | .ok (.checkAndRecord file identity action) =>
    let (engine, suppressed, logs) := e.checkAndRecord file identity action clock
    { engine, clock, remote, reply := suppressed.map (action.reply file identity), logs }

def view (e : Engine) (workspace : String) (now : Float) : Value :=
  let m := e.gateway.machine
  .table
    [("cache", .table (e.journal.stats now)), ("max_bytes", .ofNumber e.journal.cache.cap.given),
      ("ttl", .ofNumber e.lifetime), ("tracked", .texts e.tracker.files),
      ("scheduler", e.scheduler.stats workspace),
      ("memo", .list [.nat e.detector.hits, .nat e.detector.misses]),
      ("parser", .table e.parser.counts),
      ("events", .list (e.classifier.events.map (·.view))),
      ("remote", .list [.bool e.gateway.isEnabled, m.view]), ("mode", e.config.get .mode)]

end Engine

end LiveLint
