import LiveLint.Classify.Classifier
import LiveLint.Config.Basic
import LiveLint.Detect.Detector
import LiveLint.Disk
import LiveLint.Notice.Journal
import LiveLint.Parse.Parser
import LiveLint.Remote.Refinement

/-!
# The engine

Everything that lasts from one analysis to the next: revisions, trees, results of queries, notices,
slots and the state of the connection. The configuration is applied anew before every analysis.
-/

namespace LiveLint

namespace Disk

/-- Opens the store in a directory, which is made if it is missing. -/
def openStore (d : Disk) (directory : Value) : Except Fault (Disk × SnapshotStore) := do
  let (d, place) ← d.makeFolder (Expansion.expand d.homePath directory.plain)
  pure (d, { directory, place, record := d.records.get? place })

def keep (d : Disk) (s : SnapshotStore) : Disk :=
  { d with
    records :=
      match s.record with
      | some record => d.records.set s.place record
      | none => d.records.erase s.place }

end Disk

structure Engine where
  config : Config
  tracker : Tracker := {}
  parser : Parser := {}
  detector : Detector := .standard
  classifier : Classifier := {}
  journal : Journal
  /-- How long showings count, as it was set last. -/
  lifetime : Number
  scheduler : Scheduler Number
  gateway : Gateway
  /-- The tree of the last finished analysis of each file. -/
  trees : Table String Tree := []

namespace Engine

def logged (message : String) : Log.Record := .ofLogger .info "engine" message

/-- The address of the remote service without slashes at its end, if there is one. -/
def endpoint (c : Config) : Except Fault (Option String) :=
  if !c.hasRemote then .ok none
  else
    match c.get .remoteEndpoint with
    | .text url => .ok (some (RemoteClient.root { baseUrl := url }))
    | v => .error (.missingMember v.typeName "rstrip")

/-- The way to the remote service that a configuration asks for. -/
def gatewayOf (c : Config) : Except Fault Gateway := do
  let machine ← ConnectivityMachine.ofDelays Gateway.standardDelays (c.number .probeInterval)
  let client := (← endpoint c).map fun baseUrl =>
    { baseUrl
      structuralTimeout := c.number .structuralTimeout
      classificationTimeout := c.number .classificationTimeout }
  pure { client, machine }

def storeOf (c : Config) (disk : Disk) : Except Fault (Disk × Option SnapshotStore) :=
  if (c.get .cacheDirectory).truthy then
    (disk.openStore (c.get .cacheDirectory)).map fun (disk, store) => (disk, some store)
  else .ok (disk, none)

/-- The journal that a configuration asks for, with what the disk holds. -/
def journalOf (c : Config) (disk : Disk) : Except Fault (Disk × Journal × List Log.Record) := do
  let (disk, store) ← storeOf c disk
  let (journal, logs) ←
    Journal.start c.lifetime.toFloat (.ofNumber (c.number .cacheMaxBytes))
      (c.number .cacheAutosaveEvery).ceil store
  pure (disk, journal, logs)

def start (c : Config) (disk : Disk) : Except Fault (Engine × Disk × List Log.Record) := do
  let (disk, journal, logs) ← journalOf c disk
  let gateway ← gatewayOf c
  pure
    ({ config := c, journal, lifetime := c.lifetime, scheduler := { settings := c.scheduling },
       gateway },
      disk, logs)

/-- Closes an engine: notices are written to the disk. -/
def close (e : Engine) (disk : Disk) : Engine × Disk × List Log.Record :=
  let (journal, logs) := e.journal.flush
  ({ e with journal }, (journal.store.map disk.keep).getD disk, logs)

def applyCache (e : Engine) : Engine × List Log.Record :=
  let c := e.config
  let cache := { e.journal.cache with ttl := c.lifetime.toFloat }
  let e := { e with journal := { e.journal with cache }, lifetime := c.lifetime }
  let cap := c.number .cacheMaxBytes
  if Number.order cap cache.cap.given == some .eq then (e, [])
  else
    let (journal, evicted, logs) := e.journal.apply (·.resize (.ofNumber cap))
    ({ e with journal },
      logs ++
        if evicted == 0 then []
        else
          [logged ("Cache cap lowered to " ++ cap.text ++ " bytes; evicted " ++ toString evicted ++
            " entries")])

def applyRemote (e : Engine) : Except Fault (Engine × List Log.Record) := do
  let c := e.config
  if (← endpoint c) == e.gateway.client.map (·.root) then pure (e, [])
  else
    let gateway ← gatewayOf c
    let name := if c.hasRemote then (c.get .remoteEndpoint).plain else "none"
    pure ({ e with gateway }, [logged ("Remote endpoint changed to " ++ name)])

def applyConfig (e : Engine) : Engine × List Log.Record × Option Fault :=
  let e := { e with scheduler := e.scheduler.configure e.config.scheduling }
  let (e, logs) := e.applyCache
  match e.applyRemote with
  | .ok (e, more) => (e, logs ++ more, none)
  | .error fault => (e, logs, some fault)

def configure (e : Engine) (fields : Fields) : Except Fault Engine :=
  (e.config.override fields).map fun config => { e with config }

/-- Drops everything about a file but its notices. -/
def forget (e : Engine) (file : String) : Engine :=
  { e with tracker := e.tracker.forget file, trees := e.trees.erase file }

/-- Answers whether a pattern was shown or dismissed before, and records an action. A new notice
cannot be made if it would count for longer than doubles can say. -/
def checkAndRecord (e : Engine) (file identity : String) (action : NoticeAction) (now : Float) :
    Engine × Except Fault Bool × List Log.Record :=
  let needed := action == .dismissed || !e.journal.cache.suppresses (file, identity) now
  if needed && e.lifetime.overflows then (e, .error .numberTooLarge, [])
  else
    let (journal, suppressed, logs) :=
      e.journal.apply (·.checkAndRecord (file, identity) action "" now)
    ({ e with journal }, .ok suppressed, logs)

def select (c : Config) (issues : List Issue) : Except Fault (List Issue) := do
  let enabled ← issues.filterM fun i => c.isEnabled i.category
  pure (if c.isGentle then enabled.filter (·.occurrence.severity != .low) else enabled)

/-- Whether an issue of a file was shown or dismissed before. -/
def isSuppressed (e : Engine) (file : String) (now : Float) (i : Issue) : Bool :=
  e.journal.cache.suppresses (file, i.identity) now

/-- The tree of a file if it was built for this very revision. -/
def treeFor? (e : Engine) (r : Revision) : Option Tree :=
  (e.trees.get? r.file).filter fun t => t.revision == r.number && t.source == r.text

end Engine

end LiveLint
