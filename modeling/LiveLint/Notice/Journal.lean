import LiveLint.Digest
import LiveLint.Json.Parser
import LiveLint.Notice.Cache
import LiveLint.Reading

/-!
# The journal

A notice cache with a store behind it. After a number of changes a snapshot is written to the
store, and when a journal is opened the cache starts with what the snapshot holds. A store that
fails is reported and otherwise ignored; a snapshot that cannot be trusted is thrown away.
-/

/-!
## Snapshots

All notices as one record for a key-value store: a payload with a version, and a checksum of the
payload, so that a record that was cut off or changed by hand is found out.
-/

namespace LiveLint.Snapshot

def version : Int := 1

def checksum (payload : String) : String := Digest.sha256 payload.toUTF8

/-- The fields of a notice in alphabetical order. -/
def sortedFields (n : Notice Float) : Fields :=
  [("created_at", .float n.createdAt), ("dismissed", .bool n.dismissed),
    ("expires_at", .float n.expiresAt), ("file", .text n.file), ("identity", .text n.identity),
    ("kind", .text n.kind), ("shown", .bool n.shown)]

/-- The payload for some notices. -/
def payload (entries : List (Notice Float)) : String :=
  Json.print (.table
    [("entries", .list (entries.map fun n => .table (sortedFields n))),
      ("schema_version", .int version)])

def record (entries : List (Notice Float)) : Value :=
  .table [("checksum", .text (checksum (payload entries))), ("payload", .text (payload entries))]

def isVersion : Option Value → Bool
  | some v => v.number?.any fun n => n.order (.int version) == some .eq
  | none => false

/-- The items of a payload, or why there are none. -/
def items (payload : String) : Except String (List Value) :=
  match Json.parse payload.toList with
  | .error fault => .error ("invalid JSON: " ++ fault.message payload.toList)
  | .ok (.table data) =>
    if isVersion (Table.get? data "schema_version") then
      match Table.get? data "entries" with
      | some (.list items) => .ok items
      | _ => .error "entries missing"
    else
      .error ("unsupported schema version " ++ ((Table.get? data "schema_version").getD .null).shown)
  | .ok _ => .error "snapshot is not a JSON object"

def isText (s : String) : Value → Bool
  | .text t => t == s
  | _ => false

/-- The items of a record, or why it cannot be trusted. -/
def read (record : Value) : Except String (List Value) :=
  match record.field? "payload", record.field? "checksum" with
  | some payload, some sum =>
    match payload with
    | .text payload =>
      if isText (checksum payload) sum then items payload else .error "checksum mismatch"
    | _ => .error "checksum mismatch"
  | _, _ => .error "malformed snapshot record"

def field (item : Value) (name : String) : Except Fault Value :=
  match item with
  | .table fields =>
    match Table.get? fields name with
    | some v => .ok v
    | none => .error (.missingKey name)
  | .list _ => .error (.mistyped (.listIndex "str"))
  | .text _ => .error (.mistyped (.textIndex "str"))
  | v => .error (.mistyped (.notSubscriptable v.typeName))

def fieldOr (item : Value) (name : String) (other : Value) : Value :=
  (item.field? name).getD other

def notice (item : Value) : Except Fault (Notice Float) := do
  let file ← field item "file"
  let identity ← field item "identity"
  let createdAt ← (← field item "created_at").real
  let expiresAt ← (← field item "expires_at").real
  pure
    { file := file.plain
      identity := identity.plain
      createdAt
      expiresAt
      dismissed := (fieldOr item "dismissed" (.bool false)).truthy
      shown := (fieldOr item "shown" (.bool false)).truthy
      kind := (fieldOr item "kind" (.text "")).plain }

end LiveLint.Snapshot

/-!
## Cache and store
-/

namespace LiveLint

/-- A key-value store as far as the journal sees it: the one record in it, and the operations that
fail, each with the text it fails with. -/
structure SnapshotStore where
  /-- The directory of the store as it was given. -/
  directory : Value
  /-- The names that lead from the root to the directory. -/
  place : List String := []
  record : Option Value := none
  readFault : Option String := none
  writeFault : Option String := none
  clearFault : Option String := none
  deriving Repr

namespace SnapshotStore

def corrupt (s : SnapshotStore) (reason : String) : Failure := .corruptCache s.directory.plain reason

/-- The items of the stored snapshot, none if nothing was stored. -/
def load (s : SnapshotStore) : Except Failure (Option (List Value)) :=
  match s.readFault with
  | some text => .error (s.corrupt ("unreadable snapshot: " ++ text))
  | none =>
    match s.record with
    | none | some .null => .ok none
    | some record =>
      match Snapshot.read record with
      | .ok items => .ok (some items)
      | .error reason => .error (s.corrupt reason)

def save (s : SnapshotStore) (entries : List (Notice Float)) : Except String SnapshotStore :=
  match s.writeFault with
  | some text => .error text
  | none => .ok { s with record := some (Snapshot.record entries) }

/-- The store with nothing in it, or the text of the fault. -/
def clear (s : SnapshotStore) : Except String SnapshotStore :=
  match s.clearFault with
  | some text => .error text
  | none => .ok { s with record := none }

end SnapshotStore

structure Journal where
  cache : NoticeCache Float
  store : Option SnapshotStore := none
  /-- Number of changes between two snapshots. -/
  autosaveEvery : Int := 50
  /-- Number of changes since the last snapshot. -/
  unsaved : Nat := 0
  deriving Repr

namespace Journal

/-- Writes a snapshot to the store, if there is one. -/
def flush (j : Journal) : Journal × List Log.Record :=
  match j.store with
  | none => (j, [])
  | some store =>
    match store.save j.cache.entries with
    | .ok store => ({ j with store := some store, unsaved := 0 }, [])
    | .error text =>
      ({ j with unsaved := 0 }, [NoticeCache.logged ("Cache snapshot failed: " ++ text)])

/-- Takes over a change of the cache, and writes a snapshot when it is time. -/
def commit (j : Journal) (change : NoticeCache.Change Float) : Journal × List Log.Record :=
  let j := { j with cache := change.cache }
  if change.mutated && j.store.isSome then
    let j := { j with unsaved := j.unsaved + 1 }
    if j.autosaveEvery ≤ j.unsaved then
      let (j, logs) := j.flush
      (j, change.logs ++ logs)
    else (j, change.logs)
  else (j, change.logs)

def apply (j : Journal) (op : NoticeCache Float → NoticeCache.Change Float × α) :
    Journal × α × List Log.Record :=
  let (change, answer) := op j.cache
  let (j, logs) := j.commit change
  (j, answer, logs)

/-- Removes everything from cache and store. A store that fails keeps what it holds. -/
def clear (j : Journal) : Journal × Except Fault Unit :=
  let j := { j with cache := j.cache.emptied }
  match j.store with
  | none => ({ j with unsaved := 0 }, .ok ())
  | some store =>
    match store.clear with
    | .ok store => ({ j with store := some store, unsaved := 0 }, .ok ())
    | .error text => (j, .error (.interrupted text))

/-- Stores notices one after the other. -/
def insertAll : List (Notice Float) → NoticeCache Float → NoticeCache Float × List Log.Record
  | [], c => (c, [])
  | n :: rest, c =>
    let (c, logs) := c.insert n
    let (c, more) := insertAll rest c
    (c, logs ++ more)

def reset (j : Journal) (store : SnapshotStore) (failure : Failure) : Journal × List Log.Record :=
  let note :=
    NoticeCache.logged (failure.text ++ "; starting with an empty notification cache")
  match store.clear with
  | .ok store => ({ j with store := some store }, [note])
  | .error text => (j, [note, NoticeCache.logged ("Cache reset failed: " ++ text)])

def decode (store : SnapshotStore) : Except Failure (Except Fault (List (Notice Float))) :=
  match store.load with
  | .error failure => .error failure
  | .ok items =>
    match (items.getD []).mapM Snapshot.notice with
    | .ok entries => .ok (.ok entries)
    | .error .numberTooLarge => .ok (.error .numberTooLarge)
    | .error fault => .error (store.corrupt ("invalid entry: " ++ fault.message))

/-- Opens a journal on a store. A number beyond all doubles in the snapshot ends the attempt. -/
def start (ttl : Float) (cap : SizeCap) (autosaveEvery : Int) (store : Option SnapshotStore) :
    Except Fault (Journal × List Log.Record) :=
  let j : Journal := { cache := { cap, ttl }, store, autosaveEvery }
  match store with
  | none => .ok (j, [])
  | some store =>
    match decode store with
    | .error failure => .ok (j.reset store failure)
    | .ok (.error fault) => .error fault
    | .ok (.ok entries) =>
      let (cache, logs) := insertAll entries j.cache
      .ok ({ j with cache }, logs)

end Journal

end LiveLint
