import LiveLint.Cli.Run
import LiveLint.Terminal.Width
import Std.Time.DateTime.Timestamp

/-!
# The program

Reads the files that a command line names, runs the command and shows what it leaves. There is no
network here: every request to a remote service fails.
-/

/-!
## Layout of tables

Rows of cells as lines, with columns as wide as their widest cell.
-/

namespace LiveLint.Cli.Layout

/-- The width of every column. -/
def widths (rows : List (List String)) : List Nat :=
  rows.foldl
    (fun ws row =>
      (List.range (max ws.length row.length)).map fun i =>
        max (ws.getD i 0) (Terminal.cells (row.getD i "").toList))
    []

/-- A cell, filled up with blanks. -/
def pad (width : Nat) (cell : String) : String := cell.pushn ' ' (width - Terminal.cells cell.toList)

def line (ws : List Nat) (row : List String) : String :=
  (" " ++ "  ".intercalate ((ws.zip row).map fun (w, cell) => pad w cell)).trimAsciiEnd.toString

def lines (rows : List (List String)) : List String := rows.map (line (widths rows))

end LiveLint.Cli.Layout

/-! ## The program -/

namespace LiveLint.Main

def readPlace (place : Place) : IO DiskEntry := do
  let path := "/" ++ "/".intercalate place
  try
    let bytes ← IO.FS.readBinFile path
    pure (.file bytes.toList)
  catch _ =>
    try
      let _ ← ((← IO.currentDir) / path).readDir
      pure .folder
    catch _ => pure .absent

def addPlace (d : Disk) (place : Place) : IO Disk := do
  match ← readPlace place with
  | .file bytes => pure { d with files := d.files.set place bytes }
  | .folder => pure { d with folders := d.folders ++ [place] }
  | _ => pure d

/-- The places that a path leads through. -/
def placesOf (d : Disk) (path : String) : List Place :=
  let steps := Disk.steps path
  (List.range (steps.length + 1)).map fun n => Disk.placeFrom (d.origin path) (steps.take n)

def addPaths (d : Disk) (paths : List String) : IO Disk :=
  (paths.flatMap (placesOf d)).eraseDups.foldlM addPlace d

/-- Everything in a word that may be a path. -/
def pathsIn (word : String) : List String :=
  let cs := word.toList
  [word, String.ofList (cs.drop 2), String.ofList ((cs.dropWhile (· != '=')).drop 1)]

/-- The variables that hold settings. -/
def readEnvironment : IO (List (String × String)) := do
  let found ← Setting.all.mapM fun s => do
    let name := Environment.variableOf s
    pure ((← IO.getEnv name).map fun text => (name, text))
  pure (found.filterMap id)

def recordPath (store : SnapshotStore) : String :=
  "/" ++ "/".intercalate (store.place ++ ["notices.json"])

def addRecord (d : Disk) (store : SnapshotStore) : IO Disk := do
  let d ← addPaths d ["/" ++ "/".intercalate store.place]
  try
    let bytes ← IO.FS.readBinFile (recordPath store)
    let record := ((Json.parseBytes bytes.toList).toOption).getD .null
    pure { d with records := d.records.set store.place record }
  catch _ => pure d

def writeRecord (d : Disk) (store : SnapshotStore) : IO Unit := do
  match d.records.get? store.place with
  | some record =>
    IO.FS.createDirAll ("/" ++ "/".intercalate store.place)
    IO.FS.writeFile (recordPath store) (Json.print record)
  | none => pure ()

/-- The time of day in seconds. -/
def now : IO Float := do
  let t ← Std.Time.Timestamp.now
  pure (Float.ofInt t.toMillisecondsSinceUnixEpoch.val / 1000)

def openDesk (words : List String) : IO (Cli.Desk Unit) := do
  let workPath := (← IO.currentDir).toString
  let homePath := (← IO.getEnv "HOME").getD "/"
  let paths := (homePath ++ "/.codementor.toml") :: "codementor.toml" :: words.flatMap pathsIn
  let disk ← addPaths { homePath, workPath } paths
  pure
    { surroundings := { disk, environment := ← readEnvironment }
      clock := ← now
      transport := fun _ s => (.broken "ConnectError" "no network", s)
      remote := () }

def showReport (r : Cli.Report) : IO Unit := do
  r.head.forM IO.println
  (Cli.Layout.lines r.rows).forM IO.println
  r.foot.forM IO.println

/-- Shows what a command leaves and returns its exit code. -/
def showOutcome (outcome : Cli.Outcome) (elapsed : Nat) : IO UInt32 := do
  let complain (f : Fault) : IO UInt32 := do
    IO.eprintln f.message
    pure 1
  match outcome with
  | .quiet code => pure (UInt32.ofNat code)
  | .lines code lines =>
    lines.forM IO.println
    pure (UInt32.ofNat code)
  | .json v =>
    IO.println (Json.spread 0 v)
    pure 0
  | .report r verbose =>
    match Cli.report r verbose ((Number.float (Float.ofNat elapsed)).fixed 1) with
    | .ok report =>
      showReport report
      pure 0
    | .error f => complain f
  | .crashed f => complain f

end LiveLint.Main

open LiveLint in
def main (words : List String) : IO UInt32 := do
  let started ← IO.monoMsNow
  let desk ← Main.openDesk words
  let command := desk.command words
  let store := desk.store? command
  let disk ← (store.map (Main.addRecord desk.disk)).getD (pure desk.disk)
  let (desk, outcome) := Cli.Desk.run (desk.withDisk disk) command
  (store.map (Main.writeRecord desk.disk)).getD (pure ())
  Main.showOutcome outcome ((← IO.monoMsNow) - started)
