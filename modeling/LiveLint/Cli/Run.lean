import LiveLint.Cli.Command
import LiveLint.Engine.Host
import LiveLint.Terminal.Screen
import LiveLint.Text.Utf8

/-!
# Running commands

A command works on the files around it, on what lies on disk and on the remote service, and leaves
something to show behind.
-/

namespace LiveLint.Cli

structure Desk (σ : Type) where
  surroundings : Surroundings
  clock : Float
  transport : Transport σ
  remote : σ

/-- What a command leaves to show. -/
inductive Outcome where
  /-- Help or a complaint about the command line. -/
  | quiet (code : Nat)
  | lines (code : Nat) (lines : List String)
  | report (result : AnalysisResult) (verbose : Bool)
  | json (v : Value)
  /-- The command broke off. -/
  | crashed (f : Fault)

/-- Texts with tags that a command leaves to show. It breaks off if they cannot be shown. -/
def Outcome.ofTexts (code : Nat) (texts : List String) : Outcome :=
  match Terminal.allLines texts with
  | .ok shown => .lines code shown
  | .error f => .crashed f

/-- What is shown of an analysis: lines, the lines of a table by their cells, and lines below it. -/
structure Report where
  head : List String
  rows : List (List String) := []
  foot : List String := []
  deriving Repr

def version : String := "0.1.0"

/-- The first line of a report, with the time it took. -/
def headline (r : AnalysisResult) (elapsed : String) : String :=
  "[bold cyan]CODEMENTOR[/bold cyan] " ++ r.file ++ " ([green]" ++ r.language ++ "[/green], " ++
    r.backend.label ++ ") in " ++ elapsed ++ "ms"

/-- Why a report has no table, if it has none. -/
def remark (r : AnalysisResult) : Option String :=
  match r.status with
  | .limited =>
    some ("[yellow]Language '" ++ r.language ++ "' is not supported; nothing analyzed.[/yellow]")
  | .unparsable => some "[yellow]File could not be parsed; no patterns reported.[/yellow]"
  | _ =>
    if !r.issues.isEmpty then none
    else if r.suppressed == 0 then some "[green]No patterns found.[/green]"
    else
      some ("[green]No patterns found.[/green] (" ++ toString r.suppressed ++ " already surfaced)")

/-- The lines that follow the table. -/
def footer (r : AnalysisResult) : List String :=
  (if r.suppressed == 0 then []
    else
      ["[dim]" ++ toString r.suppressed ++ " pattern(s) already surfaced and hidden[/dim]"]) ++
    if r.degraded then
      ["[yellow]Remote assist unavailable; showing local results only.[/yellow]"]
    else []

def row (verbose : Bool) (i : Issue) : List String :=
  let o := i.occurrence
  [toString o.range.startLine, o.kind, i.category.label, o.severity.label, i.confidence.fixed 2,
      o.scope] ++
    if verbose then [", ".intercalate (o.metadata.map fun (k, v) => k ++ "=" ++ v.plain)] else []

def heads (verbose : Bool) : List String :=
  ["Line", "Kind", "Category", "Severity", "Confidence", "Scope"] ++
    if verbose then ["Details"] else []

/-- What is shown of an analysis that took some time. -/
def report (r : AnalysisResult) (verbose : Bool) (elapsed : String) : Except Fault Report := do
  let head ← Terminal.lines (headline r elapsed)
  match remark r with
  | some text => pure { head := head ++ (← Terminal.lines text) }
  | none =>
    let rows ← r.issues.mapM fun i => (row verbose i).mapM Terminal.Markup.shown
    pure
      { head
        rows := Terminal.Grid.lines Terminal.columns (heads verbose :: rows)
        foot := ← Terminal.allLines (footer r) }

namespace Desk

variable {σ : Type}

def config (d : Desk σ) (file : Option String) (overrides : List (String × Option Value)) :
    Except Fault Config :=
  (d.surroundings.sources file
    (overrides.filterMap fun (key, v) => v.map fun v => (key, v))).load

def directory (path : Option String) : Option Value := path.map fun p => .text (Text.Path.plain p)

def disk (d : Desk σ) : Disk := d.surroundings.disk

def withDisk (d : Desk σ) (disk : Disk) : Desk σ :=
  { d with surroundings := { d.surroundings with disk } }

def refused (f : Fault) : Outcome :=
  match f with
  | .failure failure => .ofTexts 1 ["[red]Error:[/red] " ++ failure.text]
  | f => .crashed f

/-- The text of a file: line ends of all kinds are newlines, and what is no text is marked. -/
def codeOf (bytes : List UInt8) : String :=
  String.ofList (Text.universalNewlines (Text.Utf8.lenient bytes).toList)

def requestOf (o : AnalyzeOptions) (code : String) : AnalysisRequest :=
  let file := Text.Path.plain o.path
  let language :=
    match o.language with
    | some name => if name.isEmpty then Profile.detect file else name
    | none => Profile.detect file
  { file, language, code }

/-- Records that issues were shown, up to the first that cannot be recorded. -/
def recordAll (e : Engine) (file : String) (now : Float) : List Issue → Engine × Option Fault
  | [] => (e, none)
  | i :: rest =>
    match e.checkAndRecord file i.identity .shown now with
    | (e, .ok _, _) => recordAll e file now rest
    | (e, .error f, _) => (e, some f)

/-- What an analysis leaves to show. -/
def shownOf (o : AnalyzeOptions) (out : Served σ) : Outcome :=
  match out.reply, out.result with
  | .error f, _ => refused f
  | .ok v, none => .json v
  | .ok v, some r => if o.json then .json v else .report r o.verbose

def analyzeWith (d : Desk σ) (o : AnalyzeOptions) (e : Engine) : Desk σ × Outcome :=
  let code := codeOf ((d.disk.bytes? (Text.Path.plain o.path)).getD [])
  let out := e.serveAnalysis d.clock d.transport d.remote (requestOf o code)
  let (e, fault) :=
    match out.result with
    | some r => if o.record then recordAll out.engine r.file out.clock r.issues else (out.engine, none)
    | none => (out.engine, none)
  let (_, disk, _) := e.close d.disk
  ({ d.withDisk disk with clock := out.clock, remote := out.remote },
    match fault with
    | some f => refused f
    | none => shownOf o out)

def analyzeConfig (d : Desk σ) (o : AnalyzeOptions) : Except Fault Config :=
  d.config o.config
    [("mode", o.mode.map .text), ("min_function_length", o.minFunctionLength.map .int),
      ("cache_dir", directory o.cacheDirectory)]

def analyze (d : Desk σ) (o : AnalyzeOptions) : Desk σ × Outcome :=
  match (d.analyzeConfig o).bind fun c => Engine.start c d.disk with
  | .error f => (d, refused f)
  | .ok (e, disk, _) => (d.withDisk disk).analyzeWith o e

def cacheConfig (d : Desk σ) (o : CacheOptions) : Except Fault Config :=
  d.config o.config [("cache_dir", directory o.cacheDirectory)]

def openCache (d : Desk σ) (o : CacheOptions) : Except Fault (Config × Desk σ × Journal) := do
  let c ← d.cacheConfig o
  let (disk, journal, _) ← Engine.journalOf c d.disk
  pure (c, d.withDisk disk, journal)

def closeCache (d : Desk σ) (j : Journal) : Desk σ :=
  d.withDisk ((j.flush.1.store.map d.disk.keep).getD d.disk)

/-- What a cache says about itself. -/
def cacheTexts (c : Config) (j : Journal) (now : Float) : List String :=
  let cache := j.cache
  let line (label text : String) : String := label ++ ": [yellow]" ++ text ++ "[/yellow]"
  ["[bold cyan]codementor Notification Cache[/bold cyan]"] ++
    (match j.store with
      | some store =>
        ["Storage: [green]Persistent[/green]",
          "Directory: [blue]" ++ store.directory.plain ++ "[/blue]"]
      | none => ["Storage: [yellow]In memory[/yellow] (set cache_dir to persist)"]) ++
    [line "Entries" (toString cache.entries.length), line "Dismissed" (toString cache.dismissedCount),
      line "Expired" (toString (cache.expiredCount now)),
      line "Size"
        (toString cache.size ++ " / " ++ (Value.ofNumber cache.cap.given).plain ++ " bytes"),
      line "TTL" ((c.number .cacheLifetime).general ++ " days")]

def cacheInfo (d : Desk σ) (o : CacheOptions) : Desk σ × Outcome :=
  match d.openCache o with
  | .error f => (d, .crashed f)
  | .ok (c, d, j) => (d.closeCache j, .ofTexts 0 (cacheTexts c j d.clock))

def cacheClear (d : Desk σ) (o : CacheOptions) : Desk σ × Outcome :=
  match d.openCache o with
  | .error f => (d, .crashed f)
  | .ok (_, d, j) =>
    if j.store.isNone then (d, .ofTexts 0 ["[yellow]No persistent cache configured[/yellow]"])
    else
      match j.clear with
      | (j, .ok ()) =>
        (d.closeCache j, .ofTexts 0 ["[green]Notification cache cleared[/green]"])
      | (j, .error f) => (d.closeCache j, .crashed f)

def store? (d : Desk σ) (command : Command) : Option SnapshotStore :=
  let config :=
    match command with
    | .analyze o => (d.analyzeConfig o).toOption
    | .cacheInfo o | .cacheClear o => (d.cacheConfig o).toOption
    | _ => none
  (config.bind fun c => (Engine.storeOf c d.disk).toOption).bind (·.2)

def run (d : Desk σ) : Command → Desk σ × Outcome
  | .help => (d, .quiet 0)
  | .misuse => (d, .quiet 2)
  | .version =>
    (d,
      .ofTexts 0 ["[bold cyan]codementor[/bold cyan] version [green]" ++ version ++ "[/green]"])
  | .analyze o => d.analyze o
  | .cacheInfo o => d.cacheInfo o
  | .cacheClear o => d.cacheClear o

def command (d : Desk σ) (line : List String) : Command := Command.ofLine d.disk line

/-- Carries out the command that a command line stands for. -/
def runLine (d : Desk σ) (line : List String) : Desk σ × Outcome :=
  d.run (d.command line)

end Desk

end LiveLint.Cli
