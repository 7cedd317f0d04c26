import LiveLint.Config.Sources
import LiveLint.Text.Lower

/-!
# Commands

The commands of the command line: to analyze a file, to show what is in the cache, and to clear it.
-/

/-!
## Arguments of a command line

Flags may stand anywhere among the other words, up to a word of two dashes. A long flag takes its
value from behind an equals sign or from the next word; short flags may be written together, and what
follows one that takes a value is its value.
-/

namespace LiveLint.Cli

inductive Flag where
  | help | version | language | json | mode | minFunctionLength | record | cacheDirectory | config
  | verbose
  deriving DecidableEq, Repr

/-- How a flag is written. -/
structure Switch where
  flag : Flag
  names : List String
  takesValue : Bool
  deriving Repr

/-- Flags with their values in the order in which they were given, and the other words. -/
structure Arguments where
  flags : List (Flag × String) := []
  words : List String := []
  deriving Repr

namespace Arguments

def has (a : Arguments) (flag : Flag) : Bool := a.flags.any (·.1 == flag)

/-- The value that was given to a flag last. -/
def value? (a : Arguments) (flag : Flag) : Option String := a.flags.reverse.lookup flag

def addFlag (a : Arguments) (flag : Flag) (value : String) : Arguments :=
  { a with flags := (flag, value) :: a.flags }

end Arguments

/-- A flag with its value and the words that are left. -/
abbrev Taken := List (Flag × String) × List String

def takeNext (flag : Flag) : List String → Option Taken
  | [] => none
  | value :: rest => some ([(flag, value)], rest)

/-- Short flags written together. -/
def takeShort (switches : List Switch) : List Char → List String → Option Taken
  | [], rest => some ([], rest)
  | c :: more, rest =>
    match switches.find? (·.names.contains (String.ofList ['-', c])) with
    | none => none
    | some s =>
      if s.takesValue then
        if more.isEmpty then takeNext s.flag rest else some ([(s.flag, String.ofList more)], rest)
      else (takeShort switches more rest).map fun (flags, rest) => ((s.flag, "") :: flags, rest)

/-- A word that starts with a dash. -/
def takeFlag (switches : List Switch) (word : String) (rest : List String) : Option Taken :=
  let cs := word.toList
  let name := String.ofList (cs.takeWhile (· != '='))
  let value := (cs.dropWhile (· != '=')).tail?.map String.ofList
  let isLong := cs.take 2 == ['-', '-']
  match if isLong then switches.find? (·.names.contains name) else none with
  | some s =>
    if s.takesValue then
      match value with
      | some v => some ([(s.flag, v)], rest)
      | none => takeNext s.flag rest
    else if value.isSome then none
    else some ([(s.flag, "")], rest)
  | none => if isLong then none else takeShort switches (cs.drop 1) rest

/-- The arguments that words stand for; none if they break the rules. With `mixed` flags may follow
other words, otherwise the first other word ends the flags. -/
def scan (switches : List Switch) (mixed : Bool) : Nat → List String → Option Arguments
  | 0, words => some { words }
  | _, [] => some {}
  | fuel + 1, word :: rest =>
    if word == "--" then some { words := rest }
    else if word.startsWith "-" && word != "-" then do
      let (flags, rest) ← takeFlag switches word rest
      let a ← scan switches mixed fuel rest
      some { a with flags := flags ++ a.flags }
    else if mixed then
      (scan switches mixed fuel rest).map fun a => { a with words := word :: a.words }
    else some { words := word :: rest }

def arguments? (switches : List Switch) (mixed : Bool) (words : List String) : Option Arguments :=
  scan switches mixed words.length words

/-! ## Commands -/

structure AnalyzeOptions where
  path : String
  language : Option String := none
  json : Bool := false
  mode : Option String := none
  minFunctionLength : Option Int := none
  record : Bool := false
  cacheDirectory : Option String := none
  config : Option String := none
  verbose : Bool := false
  deriving Repr

structure CacheOptions where
  cacheDirectory : Option String := none
  config : Option String := none
  deriving Repr

inductive Command where
  | help
  | version
  /-- It breaks the rules. -/
  | misuse
  | analyze (o : AnalyzeOptions)
  | cacheInfo (o : CacheOptions)
  | cacheClear (o : CacheOptions)
  deriving Repr

/-- Flags that come before a command. -/
def globalSwitches : List Switch :=
  [⟨.help, ["--help"], false⟩, ⟨.version, ["--version"], false⟩]

def cacheSwitches : List Switch :=
  [⟨.help, ["--help"], false⟩, ⟨.cacheDirectory, ["--cache-dir"], true⟩,
    ⟨.config, ["-c", "--config"], true⟩]

def analyzeSwitches : List Switch :=
  cacheSwitches ++
    [⟨.language, ["-l", "--language"], true⟩, ⟨.json, ["--json"], false⟩,
      ⟨.mode, ["--mode"], true⟩, ⟨.minFunctionLength, ["--min-function-length"], true⟩,
      ⟨.record, ["--record"], false⟩, ⟨.verbose, ["-v", "--verbose"], false⟩]

namespace Command

/-- A value that a flag may have been given, if it obeys a rule. -/
def optional (a : Arguments) (flag : Flag) (read : String → Option α) : Option (Option α) :=
  match a.value? flag with
  | none => some none
  | some value => (read value).map some

def existing (disk : Disk) (path : String) : Option String :=
  (disk.bytes? path).map fun _ => path

/-- A name without the differences of letter case: a sharp s counts as two, a long s as one. -/
def folded (name : String) : String :=
  String.ofList
    ((Text.lower name).toList.flatMap fun c =>
      if c == '\u00DF' then ['s', 's'] else if c == '\u017F' then ['s'] else [c])

/-- One of the modes, in letters of any case. -/
def modeOf (name : String) : Option String := ["aggressive", "gentle"].find? (· == folded name)

/-- A length of at least one. -/
def lengthOf (text : String) : Option Int :=
  match Reading.whole.read text with
  | .ok (some (.int n)) => if 1 ≤ n then some n else none
  | _ => none

/-- What an analysis is asked to do, none if that breaks the rules. -/
def analyzeOptions (disk : Disk) (a : Arguments) : Option AnalyzeOptions := do
  let mode ← optional a .mode modeOf
  let minFunctionLength ← optional a .minFunctionLength lengthOf
  let config ← optional a .config (existing disk)
  match a.words with
  | [path] =>
    let path ← existing disk path
    some
      { path, mode, minFunctionLength, config
        language := a.value? .language
        json := a.has .json
        record := a.has .record
        cacheDirectory := a.value? .cacheDirectory
        verbose := a.has .verbose }
  | _ => none

def cacheOptions (disk : Disk) (a : Arguments) : Option CacheOptions := do
  let config ← optional a .config (existing disk)
  if a.words.isEmpty then some { cacheDirectory := a.value? .cacheDirectory, config } else none

def ofWords (switches : List Switch) (words : List String) (read : Arguments → Option Command) :
    Command :=
  match arguments? switches true words with
  | none => .misuse
  | some a => if a.has .help then .help else (read a).getD .misuse

def ofName? (disk : Disk) (name : String) (words : List String) : Option Command :=
  match name with
  | "analyze" => some (ofWords analyzeSwitches words fun a => (analyzeOptions disk a).map .analyze)
  | "cache-info" => some (ofWords cacheSwitches words fun a => (cacheOptions disk a).map .cacheInfo)
  | "cache-clear" =>
    some (ofWords cacheSwitches words fun a => (cacheOptions disk a).map .cacheClear)
  | _ => none

def ofLine (disk : Disk) (line : List String) : Command :=
  match arguments? globalSwitches false line with
  | none => .misuse
  | some a =>
    if a.has .help then .help
    else
      match a.words with
      | [] => if a.has .version then .version else .help
      | name :: words =>
        match ofName? disk name words with
        | none => .misuse
        | some command => if a.has .version then .version else command

end Command

end LiveLint.Cli
