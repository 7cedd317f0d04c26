import LiveLint.Config.Basic
import LiveLint.Disk
import LiveLint.Reading
import LiveLint.Toml.Parser

/-!
# Sources of a configuration

A configuration is put together from files, the environment and overrides. A later source wins over
an earlier one, setting by setting; the flags of categories come from a table of their own in the
files and are overridden one by one.
-/

/-!
## Settings from the environment

A setting can be given as a text in a variable whose name is that of the setting in capital letters.
-/

namespace LiveLint

def Reading.truthWords : List (String × Bool) :=
  [("true", true), ("1", true), ("yes", true), ("on", true), ("false", false), ("0", false),
    ("no", false), ("off", false)]

/-- The value a text has, none if texts are not read in this way. -/
def Reading.read (r : Reading) (text : String) : Except Fault (Option Value) :=
  match r with
  | .skipped => .ok none
  | .word => .ok (some (.text text))
  | .real => (Value.text text).real.map fun x => some (.float x)
  | .truth =>
    match truthWords.lookup text.toLower with
    | some b => .ok (some (.bool b))
    | none => .error (.unacceptable (.truthValue text))
  | .whole => (Text.Numeral.whole text).map fun n => some (.int n)

namespace Environment

/-- The variable that holds a setting. -/
def variableOf (s : Setting) : String := "CODEMENTOR_" ++ s.key.toUpper

def fieldsOf (environment : List (String × String)) : List Setting → Except Fault Fields
  | [] => .ok []
  | s :: rest =>
    match environment.lookup (variableOf s) with
    | none => fieldsOf environment rest
    | some text =>
      match s.reading.read text with
      | .error f =>
        .error (.failure (.configuration ("Invalid " ++ variableOf s ++ ": " ++ f.message) []))
      | .ok none => fieldsOf environment rest
      | .ok (some v) => (fieldsOf environment rest).map ((s.key, v) :: ·)

def fields (environment : List (String × String)) : Except Fault Fields :=
  fieldsOf environment Setting.all

end Environment

/-! ## Sources of a configuration -/

structure ConfigFile where
  path : String
  content : DiskEntry
  deriving Repr

/-- Everything a configuration is put together from. -/
structure ConfigSources where
  /-- The file for all projects of a user. -/
  userFile : ConfigFile
  /-- The file of the project. -/
  projectFile : ConfigFile
  /-- A file that was asked for. -/
  explicitFile : Option ConfigFile := none
  /-- The variables of the environment. -/
  environment : List (String × String) := []
  overrides : Fields := []
  deriving Repr

/-- What the sources say, lightest first: the documents of the files, what the environment holds, and
the overrides. -/
structure ConfigLayers where
  documents : List Fields
  environment : Fields
  overrides : Fields
  deriving Repr

namespace ConfigLayers

/-- The fields of a document. A table of the engine's own counts like fields on the first level. -/
def fieldsOf (document : Fields) : Fields :=
  match Table.get? document "engine" with
  | some (.table engine) => Table.setAll (Table.erase document "engine") engine
  | _ => Table.erase document "engine"

def base (l : ConfigLayers) : Fields :=
  Table.setAll (l.documents.foldl (fun t d => Table.setAll t (fieldsOf d)) []) l.environment

/-- Flags for all categories, all of them on. -/
def allOn : Fields := Category.names.map fun name => (name, .bool true)

def baseFlags (l : ConfigLayers) : Fields :=
  match Table.get? l.base "categories" with
  | some (.table flags) => Table.setAll allOn (flags.map fun (k, v) => (k, .bool v.truthy))
  | _ => allOn

/-- A key and its value from an item of a list that stands for a table. -/
def pairOf (position : Nat) (item : Value) : Except Fault (Value × Value) := do
  let parts ←
    match item with
    | .list parts => pure parts
    | .text s => pure (s.toList.map fun c => .text (String.singleton c))
    | .table fields => pure (fields.map fun field => .text field.1)
    | _ => .error (.mistyped (.notSequence position))
  match parts with
  | [k, v] => (Value.members (.list [k])).map fun _ => (k, v)
  | parts => .error (.unacceptable (.pairLength position parts.length))

/-- The flags that a value sets. Their names may be of any type. -/
def flagsOf (v : Value) : Except Fault (List (Value × Value)) :=
  match v with
  | .table flags => .ok (flags.map fun (k, v) => (.text k, v))
  | .list items => items.zipIdx.mapM fun (item, i) => pairOf i item
  | .text s => s.toList.zipIdx.mapM fun (c, i) => pairOf i (.text (String.singleton c))
  | v => .error (.mistyped (.notIterable v.typeName))

/-- Flags by their names; if one of them is no text, only the names, none of which is lost. -/
def flagTable (base : Fields) (changes : List (Value × Value)) : Value :=
  match changes.mapM fun (k, v) => k.text?.map fun name => (name, v) with
  | some changes => .table (Table.setAll base changes)
  | none => .list (base.map (fun (k, _) => .text k) ++ changes.map (·.1))

def flags (l : ConfigLayers) : Except Fault Value :=
  match Table.get? l.overrides "category_flags" with
  | some v => (flagsOf v).map (flagTable l.baseFlags)
  | none => .ok (.table l.baseFlags)

def fields (l : ConfigLayers) (flags : Value) : Fields :=
  Table.setAll (Table.set "category_flags" flags (Table.erase l.base "categories"))
    (Table.erase l.overrides "category_flags")

def config (l : ConfigLayers) : Except Fault Config := do
  (Config.ofFields (l.fields (← l.flags))).mapError Config.refusal

end ConfigLayers

namespace ConfigFile

def document (f : ConfigFile) (label : String) : Except Fault Fields :=
  let refused (reason : String) : Except Fault Fields :=
    .error (.failure (.configuration ("Invalid " ++ label ++ " '" ++ f.path ++ "': " ++ reason) []))
  match f.content with
  | .absent | .blocked => .ok []
  | .folder => refused ("[Errno 21] Is a directory: " ++ Text.quoted f.path)
  | .file bytes =>
    match Toml.parseBytes bytes with
    | .ok document => .ok document
    | .error reason => refused reason

/-- The document in a file that was asked for. -/
def required (f : ConfigFile) : Except Fault Fields :=
  match f.content with
  | .absent | .blocked => .error (.failure (.configuration ("Config file not found: " ++ f.path) []))
  | _ => f.document "config file"

end ConfigFile

namespace ConfigSources

def layers (s : ConfigSources) : Except Fault ConfigLayers := do
  let user ← s.userFile.document "global config"
  let project ← s.projectFile.document "project config"
  let asked ←
    match s.explicitFile with
    | some f => f.required.map ([·])
    | none => pure []
  let environment ← Environment.fields s.environment
  pure { documents := user :: project :: asked, environment, overrides := s.overrides }

/-- The ways in which a configuration is asked for: once, or through a provider that reads its sources
whenever it is needed. -/
inductive Route where
  | direct | provider
  deriving DecidableEq, Repr

def Route.label : Route → String
  | direct => "load_config"
  | provider => "file_provider"

/-- The configuration that the sources add up to. The file that is asked for cannot be overridden. -/
def load (s : ConfigSources) (route : Route := .direct) : Except Fault Config :=
  if (Table.get? s.overrides "config_file").isSome then
    .error (.mistyped (.repeatedArgument route.label "config_file"))
  else do (← s.layers).config

end ConfigSources

/-!
## Surroundings

Where configurations come from: the file of the user, the file of the project, a file that was asked
for, and the variables of the environment.
-/

structure Surroundings where
  disk : Disk
  environment : List (String × String) := []

def Disk.configIn (d : Disk) (folder name : String) : ConfigFile :=
  let path := folder ++ "/" ++ name
  ⟨path, d.look path⟩

def Surroundings.sources (s : Surroundings) (explicit : Option String) (overrides : Fields) :
    ConfigSources :=
  { userFile := s.disk.configIn s.disk.homePath ".codementor.toml"
    projectFile := s.disk.configIn s.disk.workPath "codementor.toml"
    explicitFile := explicit.map fun path =>
      let path := Text.Path.plain path
      ⟨path, s.disk.look path⟩
    environment := s.environment
    overrides }

end LiveLint
