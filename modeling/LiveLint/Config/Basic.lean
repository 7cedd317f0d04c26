import LiveLint.Classify.Classifier
import LiveLint.Detect.Query
import LiveLint.Schedule.Scheduler
import LiveLint.Value

/-!
# Configurations

A configuration gives every setting a value. Values keep the type in which they were given, so what
is checked is only what the engine relies on: the mode is known, the categories are known, limits
are numbers within their range.
-/

/-!
## Settings

What can be configured: each setting has a name, a standard value and a way in which a text is read
as its value.
-/

namespace LiveLint

inductive Setting where
  | categoryFlags | minFunctionLength | maxParameters | duplicateMinLines | mode
  | maxConcurrentJobs | maxQueueDepth | baseDebounce | maxDebounce | loadQueueThreshold
  | loadLatencyThreshold | cacheLifetime | cacheMaxBytes | cacheDirectory | cacheAutosaveEvery
  | remoteEndpoint | structuralTimeout | classificationTimeout | probeInterval
  deriving DecidableEq, Repr

inductive Reading where
  | whole | real | truth | word
  /-- There is no way. -/
  | skipped
  deriving DecidableEq, Repr

namespace Setting

def key : Setting → String
  | categoryFlags => "category_flags"
  | minFunctionLength => "min_function_length"
  | maxParameters => "max_parameters"
  | duplicateMinLines => "duplicate_min_lines"
  | mode => "mode"
  | maxConcurrentJobs => "max_concurrent_jobs"
  | maxQueueDepth => "max_queue_depth"
  | baseDebounce => "base_debounce_ms"
  | maxDebounce => "max_debounce_ms"
  | loadQueueThreshold => "load_queue_threshold"
  | loadLatencyThreshold => "load_latency_threshold_ms"
  | cacheLifetime => "cache_ttl_days"
  | cacheMaxBytes => "cache_max_bytes"
  | cacheDirectory => "cache_dir"
  | cacheAutosaveEvery => "cache_autosave_every"
  | remoteEndpoint => "remote_endpoint"
  | structuralTimeout => "structural_timeout_s"
  | classificationTimeout => "classification_timeout_s"
  | probeInterval => "probe_interval_s"

/-- All settings in the order in which they are documented. -/
def all : List Setting :=
  [categoryFlags, minFunctionLength, maxParameters, duplicateMinLines, mode, maxConcurrentJobs,
    maxQueueDepth, baseDebounce, maxDebounce, loadQueueThreshold, loadLatencyThreshold,
    cacheLifetime, cacheMaxBytes, cacheDirectory, cacheAutosaveEvery, remoteEndpoint,
    structuralTimeout, classificationTimeout, probeInterval]

theorem mem_all (s : Setting) : s ∈ all := by cases s <;> decide

def ofKey? (name : String) : Option Setting := all.find? (·.key == name)

theorem ofKey?_key (s : Setting) : ofKey? s.key = some s := by cases s <;> rfl

/-- The value that holds if nothing else is said. -/
def standard : Setting → Value
  | categoryFlags => .table (Category.names.map fun name => (name, .bool true))
  | minFunctionLength => .int 50
  | maxParameters => .int 5
  | duplicateMinLines => .int 5
  | mode => .text "aggressive"
  | maxConcurrentJobs => .int 3
  | maxQueueDepth => .int 32
  | baseDebounce => .int 0
  | maxDebounce => .int 5000
  | loadQueueThreshold => .int 3
  | loadLatencyThreshold => .int 1000
  | cacheLifetime => .float 7
  | cacheMaxBytes => .int (10 * 1024 * 1024)
  | cacheDirectory => .null
  | cacheAutosaveEvery => .int 50
  | remoteEndpoint => .null
  | structuralTimeout => .float 5
  | classificationTimeout => .float 10
  | probeInterval => .float 60

def reading : Setting → Reading
  | categoryFlags => .skipped
  | mode | cacheDirectory | remoteEndpoint => .word
  | cacheLifetime | structuralTimeout | classificationTimeout | probeInterval => .real
  | _ => .whole

end Setting

/-! ## Configurations -/

namespace Value

/-- Whether a value is less than a bound. Only numbers have an order. -/
def isBelow (v bound : Value) : Except Fault Bool :=
  match v.number?, bound.number? with
  | some a, some b => .ok (a.lt b)
  | _, _ => .error (.mistyped (.unordered "<" v.typeName bound.typeName))

/-- Whether a value is at most zero. Only numbers have an order. -/
def isAtMostZero (v : Value) : Except Fault Bool :=
  match v.number? with
  | some a => .ok (a.le 0)
  | none => .error (.mistyped (.unordered "<=" v.typeName "int"))

/-- Whether two values without parts are the same; a truth value is the same as its number. -/
def isSame (v w : Value) : Bool :=
  match v, w with
  | .text s, .text t => s == t
  | .null, .null => true
  | v, w =>
    match v.number?, w.number? with
    | some a, some b => Number.order a b == some .eq
    | _, _ => false

/-- What a value names: the keys of a table, the items of a list, the characters of a text. -/
def members (v : Value) : Except Fault (List Value) :=
  match v with
  | .table fields => .ok (fields.map fun field => .text field.1)
  | .text s => .ok (s.toList.map fun c => .text (String.singleton c))
  | .list items =>
    match items.find? fun | .list _ | .table _ => true | _ => false with
    | some item => .error (.mistyped (.unhashable item.typeName))
    | none => .ok items
  | v => .error (.mistyped (.notIterable v.typeName))

end Value

namespace Config

abbrev Values := Setting → Value

/-- Sorts names; texts and numbers have no order between them. -/
def sortNames (names : List Value) : Except Fault (List Value) :=
  match names with
  | [] | [_] => .ok names
  | first :: rest =>
    match names.mapM (·.text?), names.mapM (·.number?) with
    | some texts, _ => .ok ((texts.mergeSort (· ≤ ·)).map .text)
    | none, some _ =>
      .ok (names.mergeSort fun v w =>
        match v.number?, w.number? with
        | some a, some b => !b.lt a
        | _, _ => true)
    | none, none =>
      let other := rest.find? fun (v : Value) => v.typeName != first.typeName
      .error (.mistyped (.unordered "<" ((other.map Value.typeName).getD "") first.typeName))

/-- Names that are no categories, each once. -/
def unknownNames (names : List Value) : List Value :=
  names.foldl
    (fun found v =>
      if v.text?.any Category.names.contains || found.any v.isSame then found else found ++ [v])
    []

def checkMode (mode : Value) : Except Fault Unit :=
  match mode with
  | .text "aggressive" | .text "gentle" => .ok ()
  | v => .error (.unacceptable (.mode v.plain))

def checkFlags (flags : Value) : Except Fault Unit := do
  let unknown := unknownNames (← flags.members)
  if unknown.isEmpty then .ok ()
  else .error (.unacceptable (.unknownCategories (← sortNames unknown)))

def atLeast (values : Values) (s : Setting) (least : Nat) : Except Fault Unit := do
  if ← (values s).isBelow (.int least) then .error (.unacceptable (.tooSmall s.key least))
  else .ok ()

def notNegative (values : Values) (s : Setting) : Except Fault Unit := do
  if ← (values s).isBelow (.int 0) then .error (.unacceptable (.negative s.key)) else .ok ()

def positive (values : Values) (s : Setting) : Except Fault Unit := do
  if ← (values s).isAtMostZero then .error (.unacceptable (.notPositive s.key)) else .ok ()

/-- The longest interval is not shorter than the standard one. -/
def checkDebounce (values : Values) : Except Fault Unit := do
  if ← (values .maxDebounce).isBelow (values .baseDebounce) then
    .error (.unacceptable .debounceLimits)
  else .ok ()

def checkTimeouts (values : Values) : Except Fault Unit := do
  if ← (values .structuralTimeout).isAtMostZero then .error (.unacceptable .timeouts)
  else if ← (values .classificationTimeout).isAtMostZero then .error (.unacceptable .timeouts)
  else .ok ()

/-- What must hold of the values of a configuration. The first rule that is broken counts. -/
def check (values : Values) : Except Fault Unit := do
  checkMode (values .mode)
  checkFlags (values .categoryFlags)
  atLeast values .minFunctionLength 1
  notNegative values .maxParameters
  atLeast values .duplicateMinLines 2
  atLeast values .maxConcurrentJobs 1
  notNegative values .maxQueueDepth
  notNegative values .baseDebounce
  checkDebounce values
  positive values .cacheLifetime
  atLeast values .cacheMaxBytes 1
  atLeast values .cacheAutosaveEvery 1
  checkTimeouts values
  positive values .probeInterval

end Config

/-- Acceptable values for all settings. -/
structure Config where
  get : Config.Values
  valid : Config.check get = .ok ()

namespace Config

def ofValues (values : Values) : Except Fault Config :=
  match h : check values with
  | .ok () => .ok ⟨values, h⟩
  | .error f => .error f

def assign (values : Values) (s : Setting) (v : Value) : Values :=
  fun t => if t = s then v else values t

/-- Values with those changed that some fields name. -/
def assignAll (values : Values) : Fields → Except Fault Values
  | [] => .ok values
  | (name, v) :: rest =>
    match Setting.ofKey? name with
    | some s => assignAll (assign values s v) rest
    | none =>
      .error
        (.mistyped
          (if name == "self" then .repeatedArgument "EngineConfig.__init__" name
            else .unknownArgument "EngineConfig.__init__" name))

/-- The configuration that differs from the standard one in some fields. -/
def ofFields (fields : Fields) : Except Fault Config := do
  ofValues (← assignAll Setting.standard fields)

def refusal (f : Fault) : Fault :=
  .failure (.configuration ("Invalid configuration: " ++ f.message) [])

/-- The configuration with some fields changed. The configuration itself is no field. -/
def override (c : Config) (fields : Fields) : Except Fault Config :=
  if (Table.get? fields "config").isSome then
    .error (.mistyped (.repeatedArgument "with_overrides" "config"))
  else (assignAll c.get fields >>= ofValues).mapError refusal

def standard : Config := ⟨Setting.standard, by rfl⟩

def fields (c : Config) : Fields := Setting.all.map fun s => (s.key, c.get s)

/-- The number a setting has; zero stands for a value that is no number. -/
def number (c : Config) (s : Setting) : Number := (c.get s).number?.getD 0

def isGentle (c : Config) : Bool :=
  match c.get .mode with
  | .text "gentle" => true
  | _ => false

/-- The flag of a category; one that has none is on. -/
def flag (c : Config) (name : String) : Except Fault Value :=
  match c.get .categoryFlags with
  | .table flags => .ok ((Table.get? flags name).getD (.bool true))
  | v => .error (.missingMember v.typeName "get")

def isEnabled (c : Config) (category : Category) : Except Fault Bool :=
  (c.flag category.label).map Value.truthy

/-- How long a showing counts, in seconds. -/
def lifetime (c : Config) : Number := c.number .cacheLifetime * 86400

def hasRemote (c : Config) : Bool := (c.get .remoteEndpoint).truthy

def settings (c : Config) : Settings :=
  { minFunctionLength := c.number .minFunctionLength
    maxParameters := c.number .maxParameters
    duplicateMinLines := c.number .duplicateMinLines }

def scheduling (c : Config) : SchedulerSettings Number :=
  SchedulerSettings.ofValues (c.get .maxConcurrentJobs) (c.get .maxQueueDepth) (c.number .baseDebounce)
    (c.get .maxDebounce) (c.get .loadQueueThreshold) (c.get .loadLatencyThreshold)

end Config

end LiveLint
