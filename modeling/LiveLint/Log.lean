/-!
# Log records

Operations report what they did as records of a level, a logger name and a message. Logger names
form a hierarchy by their dots; a logger without a level of its own takes that of the nearest
ancestor that has one.
-/

namespace LiveLint.Log

/-- How much a record matters. -/
inductive Level where
  | debug | info | warning | error | critical
  deriving DecidableEq, Repr

def Level.number : Level → Nat
  | .debug => 10
  | .info => 20
  | .warning => 30
  | .error => 40
  | .critical => 50

def Level.label : Level → String
  | .debug => "DEBUG"
  | .info => "INFO"
  | .warning => "WARNING"
  | .error => "ERROR"
  | .critical => "CRITICAL"

def Level.ofLabel? (name : String) : Option Level :=
  [Level.debug, .info, .warning, .error, .critical].find? (·.label == name)

structure Record where
  level : Level
  logger : String
  message : String
  deriving DecidableEq, Repr

/-- The logger all others descend from. -/
def root : String := "codementor"

def loggerName (name : Option String) : String :=
  match name with
  | none => root
  | some name => if root.toList.isPrefixOf name.toList then name else root ++ "." ++ name

/-- A record of one of the engine's loggers. -/
def Record.ofLogger (level : Level) (logger message : String) : Record :=
  ⟨level, root ++ "." ++ logger, message⟩

end LiveLint.Log
