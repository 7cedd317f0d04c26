import LiveLint.Log

/-!
# Setting up logging

Which records are shown depends on a level for the whole hierarchy and one for the classification
branch of it. Records go to the console and, if asked for, to a file.
-/

namespace LiveLint.Log

structure Options where
  verbose : Bool := false
  quiet : Bool := false
  /-- Path of a file that records are appended to; an empty one means no file. -/
  file : Option String := none
  showLowConfidence : Bool := false

inductive Handler where
  | console | file
  deriving DecidableEq, Repr

/-- The branch of the hierarchy with a level of its own. -/
def classification : String := root ++ ".classification"

namespace Options

def level (o : Options) : Level := if o.quiet then .error else if o.verbose then .debug else .warning

/-- The level of the classification branch; none means that of the hierarchy. -/
def classificationLevel (o : Options) : Option Level :=
  if o.showLowConfidence && !o.quiet then some .info else none

def libraryLevel (o : Options) : Level := if o.verbose then .debug else .warning

/-- The file that records are appended to. -/
def file? (o : Options) : Option String := o.file.filter (!·.isEmpty)

def handlers (o : Options) : List Handler := .console :: (o.file?.map fun _ => .file).toList

/-- The level that applies to a logger of the hierarchy. -/
def levelFor (o : Options) (logger : String) : Level :=
  if isWithin classification logger then o.classificationLevel.getD o.level else o.level
where
  /-- Whether a logger is a branch of the hierarchy or lies below it. -/
  isWithin (branch logger : String) : Bool :=
    logger == branch || (branch ++ ".").toList.isPrefixOf logger.toList

def shows (o : Options) (r : Record) : Bool :=
  levelFor.isWithin root r.logger && (o.levelFor r.logger).number ≤ r.level.number

end Options

/-- A record as a line of a log file, without the time. -/
def Record.line (r : Record) : String := r.logger ++ " - " ++ r.level.label ++ " - " ++ r.message

def Options.fileLines (o : Options) (records : List Record) : Option (List String) :=
  o.file?.map fun _ => (records.filter o.shows).map (·.line)

end LiveLint.Log
