import LiveLint.Value

/-!
# Faults

Everything that can end an operation: failures of the engine, values outside of their domain,
values of the wrong type, numbers that are too large, keys that are missing, and interruptions from
outside.
-/

/-!
## Failures

What can go wrong in the engine itself. A failure has a message and named details; its text shows
the details in brackets after the message.
-/

namespace LiveLint

inductive Failure where
  | general (message : String) (details : Fields)
  | analysis (message : String) (details : Fields)
  | unparsable (file language reason : String)
  | unsupportedLanguage (language : String) (supported : List String)
  | unclassified (kind language : String)
  | superseded (file : String) (revision latest : Int)
  | remoteUnavailable (operation reason : String) (timeout : Option Number)
  | queueFull (workspace : String) (depth : Int)
  | corruptCache (location reason : String)
  | invalidRequest (reason : String) (field : Option String)
  | configuration (message : String) (details : Fields)
  deriving Repr

namespace Failure

/-- What happened, without the details. -/
def message : Failure → String
  | .general message _ | .analysis message _ | .configuration message _ => message
  | .unparsable file language _ => "Failed to parse " ++ language ++ " source: " ++ file
  | .unsupportedLanguage language _ => "Unsupported language: " ++ language
  | .unclassified kind _ => "No classification rule for pattern kind: " ++ kind
  | .superseded file _ _ => "Analysis of " ++ file ++ " superseded"
  | .remoteUnavailable operation _ _ => "Remote " ++ operation ++ " unavailable"
  | .queueFull workspace _ => "Analysis queue full for workspace " ++ workspace
  | .corruptCache location _ => "Notification cache corrupted at " ++ location
  | .invalidRequest reason _ => "Invalid request: " ++ reason

def details : Failure → Fields
  | .general _ details | .analysis _ details | .configuration _ details => details
  | .unparsable file language reason =>
    [("file", .text file), ("language", .text language), ("reason", .text reason)]
  | .unsupportedLanguage language supported =>
    [("language", .text language), ("supported", .text (", ".intercalate supported))]
  | .unclassified kind language => [("kind", .text kind), ("language", .text language)]
  | .superseded file revision latest =>
    [("file", .text file), ("revision", .text (toString revision)),
      ("latest", .text (toString latest))]
  | .remoteUnavailable operation reason timeout =>
    [("operation", .text operation), ("reason", .text reason)] ++
      (timeout.map fun t => ("timeout", .text (t.text ++ "s"))).toList
  | .queueFull workspace depth =>
    [("workspace", .text workspace), ("depth", .text (toString depth))]
  | .corruptCache location reason => [("location", .text location), ("reason", .text reason)]
  | .invalidRequest _ field =>
    match field with
    | some name => if name.isEmpty then [] else [("field", .text name)]
    | none => []

/-- The message with its details. -/
def text (f : Failure) : String :=
  if f.details.isEmpty then f.message
  else
    f.message ++ " (" ++ ", ".intercalate (f.details.map fun (k, v) => k ++ "=" ++ v.plain) ++ ")"

/-- Whether a failure belongs to the analysis of a file. -/
def isAnalysis : Failure → Bool
  | .analysis .. | .unparsable .. | .unsupportedLanguage .. | .unclassified .. | .superseded .. =>
    true
  | _ => false

end Failure

/-! ## Faults -/

inductive Unacceptable where
  | lineRange (start stop : Int)
  | wholeNumber (text : String)
  | realNumber (text : String)
  | truthValue (text : String)
  | tooManyDigits (count : Nat)
  | category (value : Value)
  | action (value : Value)
  | severity (value : Value)
  | confidence (value : Number)
  | mode (text : String)
  | unknownCategories (names : List Value)
  | tooSmall (setting : String) (least : Nat)
  | negative (setting : String)
  | notPositive (setting : String)
  | timeouts
  | debounceLimits
  | noBackoff
  | duplicateQuery (kind : String)
  | pairLength (position length : Nat)
  | tooFewItems (expected got : Nat)
  | tooManyItems (expected : Nat)
  deriving Repr

def Unacceptable.message : Unacceptable → String
  | .lineRange start stop => "Invalid line range " ++ toString start ++ "-" ++ toString stop
  | .wholeNumber text =>
    "invalid literal for int() with base 10: " ++ String.ofList ((Text.quoted text).toList.take 200)
  | .realNumber text => "could not convert string to float: " ++ Text.quoted text
  | .truthValue text => "expected true/false, got '" ++ text ++ "'"
  | .tooManyDigits count =>
    "Exceeds the limit (4300 digits) for integer string conversion: value has " ++
      toString count ++ " digits; use sys.set_int_max_str_digits() to increase the limit"
  | .category value => value.shown ++ " is not a valid IssueCategory"
  | .action value => value.shown ++ " is not a valid CacheAction"
  | .severity value => value.shown ++ " is not a valid Severity"
  | .confidence value => "confidence must be within [0, 1], got " ++ value.text
  | .mode text => "mode must be 'aggressive' or 'gentle', got '" ++ text ++ "'"
  | .unknownCategories names =>
    "Unknown categories in category_flags: " ++ (Value.list names).shown
  | .tooSmall setting least => setting ++ " must be at least " ++ toString least
  | .negative setting => setting ++ " must be non-negative"
  | .notPositive setting => setting ++ " must be positive"
  | .timeouts => "remote timeouts must be positive"
  | .debounceLimits => "max_debounce_ms must be >= base_debounce_ms"
  | .noBackoff => "backoff must contain at least one delay"
  | .pairLength position length =>
    "dictionary update sequence element #" ++ toString position ++ " has length " ++
      toString length ++ "; 2 is required"
  | .tooFewItems expected got =>
    "not enough values to unpack (expected " ++ toString expected ++ ", got " ++ toString got ++ ")"
  | .tooManyItems expected =>
    "too many values to unpack (expected " ++ toString expected ++ ")"
  | .duplicateQuery kind => "A query for kind '" ++ kind ++ "' is already registered"

inductive Mistyped where
  | unordered (relation left right : String)
  | notNumber (type : String)
  | notInteger (type : String)
  | notWhole (type : String)
  | notCount
  | notIterable (type : String)
  | notSequence (position : Nat)
  | notSubscriptable (type : String)
  | listIndex (index : String)
  | textIndex (index : String)
  | unhashable (type : String)
  /-- A function was given an argument that it does not know. -/
  | unknownArgument (function name : String)
  /-- A function was given two values for one of its arguments. -/
  | repeatedArgument (function name : String)
  | notQuery
  | notCategory (value : Value)
  | operands (operation left right : String)
  deriving Repr

def Mistyped.message : Mistyped → String
  | .unordered relation left right =>
    "'" ++ relation ++ "' not supported between instances of '" ++ left ++ "' and '" ++ right ++ "'"
  | .notNumber type => "float() argument must be a string or a real number, not '" ++ type ++ "'"
  | .notInteger type => "'" ++ type ++ "' object cannot be interpreted as an integer"
  | .notWhole type =>
    "int() argument must be a string, a bytes-like object or a real number, not '" ++ type ++ "'"
  | .notCount => "an integer is required"
  | .notIterable type => "'" ++ type ++ "' object is not iterable"
  | .notSequence position =>
    "cannot convert dictionary update sequence element #" ++ toString position ++ " to a sequence"
  | .notSubscriptable type => "'" ++ type ++ "' object is not subscriptable"
  | .listIndex type => "list indices must be integers or slices, not " ++ type
  | .textIndex type => "string indices must be integers, not '" ++ type ++ "'"
  | .unhashable type => "unhashable type: '" ++ type ++ "'"
  | .unknownArgument function name =>
    function ++ "() got an unexpected keyword argument '" ++ name ++ "'"
  | .repeatedArgument function name =>
    function ++ "() got multiple values for argument '" ++ name ++ "'"
  | .notQuery => "object is neither a NodeQuery nor a FileQuery"
  | .notCategory value => "category must be an IssueCategory, got " ++ value.shown
  | .operands operation left right =>
    "unsupported operand type(s) for " ++ operation ++ ": '" ++ left ++ "' and '" ++ right ++ "'"

inductive DiskFault where
  /-- There is a file where its folder should be. -/
  | unopened
  /-- The way to its folder leads through a file. -/
  | blocked (directory : String)
  deriving Repr

def DiskFault.message : DiskFault → String
  | .unopened => "unable to open database file"
  | .blocked directory =>
    "[Errno 20] Cache directory \"" ++ directory ++ "\" does not exist and could not be created"

/-- Why a text with tags cannot be shown. A tag is known by its place among the characters. -/
inductive MarkupFault where
  /-- Nothing is open that a tag closes. -/
  | unopened (tag : String) (position : Nat)
  /-- Nothing is open at all. -/
  | nothingOpen (position : Nat)
  deriving Repr

def MarkupFault.message : MarkupFault → String
  | .unopened tag position =>
    "closing tag '" ++ tag ++ "' at position " ++ toString position ++
      " doesn't match any open tag"
  | .nothingOpen position =>
    "closing tag '[/]' at position " ++ toString position ++ " has nothing to close"

inductive Fault where
  | failure (f : Failure)
  | unacceptable (u : Unacceptable)
  | mistyped (m : Mistyped)
  | numberTooLarge
  | missingKey (key : String)
  /-- A value of some type was used as if it had some member. -/
  | missingMember (type member : String)
  | disk (f : DiskFault)
  | markup (f : MarkupFault)
  | interrupted (text : String)
  deriving Repr

def Fault.message : Fault → String
  | .failure f => f.text
  | .unacceptable u => u.message
  | .mistyped m => m.message
  | .numberTooLarge => "int too large to convert to float"
  | .missingKey key => Text.quoted key
  | .missingMember type member => "'" ++ type ++ "' object has no attribute '" ++ member ++ "'"
  | .disk f => f.message
  | .markup f => f.message
  | .interrupted text => text

end LiveLint
