import LiveLint.Number
import LiveLint.Stamp
import LiveLint.Table
import LiveLint.Text.Quoted

/-!
# Dynamic values

Values whose shape is not known before they are read: payloads, stored records, settings and the
free-form data of an occurrence. Tables keep the order in which their keys were first set.
-/

namespace LiveLint

inductive Value where
  | null
  | bool (b : Bool)
  | int (n : Int)
  | float (x : Float)
  | text (s : String)
  | stamp (s : Stamp)
  | list (items : List Value)
  | table (fields : List (String × Value))
  deriving Repr, Inhabited

abbrev Fields := Table String Value

namespace Value

def typeName : Value → String
  | .null => "NoneType"
  | .bool _ => "bool"
  | .int _ => "int"
  | .float _ => "float"
  | .text _ => "str"
  | .stamp s => s.typeName
  | .list _ => "list"
  | .table _ => "dict"

def field? (v : Value) (key : String) : Option Value :=
  match v with
  | .table fields => Table.get? fields key
  | _ => none

/-- The number a value stands for. -/
def number? : Value → Option Number
  | .bool b => some (.flag b)
  | .int n => some (.int n)
  | .float x => some (.float x)
  | _ => none

def ofNumber : Number → Value
  | .int n => .int n
  | .flag b => .bool b
  | .float x => .float x

/-- Empty and zero values count as false. -/
def truthy : Value → Bool
  | .null => false
  | .bool b => b
  | .int n => n != 0
  | .float x => !(x == 0)
  | .text s => !s.isEmpty
  | .stamp _ => true
  | .list items => !items.isEmpty
  | .table fields => !fields.isEmpty

mutual

/-- A value as messages show it: texts quoted, lists in square and tables in curly brackets. -/
def shown : Value → String
  | .null => "None"
  | .bool b => if b then "True" else "False"
  | .int n => toString n
  | .float x => Decimal.text x
  | .text s => Text.quoted s
  | .stamp s => s.shown
  | .list items => "[" ++ ", ".intercalate (shownItems items) ++ "]"
  | .table fields => "\x7b" ++ ", ".intercalate (shownFields fields) ++ "\x7d"

def shownItems : List Value → List String
  | [] => []
  | v :: rest => shown v :: shownItems rest

def shownFields : List (String × Value) → List String
  | [] => []
  | (k, v) :: rest => (Text.quoted k ++ ": " ++ shown v) :: shownFields rest

end

mutual

/-- Whether all doubles in a value are finite. -/
def isFinite : Value → Bool
  | .float x => x.isFinite
  | .list items => itemsAreFinite items
  | .table fields => fieldsAreFinite fields
  | _ => true

def itemsAreFinite : List Value → Bool
  | [] => true
  | v :: rest => isFinite v && itemsAreFinite rest

def fieldsAreFinite : List (String × Value) → Bool
  | [] => true
  | (_, v) :: rest => isFinite v && fieldsAreFinite rest

end

/-- A value as plain text: texts, dates and times as they are, everything else as messages show it. -/
def plain : Value → String
  | .text s => s
  | .stamp s => s.text
  | v => shown v

end Value

end LiveLint

/-!
## Access to values

Reading parts of a value whose shape is known: what is missing or of another type is replaced by
something harmless.
-/

namespace LiveLint.Value

def get (v : Value) (key : String) : Value := (v.field? key).getD .null

def has (v : Value) (key : String) : Bool := (v.field? key).isSome

def isNull : Value → Bool
  | .null => true
  | _ => false

/-- The text a value is, if it is one. -/
def text? : Value → Option String
  | .text s => some s
  | _ => none

/-- The text a value is; everything else counts as empty. -/
def asText (v : Value) : String := v.text?.getD ""

/-- The whole number a value is; everything else counts as zero. -/
def asInt (v : Value) : Int := (v.number?.bind Number.whole?).getD 0

/-- The number a value is; everything else counts as zero. -/
def asNumber (v : Value) : Number := v.number?.getD (.int 0)

/-- The items of a list; everything else counts as an empty list. -/
def asList : Value → List Value
  | .list items => items
  | _ => []

/-- The fields of a table; everything else counts as an empty table. -/
def asFields : Value → Fields
  | .table fields => fields
  | _ => []

def textAt (v : Value) (key : String) : String := (v.get key).asText

def textOr (v : Value) (key other : String) : String := (v.get key).text?.getD other

def intAt (v : Value) (key : String) : Int := (v.get key).asInt

/-- The whole number in a field, or another one if the field is missing. -/
def intOr (v : Value) (key : String) (other : Int) : Int := if v.has key then v.intAt key else other

def numberOr (v : Value) (key : String) (other : Number) : Number := (v.get key).number?.getD other

def items (v : Value) (key : String) : List Value := (v.get key).asList

/-- Whether the value in a field counts as true, or another truth value if the field is missing. -/
def flagOr (v : Value) (key : String) (other : Bool) : Bool :=
  ((v.field? key).map truthy).getD other

end LiveLint.Value
