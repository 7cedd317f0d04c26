import LiveLint.Language.Profile
import LiveLint.Text.Utf8
import LiveLint.Tree.Arena

/-!
# Normalizing native trees

Native nodes become arena nodes. The profile says which types are functions, loops, numbers and so
on; everything else is kept as `other`. Below a fixed depth nodes lose their children.
-/

/-!
## Native trees

Syntax trees as a native parser returns them: rows and columns counted from zero, columns in bytes,
children in source order with the name of the field they fill.
-/

namespace LiveLint

/-- A row and a column in bytes of a native tree. -/
structure NativePoint where
  row : Int
  col : Nat
  deriving DecidableEq, Repr, Inhabited

/-- A node of a native tree. -/
inductive NativeNode where
  | mk (type : String) (named : Bool) (startByte endByte : Nat) (startPoint endPoint : NativePoint)
      (field : Option String) (missing : Bool) (children : List NativeNode)
  deriving Repr, Inhabited

namespace NativeNode

def type : NativeNode → String
  | .mk type .. => type

/-- Whether the grammar names the node, as opposed to punctuation. -/
def named : NativeNode → Bool
  | .mk _ named .. => named

/-- Offset of the first byte. -/
def startByte : NativeNode → Nat
  | .mk _ _ startByte .. => startByte

def endByte : NativeNode → Nat
  | .mk _ _ _ endByte .. => endByte

/-- Point of the first byte. -/
def startPoint : NativeNode → NativePoint
  | .mk _ _ _ _ startPoint .. => startPoint

def endPoint : NativeNode → NativePoint
  | .mk _ _ _ _ _ endPoint .. => endPoint

/-- The field of its parent that the node fills. -/
def field : NativeNode → Option String
  | .mk _ _ _ _ _ _ field .. => field

/-- Whether the parser inserted the node to go on. -/
def missing : NativeNode → Bool
  | .mk _ _ _ _ _ _ _ missing _ => missing

def children : NativeNode → List NativeNode
  | .mk _ _ _ _ _ _ _ _ children => children

def childOf? (n : NativeNode) (field : String) : Option NativeNode :=
  n.children.find? (·.field == some field)

def isError (n : NativeNode) : Bool := n.type == "ERROR" || n.missing

/-- Whether the node takes part in the normalized tree. -/
def isStructural (n : NativeNode) : Bool := n.named || n.isError

/-- Whether two nodes have one type and cover the same bytes. -/
def same (m n : NativeNode) : Bool :=
  m.startByte == n.startByte && m.endByte == n.endByte && m.type == n.type

/-- The nodes that become roots: the children of the module, or the module itself if it is an
error. -/
def topLevel (n : NativeNode) : List NativeNode :=
  if n.type == "ERROR" then [n] else n.children.filter isStructural

end NativeNode

/-- A native tree with the grammar and the text it was parsed from. -/
structure NativeTree where
  root : NativeNode
  grammar : String
  text : String
  /-- Whether the tree can be copied before it is edited. -/
  copies : Bool := true
  /-- Where reading the tree fails: how many nodes are stored by then, and why it fails. -/
  tear : Option (Nat × String) := none

end LiveLint

/-!
## Normalizing
-/

namespace LiveLint.Normalize

/-- Depth below which nodes are leaves. -/
def maxDepth : Nat := 400

/-- Types in a parameter list that are no parameters. -/
def parameterNoise : List String :=
  ["comment", "keyword_separator", "positional_separator", "(", ")", ","]

def text (code : ByteArray) (n : NativeNode) : String :=
  Text.Utf8.lenient (code.extract n.startByte n.endByte).toList

/-- The name that a call calls, if it is a plain identifier. -/
def callee? (code : ByteArray) (n : NativeNode) : Option String :=
  match (n.childOf? "function").or (n.childOf? "constructor") with
  | some callee => if callee.type == "identifier" then some (text code callee) else none
  | none => none

def operator? (n : NativeNode) : Option String := (n.childOf? "operator").map (·.type)

/-- Whether a node is a number, with or without a sign. -/
def isBareNumber (profile : Profile) (n : NativeNode) : Bool :=
  profile.numberTypes.contains n.type ||
    (["unary_operator", "unary_expression"].contains n.type &&
      match n.children.filter (·.named) with
      | [operand] => profile.numberTypes.contains operand.type
      | _ => false)

def kind (profile : Profile) (code : ByteArray) (n : NativeNode) : NodeKind :=
  if profile.functionTypes.contains n.type then .function
  else if profile.loopTypes.contains n.type then .loop
  else if profile.numberTypes.contains n.type then .number
  else if profile.declarationTypes.contains n.type then .declaration
  else if profile.enumTypes.contains n.type then .enumeration
  else if profile.constantAssignmentTypes.contains n.type then
    if (n.childOf? "right").any (isBareNumber profile) then .declaration else .other
  else if profile.callTypes.contains n.type then
    if (callee? code n).any profile.dangerousCalls.contains then .call else .other
  else if profile.comparisonTypes.contains n.type then
    if (operator? n).any profile.looseEqualityOperators.contains then .comparison else .other
  else if profile.parameterListTypes.contains n.type then .parameters
  else .other

/-- The name of a function: its own, or that of what it is assigned to. -/
def functionName (code : ByteArray) (parent : Option NativeNode) (n : NativeNode) : String :=
  match n.childOf? "name" with
  | some name => text code name
  | none =>
    let target := do
      let parent ← parent
      ["name", "left", "key"].findSome? fun field =>
        (parent.childOf? field).filter (!·.same n)
    match target with
    | some target => text code target
    | none => "<anonymous>"

def parameterCount (profile : Profile) (code : ByteArray) (n : NativeNode) : Nat :=
  match n.childOf? "parameters" with
  | none => if (n.childOf? "parameter").isSome then 1 else 0
  | some list =>
    (list.children.filter fun child =>
      child.named && !parameterNoise.contains child.type &&
        let label := ((text code child).toList.takeWhile (· != ':')).takeWhile (· != '=')
        !profile.implicitParameters.contains (String.ofList (Text.trim label))).length

/-- The arena node of a native node whose children are stored. Rows are counted from `row`. -/
def record (profile : Profile) (code : ByteArray) (row : Int) (parent : Option NativeNode)
    (n : NativeNode) (children : List Nat) (body : Option Nat) : Node :=
  let kind := if n.isError then .error else kind profile code n
  { kind
    type := n.type
    startLine := n.startPoint.row - row
    startCol := n.startPoint.col
    endLine := n.endPoint.row - row
    endCol := n.endPoint.col
    children
    body
    name :=
      match kind with
      | .function => functionName code parent n
      | .call => (callee? code n).getD ""
      | _ => ""
    value :=
      match kind with
      | .number => text code n
      | .comparison => (operator? n).getD ""
      | _ => ""
    paramCount := if kind == .function then parameterCount profile code n else 0 }

/-- The body of a function or a loop. -/
def body? (profile : Profile) (code : ByteArray) (n : NativeNode) : Option NativeNode :=
  match kind profile code n with
  | .function | .loop => n.childOf? "body"
  | _ => none

mutual

/-- Adds a native node with everything below it to an arena. `levels` is the number of levels that
may still have children. -/
def store (profile : Profile) (code : ByteArray) (row : Int) :
    Nat → Option NativeNode → NativeNode → Arena → Arena × Nat
  | levels, parent, n@(.mk _ _ _ _ _ _ _ _ children), a =>
    if n.isError then a.add (record profile code row parent n [] none)
    else
      match levels with
      | 0 => a.add (record profile code row parent n [] none)
      | levels + 1 =>
        let (a, indices) := storeAll profile code row levels n children a
        let body := (body? profile code n).bind fun body =>
          (indices.reverse.find? (·.1.same body)).map (·.2)
        a.add (record profile code row parent n (indices.map (·.2)) body)

/-- Adds the structural ones of some siblings to an arena, and pairs them with their indices. -/
def storeAll (profile : Profile) (code : ByteArray) (row : Int) :
    Nat → NativeNode → List NativeNode → Arena → Arena × List (NativeNode × Nat)
  | _, _, [], a => (a, [])
  | levels, parent, n :: rest, a =>
    if n.isStructural then
      let (a, i) := store profile code row levels (some parent) n a
      let (a, indices) := storeAll profile code row levels parent rest a
      (a, (n, i) :: indices)
    else storeAll profile code row levels parent rest a

end

/-- Adds a top-level native node to an arena, with lines counted from its own first line. -/
def storeRoot (profile : Profile) (code : ByteArray) (module n : NativeNode) (a : Arena) :
    Arena × Nat :=
  store profile code n.startPoint.row maxDepth (some module) n a

end LiveLint.Normalize
