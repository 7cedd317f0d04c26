import LiveLint.Total

/-!
# Arenas

Nodes of one file in the order in which they were added, children before their parents. An arena
only ever grows, so what an index refers to never changes.
-/

/-!
## Normalized tree nodes

The kinds of node the queries look for, and one record per node. Lines are counted from the first
line of the top-level node a node belongs to, so that an unchanged top-level node can be placed
anywhere in a later revision; columns are absolute.
-/

namespace LiveLint

/-- Categories of nodes that do not depend on a language. -/
inductive NodeKind where
  | function | loop | number | declaration | enumeration | call | comparison | parameters
  | error | other
  deriving DecidableEq, Repr, Inhabited

def NodeKind.label : NodeKind → String
  | .function => "function"
  | .loop => "loop"
  | .number => "number"
  | .declaration => "declaration"
  | .enumeration => "enum"
  | .call => "call"
  | .comparison => "comparison"
  | .parameters => "parameters"
  | .error => "error"
  | .other => "other"

/-- One node. Children and body are indices into the arena the node is stored in. -/
structure Node where
  kind : NodeKind
  type : String
  startLine : Int
  startCol : Nat
  endLine : Int
  endCol : Nat
  children : List Nat := []
  body : Option Nat := none
  name : String := ""
  value : String := ""
  paramCount : Nat := 0
  deriving DecidableEq, Repr, Inhabited

/-! ## Arenas -/

/-- An append-only store of nodes. -/
structure Arena where
  nodes : Array Node := #[]
  deriving Inhabited

namespace Arena

def size (a : Arena) : Nat := a.nodes.size

def get? (a : Arena) (i : Nat) : Option Node := a.nodes[i]?

def add (a : Arena) (node : Node) : Arena × Nat := (⟨a.nodes.push node⟩, a.nodes.size)

/-- The arena with only its first nodes. -/
def upTo (a : Arena) (n : Nat) : Arena := ⟨a.nodes.extract 0 n⟩

/-- The children of a node that were added before it. In an arena that is filled children first
these are all its children. -/
def childrenBelow (a : Arena) (i : Nat) : List Nat :=
  match a.get? i with
  | some node => node.children.filter (· < i)
  | none => []

theorem lt_of_mem_childrenBelow {a : Arena} {i c : Nat} (mem : c ∈ a.childrenBelow i) : c < i := by
  unfold childrenBelow at mem
  split at mem
  · simpa using (List.mem_filter.1 mem).2
  · simp at mem

def subtreeSize (a : Arena) (i : Nat) : Nat :=
  1 + total (fun c => a.subtreeSize c.1) (a.childrenBelow i).attach
termination_by i
decreasing_by exact lt_of_mem_childrenBelow c.2

theorem subtreeSize_eq (a : Arena) (i : Nat) :
    a.subtreeSize i = 1 + total a.subtreeSize (a.childrenBelow i) := by
  rw [subtreeSize, total_attach a.subtreeSize]

theorem get?_add_of_lt {a : Arena} {i : Nat} (node : Node) (lt : i < a.size) :
    (a.add node).1.get? i = a.get? i := by
  simp only [add, get?, Array.getElem?_push]
  rw [if_neg (by simp only [size] at lt; omega)]

theorem get?_add_self (a : Arena) (node : Node) : (a.add node).1.get? a.size = some node := by
  simp [add, get?, size]

theorem size_add (a : Arena) (node : Node) : (a.add node).1.size = a.size + 1 := by
  simp [add, size]

end Arena

/-!
## Walks over an arena

A walk visits the nodes below an index depth first, parents before children, and carries the kinds
of the ancestors along. `visits` does it with an explicit list of pending nodes; `preorder` is the
plain recursion over the subtree.
-/

/-- A node met by a walk, with the kinds of its ancestors, nearest first. -/
structure Visit where
  index : Nat
  ancestors : List NodeKind
  deriving DecidableEq, Repr

namespace Arena

/-- The kind of a node; an index that is not in the arena counts as `other`. -/
def kind (a : Arena) (i : Nat) : NodeKind := ((a.get? i).map (·.kind)).getD .other

/-- Whether a walk stops at a node instead of going below it. -/
def cuts (a : Arena) (skipErrors : Bool) (i : Nat) : Bool := skipErrors && a.kind i == .error

/-- The nodes a walk still has to enter after a node was met. -/
def pendingBelow (a : Arena) (v : Visit) : List Visit :=
  (a.childrenBelow v.index).map fun c => ⟨c, a.kind v.index :: v.ancestors⟩

private theorem total_pendingBelow (a : Arena) (v : Visit) :
    total (fun w => a.subtreeSize w.index) (a.pendingBelow v) + 1 = a.subtreeSize v.index := by
  rw [subtreeSize_eq, pendingBelow, total_map, Nat.add_comm]

/-- Walks everything that is pending, in order. -/
def visits (a : Arena) (skipErrors : Bool) : List Visit → List Visit
  | [] => []
  | v :: pending =>
    if a.cuts skipErrors v.index then v :: a.visits skipErrors pending
    else v :: a.visits skipErrors (a.pendingBelow v ++ pending)
termination_by pending => total (fun v => a.subtreeSize v.index) pending
decreasing_by
  · rw [total_cons]
    have := subtreeSize_eq a v.index
    omega
  · rw [total_append, total_cons]
    have := total_pendingBelow a v
    omega

/-- The subtree of a node by plain recursion. -/
def preorder (a : Arena) (skipErrors : Bool) (v : Visit) : List Visit :=
  if a.cuts skipErrors v.index then [v]
  else v :: (a.childrenBelow v.index).attach.flatMap fun c =>
    a.preorder skipErrors ⟨c.1, a.kind v.index :: v.ancestors⟩
termination_by v.index
decreasing_by exact lt_of_mem_childrenBelow c.2

end Arena

end LiveLint
