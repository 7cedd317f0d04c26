import LiveLint.Revision.Tracker
import LiveLint.Tree.Normalize

/-!
# Native grammars

The native parser is a service outside of the library: it is asked to parse bytes with a grammar,
perhaps starting from an edited copy of an older tree, and it answers with a tree, with nothing, or
by failing. A tree that it answered may still fail later, while it is read. Everything that is asked
of it is recorded.
-/

namespace LiveLint

inductive GrammarStyle where
  | named | plain | absent | broken
  deriving DecidableEq, Repr

/-- What the native parser answers when it is asked. -/
inductive NativeReply where
  | tree (root : NativeNode) (copies : Bool)
  | nothing
  | failure (text : String)
  /-- A tree that fails while it is read, after so many of its nodes were stored. -/
  | torn (root : NativeNode) (stored : Nat) (reason : String)

inductive NativeCall where
  | parse (grammar : String) (text : String) (old : Option NativeTree)
  | copy
  | edit (edit : ByteEdit)

/-- The grammars that are installed, with their styles. -/
structure Grammars where
  installed : List (String × GrammarStyle) := []

namespace Grammars

def supports (g : Grammars) (grammar : String) : Bool :=
  g.installed.any fun (name, style) => name == grammar && (style == .named || style == .plain)

/-- What the native parser makes of a text, from scratch or from an edited older tree. -/
def answer (grammar text : String) : NativeReply → Except String (Option NativeTree)
  | .tree root copies => .ok (some { root, grammar, text, copies })
  | .nothing => .ok none
  | .failure text => .error text
  | .torn root stored reason => .ok (some { root, grammar, text, tear := some (stored, reason) })

def parse (g : Grammars) (text grammar : String) (reply : NativeReply) :
    List NativeCall × Except String (Option NativeTree) :=
  if g.supports grammar then ([.parse grammar text none], answer grammar text reply)
  else ([], .ok none)

/-- Parses a text starting from an older tree. The tree is copied and edited first; without an edit
or a way to copy the text is parsed from scratch. -/
def reparse (g : Grammars) (text grammar : String) (old : NativeTree) (edit : Option ByteEdit)
    (reply : NativeReply) : List NativeCall × Except String (Option NativeTree) :=
  match edit with
  | some edit =>
    if g.supports grammar && old.copies then
      ([.copy, .edit edit, .parse grammar text (some old)], answer grammar text reply)
    else g.parse text grammar reply
  | none => g.parse text grammar reply

end Grammars

end LiveLint
