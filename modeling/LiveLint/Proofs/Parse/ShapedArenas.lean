import LiveLint.Proofs.Parse.Published
import LiveLint.Proofs.Tree.TreeShapes

/-!
# Arenas stay in shape

Whatever is parsed, with any native parser, every arena holds trees: nodes refer only to nodes that were added before
them, share none of them, and errors refer to none. This is so also where a native tree is left half read.
-/

namespace LiveLint

namespace RootSource

/-- A source that leaves every arena in shape. -/
def KeepsShape (source : RootSource) : Prop := ∀ a : Arena, a.TreeShaped → (source.store a).1.TreeShaped

theorem keepsShape_scanned (profile : Profile) (text : List Char) :
    ∀ source ∈ scanned profile text, source.KeepsShape := by
  intro source member a shaped
  obtain ⟨b, among, rfl⟩ := List.mem_map.1 member
  exact b.treeShaped_store _ (Forest.bare_of_mem_build _ b among) shaped

theorem keepsShape_native (profile : Profile) (tree : NativeTree) :
    ∀ source ∈ native profile tree, source.KeepsShape := by
  intro source member a shaped
  obtain ⟨n, -, rfl⟩ := List.mem_map.1 member
  exact Normalize.treeShaped_store profile _ _ _ _ n shaped

theorem treeShaped_build (r : Revision) {sources : List RootSource} (keep : ∀ source ∈ sources, source.KeepsShape)
    (pool : Reusable) {a : Arena} (shaped : a.TreeShaped) : (build r sources pool a).1.TreeShaped := by
  induction sources generalizing pool a with
  | nil => exact shaped
  | cons source rest ih =>
    have later : ∀ source ∈ rest, source.KeepsShape := fun s member => keep s (List.mem_cons_of_mem source member)
    rw [build]
    split
    · exact ih later _ shaped
    · exact ih later _ (keep source List.mem_cons_self a shaped)

end RootSource

namespace Parser

def TreeShaped (p : Parser) : Prop := ∀ k, (p.arena k).TreeShaped

namespace TreeShaped

variable {p : Parser}

theorem counted {p' : Parser} (shaped : p.TreeShaped) (same : p'.arenas = p.arenas) : p'.TreeShaped := by
  intro k
  unfold Parser.arena
  rw [same]
  exact shaped k

theorem newArena (shaped : p.TreeShaped) : p.newArena.1.TreeShaped := by
  intro k
  rw [arena_newArena]
  exact shaped k

theorem setArena (shaped : p.TreeShaped) (k : Nat) {a : Arena} (shaped' : a.TreeShaped) :
    (p.setArena k a).TreeShaped := by
  intro i
  by_cases here : i = k
  · subst here
    by_cases inside : i < p.arenas.size
    · rw [arena_setArena_self inside]
      exact shaped'
    · have same : (p.setArena i a).arena i = p.arena i := by
        unfold Parser.setArena Parser.arena
        rw [Array.setIfInBounds_eq_of_size_le (Nat.le_of_not_lt inside)]
      rw [same]
      exact shaped i
  · rw [arena_setArena_of_ne p here]
    exact shaped i

theorem startArena (shaped : p.TreeShaped) (base : Option Tree) : (p.startArena base).1.TreeShaped := by
  unfold Parser.startArena
  split
  · split
    · exact shaped
    · exact shaped.newArena
  · exact shaped.newArena

variable (r : Revision) (profile : Profile) (base : Option Tree)

theorem finish (shaped : p.TreeShaped) (k : Nat) (backend : Backend) {sources : List RootSource}
    (keep : ∀ source ∈ sources, source.KeepsShape) (native : Option NativeTree) :
    (p.finish r profile base k backend sources native).1.TreeShaped := by
  have built := RootSource.treeShaped_build r keep (Reusable.ofBase base k backend) (shaped k)
  exact (shaped.setArena k built).counted rfl

theorem scan (shaped : p.TreeShaped) (k : Nat) (crash : Option String) :
    (p.scan r profile base k crash).1.TreeShaped := by
  unfold Parser.scan
  cases crash with
  | some text => exact shaped.newArena.setArena _ (Arena.treeShaped_empty.add_leaf rfl rfl)
  | none => exact (shaped.finish r profile base k .scanner (RootSource.keepsShape_scanned profile _) none).counted rfl

/-- What is left of a native tree that was abandoned is in shape too. -/
theorem abandon (shaped : p.TreeShaped) (native : NativeTree) (stored : Nat) :
    (p.abandon r profile base native stored).TreeShaped := by
  have started := shaped.startArena base
  unfold Parser.abandon
  generalize p.startArena base = start at started ⊢
  have built := RootSource.treeShaped_build r (RootSource.keepsShape_native profile native)
    (Reusable.ofBase base start.2 .native) (started start.2)
  exact started.setArena _ (built.upTo _)

/-- Whatever a parse meets, its parser stays in shape. -/
theorem parse (shaped : p.TreeShaped) (previous : Option Tree) (reply : NativeReply) (crash : Option String) :
    (p.parse r previous reply crash).parser.TreeShaped := by
  unfold Parser.parse
  split
  · exact shaped.newArena.counted rfl
  · next profile _ =>
    have started := shaped.startArena (previous.filter (isBaseOf · r profile))
    dsimp only
    split
    · split
      · next native _ =>
        split
        · exact (started.finish r profile _ _ .native (RootSource.keepsShape_native profile native)
            (some native)).counted rfl
        · exact (shaped.abandon r profile _ native _).newArena.scan r profile _ _ crash
      · exact shaped.newArena.scan r profile _ _ crash
    · exact started.scan r profile _ _ crash

end TreeShaped

end Parser

/-- Every arena that a parser with any grammars ever fills is in shape. -/
theorem ParseLog.treeShaped_run (grammars : Grammars) (maxNodes : Int) (calls : List ParseCall) :
    ((start grammars maxNodes).run calls).parser.TreeShaped := by
  have run (l : ParseLog) (shaped : l.parser.TreeShaped) : (l.run calls).parser.TreeShaped := by
    induction calls generalizing l with
    | nil => exact shaped
    | cons c rest ih =>
      rw [run_cons]
      refine ih _ ?_
      rw [parser_apply]
      exact shaped.parse c.revision (l.previous? c) c.reply c.crash
  refine run _ fun k => ?_
  have empty : (start grammars maxNodes).parser.arena k = {} := by
    simp [start, Parser.arena]
  rw [empty]
  exact Arena.treeShaped_empty

end LiveLint
