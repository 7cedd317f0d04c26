import LiveLint.Proofs.Parse.Readings
import LiveLint.Proofs.Tree.Grown
import Mathlib.Data.List.Perm.Subperm

/-!
# Published trees

A tree that a parse returned stays as it is, whatever is parsed later. Every parse only adds to the
arenas, also one whose native tree fails half read, and what it adds refers to nothing that was there
before. The roots it carries over are taken from the previous tree, each at most once, so that the roots
of a tree are different nodes and no node stands below two of them.
-/

namespace LiveLint

/-- By what a root is carried over: its node and its digest. -/
def Root.key (root : Root) : Nat × String := (root.index, root.digest)

/-- What is taken from a pool is gone from it. -/
theorem Reusable.perm_of_take? {digest : String} {pool rest : Reusable} {root : Root}
    (taken : pool.take? digest = some (root, rest)) : pool.Perm (root :: rest) := by
  induction pool generalizing rest with
  | nil => cases taken
  | cons first others ih =>
    unfold take? at taken
    split at taken
    · cases taken
      exact .refl _
    · obtain ⟨⟨found, left⟩, later, same⟩ := Option.map_eq_some_iff.1 taken
      cases same
      exact ((ih later).cons first).trans (.swap root first left)

namespace RootSource

/-- How some roots were placed in an arena, which grew by what was built for them: those that were carried
over are different ones of a pool, those that were built are new nodes, and nothing below a built root is
as old as a root that was built before it. -/
structure Built (pool : Reusable) (a : Arena) (out : Arena × List Root) : Prop where
  grows : a.Grows out.1
  carried : ((out.2.filter (·.reused)).map Root.key).Subperm (pool.map Root.key)
  new : ∀ root ∈ out.2, root.reused = false → a.size ≤ root.index ∧ root.index < out.1.size
  ordered : (out.2.filter (!·.reused)).Pairwise fun x y =>
    x.index < y.index ∧ ∀ i, out.1.Reaches y.index i → x.index < i

theorem Built.nil (pool : Reusable) (a : Arena) : Built pool a (a, []) where
  grows := .refl a
  carried := List.nil_subperm
  new := nofun
  ordered := .nil

theorem Built.carry {pool rest : Reusable} {a a' : Arena} {old root : Root} {roots : List Root}
    (built : Built rest a (a', roots)) (taken : pool.Perm (old :: rest)) (reused : root.reused = true)
    (same : root.key = old.key) : Built pool a (a', root :: roots) where
  grows := built.grows
  carried := by
    rw [List.filter_cons_of_pos reused, List.map_cons, same]
    exact ((List.subperm_cons old.key).2 built.carried).trans (taken.map Root.key).symm.subperm
  new x member fresh := by
    rcases List.mem_cons.1 member with rfl | later
    · rw [reused] at fresh
      cases fresh
    · exact built.new x later fresh
  ordered := by
    rw [List.filter_cons_of_neg (by simp [reused])]
    exact built.ordered

theorem Built.store {pool : Reusable} {a a' : Arena} {out : Arena × Nat} {root : Root}
    {roots : List Root} (stores : a.Stores out) (built : Built pool out.1 (a', roots))
    (fresh : root.reused = false) (index : root.index = out.2) : Built pool a (a', root :: roots) where
  grows := stores.grows.trans built.grows
  carried := by
    rw [List.filter_cons_of_neg (by simp [fresh])]
    exact built.carried
  new x member fresh := by
    rcases List.mem_cons.1 member with rfl | later
    · rw [index]
      exact ⟨stores.new.1, Nat.lt_of_lt_of_le stores.new.2 built.grows.ext.size_le⟩
    · have new := built.new x later fresh
      exact ⟨Nat.le_trans stores.grows.ext.size_le new.1, new.2⟩
  ordered := by
    rw [List.filter_cons_of_pos (by simp [fresh])]
    refine List.pairwise_cons.2 ⟨?_, built.ordered⟩
    intro y member
    obtain ⟨later, unused⟩ := List.mem_filter.1 member
    have new := (built.new y later (by simpa using unused)).1
    have inside := stores.new.2
    rw [index]
    refine ⟨Nat.lt_of_lt_of_le inside new, ?_⟩
    intro i reaches
    exact Nat.lt_of_lt_of_le inside (built.grows.le_of_reaches reaches new)

/-- From an empty pool nothing is carried over. -/
theorem Built.none_reused {a : Arena} {out : Arena × List Root} (built : Built [] a out) :
    ∀ root ∈ out.2, root.reused = false := by
  have none : (out.2.filter (·.reused)).map Root.key = [] := List.subperm_nil.1 built.carried
  rw [List.map_eq_nil_iff, List.filter_eq_nil_iff] at none
  exact fun root member => Bool.eq_false_iff.2 (none root member)

/-- Placing roots builds them behind what is there, as far as they are not carried over. -/
theorem built_build (r : Revision) {sources : List RootSource}
    (stores : ∀ source ∈ sources, ∀ a : Arena, a.Stores (source.store a)) (pool : Reusable) (a : Arena) :
    Built pool a (build r sources pool a) := by
  induction sources generalizing pool a with
  | nil => exact .nil pool a
  | cons source rest ih =>
    have later : ∀ source ∈ rest, ∀ a : Arena, a.Stores (source.store a) := fun s member =>
      stores s (List.mem_cons_of_mem source member)
    rw [build]
    split
    · next old pool' taken =>
      split at taken
      · cases taken
      · have digest := (Reusable.mem_of_take? taken).2.1
        refine (ih later pool' a).carry (Reusable.perm_of_take? taken) rfl ?_
        simp [Root.key, digest]
    · exact .store (stores source List.mem_cons_self a) (ih later pool _) rfl rfl

theorem stores_scanned (profile : Profile) (text : List Char) :
    ∀ source ∈ scanned profile text, ∀ a : Arena, a.Stores (source.store a) := by
  intro source member a
  obtain ⟨b, -, rfl⟩ := List.mem_map.1 member
  exact b.stores _ a

theorem stores_native (profile : Profile) (tree : NativeTree) :
    ∀ source ∈ native profile tree, ∀ a : Arena, a.Stores (source.store a) := by
  intro source member a
  obtain ⟨n, -, rfl⟩ := List.mem_map.1 member
  exact Normalize.stores ..

end RootSource

namespace Parser

/-- A second parser has the arenas of a first one, grown or not, and perhaps more. -/
structure Grows (p p' : Parser) : Prop where
  size_le : p.arenas.size ≤ p'.arenas.size
  arena : ∀ k, (p.arena k).Grows (p'.arena k)

theorem Grows.trans {p₁ p₂ p₃ : Parser} (first : p₁.Grows p₂) (second : p₂.Grows p₃) :
    p₁.Grows p₃ where
  size_le := Nat.le_trans first.size_le second.size_le
  arena k := (first.arena k).trans (second.arena k)

theorem grows_of_same {p p' : Parser} (size_le : p.arenas.size ≤ p'.arenas.size)
    (same : ∀ k, p'.arena k = p.arena k) : p.Grows p' where
  size_le := size_le
  arena k := by
    rw [same]
    exact .refl _

theorem grows_newArena (p : Parser) : p.Grows p.newArena.1 := by
  refine grows_of_same ?_ (arena_newArena p)
  unfold newArena
  rw [Array.size_push]
  exact Nat.le_succ _

theorem grows_setArena {p : Parser} {k : Nat} {a : Arena} (lt : k < p.arenas.size)
    (grows : (p.arena k).Grows a) : p.Grows (p.setArena k a) where
  size_le := Nat.le_of_eq Array.size_setIfInBounds.symm
  arena i := by
    by_cases here : i = k
    · rw [here, arena_setArena_self lt]
      exact grows
    · rw [arena_setArena_of_ne p here]
      exact .refl _

/-- What a parse does to the arenas and what its tree may show: the arenas grow, the roots that the tree
carries over are different ones of the previous tree, and those that were built are new nodes, with nothing
below them as old as a root that was built before. -/
structure Publishes (p : Parser) (previous : Option Tree) (p' : Parser) (t : Tree) : Prop where
  grows : p.Grows p'
  arena_lt : t.arena < p'.arenas.size
  carried : (∀ root ∈ t.roots, root.reused = false) ∨
    ∃ old, previous = some old ∧ old.arena = t.arena ∧
      ((t.roots.filter (·.reused)).map Root.key).Subperm (old.roots.map Root.key)
  new : ∀ root ∈ t.roots, root.reused = false →
    (p.arena t.arena).size ≤ root.index ∧ root.index < (p'.arena t.arena).size
  ordered : (t.roots.filter (!·.reused)).Pairwise fun x y =>
    x.index < y.index ∧ ∀ i, (p'.arena t.arena).Reaches y.index i → x.index < i

section Publishes

variable {p p₁ p' p'' : Parser} {previous : Option Tree} {t : Tree}

/-- Counting changes no arena. -/
theorem Publishes.counted (publishes : p.Publishes previous p' t) (same : p''.arenas = p'.arenas) :
    p.Publishes previous p'' t := by
  have arena (k : Nat) : p''.arena k = p'.arena k := by
    unfold Parser.arena
    rw [same]
  obtain ⟨⟨size_le, grown⟩, lt, carried, new, ordered⟩ := publishes
  refine ⟨⟨by rwa [same], ?_⟩, by rwa [same], carried, ?_, ?_⟩
  · simpa only [arena] using grown
  · simpa only [arena] using new
  · simpa only [arena] using ordered

/-- What went on before does no harm, as long as the arenas only grew. -/
theorem Publishes.after (grows : p.Grows p₁) (publishes : p₁.Publishes previous p' t) :
    p.Publishes previous p' t where
  grows := grows.trans publishes.grows
  arena_lt := publishes.arena_lt
  carried := publishes.carried
  new root member fresh := by
    have new := publishes.new root member fresh
    exact ⟨Nat.le_trans (grows.arena t.arena).ext.size_le new.1, new.2⟩
  ordered := publishes.ordered

/-- The pool of a parse holds the roots of the previous tree, and only in the arena of that tree. -/
theorem pool_ofBase (previous : Option Tree) (fits : Tree → Bool) (k : Nat) (backend : Backend) :
    Reusable.ofBase (previous.filter fits) k backend = [] ∨
      ∃ old, previous = some old ∧ old.arena = k ∧
        Reusable.ofBase (previous.filter fits) k backend = old.roots := by
  unfold Reusable.ofBase
  split
  · next old found =>
    split
    · next shared =>
      rw [Bool.and_eq_true, beq_iff_eq] at shared
      exact Or.inr ⟨old, (Option.filter_eq_some_iff.1 found).1, shared.1, rfl⟩
    · exact Or.inl rfl
  · exact Or.inl rfl

/-- A tree whose roots were placed in an arena that the parser has. -/
theorem publishes_of_built {k : Nat} {pool : Reusable} {out : Arena × List Root}
    (lt : k < p.arenas.size) (built : RootSource.Built pool (p.arena k) out)
    (from_pool : pool = [] ∨ ∃ old, previous = some old ∧ old.arena = k ∧ pool = old.roots)
    (arena : t.arena = k) (roots : t.roots = out.2) :
    p.Publishes previous (p.setArena k out.1) t := by
  have here : (p.setArena k out.1).arena k = out.1 := arena_setArena_self lt out.1
  subst arena
  constructor
  case grows => exact grows_setArena lt built.grows
  case arena_lt => exact Nat.lt_of_lt_of_le lt (Nat.le_of_eq Array.size_setIfInBounds.symm)
  case carried =>
    rw [roots]
    rcases from_pool with empty | ⟨old, found, shared, whole⟩
    · rw [empty] at built
      exact Or.inl built.none_reused
    · rw [whole] at built
      exact Or.inr ⟨old, found, shared, built.carried⟩
  case new =>
    rw [roots, here]
    exact built.new
  case ordered =>
    rw [roots, here]
    exact built.ordered

theorem publishes_finish (r : Revision) (profile : Profile) (fits : Tree → Bool) {k : Nat}
    (lt : k < p.arenas.size) (backend : Backend) {sources : List RootSource}
    (stores : ∀ source ∈ sources, ∀ a : Arena, a.Stores (source.store a))
    (native : Option NativeTree) :
    p.Publishes previous
      (p.finish r profile (previous.filter fits) k backend sources native).1
      (p.finish r profile (previous.filter fits) k backend sources native).2 := by
  have built := RootSource.built_build r stores
    (Reusable.ofBase (previous.filter fits) k backend) (p.arena k)
  have published : p.Publishes previous _
      (p.finish r profile (previous.filter fits) k backend sources native).2 :=
    publishes_of_built lt built (pool_ofBase previous fits k backend) rfl rfl
  exact published.counted rfl

/-- The tree of a failing scanner is one new node in an arena of its own. -/
theorem publishes_errorTree (r : Revision) (profile : Profile) :
    p.Publishes previous (p.errorTree r profile).1 (p.errorTree r profile).2 := by
  refine Publishes.after p.grows_newArena ?_
  have stores (node : Node) (children : node.children = []) (body : node.body = none) :
      (p.newArena.1.arena p.newArena.2).Stores (Arena.add {} node) := by
    rw [arena_newArena, show p.newArena.2 = p.arenas.size from rfl, arena_size]
    exact (Arena.StoresAll.nil {}).add children (by simp [body])
  refine publishes_of_built (arena_lt_newArena p) (.store (stores _ ?_ ?_) (.nil [] _) ?_ ?_)
    (Or.inl rfl) rfl rfl <;> rfl

theorem publishes_scan (r : Revision) (profile : Profile) (fits : Tree → Bool) {k : Nat}
    (lt : k < p.arenas.size) (crash : Option String) :
    p.Publishes previous (p.scan r profile (previous.filter fits) k crash).1
      (p.scan r profile (previous.filter fits) k crash).2.1 := by
  unfold scan
  cases crash with
  | some text => exact publishes_errorTree r profile
  | none =>
    exact (publishes_finish r profile fits lt .scanner
      (RootSource.stores_scanned profile _) none).counted rfl

/-- What is left of a torn tree is behind everything that was in the arena. -/
theorem grows_abandon (r : Revision) (profile : Profile) (base : Option Tree)
    (known : ∀ tree, base = some tree → tree.arena < p.arenas.size) (native : NativeTree)
    (stored : Nat) : p.Grows (p.abandon r profile base native stored) := by
  obtain ⟨-, -, size_le, lt, same⟩ := startArena_spec known
  unfold abandon
  generalize p.startArena base = start at size_le lt same ⊢
  refine (grows_of_same size_le same).trans (grows_setArena lt ?_)
  have built := RootSource.built_build r (RootSource.stores_native profile native)
    (Reusable.ofBase base start.2 .native) (start.1.arena start.2)
  exact built.grows.upTo (Nat.le_add_right _ stored)

theorem publishes_fallBack (r : Revision) (profile : Profile) (fits : Tree → Bool)
    (calls : List NativeCall) (reason : String) (crash : Option String) :
    p.Publishes previous (p.fallBack r profile (previous.filter fits) calls reason crash).parser
      (p.fallBack r profile (previous.filter fits) calls reason crash).tree :=
  .after p.grows_newArena (publishes_scan r profile fits (arena_lt_newArena p) crash)

/-- Whatever a parse meets, it publishes a tree and harms no other. -/
theorem publishes_parse (r : Revision)
    (known : ∀ tree, previous = some tree → tree.arena < p.arenas.size) (reply : NativeReply)
    (crash : Option String) :
    p.Publishes previous (p.parse r previous reply crash).parser (p.parse r previous reply crash).tree := by
  unfold parse
  split
  · refine Publishes.after p.grows_newArena ⟨grows_of_same (Nat.le_refl _) fun _ => rfl, ?_, ?_, ?_, ?_⟩
    · exact arena_lt_newArena p
    · exact Or.inl nofun
    · exact nofun
    · exact .nil
  · next profile _ =>
    have known_base (fits : Tree → Bool) :
        ∀ tree, previous.filter fits = some tree → tree.arena < p.arenas.size :=
      fun tree found => known tree (Option.filter_eq_some_iff.1 found).1
    obtain ⟨-, -, size_le, lt, same⟩ := startArena_spec (known_base (isBaseOf · r profile))
    have started : p.Grows (p.startArena (previous.filter (isBaseOf · r profile))).1 :=
      grows_of_same size_le same
    dsimp only
    split
    · split
      · next native _ =>
        split
        · refine .after started (Publishes.counted (publishes_finish r profile _ lt .native ?_ _) rfl)
          exact RootSource.stores_native profile native
        · next stored reason _ =>
          exact .after (grows_abandon r profile _ (known_base _) native stored)
            (publishes_fallBack r profile _ _ reason crash)
      · exact publishes_fallBack ..
    · exact .after started (publishes_scan r profile _ lt crash)

end Publishes

end Parser

/-- A call of the parser: any revision, any of the trees that were returned so far, and whatever the
native parser and the scanner do. -/
structure ParseCall where
  revision : Revision
  previous : Option Nat := none
  reply : NativeReply := .nothing
  crash : Option String := none

/-- A parser and the trees that it returned, the oldest first. -/
structure ParseLog where
  parser : Parser
  trees : List Tree := []

/-- A tree fits into an arena: its roots are different nodes of the arena, and no node is or stands below
two of them. -/
structure Tree.Apart (t : Tree) (a : Arena) : Prop where
  inside : ∀ root ∈ t.roots, root.index < a.size
  distinct : (t.roots.map (·.index)).Nodup
  apart : t.roots.Pairwise fun x y => ∀ i, a.Reaches x.index i → ¬ a.Reaches y.index i

/-- What a tree carried over are roots of another tree in the same arena, with the same digests and each
at most once. -/
def Tree.CarriesFrom (t old : Tree) : Prop :=
  old.arena = t.arena ∧
    ((t.roots.filter (·.reused)).map Root.key).Subperm (old.roots.map Root.key)

/-- A tree shows the same in two states of its arena: on a walk of all of it or around errors, where its
errors lie, and how many nodes stand below any of its nodes. -/
structure Tree.SameIn (t : Tree) (a a' : Arena) : Prop where
  walk : ∀ skipErrors, t.walk a' skipErrors = t.walk a skipErrors
  errorSpans : t.errorSpans a' = t.errorSpans a
  sizes : ∀ root ∈ t.roots, ∀ i, a.Reaches root.index i → a'.subtreeSize i = a.subtreeSize i

/-- A tree shows the same after more nodes were added. -/
theorem Tree.sameIn_of_extends {t : Tree} {a a' : Arena} (formed : a.WellFormed) (ext : a.Extends a')
    (inside : ∀ root ∈ t.roots, root.index < a.size) : t.SameIn a a' := by
  have walk (skipErrors : Bool) : t.walk a' skipErrors = t.walk a skipErrors := by
    unfold Tree.walk
    simp only [List.flatMap]
    exact congrArg _ (List.map_congr_left fun root member => ext.walkRoot (inside root member) skipErrors)
  refine ⟨walk, ?_, ?_⟩
  · unfold Tree.errorSpans
    rw [walk]
  · intro root member i reaches
    exact ext.subtreeSize (Nat.lt_of_le_of_lt (formed.reaches_le reaches) (inside root member))

namespace ParseLog

def start (grammars : Grammars) (maxNodes : Int) : ParseLog := { parser := { grammars, maxNodes } }

def previous? (l : ParseLog) (c : ParseCall) : Option Tree := c.previous.bind (l.trees[·]?)

def answer (l : ParseLog) (c : ParseCall) : Parser.Outcome :=
  l.parser.parse c.revision (l.previous? c) c.reply c.crash

def apply (l : ParseLog) (c : ParseCall) : ParseLog where
  parser := (l.answer c).parser
  trees := l.trees ++ [(l.answer c).tree]

def run (l : ParseLog) (calls : List ParseCall) : ParseLog := calls.foldl apply l

/-- A node of an arena is a root of a tree that was returned. -/
def Published (l : ParseLog) (k i : Nat) : Prop :=
  ∃ t ∈ l.trees, t.arena = k ∧ ∃ root ∈ t.roots, root.index = i

/-- All arenas are well formed, the roots of every returned tree are different nodes of its arena, and what
stands below a root was added behind every root that is older. -/
structure Sound (l : ParseLog) : Prop where
  formed : ∀ k, (l.parser.arena k).WellFormed
  arena_lt : ∀ t ∈ l.trees, t.arena < l.parser.arenas.size
  inside : ∀ k i, l.Published k i → i < (l.parser.arena k).size
  distinct : ∀ t ∈ l.trees, (t.roots.map (·.index)).Nodup
  apart : ∀ k i j, l.Published k i → l.Published k j → i < j →
    ∀ n, (l.parser.arena k).Reaches j n → i < n

variable {l : ParseLog}

theorem mem_of_previous? {c : ParseCall} {t : Tree} (found : l.previous? c = some t) :
    t ∈ l.trees := by
  obtain ⟨i, -, there⟩ := Option.bind_eq_some_iff.1 found
  exact List.mem_of_getElem? there

theorem sound_start (grammars : Grammars) (maxNodes : Int) : (start grammars maxNodes).Sound where
  formed k := by
    have empty : (start grammars maxNodes).parser.arena k = {} := by
      simp [start, Parser.arena]
    rw [empty]
    exact Arena.wellFormed_empty
  arena_lt := nofun
  inside _ _ := by
    rintro ⟨_, member, -⟩
    cases member
  distinct := nofun
  apart _ _ _ := by
    rintro ⟨_, member, -⟩
    cases member

/-- What a call publishes in a log. -/
theorem Sound.publishes (sound : l.Sound) (c : ParseCall) :
    l.parser.Publishes (l.previous? c) (l.answer c).parser (l.answer c).tree := by
  unfold answer
  refine Parser.publishes_parse c.revision ?_ c.reply c.crash
  intro tree found
  exact sound.arena_lt tree (mem_of_previous? found)

section Next

variable {previous : Option Tree} {p' : Parser} {t : Tree}

/-- A root of a new tree was published before or is a new node. -/
theorem published_or_new (known : ∀ old, previous = some old → old ∈ l.trees)
    (publishes : l.parser.Publishes previous p' t) {root : Root} (member : root ∈ t.roots) :
    l.Published t.arena root.index ∨
      root.reused = false ∧ (l.parser.arena t.arena).size ≤ root.index ∧
        root.index < (p'.arena t.arena).size := by
  by_cases reused : root.reused = true
  · rcases publishes.carried with none | ⟨old, found, shared, carried⟩
    · rw [none root member] at reused
      cases reused
    · have key : root.key ∈ (t.roots.filter (·.reused)).map Root.key :=
        List.mem_map_of_mem (List.mem_filter.2 ⟨member, reused⟩)
      obtain ⟨source, there, same⟩ := List.mem_map.1 (carried.subset key)
      exact Or.inl ⟨old, known old found, shared, source, there, (Prod.mk.inj same).1⟩
  · have unused := Bool.eq_false_iff.2 reused
    exact Or.inr ⟨unused, publishes.new root member unused⟩

/-- The published nodes after a call are those from before and the new ones among the roots of its tree. -/
theorem published_next (known : ∀ old, previous = some old → old ∈ l.trees)
    (publishes : l.parser.Publishes previous p' t) {k i : Nat}
    (published : Published ⟨p', l.trees ++ [t]⟩ k i) :
    l.Published k i ∨ t.arena = k ∧ ∃ root ∈ t.roots, root.reused = false ∧ root.index = i := by
  obtain ⟨u, member, arena, root, there, index⟩ := published
  rcases List.mem_append.1 member with old | new
  · exact Or.inl ⟨u, old, arena, root, there, index⟩
  · rw [List.mem_singleton] at new
    subst new
    rcases published_or_new known publishes there with before | ⟨unused, -⟩
    · rw [arena, index] at before
      exact Or.inl before
    · exact Or.inr ⟨arena, root, there, unused, index⟩

/-- The roots of a new tree are different nodes: those that are carried over were different before, and the
others are new. -/
theorem Sound.distinct_next (sound : l.Sound) (known : ∀ old, previous = some old → old ∈ l.trees)
    (publishes : l.parser.Publishes previous p' t) : (t.roots.map (·.index)).Nodup := by
  have parts : ((t.roots.filter (·.reused) ++ t.roots.filter (!·.reused)).map (·.index)).Perm
      (t.roots.map (·.index)) := (List.filter_append_perm (·.reused) t.roots).map _
  rw [← parts.nodup_iff, List.map_append, List.nodup_append]
  refine ⟨?_, ?_, ?_⟩
  · rcases publishes.carried with none | ⟨old, found, -, keys, perm, sublist⟩
    · have empty : t.roots.filter (·.reused) = [] :=
        List.filter_eq_nil_iff.2 fun root member => by simp [none root member]
      rw [empty]
      exact List.nodup_nil
    · have indices := perm.map Prod.fst
      have among := sublist.map Prod.fst
      rw [List.map_map] at indices among
      exact indices.nodup_iff.1 ((sound.distinct old (known old found)).sublist among)
  · exact List.pairwise_map.2 (publishes.ordered.imp fun before => Nat.ne_of_lt before.1)
  · intro i carried j fresh
    obtain ⟨x, there, rfl⟩ := List.mem_map.1 carried
    obtain ⟨y, here, rfl⟩ := List.mem_map.1 fresh
    obtain ⟨x_mem, x_reused⟩ := List.mem_filter.1 there
    obtain ⟨y_mem, y_unused⟩ := List.mem_filter.1 here
    have behind := (publishes.new y y_mem (by simpa using y_unused)).1
    rcases published_or_new known publishes x_mem with before | ⟨unused, -⟩
    · exact Nat.ne_of_lt (Nat.lt_of_lt_of_le (sound.inside _ _ before) behind)
    · rw [unused] at x_reused
      cases x_reused

/-- Of two new roots the one with the smaller index was built first, and nothing below the other one is as
old. -/
theorem apart_of_new (publishes : l.parser.Publishes previous p' t) {x y : Root} (x_mem : x ∈ t.roots)
    (y_mem : y ∈ t.roots) (x_new : x.reused = false) (y_new : y.reused = false)
    (less : x.index < y.index) {i : Nat} (reaches : (p'.arena t.arena).Reaches y.index i) :
    x.index < i := by
  have x_in : x ∈ t.roots.filter (!·.reused) := List.mem_filter.2 ⟨x_mem, by simp [x_new]⟩
  have y_in : y ∈ t.roots.filter (!·.reused) := List.mem_filter.2 ⟨y_mem, by simp [y_new]⟩
  obtain ⟨m, m_lt, m_at⟩ := List.mem_iff_getElem.1 x_in
  obtain ⟨n, n_lt, n_at⟩ := List.mem_iff_getElem.1 y_in
  have ordered := List.pairwise_iff_getElem.1 publishes.ordered
  rcases Nat.lt_trichotomy m n with before | same | behind
  · have apart := (ordered m n m_lt n_lt before).2
    rw [m_at, n_at] at apart
    exact apart i reaches
  · subst same
    rw [← m_at, ← n_at] at less
    exact absurd less (Nat.lt_irrefl _)
  · have reversed := (ordered n m n_lt m_lt behind).1
    rw [m_at, n_at] at reversed
    omega

/-- A call keeps a log in order. -/
theorem Sound.next (sound : l.Sound) (known : ∀ old, previous = some old → old ∈ l.trees)
    (publishes : l.parser.Publishes previous p' t) : Sound ⟨p', l.trees ++ [t]⟩ := by
  have grown := publishes.grows.arena
  constructor
  case formed => exact fun k => (grown k).wellFormed (sound.formed k)
  case arena_lt =>
    intro u member
    rcases List.mem_append.1 member with old | new
    · exact Nat.lt_of_lt_of_le (sound.arena_lt u old) publishes.grows.size_le
    · rw [List.mem_singleton.1 new]
      exact publishes.arena_lt
  case inside =>
    intro k i member
    rcases published_next known publishes member with old | ⟨rfl, root, there, unused, rfl⟩
    · exact Nat.lt_of_lt_of_le (sound.inside k i old) (grown k).ext.size_le
    · exact (publishes.new root there unused).2
  case distinct =>
    intro u member
    rcases List.mem_append.1 member with old | new
    · exact sound.distinct u old
    · rw [List.mem_singleton.1 new]
      exact sound.distinct_next known publishes
  case apart =>
    intro k i j first second less n reaches
    rcases published_next known publishes second with old' | ⟨rfl, y, y_mem, y_new, rfl⟩
    · have inside := sound.inside k j old'
      rcases published_next known publishes first with old | ⟨rfl, x, x_mem, x_new, rfl⟩
      · have before : (l.parser.arena k).Reaches j n :=
          ((sound.formed k).reaches_iff (grown k).ext inside).1 reaches
        exact sound.apart k i j old old' less n before
      · have behind := (publishes.new x x_mem x_new).1
        omega
    · have behind := (publishes.new y y_mem y_new).1
      rcases published_next known publishes first with old | ⟨-, x, x_mem, x_new, rfl⟩
      · have inside := sound.inside _ i old
        have new := (grown _).le_of_reaches reaches behind
        omega
      · exact apart_of_new publishes x_mem y_mem x_new y_new less reaches

end Next

theorem parser_apply (l : ParseLog) (c : ParseCall) : (l.apply c).parser = (l.answer c).parser := by
  rw [apply]

theorem Sound.apply (sound : l.Sound) (c : ParseCall) : (l.apply c).Sound :=
  sound.next (fun _ => mem_of_previous?) (sound.publishes c)

theorem run_cons (l : ParseLog) (c : ParseCall) (rest : List ParseCall) :
    l.run (c :: rest) = (l.apply c).run rest := by
  unfold run
  rw [List.foldl_cons]

theorem Sound.run (sound : l.Sound) (calls : List ParseCall) : (l.run calls).Sound := by
  induction calls generalizing l with
  | nil => exact sound
  | cons c rest ih =>
    rw [run_cons]
    exact ih (sound.apply c)

/-- The trees of a log in order fit into their arenas. -/
theorem Sound.tree_apart (sound : l.Sound) {t : Tree} (member : t ∈ l.trees) :
    t.Apart (l.parser.arena t.arena) := by
  have published {root : Root} (there : root ∈ t.roots) : l.Published t.arena root.index :=
    ⟨t, member, rfl, root, there, rfl⟩
  have formed := sound.formed t.arena
  have distinct := sound.distinct t member
  refine ⟨fun root there => sound.inside _ _ (published there), distinct, ?_⟩
  refine (List.pairwise_map.1 distinct).imp_of_mem ?_
  intro x y x_mem y_mem differ i below_x below_y
  have x_le := formed.reaches_le below_x
  have y_le := formed.reaches_le below_y
  rcases Nat.lt_or_gt_of_ne differ with less | less
  · have := sound.apart _ _ _ (published x_mem) (published y_mem) less i below_y
    omega
  · have := sound.apart _ _ _ (published y_mem) (published x_mem) less i below_x
    omega

theorem Sound.grows_run (sound : l.Sound) (calls : List ParseCall) : l.parser.Grows (l.run calls).parser := by
  induction calls generalizing l with
  | nil => exact Parser.grows_of_same (Nat.le_refl _) fun _ => rfl
  | cons c rest ih =>
    have later := ih (sound.apply c)
    rw [parser_apply] at later
    rw [run_cons]
    exact (sound.publishes c).grows.trans later

/-- Whatever a parser with any grammars and any size of its arenas was asked to parse, with any previous
trees that it had returned, and whatever the native parser and the scanner did: in every arena the children
and the body of a node were added before it and the body is one of the children; the roots of every
returned tree are different nodes and their subtrees share none; what the next tree carries over are
different roots of its previous tree with the same digests; and all trees show the same after any further
calls. -/
theorem published_trees_stay (grammars : Grammars) (maxNodes : Int) (calls : List ParseCall) :
    let l := (start grammars maxNodes).run calls
    (∀ k, (l.parser.arena k).WellFormed) ∧
    (∀ t ∈ l.trees, t.Apart (l.parser.arena t.arena)) ∧
    (∀ c, (∀ root ∈ (l.answer c).tree.roots, root.reused = false) ∨
      ∃ old, l.previous? c = some old ∧ (l.answer c).tree.CarriesFrom old) ∧
    ∀ more, ∀ t ∈ l.trees,
      t.SameIn (l.parser.arena t.arena) ((l.run more).parser.arena t.arena) := by
  intro l
  have sound : l.Sound := (sound_start grammars maxNodes).run calls
  refine ⟨sound.formed, fun _ => sound.tree_apart, ?_, ?_⟩
  · exact fun c => (sound.publishes c).carried
  · intro more t member
    have grown := (sound.grows_run more).arena t.arena
    exact t.sameIn_of_extends (sound.formed t.arena) grown.ext (sound.tree_apart member).inside

end ParseLog

end LiveLint
