import LiveLint.Parse.Parser
import LiveLint.Proofs.Tree.Stored
import Mathlib.Data.List.Forall2

/-!
# What a parse by the scanner does

Without native grammars every revision is read by the scanner. A parse only extends arenas. The roots of
the tree stand for the branches of the text; those that are carried over come from the previous tree, if
it shares the arena. Where the scanner was not asked or failed, all roots are errors.
-/

namespace LiveLint

/-!
## Placing the roots of a revision

Every branch of a text gets a root with its line and its digest. The root is either taken from the pool,
at the index it has there, or the branch is stored behind everything the arena held before. So two roots
at one index have one digest, if that is so in the pool.
-/

namespace Root

/-- A root stands for a branch of a text: it begins on the line of the branch and has its digest. -/
structure StandsFor (text : List Char) (root : Root) (b : Branch) : Prop where
  line : root.line = b.draft.span.start.line
  digest : root.digest = Digest.sha1 (RootSource.branchInput text b)

/-- A root was carried over from a pool, at the same index and with the same digest. -/
structure CarriedFrom (pool : Reusable) (root : Root) : Prop where
  reused : root.reused = true
  known : ∃ old ∈ pool, old.index = root.index ∧ old.digest = root.digest

/-- A root was built for a branch when an arena grew: it lies behind what was there before. -/
structure BuiltFor (before after : Arena) (root : Root) (b : Branch) : Prop where
  reused : root.reused = false
  size_le : before.size ≤ root.index
  holds : after.Holds b.draft.span.start.line b root.index

/-- A root that was placed for a branch of a text. -/
structure PlacedFor (text : List Char) (pool : Reusable) (before after : Arena) (root : Root)
    (b : Branch) : Prop where
  stands : root.StandsFor text b
  source : root.CarriedFrom pool ∨ root.BuiltFor before after b

theorem PlacedFor.mono {text : List Char} {pool pool' : Reusable} {a₁ a₂ a₃ a₄ : Arena} {root : Root}
    {b : Branch} (placed : root.PlacedFor text pool a₂ a₃ b) (subset : ∀ old ∈ pool, old ∈ pool')
    (grown : a₁.Extends a₂) (grows : a₃.Extends a₄) : root.PlacedFor text pool' a₁ a₄ b := by
  refine ⟨placed.stands, ?_⟩
  rcases placed.source with ⟨reused, old, member, same⟩ | built
  · exact Or.inl ⟨reused, old, subset old member, same⟩
  · exact Or.inr ⟨built.reused, Nat.le_trans grown.size_le built.size_le, built.holds.extends grows⟩

/-- Roots at one index have one digest. -/
def OneDigestEach (roots : List Root) : Prop :=
  ∀ x ∈ roots, ∀ y ∈ roots, x.index = y.index → x.digest = y.digest

end Root

/-- What is taken from a pool was in it, and nothing is added. -/
theorem Reusable.mem_of_take? {digest : String} {pool rest : Reusable} {root : Root}
    (taken : pool.take? digest = some (root, rest)) :
    root ∈ pool ∧ root.digest = digest ∧ ∀ old ∈ rest, old ∈ pool := by
  induction pool generalizing rest with
  | nil => cases taken
  | cons first others ih =>
    unfold take? at taken
    split at taken
    · next same =>
      cases taken
      exact ⟨List.mem_cons_self .., eq_of_beq same, fun _ => List.mem_cons_of_mem _⟩
    · obtain ⟨⟨found, left⟩, later, same⟩ := Option.map_eq_some_iff.1 taken
      cases same
      obtain ⟨member, digest, subset⟩ := ih later
      refine ⟨List.mem_cons_of_mem _ member, digest, ?_⟩
      intro old kept
      rcases List.mem_cons.1 kept with rfl | kept
      · exact List.mem_cons_self ..
      · exact List.mem_cons_of_mem _ (subset old kept)

/-- Of two lists that are related place by place, whatever is in the first has a partner in the
second. -/
theorem exists_of_forall₂ {α β : Type} {related : α → β → Prop} {xs : List α} {ys : List β}
    (all : List.Forall₂ related xs ys) {x : α} (member : x ∈ xs) : ∃ y ∈ ys, related x y := by
  induction all with
  | nil => cases member
  | cons here _ ih =>
    rcases List.mem_cons.1 member with rfl | later
    · exact ⟨_, List.mem_cons_self .., here⟩
    · obtain ⟨y, found, there⟩ := ih later
      exact ⟨y, List.mem_cons_of_mem _ found, there⟩

namespace RootSource

/-- The first branch is carried over or stored, and the rest follows. -/
theorem build_cons (r : Revision) (text : List Char) (b : Branch) (bs : List Branch)
    (pool : Reusable) (a : Arena) :
    (∃ old pool', pool.take? (ofBranch text b).digest = some (old, pool') ∧
      build r ((b :: bs).map (ofBranch text)) pool a =
        ((build r (bs.map (ofBranch text)) pool' a).1,
          ⟨old.index, b.draft.span.start.line, (ofBranch text b).digest, true⟩ ::
            (build r (bs.map (ofBranch text)) pool' a).2)) ∨
    build r ((b :: bs).map (ofBranch text)) pool a =
      ((build r (bs.map (ofBranch text)) pool (b.store b.draft.span.start.line a).1).1,
        ⟨(b.store b.draft.span.start.line a).2, b.draft.span.start.line, (ofBranch text b).digest,
          false⟩ ::
          (build r (bs.map (ofBranch text)) pool (b.store b.draft.span.start.line a).1).2) := by
  rw [List.map_cons, build]
  split
  · next old pool' taken =>
    split at taken
    · cases taken
    · exact Or.inl ⟨old, pool', taken, rfl⟩
  · exact Or.inr rfl

/-- An untouched branch whose digest is in the pool is carried over. -/
theorem build_cons_of_take? {r : Revision} {text : List Char} {b : Branch} (bs : List Branch)
    {pool rest : Reusable} {old : Root} (a : Arena)
    (untouched : r.touches b.draft.span.start.line b.draft.span.stop.line = false)
    (taken : pool.take? (ofBranch text b).digest = some (old, rest)) :
    build r ((b :: bs).map (ofBranch text)) pool a =
      ((build r (bs.map (ofBranch text)) rest a).1,
        ⟨old.index, b.draft.span.start.line, (ofBranch text b).digest, true⟩ ::
          (build r (bs.map (ofBranch text)) rest a).2) := by
  change r.touches (ofBranch text b).first (ofBranch text b).last = false at untouched
  rw [List.map_cons, build]
  simp only [untouched, Bool.false_eq_true, if_false, taken]
  rfl

/-- Every branch gets a root of its own, in order. -/
theorem placedFor_build (r : Revision) (text : List Char) (bs : List Branch) (pool : Reusable)
    (a : Arena) :
    a.Extends (build r (bs.map (ofBranch text)) pool a).1 ∧
      List.Forall₂ (Root.PlacedFor text pool a (build r (bs.map (ofBranch text)) pool a).1)
        (build r (bs.map (ofBranch text)) pool a).2 bs := by
  induction bs generalizing pool a with
  | nil => exact ⟨.refl a, .nil⟩
  | cons b rest ih =>
    rcases build_cons r text b rest pool a with ⟨old, pool', taken, placed⟩ | placed
    · obtain ⟨member, digest, subset⟩ := Reusable.mem_of_take? taken
      obtain ⟨ext, all⟩ := ih pool' a
      rw [placed]
      refine ⟨ext, .cons ⟨⟨rfl, rfl⟩, Or.inl ⟨rfl, old, member, rfl, digest⟩⟩ ?_⟩
      exact all.imp fun _ _ here => here.mono subset (.refl a) (.refl _)
    · obtain ⟨stored, behind, holds⟩ := b.holds_store b.draft.span.start.line a
      obtain ⟨ext, all⟩ := ih pool (b.store b.draft.span.start.line a).1
      rw [placed]
      refine ⟨stored.trans ext, .cons ⟨⟨rfl, rfl⟩, Or.inr ⟨rfl, behind, holds.extends ext⟩⟩ ?_⟩
      exact all.imp fun _ _ here => here.mono (fun _ => id) stored (.refl _)

/-- If the roots of a pool at one index have one digest, so have those of the tree. -/
theorem oneDigestEach_build (r : Revision) (text : List Char) (bs : List Branch) {pool : Reusable}
    {a : Arena} (inside : ∀ old ∈ pool, old.index < a.size) (clear : Root.OneDigestEach pool) :
    Root.OneDigestEach (build r (bs.map (ofBranch text)) pool a).2 := by
  induction bs generalizing pool a with
  | nil => exact fun _ member => absurd member List.not_mem_nil
  | cons b rest ih =>
    -- it is enough to compare the first root with the later ones
    have cons {root : Root} {roots : List Root} (later : Root.OneDigestEach roots)
        (first : ∀ x ∈ roots, x.index = root.index → x.digest = root.digest) :
        Root.OneDigestEach (root :: roots) := by
      intro x xIn y yIn same
      rcases List.mem_cons.1 xIn with rfl | x_later
      · rcases List.mem_cons.1 yIn with rfl | y_later
        · rfl
        · exact (first y y_later same.symm).symm
      · rcases List.mem_cons.1 yIn with rfl | y_later
        · exact first x x_later same
        · exact later x x_later y y_later same
    rcases build_cons r text b rest pool a with ⟨old, pool', taken, placed⟩ | placed
    · obtain ⟨member, digest, subset⟩ := Reusable.mem_of_take? taken
      rw [placed]
      refine cons (ih (fun x kept => inside x (subset x kept))
        fun x xIn y yIn => clear x (subset x xIn) y (subset y yIn)) ?_
      intro x xIn same
      obtain ⟨-, all⟩ := placedFor_build r text rest pool' a
      obtain ⟨c, -, here⟩ := exists_of_forall₂ all xIn
      rcases here.source with ⟨-, known, knownIn, index, digest'⟩ | built
      · rw [← digest', ← digest]
        exact clear known (subset known knownIn) old member (index.trans same)
      · have outside := built.size_le
        have old_inside := inside old member
        dsimp only at same
        omega
    · obtain ⟨stored, behind, holds⟩ := b.holds_store b.draft.span.start.line a
      have grown : ∀ old ∈ pool, old.index < (b.store b.draft.span.start.line a).1.size :=
        fun old member => Nat.lt_of_lt_of_le (inside old member) stored.size_le
      rw [placed]
      refine cons (ih grown clear) ?_
      intro x xIn same
      obtain ⟨-, all⟩ := placedFor_build r text rest pool (b.store b.draft.span.start.line a).1
      obtain ⟨c, -, here⟩ := exists_of_forall₂ all xIn
      rcases here.source with ⟨-, known, knownIn, index, -⟩ | built
      · have known_inside := inside known knownIn
        dsimp only at same
        omega
      · have outside := built.size_le
        have first_inside := holds.lt_size
        dsimp only at same
        omega

end RootSource

/-!
## Readings
-/

def Revision.branches (r : Revision) : List Branch :=
  match Profile.find? r.language with
  | some profile => Outline.branches profile r.text.toList
  | none => []

/-- The branches of a revision, put together from the drafts that survive. -/
theorem Revision.branches_of_kept {r : Revision} {profile : Profile} {drafts : List Draft}
    (supported : Profile.find? r.language = some profile)
    (kept : Outline.kept profile r.text.toList = drafts) : r.branches = Forest.arrange drafts := by
  unfold branches
  rw [supported, ← kept]
  rfl

/-- The roots of a revision, before they are placed. -/
def Revision.sources (r : Revision) : List RootSource :=
  r.branches.map (RootSource.ofBranch r.text.toList)

namespace Parser

/-- A tree whose roots are errors, for a revision that was not scanned. -/
structure Unscanned (p' : Parser) (t : Tree) : Prop where
  backend : t.backend ≠ .scanner
  errors : ∀ root ∈ t.roots, (p'.arena t.arena).kind root.index = .error

/-- The pool of a parse is empty, or it has the roots of a previous tree of the same file and language
that the scanner made in the same arena. -/
def PoolOf (t : Tree) (previous : Option Tree) (pool : Reusable) : Prop :=
  pool = [] ∨
    ∃ base, previous = some base ∧ base.arena = t.arena ∧ base.backend = .scanner ∧
      base.file = t.file ∧ base.language = t.language ∧ pool = base.roots

/-- A tree whose roots were placed for the branches of a revision. -/
structure Scanned (p : Parser) (r : Revision) (previous : Option Tree) (p' : Parser) (t : Tree) :
    Prop where
  backend : t.backend = .scanner
  supported : t.limited = false
  language : (Profile.find? r.language).map (·.name) = some t.language
  placed : ∃ pool, PoolOf t previous pool ∧
    RootSource.build r r.sources pool (p.arena t.arena) = (p'.arena t.arena, t.roots)

/-- What a parse without native grammars does. -/
structure Reads (p : Parser) (r : Revision) (previous : Option Tree) (p' : Parser) (t : Tree) :
    Prop where
  grammars : p'.grammars = {}
  maxNodes : p'.maxNodes = p.maxNodes
  size_le : p.arenas.size ≤ p'.arenas.size
  arena_lt : t.arena < p'.arenas.size
  others : ∀ i, i ≠ t.arena → p'.arena i = p.arena i
  ext : (p.arena t.arena).Extends (p'.arena t.arena)
  file : t.file = r.file
  number : t.revision = r.number
  source : t.source = r.text
  made : p'.Unscanned t ∨ p.Scanned r previous p' t

/-- An arena that does not exist yet counts as empty, so a new one changes no arena. -/
theorem arena_newArena (p : Parser) (i : Nat) : p.newArena.1.arena i = p.arena i := by
  unfold newArena arena
  rw [Array.getD_eq_getD_getElem?, Array.getD_eq_getD_getElem?, Array.getElem?_push]
  by_cases new : i = p.arenas.size
  · rw [if_pos new, new, Array.getElem?_size]
    rfl
  · rw [if_neg new]

theorem arena_size (p : Parser) : p.arena p.arenas.size = {} := by
  unfold arena
  rw [Array.getD_eq_getD_getElem?, Array.getElem?_size]
  rfl

theorem arena_setArena_self {p : Parser} {i : Nat} (lt : i < p.arenas.size) (a : Arena) :
    (p.setArena i a).arena i = a := by
  unfold setArena arena
  rw [Array.getD_eq_getD_getElem?, Array.getElem?_setIfInBounds_self_of_lt lt]
  rfl

theorem arena_setArena_of_ne (p : Parser) {i j : Nat} (ne : i ≠ j) (a : Arena) :
    (p.setArena j a).arena i = p.arena i := by
  unfold setArena arena
  rw [Array.getD_eq_getD_getElem?, Array.getElem?_setIfInBounds_ne ne.symm,
    Array.getD_eq_getD_getElem?]

theorem arena_lt_newArena (p : Parser) : p.newArena.2 < p.newArena.1.arenas.size := by
  unfold newArena
  rw [Array.size_push]
  exact Nat.lt_succ_self _

theorem hasGrammar_eq_false {p : Parser} (none_installed : p.grammars = {}) (profile : Profile) :
    p.hasGrammar profile = false := by
  unfold hasGrammar
  rw [none_installed]
  rfl

/-- The arena a parse goes on with, in a parser whose arenas are the same. -/
theorem startArena_spec {p : Parser} {base : Option Tree}
    (known : ∀ tree, base = some tree → tree.arena < p.arenas.size) :
    (p.startArena base).1.grammars = p.grammars ∧ (p.startArena base).1.maxNodes = p.maxNodes ∧
      p.arenas.size ≤ (p.startArena base).1.arenas.size ∧
      (p.startArena base).2 < (p.startArena base).1.arenas.size ∧
      ∀ i, (p.startArena base).1.arena i = p.arena i := by
  have fresh : p.newArena.1.grammars = p.grammars ∧ p.newArena.1.maxNodes = p.maxNodes ∧
      p.arenas.size ≤ p.newArena.1.arenas.size ∧ p.newArena.2 < p.newArena.1.arenas.size ∧
      ∀ i, p.newArena.1.arena i = p.arena i := by
    refine ⟨rfl, rfl, ?_, arena_lt_newArena p, arena_newArena p⟩
    unfold newArena
    rw [Array.size_push]
    exact Nat.le_succ _
  unfold startArena
  split
  · next tree =>
    split
    · exact ⟨rfl, rfl, Nat.le_refl _, known tree rfl, fun _ => rfl⟩
    · exact fresh
  · exact fresh

/-- What a failing scanner leaves: one error in an arena of its own. -/
theorem errorTree_spec (p : Parser) (r : Revision) (profile : Profile) :
    (p.errorTree r profile).1.grammars = p.grammars ∧
      (p.errorTree r profile).1.maxNodes = p.maxNodes ∧
      (p.errorTree r profile).1.arenas.size = p.arenas.size + 1 ∧
      (p.errorTree r profile).2.arena = p.arenas.size ∧
      (∀ i, i ≠ p.arenas.size → (p.errorTree r profile).1.arena i = p.arena i) ∧
      (p.errorTree r profile).1.Unscanned (p.errorTree r profile).2 := by
  unfold errorTree
  dsimp only
  refine ⟨rfl, rfl, ?_, rfl, ?_, ?_, ?_⟩
  · unfold setArena newArena
    rw [Array.size_setIfInBounds, Array.size_push]
  · intro i ne
    rw [arena_setArena_of_ne _ (by exact ne), arena_newArena]
  · exact nofun
  · intro root member
    rw [List.mem_singleton.1 member]
    dsimp only
    rw [arena_setArena_self (arena_lt_newArena p)]
    rfl

/-- The pool of a tree that is built on a base. -/
theorem poolOf_ofBase {r : Revision} {profile : Profile} {previous : Option Tree}
    {t : Tree} (file : t.file = r.file) (language : t.language = profile.name) :
    PoolOf t previous
      (Reusable.ofBase (previous.filter (isBaseOf · r profile)) t.arena .scanner) := by
  unfold Reusable.ofBase
  split
  · next base is_base =>
    obtain ⟨found, base_of⟩ := Option.filter_eq_some_iff.1 is_base
    unfold isBaseOf at base_of
    simp only [Bool.and_eq_true, beq_iff_eq] at base_of
    split
    · next shared =>
      rw [Bool.and_eq_true, beq_iff_eq, beq_iff_eq] at shared
      exact Or.inr ⟨base, found, shared.1, shared.2, base_of.1.1.1.2.trans file.symm,
        base_of.1.1.2.trans language.symm, rfl⟩
    · exact Or.inl rfl
  · exact Or.inl rfl

theorem sources_of_find? {r : Revision} {profile : Profile}
    (supported : Profile.find? r.language = some profile) :
    r.sources = RootSource.scanned profile r.text.toList := by
  unfold Revision.sources Revision.branches RootSource.scanned
  rw [supported]

/-- What the scanner makes of a revision, in a parser that has the arenas of the one before. -/
theorem reads_finish {p p₁ p' : Parser} {r : Revision} {profile : Profile} {previous : Option Tree}
    {arena : Nat} {t : Tree} (supported : Profile.find? r.language = some profile)
    (none_installed : p₁.grammars = {}) (maxNodes : p₁.maxNodes = p.maxNodes)
    (size_le : p.arenas.size ≤ p₁.arenas.size)
    (lt : arena < p₁.arenas.size) (same : ∀ i, p₁.arena i = p.arena i)
    (finished : p₁.finish r profile (previous.filter (isBaseOf · r profile)) arena .scanner
      (RootSource.scanned profile r.text.toList) none = (p', t)) :
    p.Reads r previous { p' with scannedCount := p₁.scannedCount + 1 } t ∧ t.backend = .scanner := by
  unfold finish at finished
  dsimp only at finished
  rw [← sources_of_find? supported, same arena] at finished
  obtain ⟨grown, -⟩ := RootSource.placedFor_build r r.text.toList r.branches
    (Reusable.ofBase (previous.filter (isBaseOf · r profile)) arena .scanner) (p.arena arena)
  have pool := @poolOf_ofBase r profile previous
  change (p.arena arena).Extends (RootSource.build r r.sources _ _).1 at grown
  generalize built : RootSource.build r r.sources
    (Reusable.ofBase (previous.filter (isBaseOf · r profile)) arena .scanner)
    (p.arena arena) = out at finished grown
  obtain ⟨rfl, rfl⟩ := Prod.mk.inj finished
  have here : (p₁.setArena arena out.1).arena arena = out.1 := arena_setArena_self lt out.1
  refine ⟨⟨none_installed, maxNodes, ?_, ?_, ?_, ?_, rfl, rfl, rfl,
    Or.inr ⟨rfl, rfl, ?_, _, pool rfl rfl, ?_⟩⟩, rfl⟩
  · exact Nat.le_trans size_le (Nat.le_of_eq Array.size_setIfInBounds.symm)
  · exact Nat.lt_of_lt_of_le lt (Nat.le_of_eq Array.size_setIfInBounds.symm)
  · intro i ne
    exact (arena_setArena_of_ne p₁ ne _).trans (same i)
  · exact here.symm ▸ grown
  · rw [supported]
    rfl
  · exact built.trans (Prod.ext here.symm rfl)

/-- Without native grammars, a parse reads a revision with the scanner. -/
theorem reads_parse {p : Parser} (none_installed : p.grammars = {}) (r : Revision)
    {previous : Option Tree}
    (known : ∀ tree, previous = some tree → tree.arena < p.arenas.size) (crash : Option String) :
    p.Reads r previous (p.parse r previous .nothing crash).parser
      (p.parse r previous .nothing crash).tree := by
  unfold parse
  split
  · refine ⟨none_installed, rfl, ?_, ?_, ?_, ?_, rfl, rfl, rfl, Or.inl ⟨nofun, nofun⟩⟩
    · exact Nat.le_trans (Nat.le_succ _) (Nat.le_of_eq (Array.size_push _).symm)
    · exact arena_lt_newArena p
    · intro i _
      exact arena_newArena p i
    · exact (arena_newArena p _).symm ▸ Arena.Extends.refl _
  · next profile supported =>
    dsimp only
    rw [if_neg (by rw [hasGrammar_eq_false none_installed]; exact Bool.false_ne_true)]
    have known : ∀ tree, previous.filter (isBaseOf · r profile) = some tree →
        tree.arena < p.arenas.size :=
      fun tree found => known tree (Option.filter_eq_some_iff.1 found).1
    obtain ⟨grammars, maxNodes, size_le, lt, same⟩ := startArena_spec known
    generalize p.startArena (previous.filter (isBaseOf · r profile)) = start at *
    cases crash with
    | none =>
      exact (reads_finish supported (grammars.trans none_installed) maxNodes size_le lt same rfl).1
    | some text =>
      obtain ⟨kept, kept_max, size, arena, others, unscanned⟩ := errorTree_spec start.1 r profile
      have grown : start.1.arenas.size ≤ (start.1.errorTree r profile).1.arenas.size := by omega
      have fresh : p.arena start.1.arenas.size = {} :=
        (same start.1.arenas.size).symm.trans (arena_size start.1)
      refine ⟨kept.trans (grammars.trans none_installed), kept_max.trans maxNodes,
        Nat.le_trans size_le grown, ?_, ?_, ?_, rfl, rfl, rfl, Or.inl unscanned⟩
      · show (start.1.errorTree r profile).2.arena < (start.1.errorTree r profile).1.arenas.size
        omega
      · intro i ne
        exact (others i (arena ▸ ne)).trans (same i)
      · show (p.arena start.1.arenas.size).Extends _
        rw [fresh]
        exact ⟨Nat.zero_le _, fun i lt => absurd lt (Nat.not_lt_zero i)⟩

/-- A tree that is built on a base with room in its arena carries over what it can from the base. -/
theorem tree_of_base {p : Parser} (none_installed : p.grammars = {}) {r : Revision} {profile : Profile}
    (supported : Profile.find? r.language = some profile) {base : Tree}
    (is_base : isBaseOf base r profile = true) (scanned : base.backend = .scanner)
    (room : ((p.arena base.arena).size : Int) < p.maxNodes) :
    (p.parse r (some base)).tree.arena = base.arena ∧
      (p.parse r (some base)).tree.roots =
        (RootSource.build r r.sources base.roots (p.arena base.arena)).2 := by
  have kept : (some base).filter (isBaseOf · r profile) = some base :=
    Option.filter_eq_some_iff.2 ⟨rfl, is_base⟩
  have pool : Reusable.ofBase (some base) base.arena .scanner = base.roots := by
    unfold Reusable.ofBase
    dsimp only
    rw [scanned, beq_self_eq_true]
    exact if_pos rfl
  have start : p.startArena (some base) = (p, base.arena) := if_pos room
  unfold parse
  simp only [supported, kept, hasGrammar_eq_false none_installed, start]
  unfold scan finish
  dsimp only
  rw [pool, sources_of_find? supported]
  exact ⟨rfl, rfl⟩

end Parser

end LiveLint
