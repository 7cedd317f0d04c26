import LiveLint.Proofs.Parse.Readings

/-!
# Where roots come from

A parser that has read revisions is looked at together with them and their trees. Every root of a scanned
tree stands for a branch of its own revision, and its arena holds at its index a branch of some revision
that was read into this arena, with the same digest. Roots of one arena at one index have one digest. A
parse keeps all of that.
-/

namespace LiveLint

/-- A revision that was read, with the tree that was made of it. -/
abbrev Parsed := Revision × Tree

/-- The branch that an arena holds at the index of a root. If the root was carried over, it belongs to a
revision of the same file that was read into the same arena before; otherwise it is the root's own. -/
structure Root.Origin (p : Parser) (before : List Parsed) (x : Parsed) (root : Root) (b : Branch)
    (y : Parsed) (b₀ : Branch) : Prop where
  arena : y.2.arena = x.2.arena
  file : y.2.file = x.2.file
  language : y.2.language = x.2.language
  branch : b₀ ∈ y.1.branches
  digest : root.digest = Digest.sha1 (RootSource.branchInput y.1.text.toList b₀)
  holds : (p.arena x.2.arena).Holds b₀.draft.span.start.line b₀ root.index
  own : root.reused = false → y = x ∧ b₀ = b
  earlier : root.reused = true → y ∈ before

/-- A root of a scanned tree: what it stands for, and where it comes from. -/
structure Root.Sound (p : Parser) (before : List Parsed) (x : Parsed) (root : Root) (b : Branch) :
    Prop where
  branch : b ∈ x.1.branches
  stands : root.StandsFor x.1.text.toList b
  origin : ∃ y b₀, root.Origin p before x b y b₀

/-- A scanned tree whose roots stand for the branches of its revision, in order. -/
structure Tree.Sound (p : Parser) (before : List Parsed) (x : Parsed) : Prop where
  backend : x.2.backend = .scanner
  language : (Profile.find? x.1.language).map (·.name) = some x.2.language
  roots : List.Forall₂ (Root.Sound p before x) x.2.roots x.1.branches

/-- A parser without native grammars, with everything that it has read. -/
structure Parser.Sound (p : Parser) (read : List Parsed) : Prop where
  grammars : p.grammars = {}
  arena_lt : ∀ x ∈ read, x.2.arena < p.arenas.size
  file : ∀ x ∈ read, x.2.file = x.1.file
  source : ∀ x ∈ read, x.2.source = x.1.text
  made : ∀ before x after, read = before ++ x :: after → p.Unscanned x.2 ∨ Tree.Sound p before x
  oneDigestEach : ∀ x ∈ read, ∀ y ∈ read, x.2.backend = .scanner → y.2.backend = .scanner →
    x.2.arena = y.2.arena → ∀ root ∈ x.2.roots, ∀ root' ∈ y.2.roots, root.index = root'.index →
      root.digest = root'.digest

theorem Root.Origin.mem {p : Parser} {before after : List Parsed} {x y : Parsed} {root : Root}
    {b b₀ : Branch} (origin : root.Origin p before x b y b₀) : y ∈ before ++ x :: after := by
  cases reused : root.reused with
  | false => exact (origin.own reused).1 ▸ List.mem_append_right _ (List.mem_cons_self ..)
  | true => exact List.mem_append_left _ (origin.earlier reused)

theorem Arena.Extends.kind_error {a a' : Arena} (ext : a.Extends a') {i : Nat}
    (error : a.kind i = .error) : a'.kind i = .error := by
  unfold kind at error ⊢
  cases found : a.get? i with
  | none =>
    rw [found] at error
    cases error
  | some node => rw [ext.get? found, ← found, error]

/-- What is related place by place is related with its partner being in the second list. -/
theorem forall₂_with_mem {α β : Type} {related : α → β → Prop} {xs : List α} {ys : List β}
    (all : List.Forall₂ related xs ys) :
    List.Forall₂ (fun x y => related x y ∧ x ∈ xs ∧ y ∈ ys) xs ys := by
  induction all with
  | nil => exact .nil
  | cons here _ ih =>
    refine .cons ⟨here, List.mem_cons_self .., List.mem_cons_self ..⟩ (ih.imp ?_)
    rintro x y ⟨there, xIn, yIn⟩
    exact ⟨there, List.mem_cons_of_mem _ xIn, List.mem_cons_of_mem _ yIn⟩

namespace Parser

variable {p p' : Parser} {read : List Parsed}

theorem Reads.extends {r : Revision} {previous : Option Tree} {t : Tree}
    (reads : p.Reads r previous p' t) (i : Nat) : (p.arena i).Extends (p'.arena i) := by
  by_cases here : i = t.arena
  · exact here ▸ reads.ext
  · rw [reads.others i here]
    exact .refl _

/-- The roots of a scanned tree stand for its branches, and were carried over from the pool or built. -/
theorem Scanned.placedFor {r : Revision} {previous : Option Tree} {t : Tree}
    (scanned : p.Scanned r previous p' t) :
    ∃ pool, PoolOf t previous pool ∧
      List.Forall₂ (Root.PlacedFor r.text.toList pool (p.arena t.arena) (p'.arena t.arena)) t.roots
        r.branches := by
  obtain ⟨pool, poolOf, placed⟩ := scanned.placed
  obtain ⟨-, roots⟩ := RootSource.placedFor_build r r.text.toList r.branches pool (p.arena t.arena)
  unfold Revision.sources at placed
  rw [placed] at roots
  exact ⟨pool, poolOf, roots⟩

theorem Sound.start (none_installed : p.grammars = {}) : p.Sound [] where
  grammars := none_installed
  arena_lt := nofun
  file := nofun
  source := nofun
  made before x after split := by
    have length := congrArg List.length split
    rw [List.length_append, List.length_cons, List.length_nil] at length
    omega
  oneDigestEach := nofun

theorem Sound.tree (sound : p.Sound read) {x : Parsed} (member : x ∈ read)
    (scanned : x.2.backend = .scanner) :
    ∃ before after, read = before ++ x :: after ∧ Tree.Sound p before x := by
  obtain ⟨before, after, split⟩ := List.append_of_mem member
  rcases sound.made before x after split with unscanned | made
  · exact absurd scanned unscanned.backend
  · exact ⟨before, after, split, made⟩

/-- A root of a scanned tree, with what it stands for and where it comes from. -/
theorem Sound.root (sound : p.Sound read) {x : Parsed} (member : x ∈ read)
    (scanned : x.2.backend = .scanner) {root : Root} (rootIn : root ∈ x.2.roots) :
    ∃ b ∈ x.1.branches, root.StandsFor x.1.text.toList b ∧
      ∃ before, (∀ y ∈ before, y ∈ read) ∧ ∃ y ∈ read, ∃ b₀, root.Origin p before x b y b₀ := by
  obtain ⟨before, after, split, tree⟩ := sound.tree member scanned
  obtain ⟨b, -, here⟩ := exists_of_forall₂ tree.roots rootIn
  obtain ⟨y, b₀, origin⟩ := here.origin
  refine ⟨b, here.branch, here.stands, before, ?_, y, ?_, b₀, origin⟩
  · intro z earlier
    exact split ▸ List.mem_append_left _ earlier
  · exact split ▸ origin.mem

/-- A root of a scanned tree lies in its arena. -/
theorem Sound.index_lt (sound : p.Sound read) {x : Parsed} (member : x ∈ read)
    (scanned : x.2.backend = .scanner) {root : Root} (rootIn : root ∈ x.2.roots) :
    root.index < (p.arena x.2.arena).size := by
  obtain ⟨b, -, -, before, -, y, -, b₀, origin⟩ := sound.root member scanned rootIn
  exact origin.holds.lt_size

/-- More nodes change nothing about a tree. -/
theorem treeSound_mono {before : List Parsed} {x : Parsed} (sound : Tree.Sound p before x)
    (ext : ∀ i, (p.arena i).Extends (p'.arena i)) : Tree.Sound p' before x := by
  refine ⟨sound.backend, sound.language, sound.roots.imp ?_⟩
  intro root b here
  obtain ⟨y, b₀, origin⟩ := here.origin
  exact ⟨here.branch, here.stands, y, b₀,
    { origin with holds := origin.holds.extends (ext x.2.arena) }⟩

/-- The previous tree of a parse has roots inside of its arena, with one digest for each index. -/
theorem Sound.pool (sound : p.Sound read) {previous : Option Tree} {t : Tree} {pool : Reusable}
    (known : ∀ tree, previous = some tree → ∃ x ∈ read, x.2 = tree)
    (poolOf : PoolOf t previous pool) :
    (∀ old ∈ pool, ∃ x ∈ read, x.2.arena = t.arena ∧ x.2.backend = .scanner ∧ x.2.file = t.file ∧
      x.2.language = t.language ∧ old ∈ x.2.roots) ∧ Root.OneDigestEach pool := by
  rcases poolOf with rfl | ⟨base, found, arena, backend, file, language, rfl⟩
  · exact ⟨nofun, nofun⟩
  · obtain ⟨x, member, rfl⟩ := known base found
    refine ⟨fun old oldIn => ⟨x, member, arena, backend, file, language, oldIn⟩, ?_⟩
    exact fun root rootIn root' rootIn' =>
      sound.oneDigestEach x member x member backend backend rfl root rootIn root' rootIn'

/-- The tree that was just made. A root that was carried over comes from where the root of the previous
tree came from; one that was built anew comes from its own branch. -/
theorem Sound.scanned (sound : p.Sound read) {r : Revision} {previous : Option Tree} {t : Tree}
    (known : ∀ tree, previous = some tree → ∃ x ∈ read, x.2 = tree)
    (reads : p.Reads r previous p' t) (scanned : p.Scanned r previous p' t) :
    Tree.Sound p' read (r, t) := by
  obtain ⟨pool, poolOf, roots⟩ := scanned.placedFor
  obtain ⟨fromTrees, -⟩ := sound.pool known poolOf
  refine ⟨scanned.backend, scanned.language, (forall₂_with_mem roots).imp ?_⟩
  rintro root b ⟨here, -, branch⟩
  refine ⟨branch, here.stands, ?_⟩
  rcases here.source with ⟨reused, old, oldIn, index, digest⟩ | built
  · obtain ⟨x, member, arena, backend, file, language, oldIn⟩ := fromTrees old oldIn
    obtain ⟨c, -, -, before, -, y, yIn, b₀, origin⟩ := sound.root member backend oldIn
    refine ⟨y, b₀,
      { arena := origin.arena.trans arena
        file := origin.file.trans file
        language := origin.language.trans language
        branch := origin.branch
        digest := digest.symm.trans origin.digest
        holds := ?_
        own := fun fresh => absurd (fresh.symm.trans reused) Bool.false_ne_true
        earlier := fun _ => yIn }⟩
    have held := origin.holds
    rw [arena, index] at held
    exact held.extends (reads.extends t.arena)
  · exact ⟨(r, t), b,
      { arena := rfl
        file := rfl
        language := rfl
        branch
        digest := here.stands.digest
        holds := built.holds
        own := fun _ => ⟨rfl, rfl⟩
        earlier := fun reused => absurd (built.reused.symm.trans reused) Bool.false_ne_true }⟩

/-- A root of the new tree has the digest of whatever root lies at its index already. -/
theorem Sound.digest_new (sound : p.Sound read) {r : Revision} {previous : Option Tree} {t : Tree}
    (known : ∀ tree, previous = some tree → ∃ x ∈ read, x.2 = tree)
    (scanned : p.Scanned r previous p' t) {y : Parsed} (member : y ∈ read)
    (backend : y.2.backend = .scanner) (arena : t.arena = y.2.arena) {root root' : Root}
    (rootIn : root ∈ t.roots) (rootIn' : root' ∈ y.2.roots) (same : root.index = root'.index) :
    root.digest = root'.digest := by
  obtain ⟨pool, poolOf, roots⟩ := scanned.placedFor
  obtain ⟨fromTrees, -⟩ := sound.pool known poolOf
  obtain ⟨b, -, here⟩ := exists_of_forall₂ roots rootIn
  rcases here.source with ⟨-, old, oldIn, index, digest⟩ | built
  · obtain ⟨x, xIn, arena', backend', -, -, oldIn⟩ := fromTrees old oldIn
    rw [← digest]
    exact sound.oneDigestEach x xIn y member backend' backend (arena'.trans arena) old oldIn root'
      rootIn' (index.trans same)
  · have behind := built.size_le
    have inside := sound.index_lt member backend rootIn'
    rw [arena] at behind
    omega

theorem Sound.oneDigestEach_new (sound : p.Sound read) {r : Revision} {previous : Option Tree}
    {t : Tree} (known : ∀ tree, previous = some tree → ∃ x ∈ read, x.2 = tree)
    (scanned : p.Scanned r previous p' t) : Root.OneDigestEach t.roots := by
  obtain ⟨pool, poolOf, placed⟩ := scanned.placed
  obtain ⟨fromTrees, clear⟩ := sound.pool known poolOf
  have inside : ∀ old ∈ pool, old.index < (p.arena t.arena).size := by
    intro old oldIn
    obtain ⟨x, member, arena, backend, -, -, oldIn⟩ := fromTrees old oldIn
    exact arena ▸ sound.index_lt member backend oldIn
  have roots := RootSource.oneDigestEach_build r r.text.toList r.branches inside clear
  unfold Revision.sources at placed
  rwa [placed] at roots

/-- What a parser has read stays sound under one more parse. -/
theorem Sound.reads (sound : p.Sound read) {r : Revision} {previous : Option Tree} {t : Tree}
    (known : ∀ tree, previous = some tree → ∃ x ∈ read, x.2 = tree)
    (reads : p.Reads r previous p' t) : p'.Sound (read ++ [(r, t)]) := by
  have scanned (backend : t.backend = .scanner) : p.Scanned r previous p' t :=
    reads.made.resolve_left fun unscanned => unscanned.backend backend
  have cases {property : Parsed → Prop} (old : ∀ x ∈ read, property x) (new : property (r, t)) :
      ∀ x ∈ read ++ [(r, t)], property x := by
    intro x member
    rcases List.mem_append.1 member with before | last
    · exact old x before
    · exact List.mem_singleton.1 last ▸ new
  refine ⟨reads.grammars, cases ?_ reads.arena_lt, cases sound.file reads.file,
    cases sound.source reads.source, ?_, cases ?_ (cases ?_ ?_)⟩
  · exact fun x member => Nat.lt_of_lt_of_le (sound.arena_lt x member) reads.size_le
  · intro before x after split
    rcases List.eq_nil_or_concat after with rfl | ⟨after, last, rfl⟩
    · obtain ⟨rfl, same⟩ := List.append_inj' split rfl
      cases same
      exact reads.made.imp id (sound.scanned known reads)
    · rw [List.concat_eq_append, ← List.cons_append, ← List.append_assoc] at split
      obtain ⟨rfl, -⟩ := List.append_inj' split rfl
      rcases sound.made before x after rfl with ⟨backend, errors⟩ | made
      · exact Or.inl ⟨backend, fun root rootIn =>
          (reads.extends x.2.arena).kind_error (errors root rootIn)⟩
      · exact Or.inr (treeSound_mono made reads.extends)
  · intro x xIn
    refine cases (fun y yIn => sound.oneDigestEach x xIn y yIn) ?_
    intro backend backend' arena root rootIn root' rootIn' same
    exact (sound.digest_new known (scanned backend') xIn backend arena.symm rootIn' rootIn
      same.symm).symm
  · intro y yIn backend backend' arena root rootIn root' rootIn' same
    exact sound.digest_new known (scanned backend) yIn backend' arena rootIn rootIn' same
  · intro backend _ _ root rootIn root' rootIn' same
    exact sound.oneDigestEach_new known (scanned backend) root rootIn root' rootIn' same

/-- Reading a revision, with a tree that was made before or with none, keeps everything sound. -/
theorem Sound.parse (sound : p.Sound read) (r : Revision) {previous : Option Tree}
    (known : ∀ tree, previous = some tree → ∃ x ∈ read, x.2 = tree) (crash : Option String) :
    (p.parse r previous .nothing crash).parser.Sound
      (read ++ [(r, (p.parse r previous .nothing crash).tree)]) := by
  refine sound.reads known (reads_parse sound.grammars r ?_ crash)
  intro tree found
  obtain ⟨x, member, rfl⟩ := known tree found
  exact sound.arena_lt x member

end Parser

end LiveLint
