import LiveLint.Proofs.Detect.Likeness
import LiveLint.Proofs.Tree.Faces

/-!
# Reading with an earlier tree and from scratch

The tree of a revision has the roots that it has from scratch. Those that were built for it show what they
show from scratch. One that was carried over shows what an earlier revision of the file, read from scratch,
shows on the same lines, moved to where these lines are now.
-/

namespace LiveLint

/-- What a parser that has read nothing makes of a revision. -/
def Parser.fromScratch (r : Revision) : Parser.Outcome := ({} : Parser).parse r

def Parser.Outcome.arena (out : Parser.Outcome) : Arena := out.parser.arena out.tree.arena

/-- Two lists that are related place by place to a third one are so to each other. -/
theorem forall₂_join {α β γ : Type} {left : α → γ → Prop} {right : β → γ → Prop} {xs : List α}
    {ys : List β} {zs : List γ} (first : List.Forall₂ left xs zs) (second : List.Forall₂ right ys zs) :
    List.Forall₂ (fun x y => ∃ z, left x z ∧ right y z) xs ys := by
  induction first generalizing ys with
  | nil =>
    cases second
    exact .nil
  | cons here _ ih =>
    cases second with
    | cons there rest => exact .cons ⟨_, here, there⟩ (ih rest)

/-- Two lists have the same images exactly if they have them place by place. -/
theorem map_eq_map_iff_forall₂ {α β γ : Type} {f : α → γ} {g : β → γ} {xs : List α} {ys : List β} :
    xs.map f = ys.map g ↔ List.Forall₂ (fun x y => f x = g y) xs ys := by
  rw [← List.forall₂_eq_eq_eq, List.forall₂_map_left_iff, List.forall₂_map_right_iff]

theorem Tree.faces_eq (t : Tree) (a : Arena) (skipErrors : Bool) :
    t.faces a skipErrors = (t.roots.map (a.faces · skipErrors)).flatten := by
  unfold faces walk
  rw [List.map_flatMap, List.flatMap_def]
  rfl

/-- The errors of a tree can be read off the faces of everything in it. -/
theorem Tree.errorSpans_eq (t : Tree) (a : Arena) :
    t.errorSpans a = ((t.faces a false).filter (·.kind == .error)).map fun f =>
      (f.range.startLine, f.range.endLine) := by
  unfold errorSpans faces
  rw [List.filter_map, List.map_map]
  rfl

/-- Trees that show the same have the same errors. -/
theorem Tree.errorSpans_of_faces {t t' : Tree} {a a' : Arena}
    (same : t.faces a false = t'.faces a' false) : t.errorSpans a = t'.errorSpans a' := by
  rw [errorSpans_eq, errorSpans_eq, same]

namespace Parser

/-- A root shows the branch that it comes from. -/
theorem faces_of_origin {p : Parser} {before : List Parsed} {x y : Parsed} {root : Root} {b b₀ : Branch}
    (origin : root.Origin p before x b y b₀) (skipErrors : Bool) :
    (p.arena x.2.arena).faces root skipErrors =
      b₀.faces ((root.line : Int) - b₀.draft.span.start.line) skipErrors [] :=
  Arena.faces_of_holds origin.holds root skipErrors []

/-- A language without a profile gives an empty tree, and every other one is scanned. -/
theorem scanned_or_empty {p : Parser} (none_installed : p.grammars = {}) (r : Revision)
    (previous : Option Tree) :
    (p.parse r previous .nothing none).tree.backend = .scanner ∨
      (p.parse r previous .nothing none).tree.roots = [] ∧ r.branches = [] := by
  unfold parse Revision.branches
  cases supported : Profile.find? r.language with
  | none => exact Or.inr ⟨rfl, rfl⟩
  | some profile =>
    dsimp only
    rw [if_neg (by rw [hasGrammar_eq_false none_installed]; exact Bool.false_ne_true)]
    exact Or.inl rfl

/-- From scratch every root shows the branch that it stands for. -/
theorem roots_fromScratch (r : Revision) :
    List.Forall₂ (fun root b => b ∈ r.branches ∧ root.StandsFor r.text.toList b ∧
        ∀ skipErrors, (fromScratch r).arena.faces root skipErrors = b.faces 0 skipErrors [])
      (fromScratch r).tree.roots r.branches := by
  have no_previous : ∀ t, (none : Option Tree) = some t → ∃ x ∈ ([] : List Parsed), x.2 = t := nofun
  have sound := (Sound.start (p := {}) rfl).parse r no_previous none
  have read := scanned_or_empty (p := {}) rfl r none
  unfold fromScratch Outcome.arena
  generalize ({} : Parser).parse r none .nothing none = out at sound read ⊢
  rcases read with scanned | ⟨no_roots, no_branches⟩
  · rcases sound.made [] (r, out.tree) [] rfl with unscanned | tree
    · exact absurd scanned unscanned.backend
    · refine tree.roots.imp ?_
      intro root b here
      obtain ⟨y, b₀, origin⟩ := here.origin
      have built : root.reused = false := by
        cases reused : root.reused with
        | false => rfl
        | true => exact absurd (origin.earlier reused) List.not_mem_nil
      obtain ⟨rfl, rfl⟩ := origin.own built
      refine ⟨here.branch, here.stands, ?_⟩
      intro skipErrors
      have faces := faces_of_origin origin skipErrors
      rw [here.stands.line, Int.sub_self] at faces
      exact faces
  · rw [no_roots, no_branches]
    exact .nil

end Parser

/-- A root that was carried over shows what a root of an earlier revision of the file shows from scratch,
moved to its own line. It stands on lines that are the same in both texts, and shows nothing else. -/
structure Root.Carries (p : Parser) (before : List Parsed) (x : Parsed) (root : Root) (y : Parsed)
    (root₁ : Root) (height : Nat) : Prop where
  earlier : y ∈ before
  file : y.1.file = x.1.file
  known : root₁ ∈ (Parser.fromScratch y.1).tree.roots
  lines : ((Text.lines x.1.text.toList).drop (root.line - 1)).take height =
    ((Text.lines y.1.text.toList).drop (root₁.line - 1)).take height
  inside : ∀ skipErrors, ∀ f ∈ (p.arena x.2.arena).faces root skipErrors,
    (root.line : Int) ≤ f.range.startLine ∧ f.range.endLine < (root.line : Int) + height
  faces : ∀ skipErrors, (p.arena x.2.arena).faces root skipErrors =
    ((Parser.fromScratch y.1).arena.faces root₁ skipErrors).map
      (Face.moved ((root.line : Int) - root₁.line))

/-- A root of a tree, compared with the root at its place from scratch. -/
structure Root.Matches (p : Parser) (before : List Parsed) (x : Parsed) (root root₀ : Root) : Prop where
  line : root.line = root₀.line
  digest : root.digest = root₀.digest
  built : root.reused = false → ∀ skipErrors, (p.arena x.2.arena).faces root skipErrors =
    (Parser.fromScratch x.1).arena.faces root₀ skipErrors
  carried : root.reused = true → ∃ y root₁ height, root.Carries p before x y root₁ height

/-- A tree, compared with the tree from scratch: the roots match one by one, and a walk shows the same
exactly if it does so for every root that was carried over. -/
structure Tree.Matches (p : Parser) (before : List Parsed) (x : Parsed) : Prop where
  roots : List.Forall₂ (Root.Matches p before x) x.2.roots (Parser.fromScratch x.1).tree.roots
  faces : ∀ skipErrors, x.2.faces (p.arena x.2.arena) skipErrors =
      (Parser.fromScratch x.1).tree.faces (Parser.fromScratch x.1).arena skipErrors ↔
    List.Forall₂ (fun root root₀ => root.reused = true → (p.arena x.2.arena).faces root skipErrors =
        (Parser.fromScratch x.1).arena.faces root₀ skipErrors)
      x.2.roots (Parser.fromScratch x.1).tree.roots
  errors : x.2.faces (p.arena x.2.arena) false =
      (Parser.fromScratch x.1).tree.faces (Parser.fromScratch x.1).arena false →
    x.2.errorSpans (p.arena x.2.arena) =
      (Parser.fromScratch x.1).tree.errorSpans (Parser.fromScratch x.1).arena

/-- A revision repeats another one: the scanner finds one branch in each, made of the same source, and in the
later revision outside of the lines that changed. -/
structure Revision.Repeats (r r₀ : Revision) (b b₀ : Branch) : Prop where
  file : r.file = r₀.file
  language : r.language = r₀.language
  numbered : 0 < r₀.number
  base : r.base = r₀.number
  alone : r.branches = [b]
  alone_before : r₀.branches = [b₀]
  input : RootSource.branchInput r.text.toList b = RootSource.branchInput r₀.text.toList b₀
  untouched : r.touches b.draft.span.start.line b.draft.span.stop.line = false

/-- Only a language with a profile has branches. -/
theorem Revision.profile_of_branches (r : Revision) {b : Branch} {bs : List Branch}
    (found : r.branches = b :: bs) : ∃ profile, Profile.find? r.language = some profile := by
  unfold branches at found
  cases supported : Profile.find? r.language with
  | none =>
    rw [supported] at found
    cases found
  | some profile => exact ⟨profile, rfl⟩

namespace Parser

variable {p : Parser}

theorem exists_of_forall₂_right {α β : Type} {related : α → β → Prop} {xs : List α} {ys : List β}
    (all : List.Forall₂ related xs ys) {y : β} (member : y ∈ ys) : ∃ x ∈ xs, related x y :=
  exists_of_forall₂ all.flip member

/-- What is shown below a root that comes from a branch lies on the lines of the root. -/
theorem inside_of_origin {before : List Parsed} {x y : Parsed} {root : Root} {b b₀ : Branch}
    (origin : root.Origin p before x b y b₀) {height : Nat}
    (same : height = b₀.draft.span.stop.line + 1 - b₀.draft.span.start.line) {skipErrors : Bool}
    {f : Face} (member : f ∈ (p.arena x.2.arena).faces root skipErrors) :
    (root.line : Int) ≤ f.range.startLine ∧ f.range.endLine < (root.line : Int) + height := by
  obtain ⟨on₀, nested⟩ := Revision.on_of_mem_branches origin.branch
  obtain ⟨reached, subtree⟩ := Arena.subtree_of_holds origin.holds nested
  obtain ⟨item, met, rfl⟩ := List.mem_map.1 member
  have below := Arena.below_of_mem_walkRoot subtree met
  have first := subtree.first item.index item.node below.within below.found
  have last := subtree.last item.index item.node below.within below.found
  have start := below.startLine
  have stop := below.endLine
  have order := on₀.start_le_stop
  show (root.line : Int) ≤ item.startLine ∧ item.endLine < (root.line : Int) + height
  omega

theorem Root.carries_of_origin {read : List Parsed}
    (apart : Digest.CollisionFree (hashedFor (read.map (·.1)))) {before : List Parsed} {x y : Parsed}
    (xIn : x ∈ read) (yIn : y ∈ read) (file : y.1.file = x.1.file) {root : Root} {b b₀ : Branch}
    (branch : b ∈ x.1.branches) (stands : root.StandsFor x.1.text.toList b)
    (origin : root.Origin p before x b y b₀) (reused : root.reused = true) :
    ∃ root₁ height, root.Carries p before x y root₁ height := by
  have known {z : Parsed} (member : z ∈ read) : z.1 ∈ read.map (·.1) := List.mem_map.2 ⟨z, member, rfl⟩
  obtain ⟨-, lines⟩ := same_lines_of_digest apart (known xIn) (known yIn) branch origin.branch
    (stands.digest.symm.trans origin.digest)
  have height := same_height branch origin.branch lines
  obtain ⟨root₁, rootIn, -, stands₁, faces₁⟩ := exists_of_forall₂_right (roots_fromScratch y.1) origin.branch
  refine ⟨root₁, b₀.draft.span.stop.line + 1 - b₀.draft.span.start.line, origin.earlier reused, file,
    rootIn, ?_, fun skipErrors f => inside_of_origin origin rfl, ?_⟩
  · unfold Outline.coveredLines at lines
    rw [height] at lines
    rw [stands.line, stands₁.line]
    exact lines
  · intro skipErrors
    rw [faces_of_origin origin, faces₁, ← Branch.faces_add, Int.zero_add, stands₁.line]

/-- The roots of a tree, compared with those from scratch one by one. -/
theorem Sound.matches_fromScratch {read : List Parsed} (sound : p.Sound read)
    (apart : Digest.CollisionFree (hashedFor (read.map (·.1)))) {before after : List Parsed} {x : Parsed}
    (split : read = before ++ x :: after)
    (read_by_scanner : x.2.backend = .scanner ∨ x.2.roots = [] ∧ x.1.branches = []) :
    List.Forall₂ (Root.Matches p before x) x.2.roots (fromScratch x.1).tree.roots := by
  have scratch := roots_fromScratch x.1
  have xIn : x ∈ read := split ▸ List.mem_append_right _ (List.mem_cons_self ..)
  rcases read_by_scanner with scanned | ⟨no_roots, no_branches⟩
  · rcases sound.made before x after split with unscanned | tree
    · exact absurd scanned unscanned.backend
    · refine (forall₂_join tree.roots scratch).imp ?_
      rintro root root₀ ⟨b, here, -, stands₀, faces₀⟩
      obtain ⟨y, b₀, origin⟩ := here.origin
      refine ⟨here.stands.line.trans stands₀.line.symm, here.stands.digest.trans stands₀.digest.symm, ?_,
        ?_⟩
      · intro built skipErrors
        obtain ⟨rfl, rfl⟩ := origin.own built
        rw [faces_of_origin origin, faces₀, here.stands.line, Int.sub_self]
      · intro reused
        have yIn : y ∈ read := split ▸ List.mem_append_left _ (origin.earlier reused)
        have file : y.1.file = x.1.file :=
          (sound.file y yIn).symm.trans (origin.file.trans (sound.file x xIn))
        exact ⟨y, Root.carries_of_origin apart xIn yIn file here.branch here.stands origin reused⟩
  · rw [no_branches] at scratch
    rw [no_roots]
    generalize (fromScratch x.1).tree.roots = roots₀ at scratch ⊢
    cases scratch
    exact .nil

/-- A root shows something outermost with everything below it. -/
theorem Sound.whole_faces {read : List Parsed} (sound : p.Sound read) {x : Parsed} (member : x ∈ read)
    (read_by_scanner : x.2.backend = .scanner ∨ x.2.roots = [] ∧ x.1.branches = []) (skipErrors : Bool) :
    ∀ fs ∈ x.2.roots.map ((p.arena x.2.arena).faces · skipErrors), Face.Whole fs := by
  intro fs fsIn
  obtain ⟨root, rootIn, rfl⟩ := List.mem_map.1 fsIn
  rcases read_by_scanner with scanned | ⟨no_roots, -⟩
  · obtain ⟨b, -, -, before, -, y, -, b₀, origin⟩ := sound.root member scanned rootIn
    rw [faces_of_origin origin]
    exact Branch.whole_faces _ _ _
  · exact absurd (no_roots ▸ rootIn) List.not_mem_nil

theorem whole_faces_fromScratch (r : Revision) (skipErrors : Bool) :
    ∀ fs ∈ (fromScratch r).tree.roots.map ((fromScratch r).arena.faces · skipErrors), Face.Whole fs := by
  intro fs fsIn
  obtain ⟨root, rootIn, rfl⟩ := List.mem_map.1 fsIn
  obtain ⟨b, -, -, -, faces⟩ := exists_of_forall₂ (roots_fromScratch r) rootIn
  rw [faces]
  exact Branch.whole_faces _ _ _

theorem Sound.tree_matches {read : List Parsed} (sound : p.Sound read)
    (apart : Digest.CollisionFree (hashedFor (read.map (·.1)))) {before after : List Parsed} {x : Parsed}
    (split : read = before ++ x :: after)
    (read_by_scanner : x.2.backend = .scanner ∨ x.2.roots = [] ∧ x.1.branches = []) :
    Tree.Matches p before x := by
  have placed := sound.matches_fromScratch apart split read_by_scanner
  have xIn : x ∈ read := split ▸ List.mem_append_right _ (List.mem_cons_self ..)
  refine ⟨placed, ?_, Tree.errorSpans_of_faces⟩
  intro skipErrors
  rw [Tree.faces_eq, Tree.faces_eq]
  constructor
  · intro same
    have one_by_one := Face.eq_of_flatten_eq (sound.whole_faces xIn read_by_scanner skipErrors)
      (whole_faces_fromScratch x.1 skipErrors) same
    refine (map_eq_map_iff_forall₂.1 one_by_one).imp ?_
    intro root root₀ here _
    exact here
  · intro carried
    rw [map_eq_map_iff_forall₂.2 (List.Forall₂.mp ?_ placed carried)]
    intro root root₀ here kept
    cases reused : root.reused with
    | false => exact here.built reused skipErrors
    | true => exact kept reused

/-- A scanner that found something was not given up on. -/
theorem backend_of_branches {t : Tree} {r : Revision} {b : Branch} {bs : List Branch}
    (found : r.branches = b :: bs)
    (read_by_scanner : t.backend = .scanner ∨ t.roots = [] ∧ r.branches = []) : t.backend = .scanner := by
  rcases read_by_scanner with scanned | ⟨-, none⟩
  · exact scanned
  · rw [found] at none
    cases none

/-- An unused parser stores the only branch of a text in an empty arena. -/
theorem Scanned.alone {p p' : Parser} {r : Revision} {t : Tree} (scanned : p.Scanned r none p' t)
    (unused : p.arenas = #[]) {b : Branch} (alone : r.branches = [b]) :
    p'.arena t.arena = (b.store b.draft.span.start.line {}).1 ∧
      t.roots = [⟨(b.store b.draft.span.start.line {}).2, b.draft.span.start.line,
        (RootSource.ofBranch r.text.toList b).digest, false⟩] := by
  obtain ⟨pool, poolOf, placed⟩ := scanned.placed
  have no_pool : pool = [] := by
    rcases poolOf with empty | ⟨base, found, -⟩
    · exact empty
    · cases found
  have empty : p.arena t.arena = {} := by
    unfold arena
    rw [unused]
    rfl
  unfold Revision.sources at placed
  rw [no_pool, empty, alone] at placed
  rcases RootSource.build_cons r r.text.toList b [] [] {} with ⟨old, rest, taken, -⟩ | built
  · cases taken
  · rw [built] at placed
    obtain ⟨arena, roots⟩ := Prod.mk.inj placed
    exact ⟨arena.symm, roots.symm⟩

/-- If a text repeats the only branch of the text it is based on, then its tree shows the branch as it was
there, moved to its place. -/
theorem faces_carried_over {p : Parser} (none_installed : p.grammars = {}) (unused : p.arenas = #[])
    {r₁ r₂ : Revision} {b₁ b₂ : Branch} (repeats : r₂.Repeats r₁ b₂ b₁)
    (room : ((b₁.store b₁.draft.span.start.line {}).1.size : Int) < p.maxNodes) {out₁ out₂ : Outcome}
    (parsed₁ : p.parse r₁ = out₁) (parsed₂ : out₁.parser.parse r₂ (some out₁.tree) = out₂)
    (skipErrors : Bool) :
    out₂.tree.faces (out₂.parser.arena out₂.tree.arena) skipErrors =
      b₁.faces ((b₂.draft.span.start.line : Int) - b₁.draft.span.start.line) skipErrors [] := by
  obtain ⟨profile, supported⟩ := r₂.profile_of_branches repeats.alone
  have no_previous : ∀ t, (none : Option Tree) = some t → t.arena < p.arenas.size := by
    intro t found
    cases found
  have reads₁ := reads_parse none_installed r₁ no_previous none
  have read_by_scanner := scanned_or_empty none_installed r₁ none
  rw [parsed₁] at reads₁ read_by_scanner
  have backend := backend_of_branches repeats.alone_before read_by_scanner
  have scanned := reads₁.made.resolve_left fun unscanned => unscanned.backend backend
  obtain ⟨arena₁, roots₁⟩ := scanned.alone unused repeats.alone_before
  have is_base : isBaseOf out₁.tree r₂ profile = true := by
    have name := scanned.language
    rw [← repeats.language, supported] at name
    unfold isBaseOf
    simp [scanned.supported, reads₁.file, repeats.file, ← Option.some.inj name, reads₁.number,
      repeats.base, repeats.numbered]
  obtain ⟨arena₂, roots₂⟩ := tree_of_base reads₁.grammars supported is_base backend
    (by rw [arena₁, reads₁.maxNodes]; exact room)
  have known : ∀ t, some out₁.tree = some t → t.arena < out₁.parser.arenas.size := by
    intro t found
    cases found
    exact reads₁.arena_lt
  have reads₂ := reads_parse reads₁.grammars r₂ known none
  rw [parsed₂] at arena₂ roots₂ reads₂
  have taken : Reusable.take? (RootSource.ofBranch r₂.text.toList b₂).digest out₁.tree.roots =
      some (⟨(b₁.store b₁.draft.span.start.line {}).2, b₁.draft.span.start.line,
        (RootSource.ofBranch r₁.text.toList b₁).digest, false⟩, []) := by
    rw [roots₁, Reusable.take?]
    exact if_pos (beq_iff_eq.2 (congrArg Digest.sha1 repeats.input.symm))
  unfold Revision.sources at roots₂
  rw [repeats.alone, RootSource.build_cons_of_take? [] _ repeats.untouched taken] at roots₂
  obtain ⟨-, -, holds⟩ := b₁.holds_store b₁.draft.span.start.line {}
  rw [← arena₁] at holds
  have held := holds.extends (reads₂.extends out₁.tree.arena)
  rw [Tree.faces_eq, roots₂, arena₂]
  exact (List.append_nil _).trans (Arena.faces_of_holds held _ skipErrors [])

/-- A text in which the scanner finds one branch shows that branch, if it is read from scratch. -/
theorem faces_fromScratch_alone {r : Revision} {b : Branch} (alone : r.branches = [b]) (skipErrors : Bool) :
    (fromScratch r).tree.faces (fromScratch r).arena skipErrors = b.faces 0 skipErrors [] := by
  have roots := roots_fromScratch r
  rw [Tree.faces_eq]
  generalize (fromScratch r).tree.roots = roots₀ at roots ⊢
  rw [alone] at roots
  obtain ⟨root, _, ⟨-, -, faces⟩, none, rfl⟩ := List.forall₂_cons_right_iff.1 roots
  rw [List.forall₂_nil_right_iff.1 none, List.map_singleton, faces, List.flatten_singleton]

end Parser

end LiveLint
