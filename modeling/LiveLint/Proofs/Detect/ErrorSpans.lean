import LiveLint.Proofs.Detect.Finds
import LiveLint.Proofs.Detect.Independence
import LiveLint.Proofs.Detect.Transparency
import LiveLint.Proofs.Parse.Scratch
import LiveLint.Proofs.Scan.Drafts

/-!
# What survives in a broken region

Where a bracket is in no pair the scanner keeps nothing but the error. The error of a function header without a
body is found later and hides nothing. So in a tree from scratch a node or an occurrence begins on a line of an
error only if the line is such a header.
-/

namespace LiveLint

/-- A line of a revision is a function header without a body, in a language with indented blocks, and all of its
brackets are in pairs. -/
def Revision.Unfinished (r : Revision) (line : Int) : Prop :=
  ∃ profile, Profile.find? r.language = some profile ∧
    ∃ n : Nat, line = n ∧ Outline.Unfinished profile r.text.toList n ∧
      n ∉ Outline.errorLines profile r.text.toList

/-- A line is covered by an error of a tree. -/
def Tree.Broken (t : Tree) (a : Arena) (line : Int) : Prop :=
  ∃ span ∈ t.errorSpans a, span.1 ≤ line ∧ line ≤ span.2

/-- A node that is no error begins on a line of an error only if the line is an unfinished header. -/
theorem Parser.unfinished_of_mem_walk {r : Revision} {skipErrors : Bool} {item : Placed}
    (member : item ∈ (fromScratch r).tree.walk (fromScratch r).arena skipErrors)
    (readable : item.node.kind ≠ .error)
    (broken : (fromScratch r).tree.Broken (fromScratch r).arena item.startLine) :
    r.Unfinished item.startLine := by
  obtain ⟨profile, supported, c, shows, kept⟩ := exists_kept_of_mem_walk member
  obtain ⟨span, among, first, last⟩ := broken
  obtain ⟨error, met, rfl⟩ := List.mem_map.1 among
  obtain ⟨walked, is_error⟩ := List.mem_filter.1 met
  obtain ⟨profile', supported', e, shows', kept'⟩ := exists_kept_of_mem_walk walked
  cases supported.symm.trans supported'
  dsimp only at first last
  rw [shows.startLine, shows'.startLine] at first
  rw [shows.startLine, shows'.endLine] at last
  have unreadable : e.draft.isError = true := by
    unfold Draft.isError
    rw [← shows'.kind]
    exact is_error
  have readable : ¬c.draft.isError = true := by
    unfold Draft.isError
    rw [← shows.kind, beq_iff_eq]
    exact readable
  obtain ⟨unfinished, paired⟩ := Outline.unfinished_of_covered kept readable kept' unreadable
    (Int.ofNat_le.1 first) (Int.ofNat_le.1 last)
  exact ⟨profile, supported, c.draft.span.start.line, shows.startLine, unfinished, paired⟩

namespace Query

/-- Whatever the queries find in a tree is found by one of them that applies. -/
theorem exists_query_of_mem_findAll {settings : Settings} {s : Subject} {queries : List Query} {asked : Nat}
    {found : List Match} (ended : findAll settings s .pass queries asked = .ok found) {m : Match}
    (member : m ∈ found) : ∃ q ∈ queries, ∃ ms, q.findIn settings s = .ok ms ∧ m ∈ ms := by
  induction queries generalizing asked found with
  | nil =>
    cases ended
    cases member
  | cons q rest ih =>
    obtain ⟨here, there, first, others, rfl⟩ := findAll_cons_ok_iff.1 ended
    rcases List.mem_append.1 member with among | among
    · unfold foundIn at first
      split at first
      · exact ⟨q, List.mem_cons_self .., here, first, among⟩
      · cases first
        cases among
    · obtain ⟨q', member', ms, found', among'⟩ := ih others among
      exact ⟨q', List.mem_cons_of_mem _ member', ms, found', among'⟩

/-- An occurrence of a built-in kind begins where a node begins that is no error, or outside of all errors. -/
theorem exists_of_mem_occurrencesBy {settings : Settings} {s : Subject} {found : List Occurrence}
    (ended : occurrencesBy builtIn settings s .pass = .ok found) {o : Occurrence} (member : o ∈ found) :
    (∃ item ∈ s.tree.walk s.arena, item.node.kind ≠ .error ∧ o.range = item.range) ∨
      ¬s.tree.Broken s.arena o.range.startLine := by
  by_cases empty : (s.tree.limited || s.tree.roots.isEmpty) = true
  · unfold occurrencesBy at ended
    rw [if_pos empty] at ended
    cases ended
    cases member
  · obtain ⟨functions, same⟩ := occurrencesBy_eq settings empty
    rw [same, map_eq_ok_iff] at ended
    obtain ⟨ms, all, rfl⟩ := ended
    obtain ⟨m, among, -, range⟩ := Identity.exists_match_of_mem_assign member
    obtain ⟨q, known, found, searched, among⟩ := exists_query_of_mem_findAll all among
    cases search : q.search with
    | inRoot find =>
      obtain ⟨root, rootIn, among⟩ := exists_root_of_mem_findIn search searched among
      obtain ⟨item, locates⟩ := exists_locates (List.mem_cons_of_mem _ known) search among
      exact Or.inl ⟨item, List.mem_flatMap.2 ⟨root, rootIn, locates.met⟩, locates.readable,
        range.trans locates.range_eq⟩
    | inFile find =>
      simp only [builtIn, List.mem_cons, List.not_mem_nil, or_false] at known
      rcases known with rfl | rfl | rfl | rfl | rfl | rfl | rfl
      case inr.inr.inr.inl =>
        obtain ⟨n, among⟩ := mem_of_duplicates searched among
        rw [range]
        refine Or.inr ?_
        rintro ⟨span, covers, inside⟩
        exact Duplicate.not_covered_of_mem_among among span covers inside
      all_goals cases search

theorem kindsApart_builtIn : KindsApart builtIn :=
  KindsApart.of_nodup (by decide) fun q member _ _ => by
    have kinds : ∀ q ∈ builtIn, q.kind ≠ functionSpans.kind := by decide
    exact kinds q member

end Query

/-- In a tree from scratch a new detector answers what searching every root answers. -/
theorem Detector.standard_fromScratch (r : Revision) (settings : Settings) :
    (standard.detect settings (Parser.fromScratch r).tree (Parser.fromScratch r).arena).2 =
      Query.occurrencesBy Query.builtIn settings
        { tree := (Parser.fromScratch r).tree, arena := (Parser.fromScratch r).arena } .pass :=
  detect_of_new rfl Query.kindsApart_builtIn settings (Parser.nodup_fromScratch r) _

/-- Nothing survives in a broken region but on the lines of unfinished headers: in the tree from scratch, a node
that is no error begins on a line that an error covers only if the line is a function header without a body,
and so does whatever the built-in queries detect. -/
theorem Revision.survivors_on_unfinished (r : Revision) :
    let tree := (Parser.fromScratch r).tree
    let arena := (Parser.fromScratch r).arena
    (∀ skipErrors, ∀ item ∈ tree.walk arena skipErrors, item.node.kind ≠ .error →
        tree.Broken arena item.startLine → r.Unfinished item.startLine) ∧
      ∀ settings found, (Detector.standard.detect settings tree arena).2 = .ok found →
        ∀ o ∈ found, tree.Broken arena o.range.startLine → r.Unfinished o.range.startLine := by
  intro tree arena
  refine ⟨fun skipErrors item => Parser.unfinished_of_mem_walk, ?_⟩
  intro settings found ended o member broken
  rw [Detector.standard_fromScratch] at ended
  have begins := Query.exists_of_mem_occurrencesBy ended member
  dsimp only at begins
  rcases begins with ⟨item, met, readable, range⟩ | clear
  · rw [range] at broken ⊢
    exact Parser.unfinished_of_mem_walk (r := r) met readable broken
  · exact absurd broken clear

/-- A function header without a body whose default value is a number. -/
def Revision.headless : Revision :=
  { file := "a.py", language := "python", number := 1, text := "def f(x=42):\n",
    changed := (LineRange.ofInts? 1 1).toList, base := 0, edit := none, serial := 0 }

/-- All that is kept of it is the error, and the number beside it. -/
theorem Revision.branches_headless : headless.branches =
    [.mk { kind := .error, type := "ERROR", span := ⟨⟨1, 0⟩, ⟨1, 12⟩⟩, id := 0 } [],
     .mk { kind := .number, type := "number", span := ⟨⟨1, 8⟩, ⟨1, 10⟩⟩, value := "42", id := 1 } []] := by
  have language : Profile.find? headless.language = some .python := Profile.find?_python
  have kept : Outline.kept .python headless.text.toList =
      [{ kind := .error, type := "ERROR", span := ⟨⟨1, 0⟩, ⟨1, 12⟩⟩, id := 0 },
       { kind := .number, type := "number", span := ⟨⟨1, 8⟩, ⟨1, 10⟩⟩, value := "42", id := 1 }] := by
    decide +kernel
  rw [branches_of_kept language kept]
  cbv

/-- The header is an error, and the number in it is kept all the same. -/
theorem Revision.survivors_on_unfinished_headless :
    ∃ item ∈ (Parser.fromScratch headless).tree.walk (Parser.fromScratch headless).arena,
      item.node.kind = .number ∧
        (Parser.fromScratch headless).tree.Broken (Parser.fromScratch headless).arena item.startLine ∧
        headless.Unfinished item.startLine := by
  have language : Profile.find? headless.language = some .python := Profile.find?_python
  obtain ⟨tree, arena⟩ := Parser.fromScratch_of_find? language
  rw [branches_headless] at tree arena
  unfold RootSource.storeRoots RootSource.storeRoots RootSource.storeRoots at tree arena
  dsimp only at tree arena
  generalize Digest.sha1 _ = d at tree
  generalize Digest.sha1 _ = d' at tree
  have covered : ((Parser.fromScratch headless).tree.errorSpans
      (Parser.fromScratch headless).arena).contains (1, 1) = true := by
    rw [tree, arena]
    cbv
  have walked : ((Parser.fromScratch headless).tree.walk (Parser.fromScratch headless).arena).any
      (fun item => item.node.kind == .number && item.startLine == 1) = true := by
    rw [tree, arena]
    cbv
  obtain ⟨item, met, number⟩ := List.any_eq_true.1 walked
  rw [Bool.and_eq_true, beq_iff_eq, beq_iff_eq] at number
  have broken : (Parser.fromScratch headless).tree.Broken (Parser.fromScratch headless).arena item.startLine :=
    ⟨(1, 1), List.contains_iff_mem.1 covered, by rw [number.2], by rw [number.2]⟩
  refine ⟨item, met, number.1, broken, ?_⟩
  refine (survivors_on_unfinished headless).1 true item met ?_ broken
  rw [number.1]
  decide

end LiveLint
