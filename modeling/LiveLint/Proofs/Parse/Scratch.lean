import LiveLint.Proofs.Parse.Editing
import LiveLint.Proofs.Parse.Incremental
import LiveLint.Proofs.Scan.Bodies
import LiveLint.Proofs.Scan.Nesting
import LiveLint.Proofs.Scan.OutlinesBelow

/-!
# Trees from scratch

A parser that has read nothing stores the branches of a revision one after the other in an empty arena. So
the tree is told from the text alone, and so is what becomes of it when a line is put before the text.
-/

namespace LiveLint

/-!
## Trees from scratch

A parser that has read nothing stores the branches of a revision one after the other in an empty arena. So
the roots of the tree are nodes of their own, and every node of a walk shows one of the drafts that the scanner
kept.
-/

namespace RootSource

/-- Stores branches of a text in an arena, one after the other, each as a new root. -/
def storeRoots (text : List Char) : List Branch → Arena → Arena × List Root
  | [], a => (a, [])
  | b :: rest, a =>
    let (a, i) := b.store b.draft.span.start.line a
    let (a, roots) := storeRoots text rest a
    (a, { index := i, line := b.draft.span.start.line, digest := Digest.sha1 (branchInput text b) } :: roots)

/-- With nothing to carry over, all branches are stored. -/
theorem build_nil (r : Revision) (text : List Char) (bs : List Branch) (a : Arena) :
    build r (bs.map (ofBranch text)) [] a = storeRoots text bs a := by
  induction bs generalizing a with
  | nil => rfl
  | cons b rest ih =>
    rcases build_cons r text b rest [] a with ⟨old, pool, taken, -⟩ | stored
    · cases taken
    · rw [stored, ih]
      rfl

/-- The arena holds every branch at the index of its root, and later roots have larger indices. -/
theorem holds_storeRoots (text : List Char) (bs : List Branch) (a : Arena) :
    a.Extends (storeRoots text bs a).1 ∧
      List.Forall₂ (fun root b => a.size ≤ root.index ∧ root.line = b.draft.span.start.line ∧
        (storeRoots text bs a).1.Holds root.line b root.index) (storeRoots text bs a).2 bs ∧
      (storeRoots text bs a).2.Pairwise (fun x y => x.index < y.index) := by
  induction bs generalizing a with
  | nil => exact ⟨.refl a, .nil, .nil⟩
  | cons b rest ih =>
    obtain ⟨ext, fresh, holds⟩ := b.holds_store b.draft.span.start.line a
    obtain ⟨ext', others, increasing⟩ := ih (b.store b.draft.span.start.line a).1
    unfold storeRoots
    dsimp only
    generalize b.store b.draft.span.start.line a = first at ext fresh holds ext' others increasing ⊢
    refine ⟨ext.trans ext', .cons ⟨fresh, rfl, holds.extends ext'⟩ ?_, .cons ?_ increasing⟩
    · refine others.imp ?_
      rintro root c ⟨behind, placed⟩
      exact ⟨Nat.le_trans ext.size_le behind, placed⟩
    · intro root member
      obtain ⟨c, -, behind, -⟩ := exists_of_forall₂ others member
      exact Nat.lt_of_lt_of_le holds.lt_size behind

end RootSource

namespace Parser

/-- What a parser that has read nothing makes of a revision in a language that it knows. -/
theorem fromScratch_of_find? {r : Revision} {profile : Profile}
    (supported : Profile.find? r.language = some profile) :
    (fromScratch r).tree =
        { file := r.file, language := profile.name, revision := r.number, source := r.text, arena := 0,
          roots := (RootSource.storeRoots r.text.toList r.branches {}).2, backend := .scanner } ∧
      (fromScratch r).arena = (RootSource.storeRoots r.text.toList r.branches {}).1 := by
  have sources := sources_of_find? supported
  have built := RootSource.build_nil r r.text.toList r.branches {}
  change RootSource.build r r.sources [] {} = _ at built
  rw [sources] at built
  unfold Outcome.arena fromScratch parse
  rw [supported, ← built]
  exact ⟨rfl, rfl⟩

theorem roots_of_find? {r : Revision} {profile : Profile}
    (supported : Profile.find? r.language = some profile) :
    (fromScratch r).tree.roots = (RootSource.storeRoots r.text.toList r.branches {}).2 := by
  rw [(fromScratch_of_find? supported).1]

/-- In a language that is not known there is nothing in the tree. -/
theorem fromScratch_of_none {r : Revision} (unknown : Profile.find? r.language = none) :
    (fromScratch r).tree.roots = [] := by
  unfold fromScratch parse
  rw [unknown]
  rfl

/-- From scratch every root stands where its branch does and holds it. -/
theorem holds_fromScratch (r : Revision) :
    List.Forall₂ (fun root b => root.line = b.draft.span.start.line ∧
        (fromScratch r).arena.Holds root.line b root.index)
      (fromScratch r).tree.roots r.branches := by
  cases supported : Profile.find? r.language with
  | none =>
    have none_found : r.branches = [] := by
      unfold Revision.branches
      rw [supported]
    rw [fromScratch_of_none supported, none_found]
    exact .nil
  | some profile =>
    obtain ⟨-, placed, -⟩ := RootSource.holds_storeRoots r.text.toList r.branches {}
    rw [← (fromScratch_of_find? supported).2, ← roots_of_find? supported] at placed
    exact placed.imp fun root b here => here.2

/-- From scratch no two roots are one node. -/
theorem nodup_fromScratch (r : Revision) : ((fromScratch r).tree.roots.map (·.index)).Nodup := by
  cases supported : Profile.find? r.language with
  | none =>
    rw [fromScratch_of_none supported]
    exact .nil
  | some profile =>
    obtain ⟨-, -, increasing⟩ := RootSource.holds_storeRoots r.text.toList r.branches {}
    rw [← roots_of_find? supported] at increasing
    exact List.pairwise_map.2 (increasing.imp Nat.ne_of_lt)

end Parser

/-- Every node of a walk from scratch shows a branch that is within one of the outline. -/
theorem Parser.exists_shows_of_mem_walk {r : Revision} {skipErrors : Bool} {item : Placed}
    (member : item ∈ (fromScratch r).tree.walk (fromScratch r).arena skipErrors) :
    ∃ profile, Profile.find? r.language = some profile ∧
      ∃ b ∈ Outline.branches profile r.text.toList,
        ∃ c, c.Within b ∧ item.Shows (fromScratch r).arena c := by
  obtain ⟨root, rootIn, member⟩ := List.mem_flatMap.1 member
  obtain ⟨b, branch, -, holds⟩ := exists_of_forall₂ (holds_fromScratch r) rootIn
  obtain ⟨c, within, shows⟩ := Arena.exists_shows_of_mem_walkRoot holds member
  unfold Revision.branches at branch
  split at branch
  · next profile supported => exact ⟨profile, supported, b, branch, c, within, shows⟩
  · cases branch

/-- Every node of a walk from scratch shows one of the drafts that were kept. -/
theorem Parser.exists_kept_of_mem_walk {r : Revision} {skipErrors : Bool} {item : Placed}
    (member : item ∈ (fromScratch r).tree.walk (fromScratch r).arena skipErrors) :
    ∃ profile, Profile.find? r.language = some profile ∧
      ∃ c, item.Shows (fromScratch r).arena c ∧ c.draft ∈ Outline.kept profile r.text.toList := by
  obtain ⟨profile, supported, b, branch, c, within, shows⟩ := exists_shows_of_mem_walk member
  exact ⟨profile, supported, c, shows,
    Forest.mem_of_mem_ordered (Forest.draft_mem_of_within branch within)⟩

/-!
## Functions and loops without their bodies

Every function and every loop is found with a body, but its node does not always have one: the body is lost if it
begins on a line with a bracket in no pair, or if something that reaches as far as the body comes between the
two. In all other cases it is one of the children of the node.
-/

/-- In a tree from scratch, the node of a function or a loop has a body among its children, and its body can be
looked up, exactly if the body that was found with it does not begin on a line with a bracket in no pair and
nothing comes between the two that reaches as far as the body. -/
theorem Revision.body_kept_iff (r : Revision) (skipErrors : Bool) (item : Placed)
    (met : item ∈ (Parser.fromScratch r).tree.walk (Parser.fromScratch r).arena skipErrors)
    (kind : item.node.kind = .function ∨ item.node.kind = .loop) :
    ∃ profile owner body, Profile.find? r.language = some profile ∧
      Outline.OwnerOf profile r.text.toList owner body ∧
      item.startLine = owner.span.start.line ∧ item.endLine = owner.span.stop.line ∧
      (((Parser.fromScratch r).arena.bodyOf? item).isSome = true ↔
        ∃ i ∈ item.node.children, item.node.body = some i) ∧
      ((∃ i ∈ item.node.children, item.node.body = some i) ↔
        body.span.start.line ∉ Outline.errorLines profile r.text.toList ∧
          ¬Outline.Severed profile r.text.toList owner body) := by
  obtain ⟨profile, supported, b, branch, c, within, shows⟩ := Parser.exists_shows_of_mem_walk met
  obtain ⟨front, rest, split, children⟩ := Forest.exists_split_of_within branch within
  have kept := Outline.mem_kept_of_mem_ordered (split ▸ List.mem_append_right _ (List.mem_cons_self ..))
  rw [shows.kind] at kind
  obtain ⟨body, of⟩ := Outline.exists_ownerOf (Outline.mem_drafts_of_mem_kept kept) kind
  refine ⟨profile, c.draft, body, supported, of, shows.startLine, shows.endLine, shows.found_iff, ?_⟩
  rw [shows.body_iff, children of.readable.1]
  exact of.child_iff split

/-- The loop whose opening bracket was removed has lost its body, which begins on the line of the other
bracket. -/
theorem Revision.body_kept_iff_unopened :
    ∃ item ∈ (Parser.fromScratch Editor.unopened).tree.walk (Parser.fromScratch Editor.unopened).arena,
      item.node.kind = .loop ∧ item.node.body = none ∧
        ∃ profile owner body, Outline.OwnerOf profile Editor.unopened.text.toList owner body ∧
          item.startLine = owner.span.start.line ∧
          (body.span.start.line ∈ Outline.errorLines profile Editor.unopened.text.toList ∨
            Outline.Severed profile Editor.unopened.text.toList owner body) := by
  have language : Profile.find? Editor.unopened.language = some .python := Profile.find?_python
  obtain ⟨tree, arena⟩ := Parser.fromScratch_of_find? language
  have walked : ((Parser.fromScratch Editor.unopened).tree.walk
      (Parser.fromScratch Editor.unopened).arena).any
        (fun item => item.node.kind == .loop && item.node.body == none) = true := by
    rw [tree, arena, Editor.branches_unopened]
    unfold RootSource.storeRoots
    dsimp only
    generalize Digest.sha1 _ = d
    cbv
  obtain ⟨item, met, alone⟩ := List.any_eq_true.1 walked
  rw [Bool.and_eq_true, beq_iff_eq, beq_iff_eq] at alone
  obtain ⟨profile, owner, body, -, of, start, -, -, kept⟩ :=
    body_kept_iff Editor.unopened true item met (Or.inr alone.1)
  refine ⟨item, met, alone.1, alone.2, profile, owner, body, of, start, ?_⟩
  rw [alone.2] at kept
  by_contra joined
  obtain ⟨i, -, named⟩ := kept.2 (not_or.1 joined)
  cases named

/-!
## Trees of texts below a line without code

Nodes know their lines relative to their root only. So the tree of a text below a line without code has the
arena of the tree of the text, and roots that differ by their line alone.
-/

def Root.lowered (n : Nat) (root : Root) : Root := { root with line := root.line + n }

namespace Branch

theorem draft_lowered (n : Nat) (b : Branch) : (b.lowered n).draft = b.draft.lowered n := by
  cases b
  rfl

theorem node_lowered (n line : Nat) (d : Draft) (cs : List Branch) (indices : List Nat) :
    node (line + n) (d.lowered n) (lowerAll n cs) indices = node line d cs indices := by
  have ids : (lowerAll n cs).map (·.draft.id) = cs.map (·.draft.id) := by
    rw [lowerAll_eq_map, List.map_map]
    refine List.map_congr_left fun b _ => ?_
    rw [Function.comp_apply, draft_lowered]
    rfl
  have relative (l : Nat) : ((l + n : Nat) : Int) - (line + n : Nat) = (l : Int) - line := by omega
  unfold node
  rw [ids]
  dsimp only [Draft.lowered, Sketch.lowered, Span.lowered, Position.lowered]
  rw [relative, relative]

mutual

/-- A branch leads to the same nodes some lines further down. -/
theorem store_lowered (n line : Nat) (b : Branch) (a : Arena) :
    (b.lowered n).store (line + n) a = b.store line a := by
  match b with
  | .mk d cs =>
    unfold lowered store
    rw [storeAll_lowered n line cs a]
    dsimp only
    rw [node_lowered]

theorem storeAll_lowered (n line : Nat) (bs : List Branch) (a : Arena) :
    storeAll (line + n) (lowerAll n bs) a = storeAll line bs a := by
  match bs with
  | [] => rfl
  | b :: rest =>
    unfold lowerAll storeAll
    rw [store_lowered n line b a]
    dsimp only
    rw [storeAll_lowered n line rest]

end

end Branch

namespace RootSource

variable {line : List Char}

/-- What the digest of a branch is taken of does not depend on a line in front of the text. -/
theorem branchInput_below (free : '\n' ∉ line) (text : List Char) {b : Branch}
    (positive : 1 ≤ b.draft.span.start.line) :
    branchInput (line ++ '\n' :: text) (b.lowered 1) = branchInput text b := by
  have covered : Outline.coveredLines (line ++ '\n' :: text) (b.draft.span.lowered 1) =
      Outline.coveredLines text b.draft.span := by
    unfold Outline.coveredLines Span.lowered Position.lowered
    dsimp only
    rw [Text.lines_below free, Nat.add_sub_cancel, Nat.add_sub_add_right]
    obtain ⟨n, same⟩ := Nat.exists_eq_add_of_le' positive
    rw [same, List.drop_succ_cons, Nat.add_sub_cancel]
  unfold branchInput Outline.snippet
  rw [Branch.draft_lowered]
  change digestInput b.draft.span.start.col (String.ofList
    (['\n'].intercalate (Outline.coveredLines (line ++ '\n' :: text) (b.draft.span.lowered 1)))).toUTF8 = _
  rw [covered]

/-- The branches of a text below a line are stored as those of the text, with roots one line further down. -/
theorem storeRoots_below (free : '\n' ∉ line) (text : List Char) {bs : List Branch}
    (positive : ∀ b ∈ bs, 1 ≤ b.draft.span.start.line) (a : Arena) :
    storeRoots (line ++ '\n' :: text) (bs.map (·.lowered 1)) a =
      ((storeRoots text bs a).1, (storeRoots text bs a).2.map (·.lowered 1)) := by
  induction bs generalizing a with
  | nil => rfl
  | cons b rest ih =>
    have here := positive b (List.mem_cons_self ..)
    have start : (b.lowered 1).draft.span.start.line = b.draft.span.start.line + 1 := by
      rw [Branch.draft_lowered]
      rfl
    rw [List.map_cons, storeRoots, storeRoots, branchInput_below free text here, start, Branch.store_lowered]
    dsimp only
    rw [ih fun b member => positive b (List.mem_cons_of_mem _ member)]
    rfl

end RootSource

/-- A revision of a file, and one of the same file with a line in front of the text. -/
structure Revision.Below (line : String) (r r' : Revision) : Prop where
  file : r'.file = r.file
  language : r'.language = r.language
  text : r'.text = line ++ "\n" ++ r.text

namespace Revision.Below

variable {line : String} {r r' : Revision}

theorem toList (below : r.Below line r') : r'.text.toList = line.toList ++ '\n' :: r.text.toList := by
  rw [below.text]
  simp

/-- Below a line without code, the tree from scratch has the same arena, and its roots are one line further
down. -/
theorem fromScratch_eq (below : r.Below line r') {profile : Profile}
    (supported : Profile.find? r.language = some profile) (free : '\n' ∉ line.toList)
    (silent : profile.isSilent line.toList = true) :
    (Parser.fromScratch r').arena = (Parser.fromScratch r).arena ∧
      (Parser.fromScratch r').tree.roots = (Parser.fromScratch r).tree.roots.map (·.lowered 1) := by
  have supported' : Profile.find? r'.language = some profile := by rw [below.language, supported]
  have branches : r'.branches = r.branches.map (·.lowered 1) := by
    unfold Revision.branches
    rw [supported, supported', below.toList]
    exact Outline.branches_below (Profile.hasMarkers_of_find? supported) free silent r.text.toList
  have positive : ∀ b ∈ r.branches, 1 ≤ b.draft.span.start.line :=
    fun b member => (on_of_mem_branches member).1.one_le_start
  have stored := RootSource.storeRoots_below free r.text.toList positive {}
  rw [← branches, ← below.toList] at stored
  rw [(Parser.fromScratch_of_find? supported).2, (Parser.fromScratch_of_find? supported').2,
    Parser.roots_of_find? supported, Parser.roots_of_find? supported']
  have arenas := congrArg Prod.fst stored
  have roots := congrArg Prod.snd stored
  dsimp only at arenas roots
  exact ⟨arenas, roots⟩

end Revision.Below

end LiveLint
