import LiveLint.Proofs.Parse.Scratch
import LiveLint.Proofs.Scan.LoopBlocks
import LiveLint.Proofs.Tree.Walks

/-!
# Loops in trees from scratch

In a tree from scratch of a text with indented blocks, a line that opens a loop has one loop. Where the lines up to
the end of its block have both brackets of a pair or none, the loop has the block as its body, and every loop in
the block is met below the body.
-/

namespace LiveLint

open Scan.Indent

namespace Parser

variable {r : Revision} {skipErrors : Bool} {profile : Profile}

/-- A walk from scratch meets the drafts that were kept, in the order in which they are nested. -/
theorem map_walk_fromScratch (supported : Profile.find? r.language = some profile) (skipErrors : Bool) :
    ((fromScratch r).tree.walk (fromScratch r).arena skipErrors).map (fun p => (p.node.kind, p.range)) =
      (Forest.ordered (Outline.kept profile r.text.toList)).map fun d => (d.kind, d.range) := by
  have branches : r.branches = Forest.build (Forest.ordered (Outline.kept profile r.text.toList)) := by
    unfold Revision.branches
    rw [supported]
    rfl
  have faces : (fromScratch r).tree.faces (fromScratch r).arena skipErrors =
      Branch.facesAll 0 skipErrors [] r.branches := by
    rw [Tree.faces_eq]
    have roots := (roots_fromScratch r).imp fun root b here => here.2.2 skipErrors
    generalize (fromScratch r).tree.roots = rs at roots
    generalize r.branches = bs at roots
    induction roots with
    | nil => rfl
    | cons here _ ih => rw [List.map_cons, List.flatten_cons, ih, here, Branch.facesAll]
  rw [← Forest.map_facesAll_build _ skipErrors [], ← branches, ← faces]
  unfold Tree.faces
  rw [List.map_map]
  rfl

/-- Every node of a walk from scratch stands for a branch of the outline. -/
theorem exists_stands_of_mem_walk {item : Placed} (supported : Profile.find? r.language = some profile)
    (member : item ∈ (fromScratch r).tree.walk (fromScratch r).arena skipErrors) :
    ∃ b ∈ Outline.branches profile r.text.toList, ∃ c, c.Within b ∧ item.Stands (fromScratch r).arena c ∧
      item.root ∈ (fromScratch r).tree.roots ∧
      ⟨item.index, item.ancestors⟩ ∈ (fromScratch r).arena.visits skipErrors [⟨item.root.index, []⟩] := by
  obtain ⟨root, rootIn, member⟩ := List.mem_flatMap.1 member
  obtain ⟨b, branch, line, holds⟩ := exists_of_forall₂ (holds_fromScratch r) rootIn
  obtain ⟨c, within, stands, same_root, visited⟩ := Arena.exists_stands_of_mem_walkRoot holds member
  unfold Revision.branches at branch
  rw [supported] at branch
  exact ⟨b, branch, c, within, stands, same_root ▸ rootIn, same_root ▸ visited⟩

end Parser

namespace Revision

variable {r : Revision} {skipErrors : Bool} {before : List (List Char)} {line : List Char}
  {hit : Text.Pattern.Hit} {head : List Char} {first last : Nat}

def loopAt (n : Nat) (p : Placed) : Bool := p.node.kind == .loop && p.startLine == n

/-- A text has as many nodes of loops on a line as it has drafts of them. -/
theorem length_loops_eq {profile : Profile} (supported : Profile.find? r.language = some profile)
    (skipErrors : Bool) (n : Nat) :
    (((Parser.fromScratch r).tree.walk (Parser.fromScratch r).arena skipErrors).filter (loopAt n)).length =
      ((Forest.ordered (Outline.kept profile r.text.toList)).filter fun d =>
        d.kind == .loop && d.span.start.line == n).length := by
  have keys := congrArg (fun keys => (keys.filter fun key : NodeKind × SourceRange =>
    key.1 == .loop && key.2.startLine == n).length) (Parser.map_walk_fromScratch supported skipErrors)
  rw [List.filter_map, List.length_map, List.filter_map, List.length_map] at keys
  refine keys.trans (congrArg List.length (List.filter_congr fun d _ => ?_))
  have same : ((d.span.start.line : Int) == n) = (d.span.start.line == n) := by
    rw [Bool.eq_iff_iff, beq_iff_eq, beq_iff_eq]
    omega
  exact congrArg ((d.kind == .loop) && ·) same

/-- There is one loop at most on a line of a text with paired brackets. -/
theorem length_loops_le {profile : Profile} (supported : Profile.find? r.language = some profile)
    (balanced : Outline.Balanced profile r.text.toList) (skipErrors : Bool) (n : Nat) :
    (((Parser.fromScratch r).tree.walk (Parser.fromScratch r).arena skipErrors).filter (loopAt n)).length ≤ 1 := by
  rw [length_loops_eq supported]
  have once := (Outline.nodup_ordered profile r.text.toList).filter fun d : Draft =>
    d.kind == .loop && d.span.start.line == n
  have opens : ∀ d ∈ (Forest.ordered (Outline.kept profile r.text.toList)).filter (fun d : Draft =>
      d.kind == .loop && d.span.start.line == n), d ∈ Outline.drafts profile r.text.toList ∧
        d.toSketch.opens n = true := by
    intro d member
    obtain ⟨ordered, here⟩ := List.mem_filter.1 member
    rw [Bool.and_eq_true, beq_iff_eq, beq_iff_eq] at here
    exact ⟨Outline.mem_drafts_of_mem_kept (Outline.mem_kept_of_mem_ordered ordered),
      Sketch.opens_iff.2 ⟨Or.inr here.1, here.2⟩⟩
  generalize (Forest.ordered (Outline.kept profile r.text.toList)).filter (fun d : Draft =>
    d.kind == .loop && d.span.start.line == n) = found at once opens ⊢
  match found with
  | [] => exact Nat.zero_le _
  | [_] => exact Nat.le_refl _
  | x :: y :: rest =>
    obtain ⟨member, here⟩ := opens x (List.mem_cons_self ..)
    obtain ⟨member', here'⟩ := opens y (List.mem_cons_of_mem _ (List.mem_cons_self ..))
    refine absurd (balanced.eq_of_opens member member' here here') ?_
    exact fun same => (List.nodup_cons.1 once).1 (same ▸ List.mem_cons_self ..)

/-- A draft that was kept is met by a walk, with its kind and its range. -/
theorem exists_mem_walk {profile : Profile} (supported : Profile.find? r.language = some profile)
    (skipErrors : Bool) {d : Draft} (kept : d ∈ Outline.kept profile r.text.toList) :
    ∃ item ∈ (Parser.fromScratch r).tree.walk (Parser.fromScratch r).arena skipErrors,
      item.node.kind = d.kind ∧ item.range = d.range := by
  have key : (d.kind, d.range) ∈ (Forest.ordered (Outline.kept profile r.text.toList)).map fun d =>
      (d.kind, d.range) := List.mem_map.2 ⟨d, (Forest.perm_ordered _).mem_iff.2 kept, rfl⟩
  rw [← Parser.map_walk_fromScratch supported skipErrors] at key
  obtain ⟨item, member, same⟩ := List.mem_map.1 key
  exact ⟨item, member, congrArg Prod.fst same, congrArg Prod.snd same⟩

/-- A node of a walk that is a loop stands for the one draft that opens its line. -/
theorem exists_draft_of_loop {item : Placed} (supported : Profile.find? r.language = some .python)
    (member : item ∈ (Parser.fromScratch r).tree.walk (Parser.fromScratch r).arena skipErrors)
    (loop : item.node.kind = .loop) :
    ∃ d ∈ Outline.drafts .python r.text.toList, d.kind = .loop ∧ item.startLine = d.span.start.line := by
  obtain ⟨profile, supported', c, shows, kept⟩ := Parser.exists_kept_of_mem_walk member
  obtain rfl : profile = .python := Option.some.inj (supported'.symm.trans supported)
  exact ⟨c.draft, Outline.mem_drafts_of_mem_kept kept, shows.kind.symm.trans loop, shows.startLine⟩

/-- The loop of a line has the block below the line as its body, and every loop in the block is met below the
body. -/
theorem exists_body_of_nest (supported : Profile.find? r.language = some .python) {owner body : Draft}
    (nest : Outline.Nest .python r.text.toList before line hit head first last owner body) {item : Placed}
    (member : item ∈ (Parser.fromScratch r).tree.walk (Parser.fromScratch r).arena skipErrors)
    (here : loopAt (before.length + 1) item = true) :
    ∃ b, (Parser.fromScratch r).arena.bodyOf? item = some b ∧ b.startLine = first ∧ b.endLine = last ∧
      ∀ p ∈ (Parser.fromScratch r).tree.walk (Parser.fromScratch r).arena skipErrors,
        p.node.kind = .loop → (first : Int) ≤ p.startLine → p.startLine ≤ last →
          p ∈ (Parser.fromScratch r).arena.walkBelow b skipErrors := by
  have balanced := nest.opening.balanced
  obtain ⟨top, branch, c, within, stands, rootIn, visited⟩ := Parser.exists_stands_of_mem_walk supported member
  have shows := Arena.shows_of_holds stands.holds rfl stands.placed
  obtain ⟨front, rest, split, children⟩ := Forest.exists_split_of_within branch within
  have drafted := Outline.mem_drafts_of_mem_kept
    (Outline.mem_kept_of_mem_ordered (split ▸ List.mem_append_right _ (List.mem_cons_self ..)))
  -- The node stands for the draft of the loop.
  rw [loopAt, Bool.and_eq_true, beq_iff_eq, beq_iff_eq] at here
  have is_owner : c.draft = owner := by
    refine nest.owner_unique drafted (Or.inr (shows.kind ▸ here.1)) ?_
    have := shows.startLine
    omega
  rw [is_owner] at split children
  have readable := nest.of.readable
  have child : ∃ child ∈ c.children, owner.body = some child.draft.id := by
    rw [children readable.1]
    refine (nest.of.child_iff split).2 ⟨?_, nest.not_severed⟩
    rw [balanced.errorLines_eq]
    exact List.not_mem_nil
  obtain ⟨b, found⟩ : ∃ b, (Parser.fromScratch r).arena.bodyOf? item = some b := by
    refine Option.isSome_iff_exists.1 (shows.found_iff.2 (shows.body_iff.2 ?_))
    rwa [is_owner]
  obtain ⟨-, -, c', among, named, stands'⟩ := Arena.exists_stands_of_bodyOf? stands found
  have shows' := Arena.shows_of_holds stands'.holds rfl stands'.placed
  -- The body stands for the draft of the block.
  have within' := Arena.within_of_child within among
  obtain ⟨front', rest', split', children'⟩ := Forest.exists_split_of_within branch within'
  have is_body : c'.draft = body := by
    refine Outline.eq_of_id (Outline.mem_drafts_of_mem_kept (Outline.mem_kept_of_mem_ordered
      (split' ▸ List.mem_append_right _ (List.mem_cons_self ..)))) nest.of.body_mem (Option.some.inj ?_)
    rw [← nest.of.named, ← is_owner, named]
  rw [is_body] at split' children'
  refine ⟨b, found, ?_, ?_, ?_⟩
  · rw [shows'.startLine, is_body, nest.span]
  · rw [shows'.endLine, is_body, nest.span]
  · intro p met loop from_first inside
    obtain ⟨d, drafted', kind, start⟩ := exists_draft_of_loop supported met loop
    rw [start] at from_first inside
    have taken := nest.mem_takeWhile drafted' kind (Int.ofNat_le.1 from_first) (Int.ofNat_le.1 inside) split'
    -- The walk below the body shows the loop, and there is no other one on its line.
    have key : (d.kind, d.range) ∈
        ((Parser.fromScratch r).arena.walkBelow b skipErrors).map fun p => (p.node.kind, p.range) := by
      have faces := congrArg (List.map fun f : Face => (f.kind, f.range)) (Arena.faces_walkBelow stands' skipErrors)
      rw [List.map_map, children' readable.2, Forest.map_facesAll_build] at faces
      exact faces ▸ List.mem_map.2 ⟨d, taken, rfl⟩
    obtain ⟨p', below, same⟩ := List.mem_map.1 key
    have part := Arena.walkBelow_sublist stands (is_owner ▸ readable.1) rfl visited found stands'
      (is_body ▸ readable.2)
    have met' : p' ∈ (Parser.fromScratch r).tree.walk (Parser.fromScratch r).arena skipErrors :=
      List.mem_flatMap.2 ⟨item.root, rootIn, part.subset below⟩
    have there : loopAt d.span.start.line p = true := by
      rw [loopAt, loop, start]
      simp
    have there' : loopAt d.span.start.line p' = true := by
      have start' : p'.startLine = d.span.start.line := congrArg (·.2.startLine) same
      have kind' : p'.node.kind = d.kind := congrArg Prod.fst same
      rw [loopAt, kind', kind, start']
      simp
    rw [Outline.eq_of_mem_of_length_le (length_loops_le supported balanced skipErrors _)
      (List.mem_filter.2 ⟨met, there⟩) (List.mem_filter.2 ⟨met', there'⟩)]
    exact below

/-- In a Python text whose brackets are all in pairs, a line that has the header of a loop, ends with a colon outside
of brackets and has a deeper line with code next is one loop in a tree from scratch. If this colon is the first one
behind the keyword that no bracket opened there stands around, the loop ends with the block below its line, and
otherwise it ends with its line. In the first case, if the lines up to the end of the block have both brackets of a
pair or none, the body of the loop goes from the first line of the block to its last one, and every loop that begins
there is met below the body. -/
theorem loop_of_opening (r : Revision) (skipErrors : Bool) (python : Profile.find? r.language = some .python)
    (opening : Outline.Opening .python r.text.toList before line hit head first) :
    ∃ item last,
      ((Parser.fromScratch r).tree.walk (Parser.fromScratch r).arena skipErrors).filter
        (loopAt (before.length + 1)) = [item] ∧
      Block (Outline.source .python r.text.toList).lines (width line) (before.length + 1) first last ∧
      (¬Forward.EndsHeader (Outline.source .python r.text.toList).masked (Text.lineStart before + hit.stop)
          (Text.lineStart before + head.length) →
        item.endLine = (before.length + 1 : Nat)) ∧
      (Forward.EndsHeader (Outline.source .python r.text.toList).masked (Text.lineStart before + hit.stop)
          (Text.lineStart before + head.length) →
        item.endLine = last ∧
        (Outline.Enclosed (Outline.source .python r.text.toList) (before.length + 1) last →
          ∃ body, (Parser.fromScratch r).arena.bodyOf? item = some body ∧
            body.startLine = first ∧ body.endLine = last ∧
            ∀ p ∈ (Parser.fromScratch r).tree.walk (Parser.fromScratch r).arena skipErrors,
              p.node.kind = .loop → (first : Int) ≤ p.startLine → p.startLine ≤ last →
                p ∈ (Parser.fromScratch r).arena.walkBelow body skipErrors)) := by
  obtain ⟨owner, body, colon, of, loop, headed, ends, le⟩ := opening.found
  have kept : owner ∈ Outline.kept .python r.text.toList := opening.balanced.kept_eq ▸ of.owner_mem
  obtain ⟨item, met, kind, range⟩ := exists_mem_walk python skipErrors kept
  have here : loopAt (before.length + 1) item = true := by
    have start : item.startLine = owner.span.start.line := congrArg (·.startLine) range
    rw [show owner.span = _ from headed.span] at start
    rw [loopAt, kind, loop, start]
    simp
  have alone := Outline.eq_singleton_of_mem_of_length_le
    (length_loops_le python opening.balanced skipErrors (before.length + 1)) (List.mem_filter.2 ⟨met, here⟩)
  have ends_with : item.endLine = owner.span.stop.line := congrArg (·.endLine) range
  have stop : owner.span.stop = body.span.stop := of.owns.stop_eq
  rw [stop] at ends_with
  by_cases first_colon : Forward.EndsHeader (Outline.source .python r.text.toList).masked
      (Text.lineStart before + hit.stop) (Text.lineStart before + head.length)
  · obtain rfl : colon = Text.lineStart before + head.length := by
      have paired := opening.balanced.paired
      exact Option.some.inj (((Forward.headerColon?_eq_some_iff paired).2 ends).symm.trans
        ((Forward.headerColon?_eq_some_iff paired).2 first_colon))
    obtain ⟨last, block, span⟩ := opening.block_of_headed headed
    refine ⟨item, last, alone, block, fun other => absurd first_colon other, fun _ => ⟨?_, fun enclosed => ?_⟩⟩
    · rw [ends_with, show body.span = _ from span]
    · exact exists_body_of_nest python ⟨opening, of, loop, headed, block, span, enclosed⟩ met here
  · obtain ⟨last, block⟩ := exists_block opening.next opening.deeper
    have early : colon < Text.lineStart before + head.length := by
      refine Nat.lt_of_le_of_ne le ?_
      rintro rfl
      exact first_colon ends
    refine ⟨item, last, alone, block, fun _ => ?_, fun whole => absurd whole first_colon⟩
    rw [ends_with, show body.span.stop.line = _ from (opening.line_of_headed early headed).2]

/-- A loop whose header has a colon inside of brackets, with another loop below it. -/
def bracketedColon : Revision :=
  { file := "a", language := "python", number := 1, text := "while (x := f()):\n  for y in x: pass",
    changed := (LineRange.ofInts? 1 2).toList, base := 0, edit := none, serial := 1 }

/-- The loop below the header is met below the body. -/
theorem loop_of_opening_bracketedColon :
    ∃ item body,
      ((Parser.fromScratch bracketedColon).tree.walk (Parser.fromScratch bracketedColon).arena).filter (loopAt 1) =
        [item] ∧
      (Parser.fromScratch bracketedColon).arena.bodyOf? item = some body ∧ body.startLine = 2 ∧ body.endLine = 2 ∧
      ∀ p ∈ (Parser.fromScratch bracketedColon).tree.walk (Parser.fromScratch bracketedColon).arena,
        p.node.kind = .loop → p.startLine = 2 → p ∈ (Parser.fromScratch bracketedColon).arena.walkBelow body := by
  have language : Profile.find? bracketedColon.language = some .python := Profile.find?_python
  have lines : (Outline.source .python bracketedColon.text.toList).lines =
      ["while (x := f()):".toList, "  for y in x: pass".toList] := by
    cbv
  have pairs : (Outline.source .python bracketedColon.text.toList).brackets.pairs = [(13, 14), (6, 15)] := by
    decide +kernel
  have next : Text.NextCode (Outline.source .python bracketedColon.text.toList).lines 1 2 := by
    rw [lines]
    exact ⟨by decide, ⟨_, rfl, 'f', by decide, rfl⟩, by omega⟩
  obtain ⟨hit, header, stop⟩ : ∃ hit, Text.Pattern.hit? loopHeader "while (x := f()):".toList = some hit ∧
      hit.stop = 5 := Option.map_eq_some_iff.1 (by decide +kernel)
  have opening : Outline.Opening .python bracketedColon.text.toList [] "while (x := f()):".toList hit
      "while (x := f())".toList 2 := by
    refine ⟨⟨rfl, by decide +kernel⟩, ⟨_, lines⟩, header, by decide +kernel, ?_, next, ?_⟩
    · unfold Brackets.Around
      rw [pairs]
      decide +kernel
    · rw [lines]
      rintro below ⟨⟩
      decide +kernel
  have first_colon : Forward.EndsHeader (Outline.source .python bracketedColon.text.toList).masked
      (Text.lineStart [] + hit.stop) 16 := by
    refine (Forward.headerColon?_eq_some_iff opening.balanced.paired).1 ?_
    rw [stop]
    decide +kernel
  obtain ⟨item, last, alone, block, -, whole⟩ := loop_of_opening bracketedColon true language opening
  have only : last = 2 := by
    obtain ⟨text, there, -⟩ := block.last_code
    have inside := (List.getElem?_eq_some_iff.1 there).1
    rw [lines] at inside
    have le := block.le
    change last - 1 < 2 at inside
    omega
  subst only
  obtain ⟨-, nested⟩ := whole first_colon
  obtain ⟨body, found, starts, ends, below⟩ := nested (by unfold Outline.Enclosed; rw [pairs]; decide +kernel)
  refine ⟨item, body, alone, found, starts, ends, fun p met loop here => ?_⟩
  exact below p met loop (by rw [here]; decide) (by rw [here]; decide)

end Revision

end LiveLint
