import LiveLint.Proofs.Parse.Published
import LiveLint.Proofs.Scan.InRange
import LiveLint.Proofs.Tree.Preorder

/-!
# The scanner does not fail

The scanner reads every text of a supported language in range, and so does the walk that counts the errors of a tree
once its roots are stored. So a parse without an injected failure reports no failed scanner and does not end with a
single error over the whole text: its tree comes from the native parser or from the scanner.
-/

namespace LiveLint

/-!
## What a walk meets
-/

namespace Arena

/-- The nodes that a walk over some nodes meets, errors included. -/
def met (a : Arena) (pending : List Nat) : List Nat := (a.visits false (pending.map (⟨·, []⟩))).map (·.index)

variable {a : Arena}

/-- Which nodes a walk meets does not depend on what stands above the nodes where it begins. -/
theorem map_index_visits {vs ws : List Visit} (same : vs.map (·.index) = ws.map (·.index)) :
    (a.visits false vs).map (·.index) = (a.visits false ws).map (·.index) := by
  fun_induction visits a false vs generalizing ws with
  | case1 =>
    rw [List.map_nil, eq_comm, List.map_eq_nil_iff] at same
    rw [same, visits]
  | case2 v pending cut => cases cut
  | case3 v pending _ ih =>
    obtain ⟨w, rest, rfl, index, later⟩ := List.map_eq_cons_iff.1 same.symm
    rw [visits_cons, if_neg (by simp [cuts]), List.map_cons, List.map_cons, index]
    refine congrArg _ (ih ?_)
    unfold pendingBelow
    rw [List.map_append, List.map_append, List.map_map, List.map_map, index, later]
    rfl

theorem met_append (first second : List Nat) : a.met (first ++ second) = a.met first ++ a.met second := by
  unfold met
  rw [List.map_append, visits_append, List.map_append]

theorem met_eq_flatMap (pending : List Nat) : a.met pending = pending.flatMap (a.met [·]) := by
  induction pending with
  | nil =>
    unfold met
    rw [List.map_nil, visits]
    rfl
  | cons i rest ih =>
    rw [List.flatMap_cons, ← ih]
    exact met_append [i] rest

theorem met_singleton (formed : a.WellFormed) {i : Nat} {node : Node} (found : a.get? i = some node) :
    a.met [i] = i :: a.met node.children := by
  unfold met
  rw [List.map_singleton, visits_cons, if_neg (by simp [cuts]), List.map_cons, List.append_nil]
  refine congrArg _ (map_index_visits ?_)
  unfold pendingBelow
  rw [formed.childrenBelow_eq found, List.map_map, List.map_map]
  rfl

/-- First and last line of a node below a root on a line, if it is an error. -/
def errorAt? (a : Arena) (line : Int) (i : Nat) : Option (Int × Int) :=
  (a.get? i).bind fun node =>
    if node.kind == .error then some (line + node.startLine, line + node.endLine) else none

/-- The errors that walks below some nodes meet, each at the line of its root. -/
def errorsAt (a : Arena) (places : List (Nat × Int)) : List (Int × Int) :=
  places.flatMap fun place => (a.met [place.1]).filterMap (a.errorAt? place.2)

theorem errorsAt_cons (formed : a.WellFormed) {i : Nat} {node : Node} (found : a.get? i = some node) (line : Int)
    (rest : List (Nat × Int)) :
    a.errorsAt ((i, line) :: rest) =
      (a.errorAt? line i).toList ++ a.errorsAt (node.children.map (·, line) ++ rest) := by
  unfold errorsAt
  rw [List.flatMap_cons, met_singleton formed found, List.filterMap_cons, met_eq_flatMap, List.filterMap_flatMap,
    List.flatMap_append, List.flatMap_map]
  cases a.errorAt? line i <;> rfl

/-- The errors of a tree are those that walks from its roots meet. -/
theorem errorSpans_eq_errorsAt (t : Tree) :
    t.errorSpans a = a.errorsAt (t.roots.map fun root => (root.index, (root.line : Int))) := by
  unfold Tree.errorSpans Tree.walk errorsAt
  rw [List.filter_flatMap, List.map_flatMap, List.flatMap_map]
  refine List.flatMap_congr fun root _ => ?_
  unfold walkRoot met
  rw [List.filter_filterMap, List.map_filterMap, List.filterMap_map]
  refine List.filterMap_congr fun v _ => ?_
  rw [Function.comp_apply]
  unfold place? errorAt?
  cases a.get? v.index with
  | none => rfl
  | some node =>
    rw [Option.map_some, Option.bind_some, Option.filter_some]
    split <;> rfl

end Arena

namespace Indexed

/-- Walking by index comes to its end and meets the errors of a tree. -/
theorem errorSpans_eq {a : Arena} (formed : a.WellFormed) {t : Tree} (inside : ∀ root ∈ t.roots, root.index < a.size) :
    errorSpans t a = .ok (t.errorSpans a) := by
  rw [Arena.errorSpans_eq_errorsAt]
  refine loop_eq (fun s : List (Nat × Int) × List (Int × Int) => ∀ place ∈ s.1, place.1 < a.size)
    (fun s => total (a.subtreeSize ·.1) s.1) (fun s => s.2.reverse ++ a.errorsAt s.1) ?_ ?_ ?_
  · rintro ⟨pending, met⟩ inside
    cases pending with
    | nil => exact Or.inl (congrArg (Except.ok <| Sum.inr ·) (List.append_nil _).symm)
    | cons place rest =>
      obtain ⟨i, line⟩ := place
      obtain ⟨here, later⟩ := List.forall_mem_cons.1 inside
      have found : a.get? i = some a.nodes[i] := Array.getElem?_eq_getElem here
      unfold walkRound
      dsimp only
      rw [fetch_node found]
      refine Or.inr ⟨_, rfl, ?_, ?_, ?_⟩
      · intro place member
        rcases List.mem_append.1 member with child | other
        · obtain ⟨c, among, rfl⟩ := List.mem_map.1 child
          exact Nat.lt_trans ((formed i _ found).children c among).2 here
        · exact later place other
      · dsimp only
        rw [total_append, total_map, total_cons, a.subtreeSize_eq i, formed.childrenBelow_eq found, Nat.add_comm 1]
        exact Nat.add_lt_add_right (Nat.lt_succ_self _) _
      · dsimp only
        rw [Arena.errorsAt_cons formed found, Arena.errorAt?, found, Option.bind_some]
        split
        · rw [List.reverse_cons, List.append_assoc]
          rfl
        · rfl
  · intro place member
    obtain ⟨root, among, rfl⟩ := List.mem_map.1 member
    exact inside root among
  · dsimp only
    rw [total_map]
    exact Nat.lt_succ_self _

end Indexed

/-!
## Parses
-/

/-- A parse got its tree from the native parser or from the scanner, and reports no failure but one of the native
parser. -/
structure Parser.Outcome.Read (out : Parser.Outcome) (r : Revision) (profile : Profile) : Prop where
  backend : out.tree.backend ≠ .none
  unlimited : out.tree.limited = false
  reports : ∀ record ∈ out.logs, ∃ reason, record = failed r profile ("tree-sitter backend failed: " ++ reason)

namespace Parser

variable {p : Parser} {r : Revision} {profile : Profile}

/-- A tree that is built is read by the backend that built it. -/
theorem read_of_finish {out : Outcome} {base : Option Tree} {k : Nat} {sources : List RootSource}
    {native : Option NativeTree} (backend : Backend) (other : backend ≠ .none)
    (built : out.tree = (p.finish r profile base k backend sources native).2)
    (reports : ∀ record ∈ out.logs, ∃ reason, record = failed r profile ("tree-sitter backend failed: " ++ reason)) :
    out.Read r profile := by
  refine ⟨?_, ?_, reports⟩
  · rw [built]
    exact other
  · rw [built]
    rfl

theorem read_fallBack (base : Option Tree) (calls : List NativeCall) (reason : String) :
    (p.fallBack r profile base calls reason none).Read r profile := by
  unfold fallBack scan
  exact read_of_finish (p := p.newArena.1) .scanner nofun rfl fun _ member =>
    ⟨reason, List.mem_singleton.1 member⟩

/-- In a supported language only an injected failure of the scanner leaves a revision unread. -/
theorem read_parse (supported : Profile.find? r.language = some profile) (previous : Option Tree) (reply : NativeReply) :
    (p.parse r previous reply).Read r profile := by
  unfold parse
  rw [supported]
  dsimp only
  split
  · split
    · split
      · exact read_of_finish .native nofun rfl nofun
      · exact read_fallBack ..
    · exact read_fallBack ..
  · unfold scan
    exact read_of_finish .scanner nofun rfl nofun

end Parser

namespace Indexed

/-- The errors of the tree of any call are counted in range. -/
theorem errorSpans_answer {l : ParseLog} (sound : l.Sound) (c : ParseCall) :
    errorSpans (l.answer c).tree ((l.answer c).parser.arena (l.answer c).tree.arena) =
      .ok ((l.answer c).tree.errorSpans ((l.answer c).parser.arena (l.answer c).tree.arena)) := by
  have next := sound.apply c
  have member : (l.answer c).tree ∈ (l.apply c).trees := List.mem_append_right _ (List.mem_singleton_self _)
  have fits := next.tree_apart member
  rw [ParseLog.parser_apply] at fits
  have formed := next.formed (l.answer c).tree.arena
  rw [ParseLog.parser_apply] at formed
  exact errorSpans_eq formed fits.inside

/-- Where no failure is injected, nothing else makes the scanner fail. -/
theorem parse_eq {l : ParseLog} (sound : l.Sound) (c : ParseCall) {profile : Profile}
    (supported : Profile.find? c.revision.language = some profile) :
    parse l.parser c.revision (l.previous? c) c.reply c.crash = l.answer c := by
  have flawless : lapse? l.parser c.revision profile (l.previous? c) c.reply = none := by
    have counted := errorSpans_answer sound { c with crash := none }
    unfold ParseLog.answer ParseLog.previous? at counted
    unfold lapse? ParseLog.previous?
    rw [scan_eq (Profile.hasSolidMarkers_of_find? supported)]
    dsimp only at counted ⊢
    rw [counted]
  unfold parse ParseLog.answer
  rw [supported, Option.bind_some, flawless]
  dsimp only
  rw [Option.map_none, Option.or_none]

/-- Whatever a parser was asked to parse before, a revision in a supported language is scanned in range: the scanner
has no lapse on any text, and neither has the walk over the tree that the revision gets. So the scanner fails only
where a failure is injected. Otherwise the native parser or the scanner reads the revision, and no failure but one of
the native parser is reported. -/
theorem scanner_never_lapses (grammars : Grammars) (maxNodes : Int) (calls : List ParseCall) (c : ParseCall)
    {profile : Profile} (supported : Profile.find? c.revision.language = some profile) :
    let l := (ParseLog.start grammars maxNodes).run calls
    let out := parse l.parser c.revision (l.previous? c) c.reply c.crash
    (∀ text, scan profile text = .ok (RootSource.scanned profile text)) ∧
    errorSpans out.tree (out.parser.arena out.tree.arena) =
      .ok (out.tree.errorSpans (out.parser.arena out.tree.arena)) ∧
    out = l.answer c ∧
    (c.crash = none → out.Read c.revision profile) := by
  intro l out
  have sound : l.Sound := (ParseLog.sound_start grammars maxNodes).run calls
  have same : out = l.answer c := parse_eq sound c supported
  refine ⟨fun text => scan_eq (Profile.hasSolidMarkers_of_find? supported) text, ?_, same, ?_⟩
  · rw [same]
    exact errorSpans_answer sound c
  · intro unharmed
    rw [same]
    unfold ParseLog.answer
    rw [unharmed]
    exact Parser.read_parse supported _ _

/-- A text that ends in the middle of everything: brackets that do not match, and an escape in a string literal. -/
theorem scanner_never_lapses_typescript :
    let cut : Revision :=
      { file := "a.ts", language := "typescript", number := 1, text := "for (\nclass C \x7b if ] f(x) \x7b y('\\",
        changed := (LineRange.ofInts? 1 2).toList, base := 0, edit := none, serial := 0 }
    Profile.find? cut.language = some .typescript ∧
      Outline.errorLines .typescript cut.text.toList = [1, 2] ∧
      scan .typescript cut.text.toList = .ok (RootSource.scanned .typescript cut.text.toList) ∧
      (parse {} cut).Read cut .typescript := by
  intro cut
  have supported : Profile.find? cut.language = some .typescript := by decide +kernel
  obtain ⟨scanned, -, -, read⟩ := scanner_never_lapses {} 200000 [] ⟨cut, none, .nothing, none⟩ supported
  exact ⟨supported, by decide +kernel, scanned _, read rfl⟩

end Indexed

end LiveLint
