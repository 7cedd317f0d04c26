import LiveLint.Proofs.Detect.ErrorSpans
import LiveLint.Proofs.Doubles
import LiveLint.Proofs.Parse.Scratch

/-!
# Occurrences below a line without code

A line that is blank or a line comment moves what is found below it and changes nothing else: the roots of the
tree are searched as before, the line takes no part in the comparison of lines, and identities know scopes and
texts of lines, but no numbers of lines.
-/

namespace LiveLint

/-- An entry of a report some lines further down: repeated code names the lines of its original. -/
def loweredEntry (n : Nat) (entry : String × Value) : String × Value :=
  match entry with
  | (key, .int line) =>
    (key, .int (if ["original_start_line", "original_end_line"].contains key then line + n else line))
  | entry => entry

/-- What is reported with a kind, some lines further down. -/
def loweredMetadata (n : Nat) (kind : String) (metadata : Fields) : Fields :=
  if kind == Duplicate.kind then metadata.map (loweredEntry n) else metadata

def Match.lowered (n : Nat) (m : Match) : Match :=
  { m.shifted n with metadata := loweredMetadata n m.kind m.metadata }

theorem Match.lowered_of_kind {m : Match} (other : m.kind ≠ Duplicate.kind) (n : Nat) :
    m.lowered n = m.shifted n := by
  unfold lowered loweredMetadata
  rw [if_neg (by rw [beq_iff_eq]; exact other)]
  rfl

def Occurrence.lowered (n : Nat) (o : Occurrence) : Occurrence :=
  { o with range := o.range.shifted n, metadata := loweredMetadata n o.kind o.metadata }

namespace Duplicate

def Line.lowered (n : Nat) (l : Line) : Line := { l with number := l.number + n }

theorem afterGap_lowered (n : Nat) (before : Option Line) :
    afterGap (before.map (·.lowered n)) = afterGap before := by
  cases before <;> rfl

theorem significantFrom_lowered (profile : Option Profile) (broken : List (Int × Int)) (number : Nat)
    (before : Option Line) (raws : List (List Char)) :
    significantFrom profile (broken.map fun (first, last) => (first + 1, last + 1)) (number + 1)
        (before.map (·.lowered 1)) raws =
      (significantFrom profile broken number before raws).map (·.lowered 1) := by
  induction raws generalizing number before with
  | nil => rfl
  | cons raw rest ih =>
    have covered : ((broken.map fun (first, last) => (first + 1, last + 1)).any fun (first, last) =>
        first ≤ ((number + 1 : Nat) : Int) && ((number + 1 : Nat) : Int) ≤ last) =
        broken.any fun (first, last) => first ≤ (number : Int) && (number : Int) ≤ last := by
      rw [List.any_map]
      refine congrArg (List.any broken) (funext fun span => ?_)
      rw [Function.comp_apply, Bool.eq_iff_iff, Bool.and_eq_true, Bool.and_eq_true, decide_eq_true_eq,
        decide_eq_true_eq, decide_eq_true_eq, decide_eq_true_eq]
      omega
    unfold significantFrom
    rw [covered, afterGap_lowered]
    split
    · split
      · exact ih (number + 1) before
      · exact congrArg _ (ih (number + 1) (some ⟨number, none⟩))
    · dsimp only
      split
      · exact ih (number + 1) before
      · exact congrArg _ (ih (number + 1) (some ⟨number, some _⟩))

theorem le_number_of_mem {profile : Option Profile} {broken : List (Int × Int)} {number : Nat}
    {before : Option Line} {raws : List (List Char)} {l : Line}
    (member : l ∈ significantFrom profile broken number before raws) : number ≤ l.number := by
  induction raws generalizing number before with
  | nil => cases member
  | cons raw rest ih =>
    have later {before : Option Line} (member : l ∈ significantFrom profile broken (number + 1) before rest) :
        number ≤ l.number := Nat.le_of_succ_le (ih member)
    unfold significantFrom at member
    split at member
    · split at member
      · exact later member
      · rcases List.mem_cons.1 member with rfl | member
        · exact Nat.le_refl number
        · exact later member
    · dsimp only at member
      split at member
      · exact later member
      · rcases List.mem_cons.1 member with rfl | member
        · exact Nat.le_refl number
        · exact later member

theorem windowsFrom_lowered (total : Nat) (size : Int) (n i : Nat) (lines : List Line) :
    windowsFrom total size i (lines.map (·.lowered n)) = windowsFrom total size i lines := by
  have same (i : Nat) (lines : List Line) :
      window? total size i (lines.map (·.lowered n)) = window? total size i lines := by
    unfold window?
    rw [← List.map_take, List.mapM_map]
    rfl
  induction lines generalizing i with
  | nil => rfl
  | cons line rest ih =>
    have first := same i (line :: rest)
    rw [List.map_cons] at first ⊢
    unfold windowsFrom
    rw [first, ih]

variable {source : List (List Char)} {lines : List Line}

theorem lineNumber_lowered (n : Nat) {i : Nat} (inside : i < lines.length) :
    lineNumber (lines.map (·.lowered n)).toArray i = lineNumber lines.toArray i + n := by
  unfold lineNumber
  rw [List.getElem?_toArray, List.getElem?_toArray, List.getElem?_map, List.getElem?_eq_getElem inside]
  rfl

theorem one_le_lineNumber (positive : ∀ l ∈ lines, 1 ≤ l.number) {i : Nat} (inside : i < lines.length) :
    1 ≤ lineNumber lines.toArray i := by
  unfold lineNumber
  rw [List.getElem?_toArray, List.getElem?_eq_getElem inside]
  exact positive _ (List.getElem_mem inside)

/-- Both copies of a run lie among some lines. -/
structure Run.Within (run : Run) (size : Int) (total : Nat) : Prop where
  length : 1 ≤ run.count + size - 1
  later : run.start.later + (run.count + size - 1) ≤ total
  first : run.start.first + (run.count + size - 1) ≤ total

theorem report_lowered (first : List Char) (positive : ∀ l ∈ lines, 1 ≤ l.number) {size : Int} {run : Run}
    (within : run.Within size lines.length) :
    report (first :: source).toArray (lines.map (·.lowered 1)).toArray size run =
      (report source.toArray lines.toArray size run).lowered 1 := by
  have count : (lines.map (·.lowered 1)).toArray.size = lines.toArray.size := by
    rw [List.size_toArray, List.size_toArray, List.length_map]
  have placed {start : Nat} (le : start + (run.count + size - 1) ≤ lines.length) :
      placeOf lines.toArray.size (start + (run.count + size - 1) - 1) < lines.length := by
    have := within.length
    unfold placeOf
    rw [List.size_toArray, if_pos (by omega)]
    omega
  have begins {start : Nat} (le : start + (run.count + size - 1) ≤ lines.length) : start < lines.length := by
    have := within.length
    omega
  have stop {start : Nat} (le : start + (run.count + size - 1) ≤ lines.length) :
      lineNumber (lines.map (·.lowered 1)).toArray
          (placeOf lines.toArray.size (start + (run.count + size - 1) - 1)) =
        lineNumber lines.toArray (placeOf lines.toArray.size (start + (run.count + size - 1) - 1)) + 1 :=
    lineNumber_lowered 1 (placed le)
  unfold report
  dsimp only
  rw [count, stop within.later, stop within.first, lineNumber_lowered 1 (begins within.later),
    lineNumber_lowered 1 (begins within.first)]
  have last := one_le_lineNumber positive (placed within.later)
  generalize lineNumber lines.toArray (placeOf lines.toArray.size (run.start.later + (run.count + size - 1) - 1)) =
    l at last ⊢
  have text : (first :: source).toArray.getD (l + 1 - 1) [] = source.toArray.getD (l - 1) [] := by
    rw [Array.getD_eq_getD_getElem?, Array.getD_eq_getD_getElem?, List.getElem?_toArray, List.getElem?_toArray,
      Text.line_below first source last]
  have covered (i j : Nat) : ((lines.map (·.lowered 1)).toArray.extract i j).toList =
      (lines.toArray.extract i j).toList.map (·.lowered 1) := by
    rw [Array.toList_extract, Array.toList_extract, List.extract_eq_take_drop, List.extract_eq_take_drop,
      List.map_take, List.map_drop]
  rw [text, covered, List.countP_map]
  rfl

/-- Both copies of a run lie among the lines that were searched. -/
theorem within_of_mem_runs {size : Int} (positive : 1 ≤ size) {lines : List Line} {run : Run}
    (member : run ∈ runs (repetitions size ∅ (windowsFrom lines.length size 0 lines))) :
    run.Within size lines.length := by
  have inside {i : Nat} {key : List String} (window : (i, key) ∈ windowsFrom lines.length size 0 lines) :
      (i : Int) + size ≤ lines.length := by
    obtain ⟨-, -, placed⟩ := window?_of_mem_windowsFrom window
    unfold window? at placed
    split at placed
    · assumption
    · cases placed
  obtain ⟨-, count, r, among, later_eq, first_eq⟩ := madeOf_of_mem_runs member
  obtain ⟨key, later, first⟩ := exists_windows_of_mem_repetitions among
  have first : (r.first, key) ∈ windowsFrom lines.length size 0 lines := by
    refine first.resolve_left fun seen => ?_
    rw [Std.HashMap.getElem?_empty] at seen
    cases seen
  have later_le := inside later
  have first_le := inside first
  exact ⟨by omega, by omega, by omega⟩

theorem among_lowered {s s' : Subject} {line : List Char} (below : s'.lines = line :: s.lines) {size : Int}
    (positive : 1 ≤ size) {lines : List Line} (numbered : ∀ l ∈ lines, 1 ≤ l.number) :
    among size s' (lines.map (·.lowered 1)) = (among size s lines).map (·.lowered 1) := by
  unfold among
  dsimp only
  rw [List.length_map, windowsFrom_lowered, List.map_map, below]
  refine List.map_congr_left fun run member => ?_
  exact report_lowered line numbered (within_of_mem_runs positive member)

end Duplicate

namespace SourceRange

theorem shifted_inj {r s : SourceRange} {delta : Int} : r.shifted delta = s.shifted delta ↔ r = s := by
  unfold shifted
  rw [mk.injEq]
  cases r
  cases s
  rw [mk.injEq]
  dsimp only
  omega

theorem beq_shifted (r s : SourceRange) (delta : Int) : (r.shifted delta == s.shifted delta) = (r == s) := by
  rw [Bool.eq_iff_iff, beq_iff_eq, beq_iff_eq, shifted_inj]

theorem le_shifted (r s : SourceRange) (delta : Int) : (r.shifted delta).le (s.shifted delta) = r.le s := by
  rw [Bool.eq_iff_iff, le_iff, le_iff]
  unfold shifted
  dsimp only
  omega

theorem holdsStartOf_shifted (r s : SourceRange) (delta : Int) :
    (r.shifted delta).holdsStartOf (s.shifted delta) = r.holdsStartOf s := by
  unfold holdsStartOf placeLe shifted
  rw [Bool.eq_iff_iff]
  simp only [Bool.and_eq_true, Bool.or_eq_true, decide_eq_true_eq, beq_iff_eq]
  omega

end SourceRange

namespace Identity

def loweredFunction (n : Nat) (f : NamedFunction) : NamedFunction := (f.1.shifted n, f.2)

/-- Scopes know no numbers of lines. -/
theorem scope_lowered (n : Nat) (span : SourceRange) (functions : List NamedFunction) :
    scope (span.shifted n) (functions.map (loweredFunction n)) = scope span functions := by
  have order (f g : NamedFunction) :
      functionLe f g = functionLe (loweredFunction n f) (loweredFunction n g) := by
    unfold functionLe loweredFunction
    rw [SourceRange.beq_shifted, SourceRange.le_shifted]
  have around : enclosing (span.shifted n) (functions.map (loweredFunction n)) =
      (enclosing span functions).map (loweredFunction n) := by
    unfold enclosing
    rw [← List.map_mergeSort fun f _ g _ => order f g, List.filter_map]
    refine congrArg (List.map _) (List.filter_congr fun f _ => ?_)
    unfold loweredFunction
    dsimp only [Function.comp_apply]
    rw [SourceRange.holdsStartOf_shifted, bne, bne, SourceRange.beq_shifted]
  unfold scope
  rw [around]
  cases enclosing span functions with
  | nil => rfl
  | cons f rest =>
    rw [List.map_cons]
    dsimp only
    rw [← List.map_cons, List.map_map]
    rfl

/-- Below a line, the next line has the text that the line of a number had. -/
theorem anchor_below (first : List Char) (lines : List (List Char)) {line : Int} (positive : 1 ≤ line) :
    anchor (first :: lines) (line + 1) = anchor lines line := by
  unfold anchor
  rw [if_pos (by omega), if_pos positive, show (line + 1 - 1).toNat = (line - 1).toNat + 1 by omega,
    List.getElem?_cons_succ]

theorem matchLe_lowered (n : Nat) (l m : Match) : matchLe (l.lowered n) (m.lowered n) = matchLe l m := by
  unfold matchLe Match.lowered Match.shifted
  rw [SourceRange.beq_shifted, SourceRange.le_shifted]

/-- Matches below a line get the same identities in the same order. -/
theorem assign_below (file language : String) (first : List Char) (lines : List (List Char))
    (functions : List NamedFunction) {ms : List Match} (positive : ∀ m ∈ ms, 1 ≤ m.range.startLine) :
    assign file language (first :: lines) (ms.map (·.lowered 1)) (functions.map (loweredFunction 1)) =
      (assign file language lines ms functions).map (·.lowered 1) := by
  have same_place {m : Match} (positive : 1 ≤ m.range.startLine) :
      placeOf (first :: lines) (functions.map (loweredFunction 1)) (m.lowered 1) = placeOf lines functions m := by
    unfold placeOf Match.lowered Match.shifted
    dsimp only
    rw [scope_lowered]
    unfold SourceRange.shifted
    dsimp only
    rw [Int.natCast_one, anchor_below first lines positive]
  have from_sorted (seen : List Place) (ms : List Match) (positive : ∀ m ∈ ms, 1 ≤ m.range.startLine) :
      assignFrom file language (first :: lines) (functions.map (loweredFunction 1)) seen (ms.map (·.lowered 1)) =
        (assignFrom file language lines functions seen ms).map (·.lowered 1) := by
    induction ms generalizing seen with
    | nil => rfl
    | cons m rest ih =>
      have here := same_place (positive m (List.mem_cons_self ..))
      rw [List.map_cons, assignFrom_cons, assignFrom_cons, List.map_cons, here,
        ih _ fun m member => positive m (List.mem_cons_of_mem _ member)]
      refine congrArg (· :: _) ?_
      obtain ⟨-, place⟩ := Prod.mk.inj here
      obtain ⟨scope, anchor⟩ := Prod.mk.inj place
      unfold occurrenceOf
      rw [here, scope, anchor]
      rfl
  unfold assign
  rw [← List.map_mergeSort fun l _ m _ => (matchLe_lowered 1 l m).symm]
  exact from_sorted [] _ fun m member => positive m (List.mem_mergeSort.1 member)

end Identity

/-- All built-in queries but one search by root. -/
theorem Query.search_of_builtIn {query : Query} (member : query ∈ builtIn) :
    query = duplicatedCode ∨ query.kind ≠ Duplicate.kind ∧ ∃ find, query.search = .inRoot find := by
  simp only [builtIn, List.mem_cons, List.not_mem_nil, or_false] at member
  rcases member with rfl | rfl | rfl | rfl | rfl | rfl | rfl
  case inr.inr.inr.inl => exact Or.inl rfl
  all_goals exact Or.inr ⟨by decide, _, rfl⟩

theorem Detector.mapM_namedFunction_shifted (n : Nat) (ms : List Match) :
    (ms.map (·.shifted n)).mapM namedFunction =
      (ms.mapM namedFunction).map (List.map (Identity.loweredFunction n)) := by
  have named (m : Match) :
      namedFunction (m.shifted n) = (namedFunction m).map (Identity.loweredFunction n) := by
    unfold namedFunction Match.shifted
    dsimp only
    cases m.metadata.get? "name" <;> rfl
  induction ms with
  | nil => rfl
  | cons m rest ih =>
    rw [List.map_cons, List.mapM_cons, List.mapM_cons, ih, named]
    cases namedFunction m with
    | error fault => rfl
    | ok f => cases rest.mapM namedFunction <;> rfl

/-- A subject, and one that has a line without code in front of it: the same arena, and roots one line further
down. -/
structure Subject.Below (line : List Char) (s s' : Subject) : Prop where
  file : s'.tree.file = s.tree.file
  language : s'.tree.language = s.tree.language
  limited : s'.tree.limited = s.tree.limited
  arena : s'.arena = s.arena
  roots : s'.tree.roots = s.tree.roots.map (·.lowered 1)
  lines : s'.lines = line :: s.lines
  profile : s'.profile = s.profile
  silent : ∃ profile, s.profile = some profile ∧ profile.isSilent line = true
  placed : ∀ root ∈ s.tree.roots, 1 ≤ root.line ∧
    ∃ (height : Nat) (reached : Nat → Prop), s.arena.Subtree root.index height reached

namespace Subject.Below

variable {line : List Char} {s s' : Subject}

/-- A root looks like the one that it has become below the line. -/
theorem alike (below : s.Below line s') {root : Root} (member : root ∈ s.tree.roots) :
    s.Alike s' root (root.lowered 1) := by
  obtain ⟨one_le, height, reached, subtree⟩ := below.placed root member
  refine ⟨below.profile, rfl, fun i _ => by rw [below.arena], one_le, Nat.le_add_left 1 root.line, height,
    reached, subtree, ?_⟩
  have next : (root.lowered 1).line - 1 = root.line - 1 + 1 := by
    unfold Root.lowered
    dsimp only
    omega
  rw [below.lines, next, List.drop_succ_cons]

/-- A query that searches by root finds the same matches, one line further down. -/
theorem findIn_inRoot (below : s.Below line s') {query : Query} (member : query ∈ Query.known) {find : Find}
    (search : query.search = .inRoot find) (settings : Settings) :
    query.findIn settings s' = (query.findIn settings s).map (List.map (·.shifted 1)) := by
  have each : ∀ root ∈ s.tree.roots.filter (s.arena.kind ·.index != .error),
      find settings s' (root.lowered 1) = (find settings s root).map (·.shifted 1) := by
    intro root among
    have moved := Query.moves_of_mem member search settings s s' root (root.lowered 1)
      (below.alike (List.mem_filter.1 among).1)
    rwa [show ((root.lowered 1).line : Int) - root.line = 1 by unfold Root.lowered; dsimp only; omega] at moved
  unfold Query.findIn
  rw [search]
  refine congrArg Except.ok ?_
  rw [below.roots, below.arena, List.filter_map, List.flatMap_map, List.map_flatMap]
  exact List.flatMap_congr each

/-- The errors are one line further down. -/
theorem errorSpans_eq (below : s.Below line s') :
    s'.tree.errorSpans s'.arena =
      (s.tree.errorSpans s.arena).map fun (first, last) => (first + 1, last + 1) := by
  have each : ∀ root ∈ s.tree.roots,
      ((s.arena.walkRoot (root.lowered 1) false).filter (·.node.kind == .error)).map
          (fun p => (p.startLine, p.endLine)) =
        (((s.arena.walkRoot root false).filter (·.node.kind == .error)).map
          fun p => (p.startLine, p.endLine)).map fun (first, last) => (first + 1, last + 1) := by
    intro root member
    obtain ⟨-, height, reached, subtree⟩ := below.placed root member
    have index : (root.lowered 1).index = root.index := rfl
    rw [Arena.walkRoot_moved subtree index (fun _ _ => rfl), List.filter_map, List.map_map, List.map_map]
    refine List.map_congr_left fun item met => ?_
    have placed := Arena.below_of_mem_walkRoot subtree (List.mem_filter.1 met).1
    unfold Placed.moved Root.lowered
    rw [Function.comp_apply, Function.comp_apply, placed.root_eq, Prod.mk.injEq]
    dsimp only
    omega
  unfold Tree.errorSpans Tree.walk
  rw [below.roots, below.arena, List.flatMap_map, List.filter_flatMap, List.filter_flatMap, List.map_flatMap,
    List.map_flatMap, List.map_flatMap]
  exact List.flatMap_congr each

/-- No error begins in front of the first line. -/
theorem one_le_of_mem_errorSpans (below : s.Below line s') {span : Int × Int}
    (member : span ∈ s.tree.errorSpans s.arena) : 1 ≤ span.1 := by
  obtain ⟨item, met, rfl⟩ := List.mem_map.1 member
  obtain ⟨root, rootIn, walked⟩ := List.mem_flatMap.1 (List.mem_filter.1 met).1
  obtain ⟨one_le, height, reached, subtree⟩ := below.placed root rootIn
  have placed := Arena.below_of_mem_walkRoot subtree walked
  have first := subtree.first _ _ placed.within placed.found
  have start := placed.startLine
  dsimp only
  omega

/-- The line takes no part in the comparison of lines. -/
theorem significant_eq (below : s.Below line s') :
    Duplicate.significant s' = (Duplicate.significant s).map (·.lowered 1) := by
  obtain ⟨profile, supported, silent⟩ := below.silent
  unfold Duplicate.significant
  rw [below.lines, below.profile, below.errorSpans_eq, Duplicate.significantFrom, if_neg, if_pos]
  · exact Duplicate.significantFrom_lowered s.profile _ 1 none s.lines
  · rw [supported, Option.any_some]
    unfold Profile.isCommentLine
    rcases Bool.or_eq_true_iff.1 silent with empty | comment
    · rw [empty, Bool.true_or]
    · rw [comment, Bool.true_or, Bool.or_true]
  · intro covered
    obtain ⟨_, among, inside⟩ := List.any_eq_true.1 covered
    obtain ⟨span, met, rfl⟩ := List.mem_map.1 among
    have first := below.one_le_of_mem_errorSpans met
    rw [Bool.and_eq_true, decide_eq_true_eq, decide_eq_true_eq] at inside
    omega

/-- Repeated code is found one line further down, if one line at least has to be repeated. -/
theorem duplicates_eq (below : s.Below line s') {settings : Settings}
    (positive : 1 ≤ settings.duplicateMinLines) :
    Duplicate.find settings s' = (Duplicate.find settings s).map (List.map (·.lowered 1)) := by
  unfold Duplicate.find
  rw [below.significant_eq]
  dsimp only
  rw [List.length_map]
  split
  · rfl
  · split
    · next n whole =>
      have size : 1 ≤ n := by
        change Number.le 1 settings.duplicateMinLines = true at positive
        rw [Number.le_of_whole rfl whole, decide_eq_true_eq] at positive
        exact positive
      exact congrArg Except.ok
        (Duplicate.among_lowered below.lines size fun l member => Duplicate.le_number_of_mem member)
    · rfl

/-- Every built-in query finds the same matches, one line further down. -/
theorem findIn_eq (below : s.Below line s') {settings : Settings} (positive : 1 ≤ settings.duplicateMinLines)
    {query : Query} (member : query ∈ Query.builtIn) :
    query.findIn settings s' = (query.findIn settings s).map (List.map (·.lowered 1)) := by
  rcases Query.search_of_builtIn member with rfl | ⟨other, find, search⟩
  · exact below.duplicates_eq positive
  · rw [below.findIn_inRoot (List.mem_cons_of_mem _ member) search]
    cases found : query.findIn settings s with
    | error fault => rfl
    | ok ms =>
      refine congrArg Except.ok (List.map_congr_left fun m among => ?_)
      have kind := Query.builtIn_reportsOwnKind query member settings s ms found m among
      exact (Match.lowered_of_kind (kind ▸ other) 1).symm

/-- The built-in queries find the same matches, one line further down. -/
theorem findAll_eq (below : s.Below line s') {settings : Settings} (positive : 1 ≤ settings.duplicateMinLines)
    {queries : List Query} (known : ∀ query ∈ queries, query ∈ Query.builtIn) (asked : Nat) :
    Query.findAll settings s' .pass queries asked =
      (Query.findAll settings s .pass queries asked).map (List.map (·.lowered 1)) := by
  induction queries generalizing asked with
  | nil => rfl
  | cons query rest ih =>
    have here := below.findIn_eq positive (known query (List.mem_cons_self ..))
    have later := ih (fun query member => known query (List.mem_cons_of_mem _ member)) (asked + 1)
    unfold Query.findAll
    rw [below.language]
    split
    · rw [here]
      cases query.findIn settings s with
      | error fault => rfl
      | ok found =>
        dsimp only [Except.map, Detector.Checkpoint.pass]
        change (Query.findAll settings s' .pass rest (asked + 1)).map _ =
          ((Query.findAll settings s .pass rest (asked + 1)).map _).map _
        rw [later]
        cases Query.findAll settings s .pass rest (asked + 1) with
        | error fault => rfl
        | ok others => exact congrArg Except.ok List.map_append.symm
    · exact ih (fun query member => known query (List.mem_cons_of_mem _ member)) asked

/-- The functions are one line further down. -/
theorem functions_eq (below : s.Below line s') (settings : Settings) :
    (Query.functionSpans.findIn settings s').bind (·.mapM Detector.namedFunction) =
      ((Query.functionSpans.findIn settings s).bind (·.mapM Detector.namedFunction)).map
        (List.map (Identity.loweredFunction 1)) := by
  rw [below.findIn_inRoot (List.mem_cons_self ..) rfl]
  cases Query.functionSpans.findIn settings s with
  | error fault => rfl
  | ok ms => exact Detector.mapM_namedFunction_shifted 1 ms

/-- What the built-in queries find begins on a line with a number from one on. -/
theorem one_le_of_mem_findIn (below : s.Below line s') {settings : Settings} {query : Query}
    (member : query ∈ Query.builtIn) {ms : List Match} (found : query.findIn settings s = .ok ms) {m : Match}
    (among : m ∈ ms) : 1 ≤ m.range.startLine := by
  rcases Query.search_of_builtIn member with rfl | ⟨-, find, search⟩
  · obtain ⟨n, among⟩ := Query.mem_of_duplicates found among
    obtain ⟨l, member, -, starts⟩ := Duplicate.exists_line_of_mem_among among
    have positive := Duplicate.le_number_of_mem member
    omega
  · obtain ⟨root, rootIn, among⟩ := Query.exists_root_of_mem_findIn search found among
    obtain ⟨item, locates⟩ := Query.exists_locates (List.mem_cons_of_mem _ member) search among
    obtain ⟨one_le, height, reached, subtree⟩ := below.placed root rootIn
    have placed := Arena.below_of_mem_walkRoot subtree locates.met
    have first := subtree.first _ _ placed.within placed.found
    have start := placed.startLine
    rw [locates.range_eq]
    change 1 ≤ item.startLine
    omega

/-- Below a line without code the built-in queries make up the same occurrences, one line further down. -/
theorem occurrences_eq (below : s.Below line s') {settings : Settings}
    (positive : 1 ≤ settings.duplicateMinLines) :
    Query.occurrencesBy Query.builtIn settings s' .pass =
      (Query.occurrencesBy Query.builtIn settings s .pass).map (List.map (·.lowered 1)) := by
  unfold Query.occurrencesBy
  rw [below.limited, below.roots, List.isEmpty_map, below.findAll_eq positive fun _ => id,
    below.functions_eq settings, below.file, below.language, below.lines]
  split
  · rfl
  · cases all : Query.findAll settings s .pass Query.builtIn 0 with
    | error fault => rfl
    | ok found =>
      have numbered : ∀ m ∈ found, 1 ≤ m.range.startLine := by
        intro m member
        obtain ⟨query, builtIn, ms, searched, among⟩ := Query.exists_query_of_mem_findAll all member
        exact below.one_le_of_mem_findIn builtIn searched among
      cases (Query.functionSpans.findIn settings s).bind (·.mapM Detector.namedFunction) with
      | error fault => rfl
      | ok functions =>
        exact congrArg Except.ok
          (Identity.assign_below s.tree.file s.tree.language line s.lines functions numbered)

end Subject.Below

/-- A language and the name of its profile have the same markers of line comments. -/
theorem Profile.exists_find?_name {language : String} {profile : Profile}
    (supported : find? language = some profile) :
    ∃ named, find? profile.name = some named ∧ named.lineComment = profile.lineComment := by
  have all : ∀ p ∈ [python, javascript, typescript, tsx],
      (find? p.name).any (·.lineComment == p.lineComment) = true := by decide +kernel
  have same := all profile (mem_of_find? supported)
  cases named : find? profile.name with
  | none =>
    rw [named] at same
    cases same
  | some other =>
    rw [named, Option.any_some, beq_iff_eq] at same
    exact ⟨other, rfl, same⟩

namespace Revision.Below

variable {line : String} {r r' : Revision}

/-- What a detector looks at in the tree from scratch, without the line and with it. -/
theorem subject (below : r.Below line r') {profile : Profile}
    (supported : Profile.find? r.language = some profile) (free : '\n' ∉ line.toList)
    (silent : profile.isSilent line.toList = true) :
    Subject.Below line.toList { tree := (Parser.fromScratch r).tree, arena := (Parser.fromScratch r).arena }
      { tree := (Parser.fromScratch r').tree, arena := (Parser.fromScratch r').arena } := by
  have supported' : Profile.find? r'.language = some profile := by rw [below.language, supported]
  obtain ⟨arena, roots⟩ := below.fromScratch_eq supported free silent
  have tree := (Parser.fromScratch_of_find? supported).1
  have tree' := (Parser.fromScratch_of_find? supported').1
  have language : (Parser.fromScratch r).tree.language = profile.name := by rw [tree]
  have language' : (Parser.fromScratch r').tree.language = profile.name := by rw [tree']
  obtain ⟨named, found, marker⟩ := Profile.exists_find?_name supported
  constructor
  case file =>
    dsimp only
    rw [tree, tree', below.file]
  case language =>
    dsimp only
    rw [language, language']
  case limited =>
    dsimp only
    rw [tree, tree']
  case arena =>
    dsimp only
    exact arena
  case roots =>
    dsimp only
    exact roots
  case lines =>
    dsimp only [Tree.lines]
    rw [tree, tree', below.toList]
    exact Text.lines_below free r.text.toList
  case profile =>
    dsimp only
    rw [language, language']
  case silent =>
    dsimp only
    rw [language]
    refine ⟨named, found, ?_⟩
    unfold Profile.isSilent
    rw [marker]
    exact silent
  case placed =>
    dsimp only
    intro root member
    obtain ⟨b, branch, start, holds⟩ := exists_of_forall₂ (Parser.holds_fromScratch r) member
    obtain ⟨on, nested⟩ := Revision.on_of_mem_branches branch
    rw [start] at holds ⊢
    obtain ⟨reached, subtree⟩ := Arena.subtree_of_holds holds nested
    refine ⟨on.one_le_start, b.draft.span.stop.line + 1 - b.draft.span.start.line, reached, ?_⟩
    have order := on.start_le_stop
    rwa [show ((b.draft.span.stop.line + 1 - b.draft.span.start.line : Nat) : Int) =
      (b.draft.span.stop.line : Int) + 1 - b.draft.span.start.line by omega]

end Revision.Below

/-- A line without code in front of a text leaves every occurrence as it is, one line further down: in the same
order, with its identity, kind, scope, severity and columns, and with all that is reported of it but the lines
of the original of repeated code, which are moved as well. If the number of repeated lines is whole, detection
comes to an end. -/
theorem Revision.detect_below {line : String} {r r' : Revision} (below : r.Below line r') {profile : Profile}
    (supported : Profile.find? r.language = some profile) (free : '\n' ∉ line.toList)
    (silent : profile.isSilent line.toList = true) {settings : Settings}
    (positive : 1 ≤ settings.duplicateMinLines) :
    (Detector.standard.detect settings (Parser.fromScratch r').tree (Parser.fromScratch r').arena).2 =
        ((Detector.standard.detect settings (Parser.fromScratch r).tree (Parser.fromScratch r).arena).2).map
          (List.map (·.lowered 1)) ∧
      ∀ n, settings.duplicateMinLines.whole? = some n →
        ∃ found, (Detector.standard.detect settings (Parser.fromScratch r).tree
          (Parser.fromScratch r).arena).2 = .ok found := by
  rw [Detector.standard_fromScratch, Detector.standard_fromScratch]
  refine ⟨(below.subject supported free silent).occurrences_eq positive, fun n whole => ?_⟩
  exact Query.occurrencesBy_pass (fun _ => List.mem_cons_of_mem _) whole _

/-- A number that has no name. -/
def Revision.bareNumber : Revision :=
  { file := "a.py", language := "python", number := 1, text := "retry(42)\n",
    changed := (LineRange.ofInts? 1 1).toList, base := 0, edit := none, serial := 0 }

/-- The same with a comment in front of it. -/
def Revision.bareNumberNoted : Revision := { bareNumber with text := "  # note\nretry(42)\n" }

/-- The number is found with the same identity, on the second line instead of the first. -/
theorem Revision.detect_below_bareNumber :
    (Detector.standard.detect {} (Parser.fromScratch bareNumberNoted).tree
        (Parser.fromScratch bareNumberNoted).arena).2 =
      ((Detector.standard.detect {} (Parser.fromScratch bareNumber).tree
        (Parser.fromScratch bareNumber).arena).2).map (List.map (·.lowered 1)) := by
  have below : bareNumber.Below "  # note" bareNumberNoted := ⟨rfl, rfl, by decide⟩
  exact (detect_below below Profile.find?_python (by decide) (by decide +kernel) (by decide)).1

end LiveLint
