import LiveLint.Detect.Detector
import Mathlib.Data.List.Nodup
import Std.Data.HashMap.Lemmas

/-!
# Searching with a memory and without

What queries find if every root is searched, and why a memory that can be trusted changes nothing.
-/

/-!
## Searching without a memory

What the built-in queries find in a tree if every root is searched. For thresholds that are whole numbers
the search comes to an end unless it is interrupted, and one that was not interrupted answers what it
answers without a checkpoint.
-/

namespace LiveLint

def Settings.whole (length parameters lines : Int) : Settings :=
  ⟨.int length, .int parameters, .int lines⟩

theorem Settings.whole_of_key {a b c a' b' c' : Int}
    (same : (whole a b c).key = (whole a' b' c').key) : whole a b c = whole a' b' c' := by
  unfold key whole Number.exact Number.whole? at same
  simp only [Prod.mk.injEq, Number.Exact.fraction.injEq, and_true] at same
  obtain ⟨rfl, rfl, rfl⟩ := same
  rfl

namespace Query

def known : List Query := functionSpans :: builtIn

/-- Known queries have kinds of their own. -/
theorem eq_of_kind {q q' : Query} (member : q ∈ known) (member' : q' ∈ known)
    (same : q.kind = q'.kind) : q = q' := by
  have kinds : (known.map (·.kind)).Nodup := by decide
  exact List.inj_on_of_nodup_map kinds member member' same

/-- What a query finds in a tree, searching every root. -/
def findIn (settings : Settings) (s : Subject) (query : Query) : Except Fault (List Match) :=
  match query.search with
  | .inRoot find =>
    .ok ((s.tree.roots.filter (s.arena.kind ·.index != .error)).flatMap (find settings s))
  | .inFile find => find settings s

/-- What queries find in a tree one after the other, searching every root. -/
def findAll (settings : Settings) (s : Subject) (checkpoint : Detector.Checkpoint) :
    List Query → Nat → Except Fault (List Match)
  | [], _ => .ok []
  | query :: rest, asked =>
    if query.appliesTo s.tree.language then
      match query.findIn settings s with
      | .error fault => .error fault
      | .ok here =>
        match checkpoint (asked + 1) with
        | some fault => .error fault
        | none => (findAll settings s checkpoint rest (asked + 1)).map (here ++ ·)
    else findAll settings s checkpoint rest asked

/-- The occurrences in a tree, found by searching every root. -/
def occurrences (settings : Settings) (s : Subject) (checkpoint : Detector.Checkpoint) :
    Except Fault (List Occurrence) :=
  if s.tree.limited || s.tree.roots.isEmpty then .ok []
  else
    match findAll settings s checkpoint builtIn 0 with
    | .error fault => .error fault
    | .ok found =>
      ((functionSpans.findIn settings s).bind (·.mapM Detector.namedFunction)).map
        (Identity.assign s.tree.file s.tree.language s.lines found)

/-- If the number of repeated lines is whole the built-in queries do not fail. -/
theorem findIn_ok {query : Query} (member : query ∈ known) {settings : Settings} {n : Int}
    (whole : settings.duplicateMinLines.whole? = some n) (s : Subject) :
    ∃ found, query.findIn settings s = .ok found := by
  unfold findIn
  cases search : query.search with
  | inRoot find => exact ⟨_, rfl⟩
  | inFile find =>
    simp only [known, builtIn, List.mem_cons, List.not_mem_nil, or_false] at member
    rcases member with rfl | rfl | rfl | rfl | rfl | rfl | rfl | rfl
    case inr.inr.inr.inr.inl =>
      cases search
      show ∃ found, Duplicate.find settings s = .ok found
      unfold Duplicate.find
      dsimp only
      rw [whole]
      split
      · exact ⟨_, rfl⟩
      · exact ⟨_, rfl⟩
    all_goals cases search

/-- Without interruption all queries come to an end. -/
theorem findAll_pass {queries : List Query} (all_known : ∀ query ∈ queries, query ∈ known) {settings : Settings}
    {n : Int} (whole : settings.duplicateMinLines.whole? = some n) (s : Subject) (asked : Nat) :
    ∃ found, findAll settings s .pass queries asked = .ok found := by
  induction queries generalizing asked with
  | nil => exact ⟨[], rfl⟩
  | cons query rest ih =>
    have later := ih fun query member => all_known query (List.mem_cons_of_mem _ member)
    unfold findAll
    split
    · obtain ⟨here, found⟩ := findIn_ok (all_known query (List.mem_cons_self ..)) whole s
      obtain ⟨there, rest_found⟩ := later (asked + 1)
      rw [found]
      exact ⟨here ++ there, congrArg (Except.map (here ++ ·)) rest_found⟩
    · exact later asked

/-- A search that is not interrupted answers what it answers without a checkpoint. -/
theorem findAll_of_ok {settings : Settings} {s : Subject} {checkpoint : Detector.Checkpoint}
    {queries : List Query} {asked asked' : Nat} {found : List Match}
    (ended : findAll settings s checkpoint queries asked = .ok found) :
    findAll settings s .pass queries asked' = .ok found := by
  induction queries generalizing asked asked' found with
  | nil => exact ended
  | cons query rest ih =>
    unfold findAll at ended ⊢
    split at ended
    · next applies =>
      rw [if_pos applies]
      cases here : query.findIn settings s with
      | error fault =>
        rw [here] at ended
        cases ended
      | ok first =>
        rw [here] at ended
        dsimp only at ended
        split at ended
        · cases ended
        · cases there : findAll settings s checkpoint rest (asked + 1) with
          | error fault =>
            rw [there] at ended
            cases ended
          | ok others =>
            rw [there] at ended
            cases ended
            exact congrArg (Except.map (first ++ ·)) (ih there)
    · next other =>
      rw [if_neg other]
      exact ih ended

theorem mapM_ok {α β ε : Type} {f : α → Except ε β} {xs : List α} (each : ∀ x ∈ xs, ∃ y, f x = .ok y) :
    ∃ ys, xs.mapM f = .ok ys := by
  induction xs with
  | nil => exact ⟨[], rfl⟩
  | cons x rest ih =>
    obtain ⟨y, here⟩ := each x (List.mem_cons_self ..)
    obtain ⟨ys, there⟩ := ih fun x member => each x (List.mem_cons_of_mem _ member)
    rw [List.mapM_cons, here, there]
    exact ⟨y :: ys, rfl⟩

/-- Whatever is found as a function has a name. -/
theorem functions_named (settings : Settings) (s : Subject) :
    ∃ functions, (functionSpans.findIn settings s).bind (·.mapM Detector.namedFunction) =
      .ok functions := by
  refine mapM_ok ?_
  intro m member
  obtain ⟨root, -, found⟩ := List.mem_flatMap.1 member
  obtain ⟨item, -, reported⟩ := List.mem_filterMap.1 found
  dsimp only at reported
  split at reported
  · cases reported
    exact ⟨_, rfl⟩
  · cases reported

/-- For whole thresholds detection comes to an end unless it is interrupted. -/
theorem occurrences_pass (a b c : Int) (s : Subject) :
    ∃ found, occurrences (.whole a b c) s .pass = .ok found := by
  unfold occurrences
  split
  · exact ⟨[], rfl⟩
  · have whole : (Settings.whole a b c).duplicateMinLines.whole? = some c := rfl
    obtain ⟨found, ended⟩ := findAll_pass (fun _ => List.mem_cons_of_mem functionSpans) whole s 0
    obtain ⟨functions, named⟩ := functions_named (.whole a b c) s
    rw [ended, named]
    exact ⟨_, rfl⟩

theorem occurrences_of_ok {settings : Settings} {s : Subject} {checkpoint : Detector.Checkpoint}
    {found : List Occurrence} (ended : occurrences settings s checkpoint = .ok found) :
    occurrences settings s .pass = .ok found := by
  unfold occurrences at ended ⊢
  split
  · next empty =>
    rw [if_pos empty] at ended
    exact ended
  · next searched =>
    rw [if_neg searched] at ended
    cases all : findAll settings s checkpoint builtIn 0 with
    | error fault =>
      rw [all] at ended
      cases ended
    | ok ms =>
      rw [all] at ended
      rw [findAll_of_ok all]
      exact ended

end Query

/-!
## Searching with a memory

If every search of a root answers what the query finds there, remembered or not, then detection answers what
searching every root answers. What is right of the detector in between, so that its memory can be trusted, is
left to those who know the trees.
-/

def Query.occurrencesBy (queries : List Query) (settings : Settings) (s : Subject)
    (checkpoint : Detector.Checkpoint) : Except Fault (List Occurrence) :=
  if s.tree.limited || s.tree.roots.isEmpty then .ok []
  else
    match findAll settings s checkpoint queries 0 with
    | .error fault => .error fault
    | .ok found =>
      ((functionSpans.findIn settings s).bind (·.mapM Detector.namedFunction)).map
        (Identity.assign s.tree.file s.tree.language s.lines found)

namespace Detector

/-- What is remembered after one more result is that result, or it was remembered before. -/
theorem mem_remember {d : Detector} {arena arena' : Nat} {key key' : MemoKey} {found found' : Finds}
    (remembered : ((d.remember arena key found).resultsOf arena')[key']? = some found') :
    (arena' = arena ∧ key' = key ∧ found' = found) ∨ (d.resultsOf arena')[key']? = some found' := by
  unfold remember resultsOf at remembered
  dsimp only at remembered
  rw [Std.HashMap.getD_insert] at remembered
  split at remembered
  · next same =>
    rw [Std.HashMap.getElem?_insert] at remembered
    split at remembered
    · next same_key =>
      exact Or.inl ⟨(eq_of_beq same).symm, (eq_of_beq same_key).symm, (Option.some.inj remembered).symm⟩
    · rw [eq_of_beq same] at remembered
      split at remembered
      · rw [Std.HashMap.getElem?_empty] at remembered
        cases remembered
      · exact Or.inr remembered
  · exact Or.inr remembered

/-- A detector of which `right` holds answers what some queries find in any root that is searched, and `right`
holds of it afterwards. -/
def Faithful (right : Detector → Prop) (settings : Settings) (s : Subject) (queries : List Query) : Prop :=
  ∀ d, right d → ∀ query ∈ queries, ∀ find, query.search = .inRoot find →
    ∀ root ∈ s.tree.roots, ¬ (s.arena.kind root.index == .error) = true →
      (d.inRoot settings s query.kind find root).2 = find settings s root ∧
        right (d.inRoot settings s query.kind find root).1

variable {right : Detector → Prop} {settings : Settings} {s : Subject} {queries : List Query}
  {d : Detector}

theorem Faithful.mono {fewer : List Query} (faithful : Faithful right settings s queries)
    (subset : ∀ query ∈ fewer, query ∈ queries) : Faithful right settings s fewer :=
  fun d holds query member => faithful d holds query (subset query member)

theorem Faithful.inRoots_eq (faithful : Faithful right settings s queries) (holds : right d)
    {query : Query} (member : query ∈ queries) {find : Settings → Subject → Root → List Match}
    (search : query.search = .inRoot find) {roots : List Root}
    (subset : ∀ root ∈ roots, root ∈ s.tree.roots) :
    (inRoots settings s query.kind find roots d).2 =
        (roots.filter (s.arena.kind ·.index != .error)).flatMap (find settings s) ∧
      right (inRoots settings s query.kind find roots d).1 := by
  induction roots generalizing d with
  | nil => exact ⟨rfl, holds⟩
  | cons root rest ih =>
    have later : ∀ root ∈ rest, root ∈ s.tree.roots :=
      fun root member => subset root (List.mem_cons_of_mem _ member)
    unfold inRoots
    split
    · next error =>
      obtain ⟨found, kept⟩ := ih holds later
      rw [List.filter_cons_of_neg (by rw [bne, error]; exact Bool.false_ne_true)]
      exact ⟨found, kept⟩
    · next readable =>
      obtain ⟨here, kept⟩ :=
        faithful d holds query member find search root (subset root (List.mem_cons_self ..)) readable
      obtain ⟨there, still⟩ := ih kept later
      rw [List.filter_cons_of_pos (by rw [bne, Bool.not_eq_true', Bool.eq_false_iff]; exact readable),
        List.flatMap_cons, ← here, ← there]
      exact ⟨rfl, still⟩

/-- A query answers what it finds by searching every root. -/
theorem Faithful.run_eq (faithful : Faithful right settings s queries) (holds : right d) {query : Query}
    (member : query ∈ queries) :
    (d.run settings s query).2 = query.findIn settings s ∧ right (d.run settings s query).1 := by
  unfold run Query.findIn
  cases search : query.search with
  | inRoot find =>
    obtain ⟨found, kept⟩ := faithful.inRoots_eq holds member search fun _ => id
    exact ⟨congrArg Except.ok found, kept⟩
  | inFile find => exact ⟨rfl, holds⟩

theorem Faithful.runAll_eq {asks : List Query} (faithful : Faithful right settings s queries)
    (holds : right d) (checkpoint : Checkpoint) (subset : ∀ query ∈ asks, query ∈ queries) (asked : Nat) :
    (runAll settings s checkpoint asks asked d).2 = Query.findAll settings s checkpoint asks asked ∧
      right (runAll settings s checkpoint asks asked d).1 := by
  induction asks generalizing asked d with
  | nil => exact ⟨rfl, holds⟩
  | cons query rest ih =>
    have later : ∀ query ∈ rest, query ∈ queries :=
      fun query member => subset query (List.mem_cons_of_mem _ member)
    obtain ⟨found, kept⟩ := faithful.run_eq holds (subset query (List.mem_cons_self ..))
    unfold runAll Query.findAll
    split
    · rw [← found]
      generalize d.run settings s query = ran at kept ⊢
      obtain ⟨d', result⟩ := ran
      cases result with
      | error fault => exact ⟨rfl, kept⟩
      | ok here =>
        dsimp only
        cases checkpoint (asked + 1) with
        | some fault => exact ⟨rfl, kept⟩
        | none =>
          obtain ⟨there, still⟩ := ih kept later (asked + 1)
          exact ⟨congrArg (Except.map (here ++ ·)) there, still⟩
    · exact ih holds later asked

/-- Detection answers what searching every root answers, and what is right of the detector stays right,
whether detection came to an end or not. -/
theorem Faithful.detect_eq {tree : Tree} {arena : Arena}
    (faithful : Faithful right settings { tree, arena } (Query.functionSpans :: d.queries))
    (holds : right d) (checkpoint : Checkpoint) :
    (d.detect settings tree arena checkpoint).2 =
        Query.occurrencesBy d.queries settings { tree, arena } checkpoint ∧
      right (d.detect settings tree arena checkpoint).1 := by
  obtain ⟨found, kept⟩ :=
    faithful.runAll_eq holds checkpoint (fun _ => List.mem_cons_of_mem Query.functionSpans) 0
  unfold detect Query.occurrencesBy
  dsimp only
  split
  · exact ⟨rfl, holds⟩
  · rw [← found]
    generalize runAll settings { tree, arena } checkpoint d.queries 0 d = ran at kept ⊢
    obtain ⟨d', result⟩ := ran
    cases result with
    | error fault => exact ⟨rfl, kept⟩
    | ok matches_found =>
      obtain ⟨spans, still⟩ := faithful.run_eq kept (List.mem_cons_self ..)
      dsimp only
      rw [← spans]
      exact ⟨rfl, still⟩

end Detector

end LiveLint
