import LiveLint.Proofs.Detect.Search

/-!
# What queries report

A query that looks at nodes one by one reports the range of a node that it met. The built-in ones report no
errors, and all of them report their own kind.
-/

namespace LiveLint.Query

/-- A query reports matches of its own kind only. -/
def ReportsOwnKind (q : Query) : Prop :=
  ∀ settings s found, q.findIn settings s = .ok found → ∀ m ∈ found, m.kind = q.kind

/-- A match reports a node that a walk of a root meets and that is no error. -/
structure Locates (kind : String) (s : Subject) (root : Root) (m : Match) (item : Placed) : Prop where
  met : item ∈ s.arena.walkRoot root
  readable : item.node.kind ≠ .error
  kind_eq : m.kind = kind
  range_eq : m.range = item.range

theorem exists_locates_perNode {report : Settings → Subject → Placed → Option Match} {kind : String}
    {find : Settings → Subject → Root → List Match} (search : Search.perNode report = .inRoot find)
    (each : ∀ settings s item m, report settings s item = some m →
      item.node.kind ≠ .error ∧ m.kind = kind ∧ m.range = item.range)
    {settings : Settings} {s : Subject} {root : Root} {m : Match} (found : m ∈ find settings s root) :
    ∃ item, Locates kind s root m item := by
  cases search
  obtain ⟨item, met, reported⟩ := List.mem_filterMap.1 found
  obtain ⟨readable, kind_eq, range_eq⟩ := each settings s item m reported
  exact ⟨item, met, readable, kind_eq, range_eq⟩

theorem node_of_longFunctionAt {settings : Settings} {s : Subject} {item : Placed} {m : Match}
    (reported : longFunctionAt settings s item = some m) :
    item.node.kind = .function ∧ m.kind = longFunction.kind ∧ m.range = item.range := by
  unfold longFunctionAt at reported
  dsimp only at reported
  split at reported
  · cases reported
  · next other =>
    split at reported
    · cases reported
    · split at reported <;> cases reported
      exact ⟨by simpa using other, rfl, rfl⟩

theorem node_of_nestedLoopAt {settings : Settings} {s : Subject} {item : Placed} {m : Match}
    (reported : nestedLoopAt settings s item = some m) :
    item.node.kind = .loop ∧ m.kind = nestedLoop.kind ∧ m.range = item.range := by
  unfold nestedLoopAt at reported
  dsimp only at reported
  split at reported
  · cases reported
  · next other =>
    split at reported
    · cases reported
    · split at reported <;> cases reported
      exact ⟨by simpa using other, rfl, rfl⟩

/-- What is reported of every node that passes a test, if no error passes it. -/
theorem exists_locates_of_test {test : Settings → Placed → Bool} {make : Settings → Placed → Match}
    {kind : String} {find : Settings → Subject → Root → List Match}
    (search : (Search.perNode fun settings _ item =>
      if test settings item then some (make settings item) else none) = .inRoot find)
    (no_error : ∀ settings item, test settings item = true → item.node.kind ≠ .error)
    (made : ∀ settings item, (make settings item).kind = kind ∧ (make settings item).range = item.range)
    {settings : Settings} {s : Subject} {root : Root} {m : Match} (found : m ∈ find settings s root) :
    ∃ item, Locates kind s root m item := by
  refine exists_locates_perNode search ?_ found
  intro settings s item m reported
  split at reported
  · next passed =>
    cases reported
    exact ⟨no_error settings item passed, made settings item⟩
  · cases reported

theorem exists_locates_functionsNamed {kind name : String} {find : Settings → Subject → Root → List Match}
    (search : (functionsNamed kind name).search = .inRoot find) {settings : Settings} {s : Subject}
    {root : Root} {m : Match} (found : m ∈ find settings s root) : ∃ item, Locates kind s root m item := by
  refine exists_locates_of_test search ?_ (fun _ _ => ⟨rfl, rfl⟩) found
  intro settings item passed error
  rw [error] at passed
  cases passed

/-- Whatever the built-in queries find in a root is the range of a node there that is no error. -/
theorem exists_locates {q : Query} (member : q ∈ known) {find : Settings → Subject → Root → List Match}
    (search : q.search = .inRoot find) {settings : Settings} {s : Subject} {root : Root} {m : Match}
    (found : m ∈ find settings s root) : ∃ item, Locates q.kind s root m item := by
  have no_error {kind : NodeKind} (other : kind ≠ .error) {test : Bool} {item : Placed}
      (passed : (item.node.kind == kind && test) = true) : item.node.kind ≠ .error := by
    rw [Bool.and_eq_true, beq_iff_eq] at passed
    exact passed.1 ▸ other
  have no_error' {kind : NodeKind} (other : kind ≠ .error) {item : Placed}
      (passed : (item.node.kind == kind) = true) : item.node.kind ≠ .error :=
    beq_iff_eq.1 passed ▸ other
  simp only [known, builtIn, List.mem_cons, List.not_mem_nil, or_false] at member
  rcases member with rfl | rfl | rfl | rfl | rfl | rfl | rfl | rfl
  · exact exists_locates_of_test search (fun _ _ => no_error' (by decide)) (fun _ _ => ⟨rfl, rfl⟩) found
  · refine exists_locates_perNode search (fun settings s item m reported => ?_) found
    obtain ⟨function, others⟩ := node_of_longFunctionAt reported
    exact ⟨by rw [function]; decide, others⟩
  · exact exists_locates_of_test search (fun _ _ => no_error (by decide)) (fun _ _ => ⟨rfl, rfl⟩) found
  · refine exists_locates_perNode search (fun settings s item m reported => ?_) found
    obtain ⟨loop, others⟩ := node_of_nestedLoopAt reported
    exact ⟨by rw [loop]; decide, others⟩
  · cases search
  · exact exists_locates_of_test search (fun _ _ => no_error (by decide)) (fun _ _ => ⟨rfl, rfl⟩) found
  · exact exists_locates_of_test search (fun _ _ => no_error' (by decide)) (fun _ _ => ⟨rfl, rfl⟩) found
  · exact exists_locates_of_test search (fun _ _ => no_error' (by decide)) (fun _ _ => ⟨rfl, rfl⟩) found

/-- A query that searches by root finds in a tree what it finds in one of the roots. -/
theorem exists_root_of_mem_findIn {q : Query} {find : Settings → Subject → Root → List Match}
    (search : q.search = .inRoot find) {settings : Settings} {s : Subject} {found : List Match}
    (ended : q.findIn settings s = .ok found) {m : Match} (member : m ∈ found) :
    ∃ root ∈ s.tree.roots, m ∈ find settings s root := by
  unfold findIn at ended
  rw [search] at ended
  cases ended
  obtain ⟨root, placed, among⟩ := List.mem_flatMap.1 member
  exact ⟨root, (List.mem_filter.1 placed).1, among⟩

theorem functionsNamed_reportsOwnKind (kind name : String) : (functionsNamed kind name).ReportsOwnKind := by
  intro settings s found ended m member
  obtain ⟨root, -, among⟩ := exists_root_of_mem_findIn rfl ended member
  obtain ⟨item, locates⟩ := @exists_locates_functionsNamed kind name _ rfl settings _ _ _ among
  exact locates.kind_eq

/-- Repeated code is found in a list of runs, unless its threshold makes the search fail. -/
theorem mem_of_duplicates {settings : Settings} {s : Subject} {found : List Match}
    (ended : Duplicate.find settings s = .ok found) {m : Match} (member : m ∈ found) :
    ∃ n, m ∈ Duplicate.among n s (Duplicate.significant s) := by
  unfold Duplicate.find at ended
  dsimp only at ended
  split at ended
  · cases ended
    cases member
  · split at ended
    · cases ended
      exact ⟨_, member⟩
    · cases ended

/-- The built-in queries report their own kinds. -/
theorem builtIn_reportsOwnKind : ∀ q ∈ builtIn, q.ReportsOwnKind := by
  intro q member settings s found ended m among
  cases search : q.search with
  | inRoot find =>
    obtain ⟨root, -, among⟩ := exists_root_of_mem_findIn search ended among
    obtain ⟨item, locates⟩ := exists_locates (List.mem_cons_of_mem _ member) search among
    exact locates.kind_eq
  | inFile find =>
    simp only [builtIn, List.mem_cons, List.not_mem_nil, or_false] at member
    rcases member with rfl | rfl | rfl | rfl | rfl | rfl | rfl
    case inr.inr.inr.inl =>
      obtain ⟨n, among⟩ := mem_of_duplicates ended among
      obtain ⟨run, -, rfl⟩ := List.mem_map.1 among
      rfl
    all_goals cases search

end LiveLint.Query

/-!
## Where repetitions begin

A repetition begins with a window of lines that are not broken and hold more than punctuation. So its first
line has a text, and lies outside of the errors of the tree.
-/

namespace LiveLint.Duplicate

/-- A run is made of repetitions: it begins with one of them and ends with one that is as far behind the first
as there are repetitions in between. -/
structure Run.MadeOf (run : Run) (rs : List Repetition) : Prop where
  start : run.start ∈ rs
  positive : 1 ≤ run.count
  last : ∃ r ∈ rs, r.later + 1 = run.start.later + run.count ∧ r.first + 1 = run.start.first + run.count

theorem Run.MadeOf.single {all : List Repetition} {r : Repetition} (member : r ∈ all) : Run.MadeOf ⟨r, 1⟩ all :=
  ⟨member, Nat.le_refl 1, r, member, rfl, rfl⟩

theorem madeOf_of_mem_runsFrom {all rs : List Repetition} {run found : Run} (subset : ∀ r ∈ rs, r ∈ all)
    (made : run.MadeOf all) (member : found ∈ runsFrom run rs) : found.MadeOf all := by
  induction rs generalizing run with
  | nil =>
    rw [List.mem_singleton.1 member]
    exact made
  | cons r rest ih =>
    have here := subset r (List.mem_cons_self ..)
    have later : ∀ r ∈ rest, r ∈ all := fun r among => subset r (List.mem_cons_of_mem _ among)
    unfold runsFrom at member
    split at member
    · next continued =>
      unfold Run.isContinuedBy at continued
      rw [Bool.and_eq_true, beq_iff_eq, beq_iff_eq] at continued
      have grown : Run.MadeOf { run with count := run.count + 1 } all := by
        refine ⟨made.start, Nat.le_add_left 1 run.count, r, here, ?_⟩
        dsimp only
        omega
      exact ih later grown member
    · rcases List.mem_cons.1 member with rfl | among
      · exact made
      · exact ih later (.single here) among

theorem madeOf_of_mem_runs {rs : List Repetition} {run : Run} (member : run ∈ runs rs) : run.MadeOf rs := by
  cases rs with
  | nil => cases member
  | cons r rest =>
    exact madeOf_of_mem_runsFrom (fun _ => List.mem_cons_of_mem r) (.single (List.mem_cons_self ..)) member

/-- A repetition is found for a window, and an earlier one is where the same lines were seen first. -/
theorem exists_windows_of_mem_repetitions {size : Int} {seen : Std.HashMap (List String) Nat}
    {windows : List (Nat × List String)} {r : Repetition} (member : r ∈ repetitions size seen windows) :
    ∃ key, (r.later, key) ∈ windows ∧ (seen[key]? = some r.first ∨ (r.first, key) ∈ windows) := by
  induction windows generalizing seen with
  | nil => cases member
  | cons window rest ih =>
    obtain ⟨i, key⟩ := window
    have lift {seen' : Std.HashMap (List String) Nat} (later : r ∈ repetitions size seen' rest)
        (known : ∀ key', seen'[key']? = some r.first →
          seen[key']? = some r.first ∨ (r.first, key') ∈ (i, key) :: rest) :
        ∃ key', (r.later, key') ∈ (i, key) :: rest ∧
          (seen[key']? = some r.first ∨ (r.first, key') ∈ (i, key) :: rest) := by
      obtain ⟨key', among, first⟩ := ih later
      refine ⟨key', List.mem_cons_of_mem _ among, ?_⟩
      rcases first with seen_before | among'
      · exact known key' seen_before
      · exact Or.inr (List.mem_cons_of_mem _ among')
    unfold repetitions at member
    split at member
    · refine lift member ?_
      intro key' found
      rw [Std.HashMap.getElem?_insert] at found
      split at found
      · next same =>
        cases found
        cases eq_of_beq same
        exact Or.inr (List.mem_cons_self ..)
      · exact Or.inl found
    · next j found =>
      split at member
      · rcases List.mem_cons.1 member with rfl | later
        · exact ⟨key, List.mem_cons_self .., Or.inl found⟩
        · exact lift later fun key' => Or.inl
      · exact lift member fun key' => Or.inl

/-- A window is what stands at its place. -/
theorem window?_of_mem_windowsFrom {total : Nat} {size : Int} {start i : Nat} {lines : List Line}
    {key : List String} (member : (i, key) ∈ windowsFrom total size start lines) :
    start ≤ i ∧ i < start + lines.length ∧ window? total size i (lines.drop (i - start)) = some key := by
  induction lines generalizing start with
  | nil => cases member
  | cons line rest ih =>
    have later (member : (i, key) ∈ windowsFrom total size (start + 1) rest) :
        start ≤ i ∧ i < start + (line :: rest).length ∧
          window? total size i ((line :: rest).drop (i - start)) = some key := by
      obtain ⟨le, lt, found⟩ := ih member
      rw [List.length_cons]
      refine ⟨by omega, by omega, ?_⟩
      rw [show i - start = i - (start + 1) + 1 by omega, List.drop_succ_cons]
      exact found
    unfold windowsFrom at member
    split at member
    · next found =>
      rcases List.mem_cons.1 member with same | member
      · cases same
        refine ⟨Nat.le_refl _, by rw [List.length_cons]; omega, ?_⟩
        rw [Nat.sub_self, List.drop_zero]
        exact found
      · exact later member
    · exact later member

/-- A window is not empty, and its first line is not broken. -/
theorem text_of_window? {total : Nat} {size : Int} {i : Nat} {lines : List Line} {key : List String}
    (found : window? total size i lines = some key) :
    ∃ line rest text, lines = line :: rest ∧ line.text = some text := by
  unfold window? at found
  split at found
  · cases taken : lines.take (placeOf total (i + size) - i) with
    | nil =>
      -- Nothing at all would be nothing but punctuation.
      rw [taken] at found
      cases found
    | cons line rest =>
      rw [taken, List.mapM_cons] at found
      cases text : line.text with
      | none =>
        rw [text] at found
        cases found
      | some first =>
        have split := List.take_append_drop (placeOf total (i + size) - i) lines
        rw [taken, List.cons_append] at split
        exact ⟨line, _, first, split.symm, text⟩
  · cases found

/-- What takes part with a text lies outside of the broken regions. -/
theorem not_covered_of_text {profile : Option Profile} {broken : List (Int × Int)} {number : Nat}
    {before : Option Line} {raws : List (List Char)} {line : Line}
    (member : line ∈ significantFrom profile broken number before raws) (text : line.text.isSome) :
    ∀ span ∈ broken, ¬(span.1 ≤ line.number ∧ (line.number : Int) ≤ span.2) := by
  induction raws generalizing number before with
  | nil => cases member
  | cons raw rest ih =>
    unfold significantFrom at member
    split at member
    · split at member
      · exact ih member
      · rcases List.mem_cons.1 member with rfl | later
        · cases text
        · exact ih later
    · next clear =>
      dsimp only at member
      split at member
      · exact ih member
      · rcases List.mem_cons.1 member with rfl | later
        · intro span among covered
          refine clear (List.any_eq_true.2 ⟨span, among, ?_⟩)
          rw [Bool.and_eq_true, decide_eq_true_eq, decide_eq_true_eq]
          exact covered
        · exact ih later

/-- Repeated code is reported from a line on that takes part with a text. -/
theorem exists_line_of_mem_among {size : Int} {s : Subject} {lines : List Line} {m : Match}
    (member : m ∈ among size s lines) :
    ∃ line ∈ lines, line.text.isSome ∧ m.range.startLine = line.number := by
  obtain ⟨run, found, rfl⟩ := List.mem_map.1 member
  obtain ⟨key, window, -⟩ := exists_windows_of_mem_repetitions (madeOf_of_mem_runs found).start
  obtain ⟨-, -, placed⟩ := window?_of_mem_windowsFrom window
  obtain ⟨line, rest, text, cut, named⟩ := text_of_window? placed
  rw [Nat.sub_zero] at cut
  have there : lines[run.start.later]? = some line := by
    rw [← List.head?_drop, cut, List.head?_cons]
  have number : lineNumber lines.toArray run.start.later = line.number := by
    unfold lineNumber
    rw [List.getElem?_toArray, there]
    rfl
  exact ⟨line, List.mem_of_getElem? there, by rw [named]; rfl, congrArg Int.ofNat number⟩

/-- Repeated code is reported from a line on that lies outside of the errors. -/
theorem not_covered_of_mem_among {size : Int} {s : Subject} {m : Match}
    (member : m ∈ among size s (significant s)) :
    ∀ span ∈ s.tree.errorSpans s.arena, ¬(span.1 ≤ m.range.startLine ∧ m.range.startLine ≤ span.2) := by
  obtain ⟨line, among, text, starts⟩ := exists_line_of_mem_among member
  rw [starts]
  exact not_covered_of_text among text

end LiveLint.Duplicate
