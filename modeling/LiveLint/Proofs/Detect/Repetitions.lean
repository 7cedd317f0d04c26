import LiveLint.Proofs.Detect.Finds
import LiveLint.Proofs.Doubles
import Mathlib.Order.Bounds.Basic

/-!
# Which lines are found to be repeated

Repeated code has a definition that knows neither a table of windows nor runs: a window of lines is repeated if
the same texts stand in a window further up that ends before it begins. What is found is exactly that. The table
keeps the first place of every window, so the search amounts to looking up each window among all of them, and
runs only put repetitions into groups, without losing any and without any of them in two groups.
-/

namespace LiveLint.Duplicate

/-!
## Windows
-/

/-- The text of the line at an index, if there is one and it is not broken. -/
def textAt (lines : List Line) (i : Nat) : Option String := lines[i]?.bind (·.text)

/-- As many lines have the same texts from one index on as from another. -/
def Alike (lines : List Line) (size i j : Nat) : Prop := ∀ k < size, textAt lines (i + k) = textAt lines (j + k)

/-- A window of lines can be compared: none of them is broken, and they hold more than punctuation. -/
structure Comparable (lines : List Line) (size i : Nat) : Prop where
  readable : ∀ k < size, (textAt lines (i + k)).isSome
  substantial : ∃ k < size, ∃ text ∈ textAt lines (i + k), LogicalLine.isPunctuationOnly text.toList = false

/-- A window of lines is repeated: the same texts stand in a window that ends before it begins. -/
structure Repeats (lines : List Line) (size i : Nat) : Prop where
  comparable : Comparable lines size i
  earlier : ∃ j, j + size ≤ i ∧ Alike lines size i j

theorem Comparable.of_alike {lines : List Line} {size i j : Nat} (comparable : Comparable lines size i)
    (alike : Alike lines size i j) : Comparable lines size j := by
  refine ⟨fun k lt => alike k lt ▸ comparable.readable k lt, ?_⟩
  obtain ⟨k, lt, text, here, substantial⟩ := comparable.substantial
  exact ⟨k, lt, text, alike k lt ▸ here, substantial⟩

theorem lt_of_textAt {lines : List Line} {i : Nat} (readable : (textAt lines i).isSome) : i < lines.length := by
  by_contra beyond
  unfold textAt at readable
  rw [List.getElem?_eq_none (Nat.le_of_not_lt beyond)] at readable
  cases readable

theorem Comparable.le_length {lines : List Line} {size i : Nat} (positive : 1 ≤ size)
    (comparable : Comparable lines size i) : i + size ≤ lines.length := by
  have := lt_of_textAt (comparable.readable (size - 1) (by omega))
  omega

theorem textAt_window (lines : List Line) (i : Nat) {size k : Nat} (lt : k < size) :
    textAt ((lines.drop i).take size) k = textAt lines (i + k) := by
  unfold textAt
  rw [List.getElem?_take_of_lt lt, List.getElem?_drop]

/-- The texts of some lines are read off one by one, unless one of the lines is broken. -/
theorem mapM_text_eq_some {lines : List Line} {key : List String} :
    lines.mapM (·.text) = some key ↔
      key.length = lines.length ∧ ∀ k < lines.length, textAt lines k = key[k]? := by
  induction lines generalizing key with
  | nil => cases key <;> simp
  | cons line rest ih =>
    have first : textAt (line :: rest) 0 = line.text := rfl
    have later (k : Nat) : textAt (line :: rest) (k + 1) = textAt rest k := rfl
    rw [List.mapM_cons, List.length_cons, Nat.forall_lt_succ_left, first]
    simp only [later]
    cases text : line.text with
    | none => cases key <;> simp
    | some found =>
      cases key with
      | nil => cases rest.mapM (·.text) <;> simp
      | cons head tail =>
        have read : (do let texts ← rest.mapM (·.text); pure (found :: texts)) = some (head :: tail) ↔
            found = head ∧ rest.mapM (·.text) = some tail := by
          cases rest.mapM (·.text) <;> simp
        change (do let texts ← rest.mapM (·.text); pure (found :: texts)) = some (head :: tail) ↔ _
        rw [read, ih, List.length_cons]
        simp [and_left_comm]

/-- A window of lines has a key exactly if it can be compared, and the key is made of its texts. -/
theorem window?_eq_some {lines : List Line} {size i : Nat} (positive : 1 ≤ size) {key : List String} :
    window? lines.length size i (lines.drop i) = some key ↔
      Comparable lines size i ∧ key.length = size ∧ ∀ k < size, textAt lines (i + k) = key[k]? := by
  have place : placeOf lines.length ((i : Int) + size) - i = size := by
    unfold placeOf
    rw [if_pos (by omega)]
    omega
  have length (inside : i + size ≤ lines.length) : ((lines.drop i).take size).length = size := by
    rw [List.length_take, List.length_drop]
    omega
  have read (inside : i + size ≤ lines.length) : ((lines.drop i).take size).mapM (·.text) = some key ↔
      key.length = size ∧ ∀ k < size, textAt lines (i + k) = key[k]? := by
    rw [mapM_text_eq_some, length inside]
    refine and_congr_right fun _ => forall₂_congr fun k lt => ?_
    rw [textAt_window lines i lt]
  -- None of the lines is broken, as there is a text for each; so what matters is that a text is no punctuation.
  have substantial (long : key.length = size) (texts : ∀ k < size, textAt lines (i + k) = key[k]?) :
      Comparable lines size i ↔ key.all (LogicalLine.isPunctuationOnly ·.toList) = false := by
    rw [List.all_eq_false]
    constructor
    · rintro ⟨-, k, lt, text, here, substantial⟩
      rw [texts k lt] at here
      exact ⟨text, List.mem_of_getElem? here, by rw [substantial]; decide⟩
    · rintro ⟨text, member, substantial⟩
      obtain ⟨k, lt, rfl⟩ := List.mem_iff_getElem.1 member
      refine ⟨fun k lt => ?_, k, long ▸ lt, key[k], ?_, by simpa using substantial⟩
      · rw [texts k lt, List.getElem?_eq_getElem (long ▸ lt)]
        rfl
      · rw [texts k (long ▸ lt), List.getElem?_eq_getElem lt]
        rfl
  unfold window?
  rw [place]
  constructor
  · intro found
    split at found
    · next inside =>
      split at found
      · next key' texts =>
        split at found
        · cases found
        · next other =>
          cases found
          obtain ⟨long, texts⟩ := (read (by omega)).1 texts
          exact ⟨(substantial long texts).2 (Bool.eq_false_iff.2 other), long, texts⟩
      · cases found
    · cases found
  · rintro ⟨comparable, long, texts⟩
    have inside := comparable.le_length positive
    rw [if_pos (by omega), (read inside).2 ⟨long, texts⟩]
    dsimp only
    rw [(substantial long texts).1 comparable]
    rfl

theorem exists_window {lines : List Line} {size i : Nat} (positive : 1 ≤ size)
    (comparable : Comparable lines size i) :
    ∃ key, window? lines.length size i (lines.drop i) = some key := by
  have inside := comparable.le_length positive
  have readable (k : Nat) (lt : k < size) : ∃ text, textAt lines (i + k) = some text :=
    Option.isSome_iff_exists.1 (comparable.readable k lt)
  refine ⟨(List.range size).map fun k => (textAt lines (i + k)).getD "", ?_⟩
  refine (window?_eq_some positive).2 ⟨comparable, by rw [List.length_map, List.length_range], fun k lt => ?_⟩
  obtain ⟨text, here⟩ := readable k lt
  rw [List.getElem?_map, List.getElem?_range lt, Option.map_some, here]
  rfl

/-- Windows have the same key exactly if their lines have the same texts. -/
theorem alike_iff_of_windows {lines : List Line} {size i j : Nat} (positive : 1 ≤ size) {key key' : List String}
    (here : window? lines.length size i (lines.drop i) = some key)
    (there : window? lines.length size j (lines.drop j) = some key') : Alike lines size i j ↔ key = key' := by
  obtain ⟨-, long, texts⟩ := (window?_eq_some positive).1 here
  obtain ⟨-, long', texts'⟩ := (window?_eq_some positive).1 there
  constructor
  · intro alike
    refine List.ext_getElem? fun k => ?_
    by_cases lt : k < size
    · rw [← texts k lt, ← texts' k lt, alike k lt]
    · rw [List.getElem?_eq_none (by omega), List.getElem?_eq_none (by omega)]
  · rintro rfl k lt
    rw [texts k lt, texts' k lt]

/-- The windows of a file are those of its places that have a key. -/
theorem mem_windowsFrom {total : Nat} {size : Int} {start i : Nat} {lines : List Line} {key : List String} :
    (i, key) ∈ windowsFrom total size start lines ↔
      start ≤ i ∧ i < start + lines.length ∧ window? total size i (lines.drop (i - start)) = some key := by
  refine ⟨window?_of_mem_windowsFrom, ?_⟩
  induction lines generalizing start with
  | nil =>
    rintro ⟨le, lt, -⟩
    rw [List.length_nil] at lt
    omega
  | cons line rest ih =>
    rintro ⟨le, lt, found⟩
    rw [List.length_cons] at lt
    unfold windowsFrom
    rcases Nat.eq_or_lt_of_le le with rfl | after
    · rw [Nat.sub_self, List.drop_zero] at found
      rw [found]
      exact List.mem_cons_self ..
    · have later : (i, key) ∈ windowsFrom total size (start + 1) rest := by
        refine ih ⟨after, by omega, ?_⟩
        rw [show i - start = i - (start + 1) + 1 by omega, List.drop_succ_cons] at found
        exact found
      split
      · exact List.mem_cons_of_mem _ later
      · exact later

/-- Windows are listed in the order of their places. -/
theorem windowsFrom_pairwise (total : Nat) (size : Int) (start : Nat) (lines : List Line) :
    (windowsFrom total size start lines).Pairwise (·.1 < ·.1) := by
  induction lines generalizing start with
  | nil => exact .nil
  | cons line rest ih =>
    unfold windowsFrom
    split
    · refine .cons (fun window member => ?_) (ih (start + 1))
      exact (mem_windowsFrom.1 member).1
    · exact ih (start + 1)

/-!
## Repetitions
-/

/-- Where a window of some key is seen first. -/
def firstSeen (windows : List (Nat × List String)) (key : List String) : Option Nat :=
  (windows.find? (·.2 == key)).map (·.1)

/-- The repetition of a window, if it is seen first where it does not overlap with itself. -/
def repetition? (size : Nat) (windows : List (Nat × List String)) (window : Nat × List String) :
    Option Repetition :=
  (firstSeen windows window.2).bind fun j => if j + size ≤ window.1 then some ⟨window.1, j⟩ else none

theorem firstSeen_append (before rest : List (Nat × List String)) (key : List String) :
    firstSeen (before ++ rest) key = (firstSeen before key).or (firstSeen rest key) := by
  unfold firstSeen
  rw [List.find?_append]
  cases before.find? (·.2 == key) <;> rfl

theorem firstSeen_cons (i : Nat) (key : List String) (rest : List (Nat × List String)) (other : List String) :
    firstSeen ((i, key) :: rest) other = if key == other then some i else firstSeen rest other := by
  unfold firstSeen
  rw [List.find?_cons]
  cases key == other <;> rfl

theorem exists_firstSeen {windows : List (Nat × List String)} {i : Nat} {key : List String}
    (window : (i, key) ∈ windows) : ∃ j, firstSeen windows key = some j := by
  unfold firstSeen
  rw [← Option.isSome_iff_exists, Option.isSome_map, List.find?_isSome]
  exact ⟨(i, key), window, beq_self_eq_true key⟩

theorem firstSeen_concat (before : List (Nat × List String)) (i : Nat) (key other : List String) :
    firstSeen (before ++ [(i, key)]) other =
      (firstSeen before other).or (if key == other then some i else none) := by
  rw [firstSeen_append, firstSeen_cons]
  rfl

/-- The table holds where a window was seen first, after a window that was not seen before. -/
theorem table_insert {before : List (Nat × List String)} {seen : Std.HashMap (List String) Nat}
    (table : ∀ key : List String, seen[key]? = firstSeen before key) {i : Nat} {key : List String}
    (first : firstSeen before key = none) (other : List String) :
    (seen.insert key i)[other]? = firstSeen (before ++ [(i, key)]) other := by
  rw [Std.HashMap.getElem?_insert, firstSeen_concat, table other]
  split
  · next same =>
    cases eq_of_beq same
    rw [first]
    rfl
  · rw [Option.or_none]

/-- The table holds where a window was seen first, after a window that was seen before. -/
theorem table_keep {before : List (Nat × List String)} {seen : Std.HashMap (List String) Nat}
    (table : ∀ key : List String, seen[key]? = firstSeen before key) {i j : Nat} {key : List String}
    (first : firstSeen before key = some j) (other : List String) :
    seen[other]? = firstSeen (before ++ [(i, key)]) other := by
  rw [firstSeen_concat, table other]
  split
  · next same =>
    cases eq_of_beq same
    rw [first]
    rfl
  · rw [Option.or_none]

/-- The table of the windows seen so far can be done without: each window is looked up among all windows. A window
is never its own repetition, so it makes no difference that it is among them. -/
theorem repetitions_eq_filterMap {size : Nat} (positive : 1 ≤ size)
    (before : List (Nat × List String)) {rest : List (Nat × List String)}
    {seen : Std.HashMap (List String) Nat} (table : ∀ key : List String, seen[key]? = firstSeen before key) :
    repetitions size seen rest = rest.filterMap (repetition? size (before ++ rest)) := by
  induction rest generalizing before seen with
  | nil => rfl
  | cons window rest ih =>
    obtain ⟨i, key⟩ := window
    have split : before ++ (i, key) :: rest = before ++ [(i, key)] ++ rest := by
      rw [List.append_assoc, List.singleton_append]
    unfold repetitions
    rw [List.filterMap_cons, table key]
    unfold repetition?
    dsimp only
    rw [firstSeen_append, firstSeen_cons, beq_self_eq_true, if_pos rfl]
    cases first : firstSeen before key with
    | none =>
      rw [Option.none_or, Option.bind_some, if_neg (by omega)]
      dsimp only
      rw [ih _ (table_insert table first), split]
      rfl
    | some j =>
      rw [Option.some_or, Option.bind_some]
      have rest_eq := ih (before ++ [(i, key)]) (table_keep table first)
      rw [← split] at rest_eq
      by_cases apart : j + size ≤ i
      · rw [if_pos apart]
        dsimp only
        rw [if_pos (by omega), rest_eq]
        rfl
      · rw [if_neg apart]
        dsimp only
        rw [if_neg (by omega), rest_eq]
        rfl

variable {lines : List Line} {size : Nat}

/-- The repetitions among some lines, each found by looking up a window among all windows. -/
theorem repetitions_windows (positive : 1 ≤ size) :
    repetitions size ∅ (windowsFrom lines.length size 0 lines) =
      (windowsFrom lines.length size 0 lines).filterMap
        (repetition? size (windowsFrom lines.length size 0 lines)) :=
  repetitions_eq_filterMap positive [] fun _ => Std.HashMap.getElem?_empty

theorem mem_windows {i : Nat} {key : List String} :
    (i, key) ∈ windowsFrom lines.length size 0 lines ↔
      i < lines.length ∧ window? lines.length size i (lines.drop i) = some key := by
  rw [mem_windowsFrom, Nat.zero_add, Nat.sub_zero]
  exact and_iff_right (Nat.zero_le i)

theorem exists_mem_windows {i : Nat} (positive : 1 ≤ size) (comparable : Comparable lines size i) :
    ∃ key, (i, key) ∈ windowsFrom lines.length size 0 lines := by
  obtain ⟨key, found⟩ := exists_window positive comparable
  have inside := comparable.le_length positive
  exact ⟨key, mem_windows.2 ⟨by omega, found⟩⟩

/-- A window is seen first at the first of the places from which on the lines have the same texts. -/
theorem firstSeen_eq_some {i j : Nat} {key : List String} (positive : 1 ≤ size)
    (window : (i, key) ∈ windowsFrom lines.length size 0 lines) :
    firstSeen (windowsFrom lines.length size 0 lines) key = some j ↔ IsLeast {j | Alike lines size i j} j := by
  have here := (mem_windows.1 window).2
  have comparable := ((window?_eq_some positive).1 here).1
  have least {j : Nat} (first : firstSeen (windowsFrom lines.length size 0 lines) key = some j) :
      IsLeast {j | Alike lines size i j} j := by
    obtain ⟨⟨j', key'⟩, found, rfl⟩ := Option.map_eq_some_iff.1 first
    obtain ⟨same, before, after, cut, others⟩ := List.find?_eq_some_iff_append.1 found
    obtain rfl : key' = key := eq_of_beq same
    refine ⟨(alike_iff_of_windows positive here (mem_windows.1 (List.mem_of_find?_eq_some found)).2).2 rfl, ?_⟩
    intro m alike
    obtain ⟨key', there⟩ := exists_mem_windows positive (comparable.of_alike alike)
    obtain rfl := (alike_iff_of_windows positive here (mem_windows.1 there).2).1 alike
    have ordered := windowsFrom_pairwise lines.length size 0 lines
    rw [cut] at there ordered
    rcases List.mem_append.1 there with earlier | later
    · have := others _ earlier
      rw [beq_self_eq_true] at this
      cases this
    · rcases List.mem_cons.1 later with same | behind
      · cases same
        exact Nat.le_refl _
      · exact Nat.le_of_lt (List.rel_of_pairwise_cons (List.pairwise_append.1 ordered).2.1 behind)
  refine ⟨least, fun first => ?_⟩
  obtain ⟨j', first'⟩ := exists_firstSeen window
  rw [first', (least first').unique first]

theorem exists_isLeast_alike {i : Nat} (positive : 1 ≤ size) (comparable : Comparable lines size i) :
    ∃ j, IsLeast {j | Alike lines size i j} j := by
  obtain ⟨key, window⟩ := exists_mem_windows positive comparable
  obtain ⟨j, first⟩ := exists_firstSeen window
  exact ⟨j, (firstSeen_eq_some positive window).1 first⟩

/-- Repetitions are the windows that can be compared and whose first copy ends before they begin, with the place
of that copy. -/
theorem mem_repetitions (positive : 1 ≤ size) {r : Repetition} :
    r ∈ repetitions size ∅ (windowsFrom lines.length size 0 lines) ↔
      Comparable lines size r.later ∧ IsLeast {j | Alike lines size r.later j} r.first ∧
        r.first + size ≤ r.later := by
  rw [repetitions_windows positive, List.mem_filterMap]
  constructor
  · rintro ⟨⟨i, key⟩, window, found⟩
    obtain ⟨j, first, found⟩ := Option.bind_eq_some_iff.1 found
    split at found
    · next apart =>
      cases found
      exact ⟨((window?_eq_some positive).1 (mem_windows.1 window).2).1,
        (firstSeen_eq_some positive window).1 first, apart⟩
    · cases found
  · rintro ⟨comparable, least, apart⟩
    obtain ⟨key, window⟩ := exists_mem_windows positive comparable
    refine ⟨(r.later, key), window, ?_⟩
    unfold repetition?
    rw [(firstSeen_eq_some positive window).2 least, Option.bind_some, if_pos apart]

/-- A window is repeated exactly if there is a repetition for it. -/
theorem repeats_iff (positive : 1 ≤ size) {i : Nat} :
    Repeats lines size i ↔ ∃ r ∈ repetitions size ∅ (windowsFrom lines.length size 0 lines), r.later = i := by
  constructor
  · rintro ⟨comparable, j, apart, alike⟩
    obtain ⟨first, least⟩ := exists_isLeast_alike positive comparable
    have before : first ≤ j := least.2 alike
    have apart : first + size ≤ i := Nat.le_trans (Nat.add_le_add_right before size) apart
    exact ⟨⟨i, first⟩, (mem_repetitions positive).2 ⟨comparable, least, apart⟩, rfl⟩
  · rintro ⟨r, member, rfl⟩
    obtain ⟨comparable, least, apart⟩ := (mem_repetitions positive).1 member
    exact ⟨comparable, r.first, apart, least.1⟩

theorem repetitions_pairwise (positive : 1 ≤ size) :
    (repetitions size ∅ (windowsFrom lines.length size 0 lines)).Pairwise (·.later < ·.later) := by
  rw [repetitions_windows positive]
  have place {window : Nat × List String} {r : Repetition}
      (found : repetition? size (windowsFrom lines.length size 0 lines) window = some r) :
      r.later = window.1 := by
    obtain ⟨j, -, found⟩ := Option.bind_eq_some_iff.1 found
    split at found <;> cases found
    rfl
  have ordered := windowsFrom_pairwise lines.length size 0 lines
  refine ordered.filterMap _ fun window window' lt r found r' found' => ?_
  rw [place found, place found']
  exact lt

/-!
## Runs
-/

def Run.members (run : Run) : List Repetition :=
  (List.range run.count).map fun k => ⟨run.start.later + k, run.start.first + k⟩

theorem Run.mem_members {run : Run} {r : Repetition} :
    r ∈ run.members ↔ ∃ k < run.count, r = ⟨run.start.later + k, run.start.first + k⟩ := by
  unfold members
  rw [List.mem_map]
  refine exists_congr fun k => ?_
  rw [List.mem_range, eq_comm]

theorem Run.members_grown (run : Run) : ({ run with count := run.count + 1 } : Run).members =
    run.members ++ [⟨run.start.later + run.count, run.start.first + run.count⟩] := by
  unfold members
  rw [List.range_succ, List.map_append]
  rfl

theorem flatMap_runsFrom (run : Run) (rs : List Repetition) :
    (runsFrom run rs).flatMap Run.members = run.members ++ rs := by
  induction rs generalizing run with
  | nil => rw [runsFrom, List.flatMap_singleton, List.append_nil]
  | cons r rest ih =>
    unfold runsFrom
    split
    · next continued =>
      unfold Run.isContinuedBy at continued
      rw [Bool.and_eq_true, beq_iff_eq, beq_iff_eq] at continued
      rw [ih, Run.members_grown, ← continued.1, ← continued.2, List.append_assoc]
      rfl
    · rw [List.flatMap_cons, ih]
      rfl

/-- Runs neither lose a repetition nor change their order. -/
theorem flatMap_runs (rs : List Repetition) : (runs rs).flatMap Run.members = rs := by
  cases rs with
  | nil => rfl
  | cons r rest => exact flatMap_runsFrom ⟨r, 1⟩ rest

theorem mem_iff_exists_run {rs : List Repetition} {r : Repetition} :
    r ∈ rs ↔ ∃ run ∈ runs rs, r ∈ run.members := by
  rw [← List.mem_flatMap, flatMap_runs]

/-- Runs of repetitions in increasing order do not overlap. -/
theorem runs_pairwise {rs : List Repetition} (ordered : rs.Pairwise (·.later < ·.later)) :
    (runs rs).Pairwise fun a b => a.start.later + a.count ≤ b.start.later := by
  rw [← flatMap_runs rs, List.pairwise_flatMap] at ordered
  refine ordered.2.imp_of_mem fun {a b} here there apart => ?_
  have positive := (madeOf_of_mem_runs here).positive
  have positive' := (madeOf_of_mem_runs there).positive
  have := apart _ (Run.mem_members.2 ⟨a.count - 1, by omega, rfl⟩) _ (Run.mem_members.2 ⟨0, by omega, rfl⟩)
  dsimp only at this
  omega

def repeatedRuns (lines : List Line) (size : Nat) : List Run :=
  runs (repetitions size ∅ (windowsFrom lines.length size 0 lines))

/-- Each window of a run is a repetition. -/
theorem member_of_mem_repeatedRuns (positive : 1 ≤ size) {run : Run} (among : run ∈ repeatedRuns lines size)
    {k : Nat} (lt : k < run.count) :
    Comparable lines size (run.start.later + k) ∧
      IsLeast {j | Alike lines size (run.start.later + k) j} (run.start.first + k) ∧
      run.start.first + k + size ≤ run.start.later + k :=
  (mem_repetitions positive).1 (mem_iff_exists_run.2 ⟨run, among, Run.mem_members.2 ⟨k, lt, rfl⟩⟩)

theorem repeats_iff_exists_run (positive : 1 ≤ size) {i : Nat} :
    Repeats lines size i ↔
      ∃ run ∈ repeatedRuns lines size, run.start.later ≤ i ∧ i < run.start.later + run.count := by
  rw [repeats_iff positive]
  constructor
  · rintro ⟨r, member, rfl⟩
    obtain ⟨run, among, inside⟩ := mem_iff_exists_run.1 member
    obtain ⟨k, lt, rfl⟩ := Run.mem_members.1 inside
    exact ⟨run, among, Nat.le_add_right .., Nat.add_lt_add_left lt _⟩
  · rintro ⟨run, among, le, lt⟩
    refine ⟨_, mem_iff_exists_run.2 ⟨run, among, Run.mem_members.2 ⟨i - run.start.later, by omega, rfl⟩⟩, ?_⟩
    exact Nat.add_sub_cancel' le

/-- The lines of a run are those of the first copy: each of them belongs to some window of the run. -/
theorem alike_of_mem_repeatedRuns (positive : 1 ≤ size) {run : Run} (among : run ∈ repeatedRuns lines size) :
    Alike lines (run.count + size - 1) run.start.later run.start.first := by
  intro m lt
  have count := (madeOf_of_mem_runs among).positive
  have window : min m (run.count - 1) < run.count := by omega
  have alike := (member_of_mem_repeatedRuns positive among window).2.1.1 (m - min m (run.count - 1)) (by omega)
  rwa [show run.start.later + min m (run.count - 1) + (m - min m (run.count - 1)) = run.start.later + m by omega,
    show run.start.first + min m (run.count - 1) + (m - min m (run.count - 1)) = run.start.first + m by omega]
    at alike

theorem repeatedRuns_eq_nil_iff (positive : 1 ≤ size) :
    repeatedRuns lines size = [] ↔ ∀ i, ¬Repeats lines size i := by
  constructor
  · intro empty i repeats
    obtain ⟨run, among, -⟩ := (repeats_iff_exists_run positive).1 repeats
    rw [empty] at among
    cases among
  · intro none_repeats
    refine List.eq_nil_iff_forall_not_mem.2 fun run among => none_repeats run.start.later ?_
    have count := (madeOf_of_mem_runs among).positive
    exact (repeats_iff_exists_run positive).2 ⟨run, among, Nat.le_refl _, Nat.lt_add_of_pos_right count⟩

/-- Files that are too short for two windows hold no repeated window. -/
theorem Repeats.le_length {i : Nat} (positive : 1 ≤ size) (repeats : Repeats lines size i) :
    2 * size ≤ lines.length := by
  obtain ⟨comparable, j, apart, -⟩ := repeats
  have := comparable.le_length positive
  omega

/-- What is reported of a file are its runs, also if the search is given up early. -/
theorem find_eq_repeatedRuns {settings : Settings} (s : Subject)
    (threshold : settings.duplicateMinLines.whole? = some (size : Int)) (positive : 1 ≤ size) :
    find settings s =
      .ok ((repeatedRuns (significant s) size).map (report s.lines.toArray (significant s).toArray size)) := by
  have double : (2 * settings.duplicateMinLines).whole? = some (2 * (size : Int)) := by
    cases same : settings.duplicateMinLines with
    | int n =>
      rw [same] at threshold
      cases threshold
      rfl
    | flag b =>
      rw [same] at threshold
      obtain same : b.toInt = size := Option.some.inj threshold
      rw [← same]
      rfl
    | float x =>
      rw [same] at threshold
      cases threshold
  unfold find
  dsimp only
  rw [Number.lt_of_whole rfl double, threshold]
  split
  · next short =>
    rw [decide_eq_true_eq] at short
    have empty : repeatedRuns (significant s) size = [] := by
      refine (repeatedRuns_eq_nil_iff positive).2 fun i repeats => ?_
      have := repeats.le_length positive
      omega
    rw [empty]
    rfl
  · rfl

/-- What is found is exactly what is repeated: the runs are apart from each other, the windows that begin in one
of them are the repeated ones, and each window of a run is as far behind its first copy as the run is. -/
structure Exact (lines : List Line) (size : Nat) (found : List Run) : Prop where
  positive : ∀ run ∈ found, 1 ≤ run.count
  disjoint : found.Pairwise fun a b => a.start.later + a.count ≤ b.start.later
  covers : ∀ i, Repeats lines size i ↔ ∃ run ∈ found, run.start.later ≤ i ∧ i < run.start.later + run.count
  first : ∀ run ∈ found, ∀ k < run.count,
    IsLeast {j | Alike lines size (run.start.later + k) j} (run.start.first + k)
  apart : ∀ run ∈ found, run.start.first + size ≤ run.start.later
  copies : ∀ run ∈ found, Alike lines (run.count + size - 1) run.start.later run.start.first
  nothing : found = [] ↔ ∀ i, ¬Repeats lines size i

/-- The repeated code that is found in a file is exact: if the number of lines that must be repeated is whole,
the matches are the reports of runs that are apart from each other and that hold every repeated window of the
lines that take part, each with the first of its copies. -/
theorem exists_exact {settings : Settings} (s : Subject)
    (threshold : settings.duplicateMinLines.whole? = some (size : Int)) (positive : 1 ≤ size) :
    ∃ found, find settings s = .ok (found.map (report s.lines.toArray (significant s).toArray size)) ∧
      Exact (significant s) size found := by
  refine ⟨_, find_eq_repeatedRuns s threshold positive, ?_⟩
  constructor
  case positive => exact fun run among => (madeOf_of_mem_runs among).positive
  case disjoint => exact runs_pairwise (repetitions_pairwise positive)
  case covers => exact fun i => repeats_iff_exists_run positive
  case first => exact fun run among k lt => (member_of_mem_repeatedRuns positive among lt).2.1
  case apart =>
    intro run among
    have := (member_of_mem_repeatedRuns positive among (madeOf_of_mem_runs among).positive).2.2
    omega
  case copies => exact fun run => alike_of_mem_repeatedRuns positive
  case nothing => exact repeatedRuns_eq_nil_iff positive

/-- A file in which three lines come twice, the first two of them together at another place than the last two. -/
def interleaved : Subject where
  tree :=
    { file := "a", language := "python", revision := 1, source := "a\nb\nx(1)\nb\nc\ny\na\nb\nc\n", arena := 0,
      roots := [{ index := 0, line := 3, digest := "096e1dd28452dd6942105c2ef7f068898a123580" }],
      backend := .scanner }
  arena :=
    { nodes := #[{ kind := .number, type := "number", startLine := 0, startCol := 2, endLine := 0, endCol := 3,
                   value := "1" }] }

theorem significant_interleaved : significant interleaved =
    [⟨1, some "a"⟩, ⟨2, some "b"⟩, ⟨3, some "x(1)"⟩, ⟨4, some "b"⟩, ⟨5, some "c"⟩, ⟨6, some "y"⟩, ⟨7, some "a"⟩,
      ⟨8, some "b"⟩, ⟨9, some "c"⟩] := by
  decide +kernel

/-- With windows of two lines, both windows of the second copy are repeated, and all that is found is exact. -/
theorem exists_exact_interleaved :
    (∃ found, find { duplicateMinLines := 2 } interleaved =
        .ok (found.map (report interleaved.lines.toArray (significant interleaved).toArray (2 : Nat))) ∧
      Exact (significant interleaved) 2 found) ∧
      Repeats (significant interleaved) 2 6 ∧ Repeats (significant interleaved) 2 7 := by
  refine ⟨exists_exact interleaved rfl (by decide), ?_⟩
  rw [significant_interleaved]
  constructor
  · exact ⟨⟨by decide, 0, by decide, "a", rfl, by decide⟩, 0, by decide, by unfold Alike; decide⟩
  · exact ⟨⟨by decide, 0, by decide, "b", rfl, by decide⟩, 3, by decide, by unfold Alike; decide⟩

end LiveLint.Duplicate
