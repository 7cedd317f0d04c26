import LiveLint.Detect.Queries
import LiveLint.Detect.Query
import LiveLint.Proofs.Tree.Moved

/-!
# What is found in a root that was moved

A search in one root reads the nodes below it and the lines it covers, and nothing else. If these are the
same for a root of another tree, the search finds there the same matches, moved with the root.
-/

/-!
## Counting the logical lines of a node

The count reads only the lines between the first and the last one of a node. So it stays the same when
the lines of the node's root stand at another place of another text.
-/

namespace LiveLint.LogicalLine

variable {profile : Option Profile} {item : Placed}

theorem countFrom_of_endLine_lt {line : Int} (behind : item.endLine < line)
    (lines : List (List Char)) : countFrom profile item line lines = 0 := by
  cases lines with
  | nil => rfl
  | cons text rest =>
    unfold countFrom
    rw [if_pos behind]

/-- Lines before the first one of a node do not count. -/
theorem countFrom_drop (k : Nat) {line : Int} (before : line + k ≤ item.startLine)
    (lines : List (List Char)) :
    countFrom profile item line lines = countFrom profile item (line + k) (lines.drop k) := by
  induction k generalizing line lines with
  | zero => rw [List.drop_zero, Int.natCast_zero, Int.add_zero]
  | succ k ih =>
    cases lines with
    | nil => rfl
    | cons text rest =>
      rw [Int.natCast_succ] at before
      rw [List.drop_succ_cons]
      by_cases behind : item.endLine < line
      · rw [countFrom_of_endLine_lt behind, countFrom_of_endLine_lt (by omega)]
      · have early : decide (item.startLine ≤ line) = false := decide_eq_false (by omega)
        rw [countFrom, if_neg behind, early, Bool.false_and, if_neg Bool.false_ne_true, Nat.zero_add,
          ih (by omega) rest]
        congr 1
        omega

/-- Lines behind the last one of a node do not count. -/
theorem countFrom_take (n : Nat) {line : Int} (behind : item.endLine < line + n)
    (lines : List (List Char)) :
    countFrom profile item line lines = countFrom profile item line (lines.take n) := by
  induction n generalizing line lines with
  | zero =>
    have behind : item.endLine < line := by omega
    rw [countFrom_of_endLine_lt behind, countFrom_of_endLine_lt behind]
  | succ n ih =>
    cases lines with
    | nil => rfl
    | cons text rest =>
      rw [List.take_succ_cons, countFrom, countFrom, ih (by omega) rest]

theorem clip_moved (root' : Root) (line : Int) (text : List Char) :
    clip (item.moved root') (line + ((root'.line : Int) - item.root.line)) text =
      clip item line text := by
  have same (at_line : Int) :
      (line + ((root'.line : Int) - item.root.line) ==
        at_line + ((root'.line : Int) - item.root.line)) = (line == at_line) := by
    rw [Bool.eq_iff_iff, beq_iff_eq, beq_iff_eq]
    omega
  unfold clip Placed.moved
  dsimp only
  rw [same, same]

/-- A node that was moved has its logical lines at another place. -/
theorem countFrom_moved (root' : Root) (line : Int) (lines : List (List Char)) :
    countFrom profile (item.moved root') (line + ((root'.line : Int) - item.root.line)) lines =
      countFrom profile item line lines := by
  induction lines generalizing line with
  | nil => rfl
  | cons text rest ih =>
    have step := ih (line + 1)
    rw [Int.add_right_comm] at step
    have stop : ((item.moved root').endLine < line + ((root'.line : Int) - item.root.line)) =
        (item.endLine < line) := by
      unfold Placed.moved
      rw [eq_iff_iff]
      dsimp only
      omega
    have start : decide ((item.moved root').startLine ≤ line + ((root'.line : Int) - item.root.line)) =
        decide (item.startLine ≤ line) := by
      unfold Placed.moved
      rw [decide_eq_decide]
      dsimp only
      omega
    unfold countFrom
    rw [clip_moved, step, start]
    simp only [stop]

/-- A node covers as many logical lines wherever its root is placed, if the lines of the root are the
same there. -/
theorem count_moved {root' : Root} {lines lines' : List (List Char)} {height : Nat}
    (one_le : 1 ≤ item.root.line) (one_le' : 1 ≤ root'.line)
    (same : (lines'.drop (root'.line - 1)).take height = (lines.drop (item.root.line - 1)).take height)
    (first : (item.root.line : Int) ≤ item.startLine)
    (last : item.endLine < (item.root.line : Int) + height) :
    count profile lines' (item.moved root') = count profile lines item := by
  have top {line : Nat} (one_le : 1 ≤ line) : (1 : Int) + (line - 1 : Nat) = line := by omega
  have first' : (root'.line : Int) ≤ (item.moved root').startLine := by
    unfold Placed.moved
    dsimp only
    omega
  have last' : (item.moved root').endLine < (root'.line : Int) + height := by
    unfold Placed.moved
    dsimp only
    omega
  have place : (root'.line : Int) = item.root.line + ((root'.line : Int) - item.root.line) := by omega
  unfold count
  calc countFrom profile (item.moved root') 1 lines'
      = countFrom profile (item.moved root') root'.line (lines'.drop (root'.line - 1)) := by
        rw [countFrom_drop (root'.line - 1) (by omega), top one_le']
    _ = countFrom profile (item.moved root') root'.line
          ((lines.drop (item.root.line - 1)).take height) := by
        rw [countFrom_take height last', same]
    _ = countFrom profile item item.root.line ((lines.drop (item.root.line - 1)).take height) := by
        rw [place, countFrom_moved]
    _ = countFrom profile item 1 lines := by
        rw [← countFrom_take height last, ← top one_le, ← countFrom_drop (item.root.line - 1) (by omega)]

end LiveLint.LogicalLine

/-! ## What is found in a root that was moved -/

namespace LiveLint

theorem SourceRange.shifted_zero (r : SourceRange) : r.shifted 0 = r := by
  unfold shifted
  rw [Int.add_zero, Int.add_zero]

theorem Match.shifted_zero (m : Match) : m.shifted 0 = m := by
  unfold shifted
  rw [SourceRange.shifted_zero]

/-- Two roots look alike in their trees: they have the same index, the arenas agree up to it, and the
nodes below lie on lines that are the same in both texts. -/
structure Subject.Alike (s s' : Subject) (root root' : Root) : Prop where
  profile : s'.profile = s.profile
  index : root'.index = root.index
  nodes : ∀ i, i ≤ root.index → s'.arena.get? i = s.arena.get? i
  one_le : 1 ≤ root.line
  one_le' : 1 ≤ root'.line
  region : ∃ (height : Nat) (reached : Nat → Prop), s.arena.Subtree root.index height reached ∧
    (s'.lines.drop (root'.line - 1)).take height = (s.lines.drop (root.line - 1)).take height

/-- How a search in one root finds its matches. -/
abbrev Find := Settings → Subject → Root → List Match

/-- A search finds the same matches in roots that look alike, moved from one to the other. -/
def Find.Moves (find : Find) : Prop :=
  ∀ settings s s' root root', s.Alike s' root root' →
    find settings s' root' = (find settings s root).map (·.shifted ((root'.line : Int) - root.line))

/-- A report on placed nodes moves with the root if that is so for each node. -/
theorem moves_perNode {report : Settings → Subject → Placed → Option Match}
    (each : ∀ settings s s' root root', s.Alike s' root root' →
      ∀ (height : Nat) (reached : Nat → Prop), s.arena.Subtree root.index height reached →
        (s'.lines.drop (root'.line - 1)).take height = (s.lines.drop (root.line - 1)).take height →
        ∀ item : Placed, item.Below s.arena root reached →
          report settings s' (item.moved root') =
            (report settings s item).map (·.shifted ((root'.line : Int) - root.line))) :
    Find.Moves fun settings s root => (s.arena.walkRoot root).filterMap (report settings s) := by
  intro settings s s' root root' alike
  obtain ⟨height, reached, subtree, lines⟩ := alike.region
  dsimp only
  rw [Arena.walkRoot_moved subtree alike.index alike.nodes, List.filterMap_map, List.map_filterMap]
  refine List.filterMap_congr ?_
  intro item member
  exact each settings s s' root root' alike height reached subtree lines item
    (Arena.below_of_mem_walkRoot subtree member)

namespace Query

theorem range_moved (item : Placed) (root' : Root) :
    (item.moved root').range = item.range.shifted ((root'.line : Int) - item.root.line) :=
  rfl

/-- A report that looks at nothing but a node, its ancestors and its range moves with the root. -/
theorem moves_of_node (test : Settings → Node → List NodeKind → Bool)
    (make : Settings → Node → SourceRange → Match)
    (shifted : ∀ settings node range delta,
      make settings node (range.shifted delta) = (make settings node range).shifted delta) :
    Find.Moves fun settings s root => (s.arena.walkRoot root).filterMap fun item =>
      if test settings item.node item.ancestors then some (make settings item.node item.range)
      else none := by
  refine moves_perNode ?_
  intro settings s s' root root' _ height reached _ _ item below
  have there := shifted settings item.node item.range ((root'.line : Int) - item.root.line)
  rw [← range_moved, below.root_eq] at there
  show (if test settings item.node item.ancestors then some (make settings item.node _) else none) = _
  rw [there]
  split <;> rfl

/-- The body of a function covers the same logical lines, wherever the function is placed. -/
theorem count_body_moved {s s' : Subject} {root root' : Root} (alike : s.Alike s' root root')
    {height : Nat} {reached : Nat → Prop} (subtree : s.arena.Subtree root.index height reached)
    (lines : (s'.lines.drop (root'.line - 1)).take height = (s.lines.drop (root.line - 1)).take height)
    {body : Placed} (below : body.Below s.arena root reached) :
    LogicalLine.count s'.profile s'.lines (body.moved root') =
      LogicalLine.count s.profile s.lines body := by
  have first := subtree.first body.index body.node below.within below.found
  have last := subtree.last body.index body.node below.within below.found
  have start := below.startLine
  have stop := below.endLine
  have one_le := alike.one_le
  rw [← below.root_eq] at lines start stop one_le
  rw [alike.profile]
  exact LogicalLine.count_moved one_le alike.one_le' lines (by omega) (by omega)

theorem moves_longFunctionAt :
    Find.Moves fun settings s root => (s.arena.walkRoot root).filterMap (longFunctionAt settings s) := by
  refine moves_perNode ?_
  intro settings s s' root root' alike height reached subtree lines item below
  have range := range_moved item root'
  rw [below.root_eq] at range
  unfold longFunctionAt
  rw [Arena.bodyOf?_moved subtree alike.nodes below, range]
  show (if item.node.kind != .function then none else _) = _
  split
  · rfl
  · cases found : s.arena.bodyOf? item with
    | none => rfl
    | some body =>
      have count := count_body_moved alike subtree lines (Arena.below_of_bodyOf? subtree below found)
      simp only [Option.map_some]
      rw [count]
      show (if body.node.kind == .error || _ then none else _) = _
      split <;> rfl

/-- Loops are nested as deeply wherever they are placed. -/
theorem loopDepth_moved {a a' : Arena} {root root' : Root} {height : Int} {reached : Nat → Prop}
    (subtree : a.Subtree root.index height reached) (same : ∀ i, i ≤ root.index → a'.get? i = a.get? i)
    {body : Placed} (below : body.Below a root reached) :
    loopDepth a' (body.moved root') = loopDepth a body := by
  unfold loopDepth
  rw [Arena.walkBelow_moved subtree same below, ← List.map_cons, List.filter_map, List.map_map]
  rfl

theorem moves_nestedLoopAt :
    Find.Moves fun settings s root => (s.arena.walkRoot root).filterMap (nestedLoopAt settings s) := by
  refine moves_perNode ?_
  intro settings s s' root root' alike height reached subtree lines item below
  have range := range_moved item root'
  rw [below.root_eq] at range
  unfold nestedLoopAt
  rw [Arena.bodyOf?_moved subtree alike.nodes below, range]
  show (if item.node.kind != .loop then none else _) = _
  split
  · rfl
  · cases found : s.arena.bodyOf? item with
    | none => rfl
    | some body =>
      have depth : loopDepth s'.arena (body.moved root') = loopDepth s.arena body :=
        loopDepth_moved subtree alike.nodes (Arena.below_of_bodyOf? subtree below found)
      simp only [Option.map_some]
      rw [depth]
      split <;> rfl

/-- Every built-in search in one root, and the one for the functions, finds the same matches in roots that
look alike. -/
theorem moves_of_mem {query : Query} (member : query ∈ functionSpans :: builtIn) {find : Find}
    (search : query.search = .inRoot find) : find.Moves := by
  simp only [builtIn, List.mem_cons, List.not_mem_nil, or_false] at member
  rcases member with rfl | rfl | rfl | rfl | rfl | rfl | rfl | rfl
  · cases search
    exact moves_of_node (fun _ node _ => node.kind == .function)
      (fun _ node range =>
        { kind := "function-spans", range, severity := .low, metadata := [("name", .text node.name)] })
      fun _ _ _ _ => rfl
  · cases search
    exact moves_longFunctionAt
  · cases search
    exact moves_of_node (fun _ node ancestors => node.kind == .number && !inDeclaration ancestors)
      (fun _ node range =>
        { kind := "magic-number", range, severity := .low, metadata := [("value", .text node.value)] })
      fun _ _ _ _ => rfl
  · cases search
    exact moves_nestedLoopAt
  · cases search
  · cases search
    exact moves_of_node
      (fun settings node _ =>
        node.kind == .function && settings.maxParameters.lt (.int node.paramCount))
      (fun settings node range =>
        { kind := "long-parameter-list", range, severity := .medium,
          metadata :=
            [("name", .text node.name), ("parameters", .int node.paramCount),
              ("limit", .ofNumber settings.maxParameters)] })
      fun _ _ _ _ => rfl
  · cases search
    exact moves_of_node (fun _ node _ => node.kind == .call)
      (fun _ node range =>
        { kind := "eval-usage", range, severity := .high, metadata := [("callee", .text node.name)] })
      fun _ _ _ _ => rfl
  · cases search
    exact moves_of_node (fun _ node _ => node.kind == .comparison)
      (fun _ node range =>
        { kind := "loose-equality", range, severity := .low,
          metadata := [("operator", .text node.value)] })
      fun _ _ _ _ => rfl

end Query

end LiveLint
