import LiveLint.Detect.Queries
import LiveLint.Proofs.Parse.ShapedArenas
import LiveLint.Proofs.Tree.Descents
import Mathlib.Order.Bounds.Defs

/-!
# Nested loops

How deeply loops are nested in a loop is computed from the ancestors that a walk below its body carries along. It is
one more than the largest number of loops on a way down from the body, the body included.
-/

namespace LiveLint

namespace Arena

def loopsOn (a : Arena) (path : List Nat) : Nat := path.countP (a.kind · == .loop)

/-- One more than the number of loops on a way down from a node, for each such way. -/
def depths (a : Arena) (i : Nat) : Set Nat := {n | ∃ path, a.Descent i path ∧ n = 1 + a.loopsOn path}

variable {a : Arena}

theorem loopsOn_append (path path' : List Nat) : a.loopsOn (path ++ path') = a.loopsOn path + a.loopsOn path' :=
  List.countP_append

theorem loopsOn_loop {i : Nat} (loop : a.kind i = .loop) : a.loopsOn [i] = 1 :=
  List.countP_singleton.trans (if_pos (beq_iff_eq.2 loop))

/-- Kinds of nodes that were collected on the way down. -/
theorem count_loop_map_kind (path : List Nat) : (path.map a.kind).reverse.count .loop = a.loopsOn path := by
  rw [List.count_reverse, List.count_eq_countP, List.countP_map]
  rfl

namespace Descent

/-- A way down to a node leads on to everything below the node. -/
theorem exists_of_reaches (shaped : a.TreeShaped) {i j : Nat} {path : List Nat} (reaches : a.Reaches i j)
    (below : a.Descent j path) : ∃ path', a.Descent i path' ∧ a.loopsOn path ≤ a.loopsOn path' := by
  induction reaches with
  | self => exact ⟨path, below, Nat.le_refl _⟩
  | @child i c j node found member _ ih =>
    obtain ⟨path', below', le⟩ := ih below
    have readable : node.kind ≠ .error := fun error => by
      rw [shaped.leaves i node found error] at member
      cases member
    refine ⟨i :: path', .step found readable member below', Nat.le_trans le ?_⟩
    exact (List.sublist_cons_self i path').countP_le

/-- A way down with loops on it has as many up to the last one. -/
theorem exists_to_last_loop {i : Nat} {path : List Nat} (down : a.Descent i path) (loops : 0 < a.loopsOn path) :
    ∃ front j, a.Descent i (front ++ [j]) ∧ a.kind j = .loop ∧ a.loopsOn (front ++ [j]) = a.loopsOn path := by
  induction down with
  | stop i =>
    obtain ⟨j, member, loop⟩ := List.countP_pos_iff.1 loops
    rw [List.mem_singleton] at member
    subst member
    exact ⟨[], j, .stop j, beq_iff_eq.1 loop, rfl⟩
  | @step i c node path found readable child below ih =>
    have split : a.loopsOn (i :: path) = a.loopsOn [i] + a.loopsOn path := loopsOn_append [i] path
    by_cases more : 0 < a.loopsOn path
    · obtain ⟨front, j, down, loop, same⟩ := ih more
      refine ⟨i :: front, j, .step found readable child down, loop, ?_⟩
      rw [split, ← same]
      exact loopsOn_append [i] (front ++ [j])
    · have loop : a.kind i = .loop := by
        by_contra other
        have none : a.loopsOn [i] = 0 := List.countP_singleton.trans (if_neg fun loop => other (beq_iff_eq.1 loop))
        omega
      refine ⟨[], i, .stop i, loop, ?_⟩
      rw [List.nil_append, split]
      omega

end Descent

end Arena

/-! ## Depth -/

namespace Query

variable {a : Arena} {body item : Placed}

/-- The body and what a walk meets below it. -/
theorem body_cons_walkBelow (shaped : a.TreeShaped)
    (placed : a.place? body.root ⟨body.index, body.ancestors⟩ = some body) :
    body :: a.walkBelow body = (a.visits true [⟨body.index, body.ancestors⟩]).filterMap (a.place? body.root) := by
  rw [Arena.visits_cons]
  split
  · next cut =>
    obtain ⟨-, -, -, found⟩ := Arena.place?_eq placed
    rw [Arena.cuts, Arena.kind_of_get? found] at cut
    have leaf := shaped.leaves _ _ found (beq_iff_eq.1 cut)
    have nothing : a.pendingBelow ⟨body.index, body.ancestors⟩ = [] := by
      rw [Arena.pendingBelow, shaped.formed.childrenBelow_eq found, leaf]
      rfl
    rw [Arena.walkBelow, nothing, List.filterMap_cons_some placed]
  · rw [List.append_nil, List.filterMap_cons_some placed]
    rfl

/-- The nodes at and below a body are the ends of the ways down from it, with the kinds before the end as ancestors. -/
theorem mem_nest_iff (shaped : a.TreeShaped)
    (placed : a.place? body.root ⟨body.index, body.ancestors⟩ = some body) :
    item ∈ body :: a.walkBelow body ↔ ∃ path, a.Descent body.index (path ++ [item.index]) ∧
      a.place? body.root ⟨item.index, (path.map a.kind).reverse ++ body.ancestors⟩ = some item := by
  rw [body_cons_walkBelow shaped placed, List.mem_filterMap]
  constructor
  · rintro ⟨w, met, here⟩
    obtain ⟨v, among, path, down, ancestors⟩ := (Arena.mem_visits_iff shaped.formed).1 met
    rw [List.mem_singleton.1 among] at down ancestors
    obtain ⟨index, -⟩ := Arena.place?_eq here
    refine ⟨path, index ▸ down, ?_⟩
    rw [index, ← ancestors]
    exact here
  · rintro ⟨path, down, here⟩
    exact ⟨_, (Arena.mem_visits_iff shaped.formed).2 ⟨_, List.mem_singleton_self _, path, down, rfl⟩, here⟩

/-- A loop at the end of a way down counts with all loops on the way. -/
theorem nesting_eq {path : List Nat} (loop : item.node.kind = .loop)
    (here : a.place? body.root ⟨item.index, (path.map a.kind).reverse ++ body.ancestors⟩ = some item) :
    nesting body item = 1 + a.loopsOn (path ++ [item.index]) := by
  obtain ⟨-, ancestors, -, found⟩ := Arena.place?_eq here
  rw [nesting, ancestors, List.length_append, Nat.add_sub_cancel, List.take_left, Arena.count_loop_map_kind,
    Arena.loopsOn_append, Arena.loopsOn_loop ((Arena.kind_of_get? found).trans loop)]
  omega

/-- The depth of a loop is one more than the largest number of loops on a way down from its body. -/
theorem loopDepth_isGreatest (shaped : a.TreeShaped)
    (placed : a.place? body.root ⟨body.index, body.ancestors⟩ = some body) :
    IsGreatest (a.depths body.index) (loopDepth a body) := by
  have greatest : (1 :: ((body :: a.walkBelow body).filter (·.node.kind == .loop)).map (nesting body)).max? =
      some (loopDepth a body) := List.max?_cons'
  obtain ⟨among, above⟩ := List.max?_eq_some_iff.1 greatest
  have upper (path : List Nat) (down : a.Descent body.index path) : 1 + a.loopsOn path ≤ loopDepth a body := by
    by_cases loops : 0 < a.loopsOn path
    · obtain ⟨front, j, down', loop, same⟩ := down.exists_to_last_loop loops
      have inside : a.get? j ≠ none := fun outside => by
        rw [Arena.kind, outside] at loop
        cases loop
      obtain ⟨node, found⟩ := Option.ne_none_iff_exists'.1 inside
      obtain ⟨item, here⟩ : ∃ item, a.place? body.root ⟨j, (front.map a.kind).reverse ++ body.ancestors⟩ = some item :=
        ⟨_, congrArg (Option.map _) found⟩
      obtain ⟨rfl, -, -, found'⟩ := Arena.place?_eq here
      have kind : item.node.kind = .loop := (Arena.kind_of_get? found').symm.trans loop
      have member := (mem_nest_iff shaped placed).2 ⟨front, down', here⟩
      rw [← same, ← nesting_eq kind here]
      refine above _ (List.mem_cons_of_mem _ (List.mem_map_of_mem (List.mem_filter.2 ⟨member, ?_⟩)))
      exact beq_iff_eq.2 kind
    · exact Nat.le_trans (by omega) (above 1 List.mem_cons_self)
  refine ⟨?_, ?_⟩
  · rcases List.mem_cons.1 among with one | among
    · have least := upper _ (.stop body.index)
      exact ⟨_, .stop _, by omega⟩
    · obtain ⟨item, loop, same⟩ := List.mem_map.1 among
      obtain ⟨member, kind⟩ := List.mem_filter.1 loop
      obtain ⟨path, down, here⟩ := (mem_nest_iff shaped placed).1 member
      exact ⟨_, down, same.symm.trans (nesting_eq (beq_iff_eq.1 kind) here)⟩
  · rintro n ⟨path, down, rfl⟩
    exact upper path down

/-! ## What is reported -/

/-- A loop with the depth of the loops in its body, if there are any. -/
def nest? (a : Arena) (item : Placed) : Option (Placed × Nat) :=
  if item.node.kind = .loop then
    ((a.bodyOf? item).map (loopDepth a)).filter (2 ≤ ·) |>.map fun depth => (item, depth)
  else none

def nestMatch (nest : Placed × Nat) : Match where
  kind := "nested-loop"
  range := nest.1.range
  severity := if 3 ≤ nest.2 then .high else .medium
  metadata := [("depth", .int nest.2)]

theorem nestedLoopAt_eq (settings : Settings) (s : Subject) (item : Placed) :
    nestedLoopAt settings s item = (nest? s.arena item).map nestMatch := by
  unfold nestedLoopAt nest?
  by_cases loop : item.node.kind = .loop
  · rw [if_neg (by rw [loop]; decide), if_pos loop]
    cases s.arena.bodyOf? item with
    | none => rfl
    | some body =>
      dsimp only
      rw [Option.map_some, Option.filter_some]
      by_cases shallow : loopDepth s.arena body < 2
      · rw [if_pos shallow, if_neg (by rw [decide_eq_true_iff]; omega)]
        rfl
      · have deep : decide (2 ≤ loopDepth s.arena body) = true := decide_eq_true (by omega)
        rw [if_neg shallow, if_pos deep]
        rfl
  · rw [if_pos (bne_iff_ne.2 loop), if_neg loop]
    rfl

theorem nest?_eq_some_iff {nest : Placed × Nat} :
    nest? a item = some nest ↔ nest.1 = item ∧ item.node.kind = .loop ∧
      ∃ body, a.bodyOf? item = some body ∧ nest.2 = loopDepth a body ∧ 2 ≤ nest.2 := by
  obtain ⟨item', depth⟩ := nest
  unfold nest?
  by_cases loop : item.node.kind = .loop
  · rw [if_pos loop, Option.map_eq_some_iff]
    constructor
    · rintro ⟨depth', deep, same⟩
      cases same
      obtain ⟨found, enough⟩ := Option.filter_eq_some_iff.1 deep
      obtain ⟨body, at_body, rfl⟩ := Option.map_eq_some_iff.1 found
      exact ⟨rfl, loop, body, at_body, rfl, decide_eq_true_iff.1 enough⟩
    · rintro ⟨rfl, -, body, at_body, rfl, deep⟩
      rw [at_body]
      exact ⟨_, Option.filter_eq_some_iff.2 ⟨rfl, decide_eq_true deep⟩, rfl⟩
  · rw [if_neg loop]
    exact iff_of_false nofun fun found => loop found.2.1

/-- The body of a node that a walk meets is a child of the node and can be placed. -/
theorem exists_bodyOf? (formed : a.WellFormed) (found : a.get? item.index = some item.node) {b : Nat}
    (named : item.node.body = some b) :
    b ∈ item.node.children ∧ ∃ body, a.bodyOf? item = some body ∧ body.index = b ∧
      a.place? body.root ⟨body.index, body.ancestors⟩ = some body := by
  have fits := formed item.index item.node found
  have child := fits.body b named
  have inside : b < a.nodes.size :=
    Nat.lt_trans (fits.children b child).2 (Arena.lt_size_of_get? found)
  obtain ⟨body, placed⟩ : ∃ body, a.place? item.root ⟨b, item.node.kind :: item.ancestors⟩ = some body :=
    ⟨_, congrArg (Option.map _) (Array.getElem?_eq_getElem inside)⟩
  obtain ⟨rfl, ancestors, root, -⟩ := Arena.place?_eq placed
  refine ⟨child, body, ?_, rfl, ?_⟩
  · rw [Arena.bodyOf?, named]
    exact placed
  · rw [ancestors, root]
    exact placed

/-- Below a loop stands what can be reached from its body, and the loops there nest less deeply. -/
theorem depth_lt_of_reaches (shaped : a.TreeShaped) {inner : Placed} {b b' depth depth' : Nat}
    (found : a.get? inner.index = some inner.node) (loop : inner.node.kind = .loop)
    (named : inner.node.body = some b') (reaches : a.Reaches b inner.index)
    (greatest : IsGreatest (a.depths b) depth)
    (greatest' : IsGreatest (a.depths b') depth') : depth' < depth := by
  obtain ⟨path, down, rfl⟩ := greatest'.1
  have child := (shaped.formed inner.index inner.node found).body b' named
  have entered : a.Descent inner.index (inner.index :: path) := .step found (by rw [loop]; decide) child down
  obtain ⟨whole, down', le⟩ := entered.exists_of_reaches shaped reaches
  have here : a.loopsOn (inner.index :: path) = 1 + a.loopsOn path := by
    rw [← List.singleton_append, Arena.loopsOn_append, Arena.loopsOn_loop ((Arena.kind_of_get? found).trans loop)]
  have bound : 1 + a.loopsOn whole ≤ depth := greatest.2 ⟨whole, down', rfl⟩
  omega

/-- What is reported stands in the order of the walk. -/
theorem sublist_nests (a : Arena) (items : List Placed) :
    ((items.filterMap (nest? a)).map (·.1)).Sublist items := by
  induction items with
  | nil => exact .slnil
  | cons item rest ih =>
    rw [List.filterMap_cons]
    cases is_nest : nest? a item with
    | none => exact ih.cons _
    | some nest =>
      rw [List.map_cons, (nest?_eq_some_iff.1 is_nest).1]
      exact ih.cons_cons _

end Query

/-- Whatever trees a parser made: the loops that are reported in a tree are the loops of its walk, once each and in its
order, that have a loop on a way down from their body, the body included. The depth that is reported is one more than
the largest number of loops on such a way. It is less for a loop below the body of another one, and serious from
three on. -/
theorem ParseLog.nests_by_height (grammars : Grammars) (maxNodes : Int) (calls : List ParseCall) :
    let l := (start grammars maxNodes).run calls
    ∃ find, Query.nestedLoop.search = .inRoot find ∧ ∀ t ∈ l.trees, ∀ settings : Settings,
      let a := l.parser.arena t.arena
      ∃ nests : List (Placed × Nat),
        t.roots.flatMap (find settings { tree := t, arena := a }) = nests.map Query.nestMatch ∧
        (nests.map (·.1)).Sublist (t.walk a) ∧ (nests.map (·.1.index)).Nodup ∧
        (∀ item ∈ t.walk a, item ∈ nests.map (·.1) ↔ item.node.kind = .loop ∧
          ∃ b, item.node.body = some b ∧ ∃ path, a.Descent b path ∧ 0 < a.loopsOn path) ∧
        ∀ nest ∈ nests, ∃ b, nest.1.node.body = some b ∧
          IsGreatest (a.depths b) nest.2 ∧
          ((Query.nestMatch nest).severity = .high ↔ 3 ≤ nest.2) ∧
          ∀ inner ∈ nests, a.Reaches b inner.1.index → inner.2 < nest.2 := by
  intro l
  refine ⟨_, rfl, ?_⟩
  intro t member settings a
  have shaped : a.TreeShaped := treeShaped_run grammars maxNodes calls t.arena
  have apart : t.Apart a := ((sound_start grammars maxNodes).run calls).tree_apart member
  have found {item : Placed} (met : item ∈ t.walk a) : a.get? item.index = some item.node :=
    (Arena.place?_eq (Arena.place?_of_mem_walk met)).2.2.2
  -- What is known of a loop that is reported.
  have nest_spec {nest : Placed × Nat} (among : nest ∈ (t.walk a).filterMap (Query.nest? a)) :
      nest.1 ∈ t.walk a ∧ nest.1.node.kind = .loop ∧ 2 ≤ nest.2 ∧ ∃ b, nest.1.node.body = some b ∧
        IsGreatest (a.depths b) nest.2 := by
    obtain ⟨item, met, is_nest⟩ := List.mem_filterMap.1 among
    obtain ⟨rfl, loop, body, at_body, depth, deep⟩ := Query.nest?_eq_some_iff.1 is_nest
    obtain ⟨b, named, -⟩ := Option.bind_eq_some_iff.1 at_body
    obtain ⟨-, body', at_body', rfl, placed⟩ := Query.exists_bodyOf? shaped.formed (found met) named
    cases at_body.symm.trans at_body'
    exact ⟨met, loop, deep, _, named, depth ▸ Query.loopDepth_isGreatest shaped placed⟩
  have kept := Query.sublist_nests a (t.walk a)
  refine ⟨(t.walk a).filterMap (Query.nest? a), ?_, kept, ?_, fun item met => ?_, fun nest among => ?_⟩
  · rw [List.map_filterMap, Tree.walk, List.filterMap_flatMap]
    simp only [Query.nestedLoopAt_eq]
  · have indices := (Tree.nodup_walk shaped apart true).sublist (kept.map (·.index))
    rwa [List.map_map] at indices
  · constructor
    · intro reported
      obtain ⟨nest, among, rfl⟩ := List.mem_map.1 reported
      obtain ⟨-, loop, deep, b, named, ⟨path, down, same⟩, -⟩ := nest_spec among
      exact ⟨loop, b, named, path, down, by omega⟩
    · rintro ⟨loop, b, named, path, down, loops⟩
      obtain ⟨-, body, at_body, rfl, placed⟩ := Query.exists_bodyOf? shaped.formed (found met) named
      have enough : 1 + a.loopsOn path ≤ Query.loopDepth a body :=
        (Query.loopDepth_isGreatest shaped placed).2 ⟨path, down, rfl⟩
      refine List.mem_map.2 ⟨(item, Query.loopDepth a body), List.mem_filterMap.2 ⟨item, met, ?_⟩, rfl⟩
      exact Query.nest?_eq_some_iff.2 ⟨rfl, loop, body, at_body, rfl, by dsimp only; omega⟩
  · obtain ⟨met, -, -, b, named, greatest⟩ := nest_spec among
    refine ⟨b, named, greatest, ?_, fun inner among' reaches => ?_⟩
    · unfold Query.nestMatch
      dsimp only
      split
      · next deep => exact iff_of_true rfl deep
      · next shallow => exact iff_of_false nofun shallow
    · obtain ⟨met', loop', -, b', named', greatest'⟩ := nest_spec among'
      exact Query.depth_lt_of_reaches shaped (found met') loop' named' reaches greatest greatest'

/-- Two loops in each other's body in the body of a third one, and one more behind something unreadable. -/
def ParseLog.threeLoops : NativeNode :=
  .mk "module" true 0 9 ⟨0, 0⟩ ⟨0, 9⟩ none false
    [loop 1 none (node "block" 2 (some "body") [loop 3 none (loop 4 (some "body")
      (node "block" 5 (some "body") [node "ERROR" 6 none [loop 7 none (node "block" 8 (some "body") [])]]))])]
where
  node (type : String) (start : Nat) (field : Option String) (children : List NativeNode) : NativeNode :=
    .mk type true start 9 ⟨0, start⟩ ⟨0, 9⟩ field false children
  loop (start : Nat) (field : Option String) (body : NativeNode) : NativeNode :=
    node "for_statement" start field [body]

/-- A call that reads them, with a native parser for the language. -/
def ParseLog.readsThreeLoops : ParseCall where
  revision := ⟨"a", "python", 1, "x", [], 0, none, 1⟩
  reply := .tree threeLoops true

/-- The outermost of the three loops is reported as serious, the one in its body is not, and the innermost is not
reported. -/
theorem ParseLog.nests_by_height_three_loops :
    let l := (start { installed := [("python", .named)] } 200000).run [readsThreeLoops]
    ∃ t ∈ l.trees, ∃ nests : List (Placed × Nat),
      (nests.map Query.nestMatch).map (·.severity) = [.high, .medium] ∧
      ∀ nest ∈ nests, ∃ b, nest.1.node.body = some b ∧
        IsGreatest ((l.parser.arena t.arena).depths b) nest.2 := by
  intro l
  obtain ⟨find, search, spec⟩ :=
    nests_by_height { installed := [("python", .named)] } 200000 [readsThreeLoops]
  cases search
  obtain ⟨nests, reported, -, -, -, depths⟩ := spec _ (List.mem_singleton_self _) {}
  refine ⟨_, List.mem_singleton_self _, nests, ?_, fun nest among => ?_⟩
  · rw [← reported]
    decide +kernel
  · obtain ⟨b, named, greatest, -⟩ := depths nest among
    exact ⟨b, named, greatest⟩

end LiveLint
