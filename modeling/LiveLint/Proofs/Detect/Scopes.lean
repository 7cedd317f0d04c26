import LiveLint.Proofs.Detect.ErrorSpans
import LiveLint.Proofs.Detect.Identities
import LiveLint.Proofs.Scan.Starts
import LiveLint.Proofs.Tree.Trails

/-!
# Scopes and trees

A scope is told from ranges: it names the functions whose range holds the start of an occurrence. The tree is told
from the order of the drafts. The two agree on a node unless a function gets in the way: one that ends where the node
begins, one that ends in the middle of the node or of something in front of it, or another node of the same range.
-/

namespace LiveLint

namespace SourceRange

def BeginsBy (r s : SourceRange) : Prop := placeLe r.startLine r.startCol s.startLine s.startCol = true

def EndsBy (r s : SourceRange) : Prop := placeLe r.endLine r.endCol s.endLine s.endCol = true

instance (r s : SourceRange) : Decidable (r.BeginsBy s) := inferInstanceAs (Decidable (_ = true))

instance (r s : SourceRange) : Decidable (r.EndsBy s) := inferInstanceAs (Decidable (_ = true))

theorem placeLe_iff {line col line' col' : Int} :
    placeLe line col line' col' = true ↔ line < line' ∨ line = line' ∧ col ≤ col' := by
  unfold placeLe
  rw [Bool.or_eq_true, Bool.and_eq_true, decide_eq_true_eq, decide_eq_true_eq, beq_iff_eq]

end SourceRange

namespace Draft

variable {d e : Draft}

theorem placeLe_eq (p q : Position) : SourceRange.placeLe p.line p.col q.line q.col = p.le q := by
  rw [Bool.eq_iff_iff, SourceRange.placeLe_iff, Position.le_iff]
  omega

theorem range_eq_iff : d.range = e.range ↔ d.span = e.span := by
  obtain ⟨⟨kind, type, ⟨⟨l, c⟩, ⟨l', c'⟩⟩, name, value, count⟩, id, body⟩ := d
  obtain ⟨⟨_, _, ⟨⟨m, k⟩, ⟨m', k'⟩⟩, _, _, _⟩, _, _⟩ := e
  simp [range, Span.mk.injEq, Position.mk.injEq]
  omega

theorem beginsBy_iff : d.range.BeginsBy e.range ↔ d.span.start.le e.span.start = true := by
  unfold SourceRange.BeginsBy range
  rw [placeLe_eq]

theorem endsBy_iff : d.range.EndsBy e.range ↔ d.span.stop.le e.span.stop = true := by
  unfold SourceRange.EndsBy range
  rw [placeLe_eq]

theorem holdsStartOf_iff : d.range.holdsStartOf e.range = true ↔
    d.span.start.le e.span.start = true ∧ e.span.start.le d.span.stop = true := by
  unfold SourceRange.holdsStartOf range
  rw [Bool.and_eq_true, placeLe_eq, placeLe_eq]

end Draft

/-! ## Functions around a draft -/

namespace Forest

/-- A function whose span holds the start of a draft holds the draft as well, and everything that begins behind the
function and no later than the draft. It does not share the span of the draft. -/
structure Settles (ds : List Draft) (f d : Draft) : Prop where
  apart : f.span ≠ d.span
  holds : d.span.stop.le f.span.stop = true
  between : ∀ m ∈ ds, ¬m.span.start.le f.span.start = true → m.span.start.le d.span.start = true →
    m.span.stop.le f.span.stop = true

def scopes (d f : Draft) : Bool :=
  f.kind == .function && (f.range != d.range && f.range.holdsStartOf d.range)

theorem scopes_iff {d f : Draft} : scopes d f = true ↔ f.kind = .function ∧ f.span ≠ d.span ∧
    f.span.start.le d.span.start = true ∧ d.span.start.le f.span.stop = true := by
  unfold scopes
  rw [Bool.and_eq_true, Bool.and_eq_true, beq_iff_eq, bne_iff_ne, Ne, Draft.range_eq_iff, Draft.holdsStartOf_iff]

variable {ds front back : List Draft} {d : Draft}

/-- A function settled around a draft is one that holds all there is from it to the draft. -/
theorem scopes_iff_holds {f : Draft} {rest : List Draft} (among : ∀ g ∈ rest, g ∈ ds)
    (sorted : (f :: (rest ++ [d])).Pairwise fun x y => x.span.start.le y.span.start = true ∧
      (x.span.start = y.span.start → y.span.stop.le x.span.stop = true))
    (forward : d.span.Forward)
    (clear : f.kind = .function → f.span.start.le d.span.start = true → d.span.start.le f.span.stop = true →
      Settles ds f d) :
    scopes d f = true ↔ f.kind = .function ∧ ∀ g ∈ rest ++ [d], f.span.contains g.span = true := by
  obtain ⟨first, sorted⟩ := List.pairwise_cons.1 sorted
  obtain ⟨begins, -⟩ := first d (List.mem_append_right _ (List.mem_singleton_self d))
  rw [scopes_iff]
  constructor
  · rintro ⟨function, -, -, reaches⟩
    obtain ⟨-, holds, between⟩ := clear function begins reaches
    refine ⟨function, fun g member => Span.contains_iff.2 ⟨(first g member).1, ?_⟩⟩
    rcases List.mem_append.1 member with before | last
    · by_cases tie : g.span.start.le f.span.start = true
      · exact (first g member).2 (Position.le_antisymm (first g member).1 tie)
      · refine between g (among g before) tie ?_
        exact ((List.pairwise_append.1 sorted).2.2 g before d (List.mem_singleton_self d)).1
    · rw [List.mem_singleton.1 last]
      exact holds
  · rintro ⟨function, holds⟩
    have reaches : d.span.start.le f.span.stop = true :=
      Position.le_trans forward (Span.contains_iff.1 (holds d (List.mem_append_right _ (List.mem_singleton_self d)))).2
    exact ⟨function, (clear function begins reaches).apart, begins, reaches⟩

/-- Of the drafts in front, the functions that lie around a draft are those that hold its start. -/
theorem filter_around (among : ∀ g ∈ front, g ∈ ds)
    (sorted : (front ++ [d]).Pairwise fun x y => x.span.start.le y.span.start = true ∧
      (x.span.start = y.span.start → y.span.stop.le x.span.stop = true))
    (forward : d.span.Forward)
    (clear : ∀ f ∈ front, f.kind = .function → f.span.start.le d.span.start = true →
      d.span.start.le f.span.stop = true → Settles ds f d) :
    front.filter (scopes d) = (around d front).filter (·.kind == .function) := by
  induction front with
  | nil => rfl
  | cons f rest ih =>
    have behind : ∀ g ∈ rest, g ∈ ds := fun g member => among g (List.mem_cons_of_mem f member)
    have here := scopes_iff_holds behind sorted forward (clear f List.mem_cons_self)
    have later := ih behind (List.pairwise_cons.1 sorted).2 fun g member => clear g (List.mem_cons_of_mem f member)
    by_cases function : f.kind = .function
    · have readable : f.isError = false := by rw [Draft.isError, function]; rfl
      by_cases holds : ∀ g ∈ rest ++ [d], f.span.contains g.span = true
      · rw [List.filter_cons_of_pos (here.2 ⟨function, holds⟩), later, Forest.around, if_pos,
          List.filter_cons_of_pos (by exact beq_iff_eq.2 function)]
        rw [Bool.and_eq_true, List.all_eq_true, readable]
        exact ⟨rfl, holds⟩
      · rw [List.filter_cons_of_neg fun around => holds (here.1 around).2, later, around, if_neg]
        rw [Bool.and_eq_true, List.all_eq_true]
        exact fun all => holds all.2
    · rw [List.filter_cons_of_neg fun around => function (here.1 around).1, later, around]
      split
      · rw [List.filter_cons_of_neg (by exact fun other => function (beq_iff_eq.1 other))]
      · rfl

/-- The functions that hold the start of a draft are those around it, unless one gets in the way. -/
theorem filter_scopes (split : ds = front ++ d :: back)
    (sorted : ds.Pairwise fun x y => x.span.start.le y.span.start = true ∧
      (x.span.start = y.span.start → y.span.stop.le x.span.stop = true))
    (forward : d.span.Forward)
    (clear : ∀ f ∈ front ++ back, f.kind = .function → f.span.start.le d.span.start = true →
      d.span.start.le f.span.stop = true → Settles ds f d) :
    ds.filter (scopes d) = (around d front).filter (·.kind == .function) := by
  have inside : ∀ g ∈ front, g ∈ ds := fun g member => split ▸ List.mem_append_left _ member
  have upTo : (front ++ [d]).Sublist ds := by
    rw [split]
    exact List.Sublist.append_left (List.cons_sublist_cons.2 (List.nil_sublist back)) front
  have unscoped : ∀ g ∈ d :: back, ¬scopes d g = true := by
    intro g member around
    obtain ⟨function, other, begins, reaches⟩ := scopes_iff.1 around
    rcases List.mem_cons.1 member with rfl | behind
    · exact other rfl
    · -- What begins no later than the draft and stands behind it begins where it begins, and ends with it.
      obtain ⟨later, tie⟩ := List.rel_of_pairwise_cons (List.pairwise_append.1 (split ▸ sorted)).2.1 behind
      have same : d.span.start = g.span.start := Position.le_antisymm later begins
      have holds := (clear g (List.mem_append_right _ behind) function begins reaches).holds
      have ends : d.span.stop = g.span.stop := Position.le_antisymm holds (tie same)
      exact other (show Span.mk g.span.start g.span.stop = Span.mk d.span.start d.span.stop by rw [same, ends])
  rw [← filter_around inside (sorted.sublist upTo) forward fun f member => clear f (List.mem_append_left _ member),
    split, List.filter_append, List.filter_eq_nil_iff.2 unscoped, List.append_nil]

end Forest

/-! ## Functions with their names -/

namespace Query

/-- No function is met in a top-level node that is an error. -/
theorem no_function_of_error {a : Arena} {root : Root} (error : (a.kind root.index == .error) = true) :
    (a.walkRoot root).filter (·.node.kind == .function) = [] := by
  rw [List.filter_eq_nil_iff]
  intro item member function
  have cut : a.cuts true root.index = true := error
  unfold Arena.walkRoot at member
  rw [Arena.visits_cons, if_pos cut, Arena.visits] at member
  obtain ⟨v, only, placed⟩ := List.mem_filterMap.1 member
  rw [List.mem_singleton.1 only] at placed
  obtain ⟨node, found, rfl⟩ := Option.map_eq_some_iff.1 placed
  rw [Arena.kind_of_get? found, beq_iff_eq.1 function] at error
  cases error

/-- What is told of functions are the ranges and the names of those in the tree. -/
theorem functions_eq (settings : Settings) (s : Subject) :
    (functionSpans.findIn settings s).bind (·.mapM Detector.namedFunction) =
      .ok (((s.tree.walk s.arena).filter (·.node.kind == .function)).map fun item => (item.range, item.node.name)) := by
  have named (items : List Placed) : (items.filterMap fun item =>
        if item.node.kind == .function then
          some { kind := "function-spans", range := item.range, severity := .low,
                 metadata := [("name", .text item.node.name)] : Match }
        else none).mapM Detector.namedFunction =
      .ok ((items.filter (·.node.kind == .function)).map fun item => (item.range, item.node.name)) := by
    induction items with
    | nil => rfl
    | cons item rest ih =>
      by_cases function : (item.node.kind == .function) = true
      · rw [List.filterMap_cons_some (by rw [if_pos function]), List.mapM_cons, ih,
          List.filter_cons_of_pos (by exact function)]
        rfl
      · rw [List.filterMap_cons_none (by rw [if_neg function]), ih, List.filter_cons_of_neg (by exact function)]
  have walked : ((s.tree.roots.filter (s.arena.kind ·.index != .error)).flatMap fun root =>
        s.arena.walkRoot root).filter (·.node.kind == .function) =
      (s.tree.walk s.arena).filter (·.node.kind == .function) := by
    unfold Tree.walk
    rw [List.filter_flatMap, List.filter_flatMap]
    induction s.tree.roots with
    | nil => rfl
    | cons root rest ih =>
      rw [List.flatMap_cons, ← ih]
      by_cases error : (s.arena.kind root.index == .error) = true
      · rw [no_function_of_error error, List.nil_append, List.filter_cons_of_neg (by rw [bne, error]; simp)]
      · rw [List.filter_cons_of_pos (by rw [bne, Bool.not_eq_true', Bool.eq_false_iff]; exact error),
          List.flatMap_cons]
  rw [← walked, ← named, List.filterMap_flatMap]
  rfl

end Query

namespace Identity

/-- The dotted path of some names, outermost first. -/
def dotted : List String → String
  | [] => moduleScope
  | names => ".".intercalate names

theorem scope_eq_dotted (span : SourceRange) (functions : List NamedFunction) :
    scope span functions = dotted ((enclosing span functions).map (·.2)) := by
  unfold scope
  cases enclosing span functions <;> rfl

end Identity

namespace Outline

variable {profile : Profile} {text : List Char}

/-- The functions of an outline with their ranges and names. -/
def functions (ds : List Draft) : List Identity.NamedFunction :=
  (ds.filter (·.kind == .function)).map fun d => (d.range, d.name)

/-- The functions of an outline are in order as they are. -/
theorem pairwise_functions (profile : Profile) (text : List Char) :
    (functions (Forest.ordered (kept profile text))).Pairwise fun f g => Identity.functionLe f g = true := by
  have drafted {d : Draft} (member : d ∈ (Forest.ordered (kept profile text)).filter (·.kind == .function)) :
      d ∈ drafts profile text ∧ d.kind = .function := by
    obtain ⟨member, function⟩ := List.mem_filter.1 member
    exact ⟨mem_drafts_of_mem_kept (mem_kept_of_mem_ordered member), beq_iff_eq.1 function⟩
  have sorted := ((Forest.pairwise_ordered (kept profile text)).and (nodup_ordered profile text)).filter
    (·.kind == .function)
  unfold functions
  rw [List.pairwise_map]
  refine sorted.imp_of_mem ?_
  intro x y xIn yIn both
  obtain ⟨first, different⟩ := both
  obtain ⟨xIn, function⟩ := drafted xIn
  obtain ⟨yIn, function'⟩ := drafted yIn
  have before : x.span.start.le y.span.start = true := (Forest.comesFirst_iff.1 first).1
  have starts : x.span.start ≠ y.span.start := fun same =>
    different (eq_of_begins xIn yIn (Sketch.begins_iff.2 ⟨function, same⟩) (Sketch.begins_iff.2 ⟨function', rfl⟩))
  have apart : x.range ≠ y.range := fun same => starts (congrArg Span.start (Draft.range_eq_iff.1 same))
  have strictly : ¬y.span.start.le x.span.start = true := fun back => starts (Position.le_antisymm before back)
  rw [Position.le_iff] at before strictly
  unfold Identity.functionLe
  rw [if_neg (by rw [beq_iff_eq]; exact apart), SourceRange.le_iff]
  simp only [Draft.range]
  omega

/-- The functions around a draft, told from their ranges. -/
theorem names_enclosing (profile : Profile) (text : List Char) (d : Draft) :
    (Identity.enclosing d.range (functions (Forest.ordered (kept profile text)))).map (·.2) =
      ((Forest.ordered (kept profile text)).filter (Forest.scopes d)).map (·.name) := by
  unfold Identity.enclosing
  rw [List.mergeSort_of_pairwise (pairwise_functions profile text)]
  unfold functions Forest.scopes
  rw [List.filter_map, List.map_map, List.filter_filter]
  congr 1
  refine List.filter_congr fun f _ => ?_
  exact Bool.and_comm _ _

/-- The scope of a kept draft names the functions around it, unless one gets in the way. -/
theorem scope_eq {front back : List Draft} {d : Draft}
    (split : Forest.ordered (kept profile text) = front ++ d :: back) (readable : ¬d.isError = true)
    (clear : ∀ f ∈ front ++ back, f.kind = .function → f.span.start.le d.span.start = true →
      d.span.start.le f.span.stop = true → Forest.Settles (Forest.ordered (kept profile text)) f d) :
    Identity.scope d.range (functions (Forest.ordered (kept profile text))) =
      Identity.dotted (((Forest.around d front).filter (·.kind == .function)).map (·.name)) := by
  have member : d ∈ Forest.ordered (kept profile text) := by
    rw [split]
    exact List.mem_append_right _ List.mem_cons_self
  have forward := forward_of_mem_drafts (mem_drafts_of_mem_kept (mem_kept_of_mem_ordered member)) readable
  have sorted := (Forest.pairwise_ordered (kept profile text)).imp fun first =>
    And.intro (Forest.comesFirst_iff.1 first).1 fun same => ((Forest.comesFirst_iff.1 first).2 same).1
  rw [Identity.scope_eq_dotted, names_enclosing, Forest.filter_scopes split sorted forward clear]

end Outline

/-! ## Scopes in trees from scratch -/

namespace Arena

def functionNames (a : Arena) (path : List Nat) : List String :=
  path.filterMap fun i => ((a.get? i).filter (·.kind == .function)).map (·.name)

theorem functionNames_eq {a : Arena} {path : List Nat} {outer : List Draft}
    (made : List.Forall₂ a.MadeOf path outer) :
    a.functionNames path = (outer.filter (·.kind == .function)).map (·.name) := by
  unfold functionNames
  induction made with
  | nil => rfl
  | @cons i d path outer here _ ih =>
    obtain ⟨node, found, kind, name⟩ := here
    by_cases function : d.kind = .function
    · rw [List.filter_cons_of_pos (by exact beq_iff_eq.2 function), List.map_cons, ← ih, ← name]
      exact List.filterMap_cons_some (by rw [found, Option.filter_some_pos (by rw [kind, function]; rfl)]; rfl)
    · rw [List.filter_cons_of_neg (by exact fun other => function (beq_iff_eq.1 other)), ← ih]
      refine List.filterMap_cons_none ?_
      rw [found, Option.filter_some_neg (by rw [kind, beq_eq_false_iff_ne]; exact function)]
      rfl

end Arena

namespace Parser

variable {r : Revision} {profile : Profile}

/-- A walk from scratch meets the drafts that were kept, with their kinds, ranges and names. -/
theorem map_named_fromScratch (supported : Profile.find? r.language = some profile) :
    ((fromScratch r).tree.walk (fromScratch r).arena).map (fun p => ((p.node.kind, p.range), p.node.name)) =
      (Forest.ordered (Outline.kept profile r.text.toList)).map fun d => ((d.kind, d.range), d.name) := by
  have names : ((fromScratch r).tree.walk (fromScratch r).arena).map (·.node.name) =
      (Forest.ordered (Outline.kept profile r.text.toList)).map (·.name) := by
    rw [← Forest.map_trailsAll_build [] (Forest.ordered _), List.map_map, ← List.forall₂_eq_eq_eq,
      List.forall₂_map_left_iff, List.forall₂_map_right_iff]
    exact (endsTrails_fromScratch supported).imp fun item trail ends => ends.name
  rw [← List.zip_map' (f := fun p : Placed => (p.node.kind, p.range)),
    ← List.zip_map' (f := fun d : Draft => (d.kind, d.range)), names, map_walk_fromScratch supported true]

/-- The functions met by a walk from scratch are those of the outline. -/
theorem functions_fromScratch (supported : Profile.find? r.language = some profile) :
    (((fromScratch r).tree.walk (fromScratch r).arena).filter (·.node.kind == .function)).map
        (fun item => (item.range, item.node.name)) =
      Outline.functions (Forest.ordered (Outline.kept profile r.text.toList)) := by
  have same := congrArg (fun xs => (xs.filter (·.1.1 == .function)).map fun x => (x.1.2, x.2))
    (map_named_fromScratch supported)
  rwa [List.filter_map, List.filter_map, List.map_map, List.map_map] at same

/-- A node that is met by a walk from scratch ends the trail of a draft, of which it has the kind and the range. -/
theorem exists_split_of_mem_walk {item : Placed} (supported : Profile.find? r.language = some profile)
    (member : item ∈ (fromScratch r).tree.walk (fromScratch r).arena) :
    ∃ front d back, Forest.ordered (Outline.kept profile r.text.toList) = front ++ d :: back ∧
      item.node.kind = d.kind ∧ item.range = d.range ∧
      (fromScratch r).arena.EndsTrail (fromScratch r).tree.roots item (Forest.around d front, d) := by
  obtain ⟨k, inside, rfl⟩ := List.mem_iff_getElem.1 member
  have ranges := map_walk_fromScratch supported true
  have ends := endsTrails_fromScratch supported
  have length := congrArg List.length ranges
  rw [List.length_map, List.length_map] at length
  generalize (fromScratch r).tree.walk (fromScratch r).arena = walk at *
  generalize Forest.ordered (Outline.kept profile r.text.toList) = ds at *
  have split : ds = ds.take k ++ ds[k] :: ds.drop (k + 1) := by
    rw [List.getElem_cons_drop, List.take_append_drop]
  have trail := Forest.getElem?_trailsAll_build [] split
  rw [List.length_take_of_le (by omega), List.nil_append] at trail
  obtain ⟨within, here⟩ := List.getElem?_eq_some_iff.1 trail
  have ends := List.Forall₂.get ends inside within
  have range := congrArg (·[k]?) ranges
  simp only [List.getElem?_map, List.getElem?_eq_getElem inside, List.getElem?_eq_getElem (length ▸ inside),
    Option.map_some, Option.some.injEq, Prod.mk.injEq] at range
  refine ⟨ds.take k, ds[k], ds.drop (k + 1), split, range.1, range.2, ?_⟩
  rw [← here]
  exact ends

end Parser

/-- A way down from a top-level node leads to a node. The path holds what lies above the node, outermost first. -/
def Tree.Leads (t : Tree) (a : Arena) (path : List Nat) (i : Nat) : Prop :=
  ∃ root ∈ t.roots, a.Descent root.index (path ++ [i])

/-- No function gets in the way of a node: every other function whose range holds the start of the node has a range
of its own, ends no earlier than the node, and no earlier than what begins behind it and no later than the node. -/
def Tree.Clear (t : Tree) (a : Arena) (item : Placed) : Prop :=
  ∀ f ∈ t.walk a, f.node.kind = .function → f.index ≠ item.index → f.range.holdsStartOf item.range = true →
    f.range ≠ item.range ∧ item.range.EndsBy f.range ∧
      ∀ m ∈ t.walk a, ¬m.range.BeginsBy f.range → m.range.BeginsBy item.range → m.range.EndsBy f.range

/-- One path at most leads to a node. -/
theorem Parser.eq_of_leads {r : Revision} {path path' : List Nat} {i : Nat}
    (down : (fromScratch r).tree.Leads (fromScratch r).arena path i)
    (down' : (fromScratch r).tree.Leads (fromScratch r).arena path' i) : path = path' := by
  obtain ⟨root, among, down⟩ := down
  obtain ⟨root', among', down'⟩ := down'
  have same : root = root' := Arena.eq_of_reaches (apart_fromScratch r).apart among among' down.reaches down'.reaches
  subst same
  exact Arena.Descent.unique (treeShaped_fromScratch r) down down'

/-- In a tree where no function gets in the way of a node, none does in the outline. -/
theorem Parser.settles_of_clear {r : Revision} {profile : Profile} {item : Placed} {front back : List Draft}
    {d : Draft} (supported : Profile.find? r.language = some profile)
    (member : item ∈ (fromScratch r).tree.walk (fromScratch r).arena)
    (split : Forest.ordered (Outline.kept profile r.text.toList) = front ++ d :: back)
    (kind : item.node.kind = d.kind) (range : item.range = d.range)
    (clear : (fromScratch r).tree.Clear (fromScratch r).arena item) :
    ∀ f ∈ front ++ back, f.kind = .function → f.span.start.le d.span.start = true →
      d.span.start.le f.span.stop = true →
      Forest.Settles (Forest.ordered (Outline.kept profile r.text.toList)) f d := by
  intro f among function begins reaches
  have met (m : Draft) (ordered : m ∈ Forest.ordered (Outline.kept profile r.text.toList)) :
      ∃ p ∈ (fromScratch r).tree.walk (fromScratch r).arena, p.node.kind = m.kind ∧ p.range = m.range := by
    have image := List.mem_map_of_mem (f := fun d : Draft => (d.kind, d.range)) ordered
    rw [← map_walk_fromScratch supported true] at image
    obtain ⟨p, walked, same⟩ := List.mem_map.1 image
    rw [Prod.mk.injEq] at same
    exact ⟨p, walked, same⟩
  have drafted (m : Draft) (ordered : m ∈ Forest.ordered (Outline.kept profile r.text.toList)) :
      m ∈ Outline.drafts profile r.text.toList :=
    Outline.mem_drafts_of_mem_kept (Outline.mem_kept_of_mem_ordered ordered)
  have nodup := Outline.nodup_ordered profile r.text.toList
  rw [split, List.nodup_middle, List.nodup_cons] at nodup
  have dIn : d ∈ Forest.ordered (Outline.kept profile r.text.toList) := by
    rw [split]
    exact List.mem_append_right _ List.mem_cons_self
  have fIn : f ∈ Forest.ordered (Outline.kept profile r.text.toList) := by
    rw [split]
    exact List.perm_middle.mem_iff.2 (List.mem_cons_of_mem d among)
  obtain ⟨p, walked, p_kind, p_range⟩ := met f fIn
  have other : p.index ≠ item.index := by
    intro same
    have indices := Tree.nodup_walk (treeShaped_fromScratch r) (apart_fromScratch r) true
    obtain rfl : p = item := List.inj_on_of_nodup_map indices walked member same
    have spans : f.span = d.span := Draft.range_eq_iff.1 (p_range.symm.trans range)
    have twin : f = d := Outline.eq_of_begins (drafted f fIn) (drafted d dIn)
      (Sketch.begins_iff.2 ⟨function, congrArg Span.start spans⟩)
      (Sketch.begins_iff.2 ⟨kind.symm.trans (p_kind.trans function), rfl⟩)
    exact nodup.1 (twin ▸ among)
  have holds : p.range.holdsStartOf item.range = true := by
    rw [p_range, range]
    exact Draft.holdsStartOf_iff.2 ⟨begins, reaches⟩
  obtain ⟨apart, ends, between⟩ := clear p walked (p_kind.trans function) other holds
  rw [p_range, range] at apart ends
  refine ⟨fun spans => apart (Draft.range_eq_iff.2 spans), Draft.endsBy_iff.1 ends, ?_⟩
  intro m ordered behind before
  obtain ⟨q, q_walked, -, q_range⟩ := met m ordered
  have inside := between q q_walked
  rw [q_range, p_range, range, Draft.beginsBy_iff, Draft.beginsBy_iff, Draft.endsBy_iff] at inside
  exact inside behind before

/-- The scope of a node that no function gets in the way of names the functions above the node. -/
theorem Parser.scope_eq_of_clear {r : Revision} {item : Placed}
    (member : item ∈ (fromScratch r).tree.walk (fromScratch r).arena) (readable : item.node.kind ≠ .error)
    (clear : (fromScratch r).tree.Clear (fromScratch r).arena item) :
    ∃ path, (fromScratch r).tree.Leads (fromScratch r).arena path item.index ∧
      Identity.scope item.range ((((fromScratch r).tree.walk (fromScratch r).arena).filter
        (·.node.kind == .function)).map fun item => (item.range, item.node.name)) =
          Identity.dotted ((fromScratch r).arena.functionNames path) := by
  obtain ⟨profile, supported, -⟩ := exists_kept_of_mem_walk member
  obtain ⟨front, d, back, split, kind, range, ends⟩ := exists_split_of_mem_walk supported member
  obtain ⟨root, among, path, down, made⟩ := ends.down
  have d_readable : ¬d.isError = true := fun error => readable (kind.trans (beq_iff_eq.1 error))
  refine ⟨path, ⟨root, among, down⟩, ?_⟩
  rw [functions_fromScratch supported, range, Arena.functionNames_eq made]
  exact Outline.scope_eq split d_readable (settles_of_clear supported member split kind range clear)

namespace Query

/-- In a tree that is searched at all, what queries find gets its scopes from the functions in the tree. -/
theorem occurrencesBy_eq_map {queries : List Query} (settings : Settings) {s : Subject}
    (searched : ¬(s.tree.limited || s.tree.roots.isEmpty) = true) :
    occurrencesBy queries settings s .pass = (findAll settings s .pass queries 0).map fun found =>
      Identity.assign s.tree.file s.tree.language s.lines found
        (((s.tree.walk s.arena).filter (·.node.kind == .function)).map fun item => (item.range, item.node.name)) := by
  unfold occurrencesBy
  rw [if_neg searched, functions_eq]
  cases findAll settings s .pass queries 0 <;> rfl

/-- A built-in query that looks at nodes one by one reports a match of a node. -/
def Reports (settings : Settings) (s : Subject) (item : Placed) (m : Match) : Prop :=
  ∃ q ∈ builtIn, ∃ report, q.search = .perNode report ∧ report settings s item = some m

/-- Whatever the built-in queries find in a root is reported of a node there, with the range of the node. -/
theorem exists_reports {q : Query} (member : q ∈ builtIn) {find : Settings → Subject → Root → List Match}
    (search : q.search = .inRoot find) {settings : Settings} {s : Subject} {root : Root} {m : Match}
    (found : m ∈ find settings s root) :
    ∃ item ∈ s.arena.walkRoot root, Reports settings s item m ∧ item.node.kind ≠ .error ∧ m.range = item.range := by
  have perNode {report : Settings → Subject → Placed → Option Match} (same : q.search = .perNode report)
      (each : ∀ item, report settings s item = some m → item.node.kind ≠ .error ∧ m.range = item.range) :
      ∃ item ∈ s.arena.walkRoot root, Reports settings s item m ∧ item.node.kind ≠ .error ∧ m.range = item.range := by
    rw [same] at search
    cases search
    obtain ⟨item, met, reported⟩ := List.mem_filterMap.1 found
    exact ⟨item, met, ⟨q, member, report, same, reported⟩, each item reported⟩
  have tested {test : Bool} {made : Match} (reported : (if test then some made else none) = some m) :
      test = true ∧ made = m := by
    split at reported
    · next passed => exact ⟨passed, Option.some.inj reported⟩
    · cases reported
  have other := member
  simp only [builtIn, List.mem_cons, List.not_mem_nil, or_false] at other
  rcases other with rfl | rfl | rfl | rfl | rfl | rfl | rfl
  · refine perNode rfl fun item reported => ?_
    obtain ⟨function, -, range⟩ := node_of_longFunctionAt reported
    exact ⟨by rw [function]; decide, range⟩
  · refine perNode rfl fun item reported => ?_
    obtain ⟨passed, rfl⟩ := tested reported
    refine ⟨fun error => ?_, rfl⟩
    rw [error] at passed
    cases passed
  · refine perNode rfl fun item reported => ?_
    obtain ⟨loop, -, range⟩ := node_of_nestedLoopAt reported
    exact ⟨by rw [loop]; decide, range⟩
  · cases search
  all_goals
    refine perNode rfl fun item reported => ?_
    obtain ⟨passed, rfl⟩ := tested reported
    refine ⟨fun error => ?_, rfl⟩
    rw [error] at passed
    cases passed

/-- What the built-in queries find in a tree but repeated code is reported of a node that is no error, with the range
of the node, and gets its scope from the functions in the tree. -/
theorem exists_reports_of_mem_occurrencesBy {settings : Settings} {s : Subject} {found : List Occurrence}
    (ended : occurrencesBy builtIn settings s .pass = .ok found) {o : Occurrence} (member : o ∈ found)
    (node : o.kind ≠ duplicatedCode.kind) :
    (∃ item ∈ s.tree.walk s.arena, item.node.kind ≠ .error ∧ item.range = o.range ∧
        ∃ m, Reports settings s item m ∧ m.kind = o.kind ∧ m.range = o.range) ∧
      o.scope = Identity.scope o.range
        (((s.tree.walk s.arena).filter (·.node.kind == .function)).map fun item => (item.range, item.node.name)) := by
  by_cases empty : (s.tree.limited || s.tree.roots.isEmpty) = true
  · unfold occurrencesBy at ended
    rw [if_pos empty] at ended
    cases ended
    cases member
  rw [occurrencesBy_eq_map settings empty, map_eq_ok_iff] at ended
  obtain ⟨ms, all, rfl⟩ := ended
  obtain ⟨m, among, seen, rfl⟩ := Identity.exists_occurrenceOf_of_mem_assign member
  refine ⟨?_, rfl⟩
  obtain ⟨q, known, here, searched, among⟩ := exists_query_of_mem_findAll all among
  cases search : q.search with
  | inRoot find =>
    obtain ⟨root, rootIn, among⟩ := exists_root_of_mem_findIn search searched among
    obtain ⟨item, met, reports, readable, range⟩ := exists_reports known search among
    exact ⟨item, List.mem_flatMap.2 ⟨root, rootIn, met⟩, readable, range.symm, m, reports, rfl, rfl⟩
  | inFile find =>
    have own := builtIn_reportsOwnKind q known settings _ here searched m among
    simp only [builtIn, List.mem_cons, List.not_mem_nil, or_false] at known
    rcases known with rfl | rfl | rfl | rfl | rfl | rfl | rfl
    case inr.inr.inr.inl => exact absurd own node
    all_goals cases search

/-- Whatever a built-in query that applies finds in a tree is detected. -/
theorem exists_occurrence_of_mem_findIn {settings : Settings} {s : Subject} {found : List Occurrence}
    (searched : ¬(s.tree.limited || s.tree.roots.isEmpty) = true)
    (ended : occurrencesBy builtIn settings s .pass = .ok found) {q : Query} (known : q ∈ builtIn)
    (applies : q.appliesTo s.tree.language = true) {here : List Match} (finds : q.findIn settings s = .ok here)
    {m : Match} (member : m ∈ here) : ∃ o ∈ found, o.kind = m.kind ∧ o.range = m.range := by
  rw [occurrencesBy_eq_map settings searched, map_eq_ok_iff] at ended
  obtain ⟨ms, all, rfl⟩ := ended
  have own := (filter_findAll builtIn_reportsOwnKind (by decide) all).2 q known
  rw [foundIn, if_pos applies, finds, Except.ok.injEq] at own
  have among : m ∈ ms.mergeSort Identity.matchLe := List.mem_mergeSort.2 (List.mem_filter.1 (own ▸ member)).1
  have detected := Identity.found_assignFrom s.tree.file s.tree.language s.lines
    (((s.tree.walk s.arena).filter (·.node.kind == .function)).map fun item => (item.range, item.node.name)) []
    (ms.mergeSort Identity.matchLe)
  rw [← detected] at among
  obtain ⟨o, detected, rfl⟩ := List.mem_map.1 among
  exact ⟨o, detected, rfl, rfl⟩

end Query

/-- Scopes follow the tree from scratch: whatever is detected is repeated code, or is reported of a node that is no
error, with the range of the node. If no function gets in the way of a node of that range, the scope is the dotted path
of the names of the functions above the node, outermost first. -/
theorem Revision.scopes_follow_trails (r : Revision) (settings : Settings) (found : List Occurrence)
    (ended : (Detector.standard.detect settings (Parser.fromScratch r).tree (Parser.fromScratch r).arena).2 =
      .ok found) (o : Occurrence) (member : o ∈ found) (node : o.kind ≠ Query.duplicatedCode.kind) :
    let tree := (Parser.fromScratch r).tree
    let arena := (Parser.fromScratch r).arena
    (∃ item ∈ tree.walk arena, item.node.kind ≠ .error ∧ item.range = o.range ∧
        ∃ m, Query.Reports settings { tree, arena } item m ∧ m.kind = o.kind ∧ m.range = o.range) ∧
      ∀ item ∈ tree.walk arena, item.node.kind ≠ .error → item.range = o.range → tree.Clear arena item →
        ∃ path, tree.Leads arena path item.index ∧ (∀ path', tree.Leads arena path' item.index → path' = path) ∧
          o.scope = Identity.dotted (arena.functionNames path) := by
  intro tree arena
  have searched : Query.occurrencesBy Query.builtIn settings { tree, arena } .pass = .ok found :=
    (Detector.standard_fromScratch r settings).symm.trans ended
  have told : ∀ item ∈ tree.walk arena, item.node.kind ≠ .error → tree.Clear arena item →
      ∃ path, tree.Leads arena path item.index ∧ Identity.scope item.range
        (((tree.walk arena).filter (·.node.kind == .function)).map fun item => (item.range, item.node.name)) =
          Identity.dotted (arena.functionNames path) := fun item => Parser.scope_eq_of_clear
  have once (path path' : List Nat) (i : Nat) : tree.Leads arena path i → tree.Leads arena path' i → path = path' :=
    Parser.eq_of_leads
  -- From here on the tree may be any; were it known, comparing two of its walks would mean to parse the text.
  clear_value tree arena
  obtain ⟨reported, scope⟩ := Query.exists_reports_of_mem_occurrencesBy searched member node
  refine ⟨reported, fun item met readable range clear => ?_⟩
  obtain ⟨path, leads, names⟩ := told item met readable clear
  refine ⟨path, leads, fun path' leads' => once _ _ _ leads' leads, ?_⟩
  rw [scope, ← names, range]

/-- A number in a function in a function. -/
def Revision.inner : Revision :=
  { file := "a.py", language := "python", number := 1, text := "def f():\n def g():\n  return 42\n",
    changed := (LineRange.ofInts? 1 1).toList, base := 0, edit := none, serial := 0 }

theorem Revision.branches_inner : inner.branches =
    [.mk { kind := .function, type := "function_definition", span := ⟨⟨1, 0⟩, ⟨3, 11⟩⟩, name := "f", id := 0,
           body := some 1 }
      [.mk { kind := .parameters, type := "parameters", span := ⟨⟨1, 5⟩, ⟨1, 7⟩⟩, id := 2 } [],
       .mk { kind := .other, type := "block", span := ⟨⟨2, 1⟩, ⟨3, 11⟩⟩, id := 1 }
        [.mk { kind := .function, type := "function_definition", span := ⟨⟨2, 1⟩, ⟨3, 11⟩⟩, name := "g", id := 3,
               body := some 4 }
          [.mk { kind := .parameters, type := "parameters", span := ⟨⟨2, 6⟩, ⟨2, 8⟩⟩, id := 5 } [],
           .mk { kind := .other, type := "block", span := ⟨⟨3, 2⟩, ⟨3, 11⟩⟩, id := 4 }
            [.mk { kind := .number, type := "number", span := ⟨⟨3, 9⟩, ⟨3, 11⟩⟩, value := "42", id := 6 } []]]]]] := by
  have language : Profile.find? inner.language = some .python := Profile.find?_python
  have kept : Outline.kept .python inner.text.toList =
      [{ kind := .function, type := "function_definition", span := ⟨⟨1, 0⟩, ⟨3, 11⟩⟩, name := "f", id := 0,
         body := some 1 },
       { kind := .other, type := "block", span := ⟨⟨2, 1⟩, ⟨3, 11⟩⟩, id := 1 },
       { kind := .parameters, type := "parameters", span := ⟨⟨1, 5⟩, ⟨1, 7⟩⟩, id := 2 },
       { kind := .function, type := "function_definition", span := ⟨⟨2, 1⟩, ⟨3, 11⟩⟩, name := "g", id := 3,
         body := some 4 },
       { kind := .other, type := "block", span := ⟨⟨3, 2⟩, ⟨3, 11⟩⟩, id := 4 },
       { kind := .parameters, type := "parameters", span := ⟨⟨2, 6⟩, ⟨2, 8⟩⟩, id := 5 },
       { kind := .number, type := "number", span := ⟨⟨3, 9⟩, ⟨3, 11⟩⟩, value := "42", id := 6 }] := by
    decide +kernel
  rw [branches_of_kept language kept]
  cbv

theorem Revision.fromScratch_inner : ∃ d, (Parser.fromScratch inner).tree =
      { file := "a.py", language := "python", revision := 1, source := inner.text, arena := 0,
        roots := [⟨6, 1, d, false⟩], backend := .scanner } ∧
    (Parser.fromScratch inner).arena =
      ⟨#[{ kind := .parameters, type := "parameters", startLine := 0, startCol := 5, endLine := 0, endCol := 7 },
        { kind := .parameters, type := "parameters", startLine := 1, startCol := 6, endLine := 1, endCol := 8 },
        { kind := .number, type := "number", startLine := 2, startCol := 9, endLine := 2, endCol := 11, value := "42" },
        { kind := .other, type := "block", startLine := 2, startCol := 2, endLine := 2, endCol := 11, children := [2] },
        { kind := .function, type := "function_definition", startLine := 1, startCol := 1, endLine := 2, endCol := 11,
          children := [1, 3], body := some 3, name := "g" },
        { kind := .other, type := "block", startLine := 1, startCol := 1, endLine := 2, endCol := 11, children := [4] },
        { kind := .function, type := "function_definition", startLine := 0, startCol := 0, endLine := 2, endCol := 11,
          children := [0, 5], body := some 5, name := "f" }]⟩ := by
  have language : Profile.find? inner.language = some .python := Profile.find?_python
  obtain ⟨tree, arena⟩ := Parser.fromScratch_of_find? language
  rw [branches_inner] at tree arena
  unfold RootSource.storeRoots RootSource.storeRoots at tree arena
  dsimp only at tree arena
  generalize Digest.sha1 _ = d at tree
  rw [tree, arena]
  exact ⟨d, rfl, rfl⟩

/-- What a walk of the tree meets. -/
theorem Revision.walk_inner :
    ((Parser.fromScratch inner).tree.walk (Parser.fromScratch inner).arena).map
        (fun p => (p.node.kind, p.index, p.range)) =
      [(.function, 6, ⟨1, 0, 3, 11⟩), (.parameters, 0, ⟨1, 5, 1, 7⟩), (.other, 5, ⟨2, 1, 3, 11⟩),
       (.function, 4, ⟨2, 1, 3, 11⟩), (.parameters, 1, ⟨2, 6, 2, 8⟩), (.other, 3, ⟨3, 2, 3, 11⟩),
       (.number, 2, ⟨3, 9, 3, 11⟩)] := by
  obtain ⟨d, tree, arena⟩ := fromScratch_inner
  rw [tree, arena]
  cbv

/-- The inner function ends where the number ends, and so does the outer one. -/
theorem Revision.clear_inner {item : Placed} (index : item.index = 2) (range : item.range = ⟨3, 9, 3, 11⟩) :
    (Parser.fromScratch inner).tree.Clear (Parser.fromScratch inner).arena item := by
  have walked := walk_inner
  intro f met function other holds
  generalize (Parser.fromScratch inner).tree.walk (Parser.fromScratch inner).arena = items at *
  have all : ∀ f ∈ items.map (fun p => (p.node.kind, p.index, p.range)), f.1 = .function → f.2.1 ≠ 2 →
      f.2.2.holdsStartOf ⟨3, 9, 3, 11⟩ = true → f.2.2 ≠ ⟨3, 9, 3, 11⟩ ∧ SourceRange.EndsBy ⟨3, 9, 3, 11⟩ f.2.2 ∧
        ∀ m ∈ items.map (fun p => (p.node.kind, p.index, p.range)),
          ¬m.2.2.BeginsBy f.2.2 → m.2.2.BeginsBy ⟨3, 9, 3, 11⟩ → m.2.2.EndsBy f.2.2 := by
    rw [walked]
    decide
  rw [index] at other
  rw [range] at holds ⊢
  obtain ⟨apart, ends, between⟩ := all _ (List.mem_map_of_mem met) function other holds
  exact ⟨apart, ends, fun m met => between _ (List.mem_map_of_mem met)⟩

/-- The way down to the number leads through both functions. -/
theorem Revision.leads_inner : (Parser.fromScratch inner).tree.Leads (Parser.fromScratch inner).arena [6, 5, 4, 3] 2 ∧
    Identity.dotted ((Parser.fromScratch inner).arena.functionNames [6, 5, 4, 3]) = "f.g" := by
  obtain ⟨d, tree, arena⟩ := fromScratch_inner
  have first {c : Nat} {rest : List Nat} : c ∈ c :: rest := List.mem_cons_self
  have second {b c : Nat} {rest : List Nat} : c ∈ b :: c :: rest := List.mem_cons_of_mem b List.mem_cons_self
  rw [tree, arena]
  refine ⟨⟨_, List.mem_singleton_self _, ?_⟩, by cbv⟩
  exact .step rfl NodeKind.noConfusion second (.step rfl NodeKind.noConfusion first
    (.step rfl NodeKind.noConfusion second (.step rfl NodeKind.noConfusion first (.stop 2))))

/-- The number is found. -/
theorem Revision.detected_inner : ∃ found, (Detector.standard.detect {} (Parser.fromScratch inner).tree
    (Parser.fromScratch inner).arena).2 = .ok found ∧
      ∃ o ∈ found, o.kind = Query.magicNumber.kind ∧ o.range = ⟨3, 9, 3, 11⟩ := by
  rw [Detector.standard_fromScratch]
  obtain ⟨d, tree, arena⟩ := fromScratch_inner
  generalize (Parser.fromScratch inner).tree = t at *
  generalize (Parser.fromScratch inner).arena = a at *
  have whole : ({} : Settings).duplicateMinLines.whole? = some 5 := rfl
  obtain ⟨found, ended⟩ := Query.occurrencesBy_pass (fun q => List.mem_cons_of_mem Query.functionSpans) whole
    { tree := t, arena := a }
  have numbers : ∃ here, Query.magicNumber.findIn {} { tree := t, arena := a } = .ok here ∧
      here.map (·.range) = [⟨3, 9, 3, 11⟩] := by
    refine ⟨_, rfl, ?_⟩
    dsimp only
    rw [tree, arena]
    cbv
  have searched : ¬(t.limited || t.roots.isEmpty) = true := by
    rw [tree]
    exact Bool.false_ne_true
  have applies : Query.magicNumber.appliesTo t.language = true := by
    rw [tree]
    rfl
  obtain ⟨here, finds, ranges⟩ := numbers
  obtain ⟨m, among, range⟩ := List.mem_map.1 (ranges ▸ List.mem_singleton_self _)
  have known : Query.magicNumber ∈ Query.builtIn := List.mem_cons_of_mem _ List.mem_cons_self
  obtain ⟨o, detected, kind, same⟩ :=
    Query.exists_occurrence_of_mem_findIn searched ended known applies finds among
  have own := Query.builtIn_reportsOwnKind _ known {} _ here finds m among
  exact ⟨found, ended, o, detected, kind.trans own, same.trans range⟩

/-- The number lies in the inner function, which lies in the outer one. -/
theorem Revision.scopes_follow_trails_inner :
    ∃ found, (Detector.standard.detect {} (Parser.fromScratch inner).tree (Parser.fromScratch inner).arena).2 =
        .ok found ∧ ∃ o ∈ found, o.kind = Query.magicNumber.kind ∧ o.scope = "f.g" := by
  obtain ⟨found, ended, o, detected, kind, range⟩ := detected_inner
  obtain ⟨leads, names⟩ := leads_inner
  obtain ⟨-, each⟩ := scopes_follow_trails inner {} found ended o detected (by rw [kind]; decide)
  have number : (NodeKind.number, 2, (⟨3, 9, 3, 11⟩ : SourceRange)) ∈
      ((Parser.fromScratch inner).tree.walk (Parser.fromScratch inner).arena).map
        (fun p => (p.node.kind, p.index, p.range)) := by
    rw [walk_inner]
    decide
  obtain ⟨item, met, shown⟩ := List.mem_map.1 number
  rw [Prod.mk.injEq, Prod.mk.injEq] at shown
  obtain ⟨item_kind, item_index, item_range⟩ := shown
  obtain ⟨path, -, only, scope⟩ := each item met (by rw [item_kind]; decide) (item_range.trans range.symm)
    (clear_inner item_index item_range)
  refine ⟨found, ended, o, detected, kind, ?_⟩
  rw [scope, ← only [6, 5, 4, 3] (item_index ▸ leads), names]

end LiveLint
