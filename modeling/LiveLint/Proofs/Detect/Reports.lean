import LiveLint.Proofs.Classify.Ratings
import LiveLint.Proofs.Detect.Transparency

/-!
# What reports say

Every query reports, with each match, all that is read of it later: functions come with their names, and
what is counted comes as a number. So an occurrence of a built-in query can always be classified, and
detection fails only if it is interrupted.
-/

namespace LiveLint

/-- Thresholds that no search and no rule fails on: the number of repeated lines is whole, and the length of
a function is not beyond all doubles. -/
structure Settings.Sound (settings : Settings) : Prop where
  lines : ∃ n, settings.duplicateMinLines.whole? = some n
  length : settings.minFunctionLength.overflows = false

/-- A match of a query says all that is read of it later. -/
structure Match.Reports (m : Match) (kind : String) : Prop where
  kind_eq : m.kind = kind
  named : kind = Query.functionSpans.kind → ∃ name, m.metadata.get? "name" = some name
  rated : Rule.Rates kind m.metadata

theorem Match.Reports.shifted {m : Match} {kind : String} (reports : m.Reports kind) (delta : Int) :
    (m.shifted delta).Reports kind :=
  ⟨reports.kind_eq, reports.named, reports.rated⟩

/-- Only functions have to be named. -/
theorem Match.Reports.of_rates {m : Match} {kind : String} (kind_eq : m.kind = kind)
    (other : kind ≠ Query.functionSpans.kind) (rated : Rule.Rates kind m.metadata) : m.Reports kind :=
  ⟨kind_eq, fun same => absurd same other, rated⟩

namespace Query

/-- What is reported of the nodes of a root one by one. -/
theorem reports_perNode {report : Settings → Subject → Placed → Option Match} {find : Find} {kind : String}
    (search : Search.perNode report = .inRoot find) {settings : Settings}
    (each : ∀ s item m, report settings s item = some m → m.Reports kind) (s : Subject) (root : Root) :
    ∀ m ∈ find settings s root, m.Reports kind := by
  cases search
  intro m found
  obtain ⟨item, -, reported⟩ := List.mem_filterMap.1 found
  exact each s item m reported

/-- What is reported of every node that passes a test. -/
theorem reports_of_test {test : Settings → Placed → Bool} {make : Settings → Placed → Match} {find : Find}
    {kind : String}
    (search : (Search.perNode fun settings _ item =>
      if test settings item then some (make settings item) else none) = .inRoot find)
    {settings : Settings} (each : ∀ item, (make settings item).Reports kind) (s : Subject) (root : Root) :
    ∀ m ∈ find settings s root, m.Reports kind := by
  refine reports_perNode search ?_ s root
  intro s item m reported
  split at reported
  · cases reported
    exact each item
  · cases reported

theorem reports_longFunctionAt {settings : Settings} (sound : settings.Sound) {s : Subject} {item : Placed}
    {m : Match} (reported : longFunctionAt settings s item = some m) : m.Reports longFunction.kind := by
  unfold longFunctionAt at reported
  split at reported
  · cases reported
  · split at reported
    · cases reported
    · next body placed =>
      dsimp only at reported
      split at reported
      · cases reported
      · cases reported
        exact .of_rates rfl (by decide) (@Rule.rates_longFunction _ (.int _) _ rfl rfl sound.length)

theorem reports_nestedLoopAt {settings : Settings} {s : Subject} {item : Placed} {m : Match}
    (reported : nestedLoopAt settings s item = some m) : m.Reports nestedLoop.kind := by
  unfold nestedLoopAt at reported
  split at reported
  · cases reported
  · split at reported
    · cases reported
    · dsimp only at reported
      split at reported
      · cases reported
      · cases reported
        exact .of_rates rfl (by decide) (Rule.rates_nestedLoop rfl)

/-- What a built-in query finds in a root says all that is read of it. -/
theorem reports_of_mem {query : Query} (member : query ∈ known) {find : Find}
    (search : query.search = .inRoot find) {settings : Settings} (sound : settings.Sound) (s : Subject)
    (root : Root) : ∀ m ∈ find settings s root, m.Reports query.kind := by
  simp only [known, builtIn, List.mem_cons, List.not_mem_nil, or_false] at member
  rcases member with rfl | rfl | rfl | rfl | rfl | rfl | rfl | rfl
  · exact reports_of_test search
      (fun item => ⟨rfl, fun _ => ⟨_, rfl⟩, fun rule found => by cases found⟩) s root
  · exact reports_perNode search (fun s item m reported => reports_longFunctionAt sound reported) s root
  · exact reports_of_test search
      (fun item => .of_rates rfl (by decide) (Rule.rates_magicNumber _)) s root
  · exact reports_perNode search (fun s item m reported => reports_nestedLoopAt reported) s root
  · cases search
  · exact reports_of_test search
      (fun item => .of_rates rfl (by decide) (Rule.rates_of_rule rfl rfl ⟨none, rfl⟩)) s root
  · exact reports_of_test search
      (fun item => .of_rates rfl (by decide) (Rule.rates_of_rule rfl rfl ⟨none, rfl⟩)) s root
  · exact reports_of_test search
      (fun item => .of_rates rfl (by decide) (Rule.rates_of_rule rfl rfl ⟨none, rfl⟩)) s root

/-- The search for repeated code does not fail, and says all that is read of what it finds. -/
theorem reports_duplicates {find : Settings → Subject → Except Fault (List Match)} {query : Query}
    (member : query ∈ known) (search : query.search = .inFile find) {settings : Settings}
    (sound : settings.Sound) (s : Subject) :
    ∃ found, find settings s = .ok found ∧ ∀ m ∈ found, m.Reports query.kind := by
  simp only [known, builtIn, List.mem_cons, List.not_mem_nil, or_false] at member
  rcases member with rfl | rfl | rfl | rfl | rfl | rfl | rfl | rfl
  case inr.inr.inr.inr.inl =>
    cases search
    obtain ⟨n, whole⟩ := sound.lines
    unfold Duplicate.find
    dsimp only
    split
    · exact ⟨[], rfl, List.forall_mem_nil _⟩
    · rw [whole]
      refine ⟨_, rfl, ?_⟩
      intro m found
      obtain ⟨run, -, rfl⟩ := List.mem_map.1 found
      exact .of_rates rfl (by decide) (Rule.rates_duplicatedCode rfl)
  all_goals cases search

end Query

namespace Detector

/-- All that is remembered says what is read of it later. -/
def Keeps (d : Detector) : Prop :=
  ∀ (arena : Nat) (key : MemoKey) (found : Finds), (d.resultsOf arena)[key]? = some found →
    ∀ m ∈ found.2, m.Reports key.kind

theorem keeps_standard : standard.Keeps := by
  intro arena key found remembered
  unfold resultsOf standard at remembered
  dsimp only at remembered
  rw [Std.HashMap.getD_empty, Std.HashMap.getElem?_empty] at remembered
  cases remembered

variable {settings : Settings} {s : Subject} {d : Detector}

theorem Keeps.inRoot (keeps : d.Keeps) {kind : String} {find : Find}
    (reports : ∀ root, ∀ m ∈ find settings s root, m.Reports kind) (root : Root) :
    (d.inRoot settings s kind find root).1.Keeps ∧
      ∀ m ∈ (d.inRoot settings s kind find root).2, m.Reports kind := by
  unfold Detector.inRoot
  dsimp only
  split
  · next line found remembered =>
    refine ⟨keeps, ?_⟩
    intro m moved
    obtain ⟨m', member, rfl⟩ := List.mem_map.1 moved
    exact (keeps _ _ _ remembered m' member).shifted _
  · refine ⟨?_, reports root⟩
    intro arena key found remembered
    rcases mem_remember remembered with ⟨-, rfl, rfl⟩ | before
    · exact reports root
    · exact keeps arena key found before

theorem Keeps.inRoots (keeps : d.Keeps) {kind : String} {find : Find}
    (reports : ∀ root, ∀ m ∈ find settings s root, m.Reports kind) (roots : List Root) :
    (inRoots settings s kind find roots d).1.Keeps ∧
      ∀ m ∈ (inRoots settings s kind find roots d).2, m.Reports kind := by
  induction roots generalizing d with
  | nil => exact ⟨keeps, nofun⟩
  | cons root rest ih =>
    unfold Detector.inRoots
    split
    · exact ih keeps
    · obtain ⟨kept, here⟩ := keeps.inRoot reports root
      obtain ⟨kept, there⟩ := ih kept
      exact ⟨kept, List.forall_mem_append.2 ⟨here, there⟩⟩

/-- A known query answers, and says all that is read of what it finds. -/
theorem Keeps.run (keeps : d.Keeps) (sound : settings.Sound) {query : Query}
    (member : query ∈ Query.known) :
    (d.run settings s query).1.Keeps ∧
      ∃ found, (d.run settings s query).2 = .ok found ∧ ∀ m ∈ found, m.Reports query.kind := by
  unfold Detector.run
  cases search : query.search with
  | inRoot find =>
    obtain ⟨kept, reports⟩ :=
      keeps.inRoots (fun root => Query.reports_of_mem member search sound s root) s.tree.roots
    exact ⟨kept, _, rfl, reports⟩
  | inFile find =>
    obtain ⟨found, answered, reports⟩ := Query.reports_duplicates member search sound s
    exact ⟨keeps, found, answered, reports⟩

/-- Queries are interrupted, or they answer with what can be classified. -/
theorem Keeps.runAll (sound : settings.Sound) (checkpoint : Checkpoint) {queries : List Query}
    (known : ∀ query ∈ queries, query ∈ Query.known) (keeps : d.Keeps) (s : Subject) (asked : Nat) :
    (runAll settings s checkpoint queries asked d).1.Keeps ∧
      ((∃ n fault, checkpoint n = some fault ∧
          (runAll settings s checkpoint queries asked d).2 = .error fault) ∨
        ∃ found, (runAll settings s checkpoint queries asked d).2 = .ok found ∧
          ∀ m ∈ found, Rule.Rates m.kind m.metadata) := by
  induction queries generalizing asked d with
  | nil => exact ⟨keeps, Or.inr ⟨[], rfl, nofun⟩⟩
  | cons query rest ih =>
    have known_rest : ∀ query ∈ rest, query ∈ Query.known := fun query member =>
      known query (List.mem_cons_of_mem _ member)
    unfold Detector.runAll
    split
    · obtain ⟨kept, here, answered, reports⟩ := keeps.run (s := s) sound (known query List.mem_cons_self)
      generalize d.run settings s query = ran at kept answered
      obtain ⟨d', result⟩ := ran
      dsimp only at kept answered ⊢
      subst answered
      dsimp only
      split
      · next fault stopped => exact ⟨kept, Or.inl ⟨_, fault, stopped, rfl⟩⟩
      · obtain ⟨kept, outcome⟩ := ih known_rest kept (asked + 1)
        refine ⟨kept, ?_⟩
        rcases outcome with ⟨n, fault, stopped, failed⟩ | ⟨there, answered, rated⟩
        · exact Or.inl ⟨n, fault, stopped, map_eq_error_iff.2 failed⟩
        · refine Or.inr ⟨here ++ there, map_eq_ok_iff.2 ⟨there, answered, rfl⟩, ?_⟩
          refine List.forall_mem_append.2 ⟨fun m member => ?_, rated⟩
          exact (reports m member).kind_eq ▸ (reports m member).rated
    · exact ih known_rest keeps asked

theorem rated_assign {file language : String} {lines : List (List Char)} {ms : List Match}
    (rated : ∀ m ∈ ms, Rule.Rates m.kind m.metadata) (functions : List Identity.NamedFunction) :
    ∀ o ∈ Identity.assign file language lines ms functions, o.Rated := by
  have from_rated (seen : List Identity.Place) (ms : List Match)
      (rated : ∀ m ∈ ms, Rule.Rates m.kind m.metadata) :
      ∀ o ∈ Identity.assignFrom file language lines functions seen ms, o.Rated := by
    induction ms generalizing seen with
    | nil => exact nofun
    | cons m rest ih =>
      unfold Identity.assignFrom
      exact List.forall_mem_cons.2
        ⟨rated m List.mem_cons_self, ih _ fun m member => rated m (List.mem_cons_of_mem _ member)⟩
  exact from_rated [] _ fun m member => rated m (List.mem_mergeSort.1 member)

/-- Detection is interrupted, or it ends with occurrences that can be classified. -/
theorem Keeps.detect (keeps : d.Keeps) (builtIn : d.queries = Query.builtIn) (sound : settings.Sound)
    (tree : Tree) (arena : Arena) (checkpoint : Checkpoint) :
    (d.detect settings tree arena checkpoint).1.Keeps ∧
      ((∃ n fault, checkpoint n = some fault ∧
          (d.detect settings tree arena checkpoint).2 = .error fault) ∨
        ∃ found, (d.detect settings tree arena checkpoint).2 = .ok found ∧ ∀ o ∈ found, o.Rated) := by
  unfold Detector.detect
  split
  · exact ⟨keeps, Or.inr ⟨[], rfl, nofun⟩⟩
  · dsimp only
    have known : ∀ query ∈ d.queries, query ∈ Query.known := fun query member =>
      List.mem_cons_of_mem _ (builtIn ▸ member)
    obtain ⟨kept, outcome⟩ := Keeps.runAll sound checkpoint known keeps { tree, arena } 0
    generalize Detector.runAll settings { tree, arena } checkpoint d.queries 0 d = ran at kept outcome
    obtain ⟨d', result⟩ := ran
    dsimp only at kept outcome ⊢
    rcases outcome with ⟨n, fault, stopped, rfl⟩ | ⟨found, rfl, rated⟩
    · exact ⟨kept, Or.inl ⟨n, fault, stopped, rfl⟩⟩
    · dsimp only
      obtain ⟨kept, spans, searched, reports⟩ :=
        kept.run (s := { tree, arena }) sound (List.mem_cons_self : Query.functionSpans ∈ Query.known)
      obtain ⟨functions, named⟩ : ∃ functions, spans.mapM namedFunction = .ok functions := by
        refine Query.mapM_ok fun m member => ?_
        obtain ⟨name, given⟩ := (reports m member).named rfl
        unfold namedFunction
        rw [given]
        exact ⟨_, rfl⟩
      rw [searched]
      refine ⟨kept, Or.inr ⟨_, map_eq_ok_iff.2 ⟨functions, named, rfl⟩, ?_⟩⟩
      exact rated_assign rated functions

end Detector

end LiveLint
