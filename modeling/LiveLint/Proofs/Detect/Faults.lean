import LiveLint.Detect.Detector

/-!
# Why detection fails

Detection keeps its queries, and it ends with a fault for one of three reasons: a checkpoint said so, a
query that looks at the whole file failed, or something was found as a function without a name.
-/

namespace LiveLint

/-- A query never says of itself that a file has a newer revision. -/
def Query.Sincere (q : Query) : Prop :=
  ∀ find, q.search = .inFile find → ∀ settings s file revision latest,
    find settings s ≠ .error (.failure (.superseded file revision latest))

theorem Duplicate.sincere : Query.duplicatedCode.Sincere := by
  rintro find ⟨⟩ settings s file revision latest failed
  unfold Duplicate.find at failed
  dsimp only at failed
  split at failed
  · cases failed
  · split at failed <;> cases failed

/-- The built-in queries know nothing of revisions. -/
theorem Query.builtIn_sincere : ∀ q ∈ Query.builtIn, q.Sincere := by
  intro q member
  by_cases duplicate : q = duplicatedCode
  · rw [duplicate]
    exact Duplicate.sincere
  · intro find search
    simp only [builtIn, List.mem_cons, List.not_mem_nil, or_false] at member
    rcases member with rfl | rfl | rfl | rfl | rfl | rfl | rfl
    case inr.inr.inr.inl => exact absurd rfl duplicate
    all_goals cases search

namespace Detector

theorem queries_inRoots (settings : Settings) (s : Subject) (kind : String)
    (find : Settings → Subject → Root → List Match) (roots : List Root) (d : Detector) :
    (inRoots settings s kind find roots d).1.queries = d.queries := by
  induction roots generalizing d with
  | nil => rfl
  | cons root rest ih =>
    unfold inRoots
    split
    · exact ih d
    · have here : (d.inRoot settings s kind find root).1.queries = d.queries := by
        unfold inRoot
        dsimp only
        split <;> rfl
      exact (ih _).trans here

theorem queries_run (d : Detector) (settings : Settings) (s : Subject) (q : Query) :
    (d.run settings s q).1.queries = d.queries := by
  unfold run
  split
  · exact queries_inRoots settings s q.kind _ _ d
  · rfl

theorem queries_runAll (settings : Settings) (s : Subject) (checkpoint : Checkpoint)
    (queries : List Query) (asked : Nat) (d : Detector) :
    (runAll settings s checkpoint queries asked d).1.queries = d.queries := by
  induction queries generalizing asked d with
  | nil => rfl
  | cons q rest ih =>
    have first := d.queries_run settings s q
    unfold runAll
    split
    · split
      · next ran => exact (congrArg (·.1.queries) ran).symm.trans first
      · next ran =>
        rw [ran] at first
        split
        · exact first
        · exact (ih _ _).trans first
    · exact ih _ _

/-- Detection keeps the queries. -/
theorem queries_detect (d : Detector) (settings : Settings) (tree : Tree) (arena : Arena)
    (checkpoint : Checkpoint) :
    (d.detect settings tree arena checkpoint).1.queries = d.queries := by
  have all := queries_runAll settings { tree, arena } checkpoint d.queries 0 d
  unfold detect
  split
  · rfl
  · dsimp only
    split
    · next ran =>
      rw [ran] at all
      exact all
    · next ran =>
      rw [ran] at all
      exact (queries_run _ _ _ _).trans all

/-- A query fails only if it looks at the whole file. -/
theorem run_error {d : Detector} {settings : Settings} {s : Subject} {q : Query} {fault : Fault}
    (failed : (d.run settings s q).2 = .error fault) :
    ∃ find, q.search = .inFile find ∧ find settings s = .error fault := by
  unfold run at failed
  split at failed
  · cases failed
  · next find search => exact ⟨find, search, failed⟩

private theorem map_error {ε α β : Type} {f : α → β} {x : Except ε α} {e : ε}
    (failed : x.map f = .error e) : x = .error e := by
  cases x with
  | error found =>
    cases failed
    rfl
  | ok found => cases failed

theorem runAll_error {settings : Settings} {s : Subject} {checkpoint : Checkpoint}
    {queries : List Query} {asked : Nat} {d : Detector} {fault : Fault}
    (failed : (runAll settings s checkpoint queries asked d).2 = .error fault) :
    (∃ n, checkpoint n = some fault) ∨
      ∃ q ∈ queries, ∃ find, q.search = .inFile find ∧ find settings s = .error fault := by
  induction queries generalizing asked d with
  | nil => cases failed
  | cons q rest ih =>
    have later {asked : Nat} {d : Detector}
        (failed : (runAll settings s checkpoint rest asked d).2 = .error fault) :
        (∃ n, checkpoint n = some fault) ∨
          ∃ q' ∈ q :: rest, ∃ find, q'.search = .inFile find ∧ find settings s = .error fault := by
      rcases ih failed with stopped | ⟨other, member, why⟩
      · exact Or.inl stopped
      · exact Or.inr ⟨other, List.mem_cons_of_mem q member, why⟩
    unfold runAll at failed
    split at failed
    · split at failed
      · next ran =>
        cases failed
        exact Or.inr ⟨q, List.mem_cons_self .., run_error (congrArg Prod.snd ran)⟩
      · split at failed
        · next stopped =>
          cases failed
          exact Or.inl ⟨_, stopped⟩
        · exact later (map_error failed)
    · exact later failed

private theorem namedFunction_error {found : List Match} {fault : Fault}
    (failed : found.mapM namedFunction = .error fault) : fault = .missingKey "name" := by
  induction found with
  | nil => cases failed
  | cons m rest ih =>
    rw [List.mapM_cons] at failed
    cases first : namedFunction m with
    | error why =>
      rw [first] at failed
      cases failed
      unfold namedFunction at first
      split at first
      · cases first
      · cases first
        rfl
    | ok named =>
      rw [first] at failed
      cases others : rest.mapM namedFunction with
      | error why =>
        rw [others] at failed
        cases failed
        exact ih others
      | ok all =>
        rw [others] at failed
        cases failed

/-- Only a checkpoint or an insincere query makes detection say that a file has a newer revision. -/
theorem detect_superseded {d : Detector} (sincere : ∀ q ∈ d.queries, q.Sincere)
    {settings : Settings} {tree : Tree} {arena : Arena} {checkpoint : Checkpoint} {file : String}
    {revision latest : Int}
    (failed : (d.detect settings tree arena checkpoint).2 =
      .error (.failure (.superseded file revision latest))) :
    ∃ n, checkpoint n = some (.failure (.superseded file revision latest)) := by
  unfold detect at failed
  split at failed
  · cases failed
  · dsimp only at failed
    split at failed
    · next ran =>
      cases failed
      rcases runAll_error (congrArg Prod.snd ran) with stopped | ⟨q, member, find, search, why⟩
      · exact stopped
      · exact absurd why (sincere q member find search _ _ _ _ _)
    · -- The functions are searched by root, which does not fail; only their names can.
      cases namedFunction_error (map_error failed)

end Detector

end LiveLint
