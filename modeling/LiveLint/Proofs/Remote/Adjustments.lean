import LiveLint.Proofs.Outcomes
import LiveLint.Remote.Refinement

/-!
# Adjusted confidence

An answer of the service can give an issue another confidence, which is brought between zero and one. It
leaves everything else as it is, and every issue that it does not rate. Only a rating that is a whole number
beyond all doubles cannot be read.
-/

namespace LiveLint

/-- Whether a number lies between zero and one. -/
def Number.IsShare (x : Number) : Prop := Number.float 0 ≤ x ∧ x ≤ Number.float 1

instance : DecidablePred Number.IsShare := fun _ => inferInstanceAs (Decidable (_ ∧ _))

theorem Number.real_eq_error_iff {n : Number} {fault : Fault} :
    n.real = .error fault ↔ fault = .numberTooLarge ∧ n.overflows = true := by
  unfold Number.real
  split
  · next large => simp [large, eq_comm]
  · next small => simp [small]

theorem Number.real_eq_ok_iff {n : Number} {x : Float} :
    n.real = .ok x ↔ n.overflows = false ∧ n.toFloat = x := by
  unfold Number.real
  split
  · next large => simp [large]
  · next small => simp [small]

theorem Number.le_of_lt {x y : Number} (less : x < y) : x ≤ y := by
  have order : Number.order x y = some .lt := eq_of_beq less
  change Number.le x y = true
  rw [Number.le, order]

theorem Number.isShare_unit (x : Number) : x.unit.IsShare := by
  have raised : Number.float 0 ≤ if Number.float 0 < x then x else .float 0 := by
    split
    · next more => exact Number.le_of_lt more
    · decide
  unfold Number.unit
  generalize (if Number.float 0 < x then x else .float 0) = y at raised ⊢
  dsimp only
  split
  · next less => exact ⟨raised, Number.le_of_lt less⟩
  · decide

/-- The number that an answer gives to an identity. -/
def Gateway.rating? (answer : Fields) (identity : String) : Option Number :=
  match Table.get? answer "confidence" with
  | some (.table adjustments) => (Table.get? adjustments identity).bind confidence?
  | _ => none

/-- An answer gives one of the issues a whole number that is beyond all doubles. -/
def Gateway.Overrates (answer : Fields) (issues : List Issue) : Prop :=
  ∃ i ∈ issues, ∃ n, rating? answer i.identity = some n ∧ n.overflows = true

/-- The issues with the confidences of some answers, one after the other. -/
def Gateway.applyAll (issues : List Issue) (answers : List Fields) : Except Fault (List Issue) :=
  answers.foldlM (fun issues answer => apply issues (some answer)) issues

namespace Issue

/-- An issue with the rating that it was given, if it was given one. -/
def rated (i : Issue) : Option Number → Issue
  | none => i
  | some n => i.withConfidence (.float n.toFloat)

/-- Tries to give an issue the rating. -/
def rate (i : Issue) : Option Number → Except Fault Issue
  | none => .ok i
  | some n => n.real.map fun x => i.withConfidence (.float x)

theorem eq_rated_of_rate {i j : Issue} {rating : Option Number} (done : i.rate rating = .ok j) :
    j = i.rated rating := by
  cases rating with
  | none => exact (Except.ok.inj done).symm
  | some n =>
    obtain ⟨x, real, same⟩ := map_eq_ok_iff.1 done
    rw [← same, ← (Number.real_eq_ok_iff.1 real).2]
    rfl

theorem rate_eq_error_iff {i : Issue} {rating : Option Number} {fault : Fault} :
    i.rate rating = .error fault ↔
      fault = .numberTooLarge ∧ ∃ n, rating = some n ∧ n.overflows = true := by
  cases rating with
  | none => exact ⟨nofun, nofun⟩
  | some n => simp only [rate, map_eq_error_iff, Number.real_eq_error_iff, Option.some.injEq, exists_eq_left']

/-- An issue after some answers, each of which may rate it anew. -/
def ratedBy (answers : List Fields) (i : Issue) : Issue :=
  answers.foldl (fun i answer => i.rated (Gateway.rating? answer i.identity)) i

@[simp] theorem occurrence_rated (i : Issue) (rating : Option Number) :
    (i.rated rating).occurrence = i.occurrence := by cases rating <;> rfl

@[simp] theorem category_rated (i : Issue) (rating : Option Number) :
    (i.rated rating).category = i.category := by cases rating <;> rfl

@[simp] theorem identity_rated (i : Issue) (rating : Option Number) :
    (i.rated rating).identity = i.identity := by cases rating <;> rfl

theorem isShare_rated {i : Issue} (share : i.confidence.IsShare) (rating : Option Number) :
    (i.rated rating).confidence.IsShare := by
  cases rating with
  | none => exact share
  | some n => exact Number.isShare_unit _

theorem ratedBy_cons (answer : Fields) (rest : List Fields) (i : Issue) :
    i.ratedBy (answer :: rest) = (i.rated (Gateway.rating? answer i.identity)).ratedBy rest := rfl

theorem occurrence_ratedBy (answers : List Fields) (i : Issue) :
    (i.ratedBy answers).occurrence = i.occurrence := by
  induction answers generalizing i with
  | nil => rfl
  | cons answer rest ih => rw [ratedBy_cons, ih, occurrence_rated]

theorem category_ratedBy (answers : List Fields) (i : Issue) :
    (i.ratedBy answers).category = i.category := by
  induction answers generalizing i with
  | nil => rfl
  | cons answer rest ih => rw [ratedBy_cons, ih, category_rated]

theorem isShare_ratedBy (answers : List Fields) {i : Issue} (share : i.confidence.IsShare) :
    (i.ratedBy answers).confidence.IsShare := by
  induction answers generalizing i with
  | nil => exact share
  | cons answer rest ih => exact ih (isShare_rated share _)

theorem ratedBy_of_unrated {answers : List Fields} {i : Issue}
    (unrated : ∀ answer ∈ answers, Gateway.rating? answer i.identity = none) :
    i.ratedBy answers = i := by
  induction answers with
  | nil => rfl
  | cons answer rest ih =>
    obtain ⟨first, others⟩ := List.forall_mem_cons.1 unrated
    rw [ratedBy_cons, first]
    exact ih others

end Issue

namespace Gateway

variable {issues issues' : List Issue}

/-- An answer gives each issue its rating. -/
theorem apply_eq (issues : List Issue) (answer : Fields) :
    apply issues (some answer) = issues.mapM fun i => i.rate (rating? answer i.identity) := by
  have unrated : issues.mapM (fun i => (Except.ok i : Except Fault Issue)) = .ok issues := by
    rw [mapM_eq_ok_iff]
    exact List.forall₂_same.2 fun i _ => rfl
  unfold apply rating?
  rw [Option.bind_some]
  cases Table.get? answer "confidence" with
  | none => exact unrated.symm
  | some v =>
    cases v with
    | table adjustments =>
      refine congrArg (issues.mapM ·) (funext fun i => ?_)
      cases rating : (Table.get? adjustments i.identity).bind confidence? <;>
        simp only [adjust, rating, Issue.rate]
    | _ => exact unrated.symm

/-- An answer that can be applied gives every issue the rating that it has for it. -/
theorem eq_map_of_apply {answer : Fields} (applied : apply issues (some answer) = .ok issues') :
    issues' = issues.map fun i => i.rated (rating? answer i.identity) := by
  rw [apply_eq, mapM_eq_ok_iff] at applied
  induction applied with
  | nil => rfl
  | cons one _ ih => rw [List.map_cons, Issue.eq_rated_of_rate one, ih]

/-- An answer cannot be applied if and only if it overrates an issue. -/
theorem apply_eq_error_iff {answer : Fields} {fault : Fault} :
    apply issues (some answer) = .error fault ↔ fault = .numberTooLarge ∧ Overrates answer issues := by
  have failure {fault : Fault} (failed : apply issues (some answer) = .error fault) :
      fault = .numberTooLarge ∧ Overrates answer issues := by
    rw [apply_eq] at failed
    obtain ⟨before, i, after, split, -, failed⟩ := mapM_eq_error_iff.1 failed
    obtain ⟨large, overrated⟩ := Issue.rate_eq_error_iff.1 failed
    exact ⟨large, i, split ▸ List.mem_append_right before List.mem_cons_self, overrated⟩
  refine ⟨failure, ?_⟩
  rintro ⟨rfl, i, member, overrated⟩
  cases outcome : apply issues (some answer) with
  | error fault => rw [(failure outcome).1]
  | ok issues' =>
    rw [apply_eq] at outcome
    obtain ⟨j, rated⟩ := exists_ok_of_mem outcome member
    cases rated.symm.trans (Issue.rate_eq_error_iff.2 ⟨rfl, overrated⟩)

theorem Overrates.congr {answer : Fields}
    (same : issues'.map Issue.identity = issues.map Issue.identity) (overrated : Overrates answer issues) :
    Overrates answer issues' := by
  obtain ⟨i, member, large⟩ := overrated
  obtain ⟨j, member', identity⟩ := List.mem_map.1 (same ▸ List.mem_map_of_mem member)
  exact ⟨j, member', identity ▸ large⟩

theorem applyAll_cons (issues : List Issue) (answer : Fields) (rest : List Fields) :
    applyAll issues (answer :: rest) = (apply issues (some answer)).bind (applyAll · rest) := rfl

theorem applyAll_append (issues : List Issue) (answers more : List Fields) :
    applyAll issues (answers ++ more) = (applyAll issues answers).bind (applyAll · more) :=
  List.foldlM_append

/-- Answers that can be applied give every issue its ratings, one after the other. -/
theorem eq_map_of_applyAll {answers : List Fields} (applied : applyAll issues answers = .ok issues') :
    issues' = issues.map (Issue.ratedBy answers) := by
  induction answers generalizing issues with
  | nil => exact (Except.ok.inj applied).symm.trans (List.map_id issues).symm
  | cons answer rest ih =>
    obtain ⟨mid, first, others⟩ := bind_eq_ok_iff.1 applied
    rw [ih others, eq_map_of_apply first, List.map_map]
    rfl

/-- Some answers cannot be applied if and only if one of them overrates an issue. -/
theorem applyAll_eq_error_iff {answers : List Fields} {fault : Fault} :
    applyAll issues answers = .error fault ↔
      fault = .numberTooLarge ∧ ∃ answer ∈ answers, Overrates answer issues := by
  induction answers generalizing issues with
  | nil => exact ⟨nofun, fun overrated => nomatch overrated⟩
  | cons answer rest ih =>
    rw [List.exists_mem_cons_iff, applyAll_cons]
    cases outcome : apply issues (some answer) with
    | error fault' =>
      obtain ⟨large, overrated⟩ := apply_eq_error_iff.1 outcome
      change Except.error fault' = Except.error fault ↔ _
      rw [large, Except.error.injEq, eq_comm]
      exact ⟨fun same => ⟨same, Or.inl overrated⟩, And.left⟩
    | ok mid =>
      have fits : ¬ Overrates answer issues := fun overrated =>
        nomatch outcome.symm.trans (apply_eq_error_iff.2 ⟨rfl, overrated⟩)
      have same : mid.map Issue.identity = issues.map Issue.identity := by
        rw [eq_map_of_apply outcome, List.map_map]
        exact List.map_congr_left fun i _ => Issue.identity_rated i _
      change applyAll mid rest = .error fault ↔ _
      rw [ih, or_iff_right fits]
      exact and_congr_right fun _ =>
        exists_congr fun later => and_congr_right fun _ => ⟨.congr same.symm, .congr same⟩

end Gateway

end LiveLint
