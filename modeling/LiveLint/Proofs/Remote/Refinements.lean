import LiveLint.Proofs.Remote.Exchanges

/-!
# What a refinement does to issues

The service has a say about the confidence of issues and about nothing else, and it is not asked more than it
should be. Whatever it does, a refinement comes back with the issues that its answers leave, and tells the
machine once about each call. The only answer that is not absorbed is a rating that is beyond all doubles.
-/

namespace LiveLint.Gateway

/-- The issues after a refinement are those before it but for their confidence, and its calls were due. -/
structure Refined (g : Gateway) (now : Number) (topic : RefinementTopic) (issues : List Issue)
    (exchanges : List Exchange) (issues' : List Issue) : Prop where
  occurrences : issues'.map Issue.occurrence = issues.map Issue.occurrence
  categories : issues'.map Issue.category = issues.map Issue.category
  shares : ∀ i ∈ issues', i.confidence.IsShare
  /-- Each issue has the last confidence that an answer gave it, or is as it was. -/
  rated : issues' = issues.map (Issue.ratedBy (Exchange.answers exchanges))
  unrated : ∀ (k : Nat) (i : Issue), issues[k]? = some i →
    (∀ answer ∈ Exchange.answers exchanges, rating? answer i.identity = none) → issues'[k]? = some i
  unanswered : (∀ e ∈ exchanges, e.answer? = none) → issues' = issues
  made : g.Made now topic issues exchanges

/-- A refinement tells the machine about each of its calls, and it comes back with the issues as the answers
rate them unless one of these ratings is beyond all doubles. -/
structure Absorbed {σ : Type} (g : Gateway) (issues : List Issue) (exchanges : List Exchange)
    (out : Outcome σ (Except Fault (List Issue))) : Prop where
  told : out.gateway = g.after exchanges
  returns : (∀ answer ∈ Exchange.answers exchanges, ¬ Overrates answer issues) →
    out.result = .ok (issues.map (Issue.ratedBy (Exchange.answers exchanges)))
  fails : (∃ answer ∈ Exchange.answers exchanges, Overrates answer issues) →
    out.result = .error .numberTooLarge

theorem answers_eq_nil_iff {exchanges : List Exchange} :
    Exchange.answers exchanges = [] ↔ ∀ e ∈ exchanges, e.answer? = none :=
  List.filterMap_eq_nil_iff

theorem refined_of_applyAll {g : Gateway} {now : Number} {topic : RefinementTopic}
    {issues issues' : List Issue} {exchanges : List Exchange} (shares : ∀ i ∈ issues, i.confidence.IsShare)
    (made : g.Made now topic issues exchanges)
    (applied : applyAll issues (Exchange.answers exchanges) = .ok issues') :
    g.Refined now topic issues exchanges issues' := by
  have rated := eq_map_of_applyAll applied
  subst rated
  refine ⟨?_, ?_, ?_, rfl, ?_, ?_, made⟩
  · rw [List.map_map]
    exact List.map_congr_left fun i _ => Issue.occurrence_ratedBy _ i
  · rw [List.map_map]
    exact List.map_congr_left fun i _ => Issue.category_ratedBy _ i
  · rw [List.forall_mem_map]
    exact fun i member => Issue.isShare_ratedBy _ (shares i member)
  · intro k i found unrated
    rw [List.getElem?_map, found, Option.map_some, Issue.ratedBy_of_unrated unrated]
  · intro unanswered
    rw [answers_eq_nil_iff.2 unanswered]
    exact List.map_id issues

variable {σ : Type} (g : Gateway) (now : Number) (first second : Interim) (transport : Transport σ)
  (topic : RefinementTopic) (issues : List Issue) (s : σ)

/-- A refinement changes the confidence of issues and nothing else. -/
theorem refineAmid_changes_confidence_only (shares : ∀ i ∈ issues, i.confidence.IsShare)
    {issues' : List Issue}
    (returned : (g.refineAmid now first second transport topic issues s).result = .ok issues') :
    g.Refined now topic issues (g.exchanges now first second transport topic issues s) issues' := by
  obtain ⟨made, ⟨-, applied⟩ | ⟨failed, -⟩⟩ :=
    (g.progress_refineAmid now first second transport topic issues s).of_settled
  · exact refined_of_applyAll shares made (applied.symm.trans returned)
  · cases failed.symm.trans returned

/-- Two issues about one function, of which the first is the less certain one. -/
def doubtful : List Issue :=
  [{ occurrence :=
      { identity := "p", file := "a", language := "python", kind := "nested_loop", range := ⟨1, 0, 3, 1⟩,
        severity := .medium }
     category := .performance
     confidence := .float 0.5 },
   { occurrence :=
      { identity := "q", file := "a", language := "python", kind := "unused", range := ⟨2, 0, 2, 5⟩,
        severity := .low }
     category := .readability
     confidence := .float 0.9 }]

/-- The way to a service that was reached before. -/
def wayThere : Gateway :=
  { client := some { baseUrl := "http://h" }
    machine :=
      { firstDelay := .float 1, moreDelays := [], probeInterval := .float 60, nextAttempt := .float 0 } }

/-- A service that has a low rating for one issue and a truth value for another one, and then is silent. -/
def ratesOnce : Transport Nat := fun _ calls =>
  (if calls = 0 then .answer 200 "\x7b\"confidence\":\x7b\"p\":-3,\"q\":true\x7d\x7d" else .timedOut,
    calls + 1)

/-- While the second call is out, another one fails. -/
theorem refineAmid_changes_confidence_only_rated_once :
    let out := wayThere.refineAmid (.float 0) ⟨[], .float 1⟩ ⟨[.fail (.float 2)], .float 9⟩ ratesOnce
      ⟨"a", "python", 1⟩ doubtful 0
    let exchanges := wayThere.exchanges (.float 0) ⟨[], .float 1⟩ ⟨[.fail (.float 2)], .float 9⟩ ratesOnce
      ⟨"a", "python", 1⟩ doubtful 0
    (∀ i ∈ doubtful, i.confidence.IsShare) ∧ exchanges.map Exchange.call = [.structural, .classify] ∧
      ∃ issues', out.result = .ok issues' ∧ issues'.map Issue.remoteAdjusted = [true, false] ∧
        wayThere.Refined (.float 0) ⟨"a", "python", 1⟩ doubtful exchanges issues' := by
  intro out exchanges
  have shares : ∀ i ∈ doubtful, i.confidence.IsShare := by decide +kernel
  have adjusted : out.result.toOption.map (List.map Issue.remoteAdjusted) = some [true, false] := by
    decide +kernel
  refine ⟨shares, by decide +kernel, ?_⟩
  cases returned : out.result with
  | error fault =>
    rw [returned] at adjusted
    cases adjusted
  | ok issues' =>
    rw [returned] at adjusted
    exact ⟨issues', rfl, Option.some.inj adjusted,
      refineAmid_changes_confidence_only _ _ _ _ _ _ _ _ shares returned⟩

/-- Whatever the service does is absorbed but for ratings beyond all doubles, as long as the time of the next
probe can be told. -/
theorem refineAmid_absorbs_all_but_overrating :
    let exchanges := g.exchanges now first second transport topic issues s
    let out := g.refineAmid now first second transport topic issues s
    g.Absorbed issues exchanges out ∨
      (out.result = .error .numberTooLarge ∧ (∃ e ∈ exchanges, e.answer? = none) ∧
        g.machine.probeInterval.overflows = true) := by
  intro exchanges out
  obtain ⟨-, ⟨told, applied⟩ | untold⟩ :=
    (g.progress_refineAmid now first second transport topic issues s).of_settled
  · refine Or.inl { told, returns := fun fits => ?_, fails := fun overrated => ?_ }
    · cases outcome : applyAll issues (Exchange.answers exchanges) with
      | ok issues' => rw [applied, outcome, eq_map_of_applyAll outcome]
      | error fault =>
        obtain ⟨-, answer, member, overrated⟩ := applyAll_eq_error_iff.1 outcome
        exact absurd overrated (fits answer member)
    · exact applied.trans (applyAll_eq_error_iff.2 ⟨rfl, overrated⟩)
  · exact Or.inr untold

/-- A service that has a rating of ten to the power of three hundred and nine. -/
def ratesHugely : Transport Unit := fun _ s =>
  (.answer 200 ("\x7b\"confidence\":\x7b\"p\":1" ++ String.ofList (List.replicate 309 '0') ++ "\x7d\x7d"), s)

theorem refineAmid_absorbs_all_but_overrating_huge_rating :
    let exchanges := wayThere.exchanges (.float 0) ⟨[], .float 1⟩ ⟨[], .float 2⟩ ratesHugely
      ⟨"a", "python", 1⟩ doubtful ()
    let out := wayThere.refineAmid (.float 0) ⟨[], .float 1⟩ ⟨[], .float 2⟩ ratesHugely
      ⟨"a", "python", 1⟩ doubtful ()
    wayThere.Absorbed doubtful exchanges out ∧ out.result = .error .numberTooLarge := by
  intro exchanges out
  have lost : out.result.toOption.isNone = true := by decide +kernel
  obtain absorbed | ⟨-, -, large⟩ :=
    wayThere.refineAmid_absorbs_all_but_overrating (.float 0) ⟨[], .float 1⟩ ⟨[], .float 2⟩ ratesHugely
      ⟨"a", "python", 1⟩ doubtful ()
  · refine ⟨absorbed, absorbed.fails (Classical.byContradiction fun fits => ?_)⟩
    have returned := absorbed.returns fun answer member overrated => fits ⟨answer, member, overrated⟩
    rw [returned] at lost
    cases lost
  · cases large

end LiveLint.Gateway
