import LiveLint.Proofs.Classify.Ratings

/-!
# What every call of a classifier comes to

Two standard rules compare a field of an occurrence with a number without asking whether it is one, and one rule
multiplies a limit that may be beyond all doubles. An occurrence that makes a rule do so cannot be classified, and the
call leaves everything as it was. Every other one gets the category of its kind and a share as its confidence, and it
is noted if that is low. What was noted last is kept.
-/

namespace LiveLint

/-- The category of a kind in every language. Kinds without a rule count as unclear logic. -/
def Category.ofKind : String → Category
  | "magic-number" | "long-parameter-list" => .readability
  | "nested-loop" => .performance
  | "eval-usage" => .security
  | "loose-equality" => .syntaxBasics
  | _ => .logicClarity

namespace Rule

/-- What the rule for a kind cannot read in the data of an occurrence, and the fault of it: a count that is no number,
or the limit of a function that is too large for a double. -/
inductive Trips (kind : String) (data : Fields) : Fault → Prop where
  | count {field : String} {value : Value} (counts : (kind, field) ∈ [("nested-loop", "depth"), ("duplicated-code", "lines")])
    (given : data.get? field = some value) (unordered : value.number? = none) :
    Trips kind data (.mistyped (.unordered ">=" value.typeName "int"))
  | limit {lines threshold : Value} {n most : Int} (counts : kind = "long-function")
    (given : data.get? "logical_lines" = some lines) (limited : data.get? "threshold" = some threshold)
    (whole : lines.number?.bind Number.whole? = some n) (bound : threshold.number?.bind Number.whole? = some most)
    (huge : (Number.int most).overflows = true) : Trips kind data .numberTooLarge

variable {kind : String} {data : Fields}

theorem not_trips {fault : Fault} (other : kind ≠ "nested-loop") (other' : kind ≠ "duplicated-code")
    (other'' : kind ≠ "long-function") : ¬Trips kind data fault := by
  intro trips
  cases trips with
  | count counts =>
    rcases List.mem_cons.1 counts with same | counts
    · exact other (congrArg Prod.fst same)
    · exact other' (congrArg Prod.fst (List.mem_singleton.1 counts))
  | limit counts => exact other'' counts

/-- Whether a rule adjusts what has some data for a kind, or trips over it. -/
def Settles (kind : String) (data : Fields) (adjust : Adjustment) : Prop :=
  (∃ fault, Trips kind data fault ∧ adjust data = .error fault) ∨
    (∀ fault, ¬Trips kind data fault) ∧ ∃ replaced, adjust data = .ok replaced

theorem settles_atLeast {field : String} (least : Int) (confidence : Number) (reason : String)
    (counts : (kind, field) ∈ [("nested-loop", "depth"), ("duplicated-code", "lines")])
    (only : ∀ other, (kind, other) ∈ [("nested-loop", "depth"), ("duplicated-code", "lines")] → other = field) :
    Settles kind data (atLeast field least confidence reason) := by
  have no_limit : kind ≠ "long-function" := by
    rintro rfl
    simp at counts
  unfold Settles atLeast
  cases given : data.get? field with
  | none =>
    refine Or.inr ⟨fun fault trips => ?_, _, rfl⟩
    cases trips with
    | count counts' given' =>
      rw [only _ counts', given] at given'
      cases given'
    | limit counts' => exact no_limit counts'
  | some value =>
    cases number : value.number? with
    | none => exact Or.inl ⟨_, .count counts given number, by simp only [Option.getD_some, number]⟩
    | some n =>
      refine Or.inr ⟨fun fault trips => ?_, _, by simp only [Option.getD_some, number]; rfl⟩
      cases trips with
      | count counts' given' unordered =>
        rw [only _ counts', given] at given'
        cases given'
        rw [number] at unordered
        cases unordered
      | limit counts' => exact no_limit counts'

theorem settles_borderline : Settles "long-function" data borderline := by
  by_cases tripped : Trips "long-function" data .numberTooLarge
  · refine Or.inl ⟨_, tripped, ?_⟩
    cases tripped with
    | limit _ given limited whole bound huge =>
      unfold borderline
      rw [given, limited]
      dsimp only
      rw [whole, bound]
      exact if_pos huge
  · refine Or.inr ⟨fun fault trips => ?_, ?_⟩
    · cases trips with
      | count counts => simp at counts
      | limit counts given limited whole bound huge => exact tripped (.limit counts given limited whole bound huge)
    · unfold borderline
      split
      · next lines threshold given limited =>
        split
        · next n most whole bound =>
          rw [if_neg fun huge => tripped (.limit rfl given limited whole bound huge)]
          split <;> exact ⟨_, rfl⟩
        · exact ⟨_, rfl⟩
      · exact ⟨_, rfl⟩

/-- A standard rule gives its kind the category of that kind, and trips over data or adjusts them. -/
theorem settles_of_standard {rule : Rule} (found : Table.get? standard kind = some rule) :
    rule.category = Category.ofKind kind ∧ Settles kind data rule.adjust := by
  have plain (other : kind ≠ "nested-loop") (other' : kind ≠ "duplicated-code") (other'' : kind ≠ "long-function")
      {adjust : Adjustment} (adjusts : ∃ replaced, adjust data = .ok replaced) : Settles kind data adjust :=
    Or.inr ⟨fun _ => not_trips other other' other'', adjusts⟩
  obtain ⟨front, back, split, -⟩ := List.lookup_eq_some_iff.1 found
  have member : (kind, rule) ∈ standard := split ▸ List.mem_append_right front (List.mem_cons_self ..)
  simp only [standard, List.mem_cons, List.not_mem_nil, or_false, Prod.mk.injEq] at member
  rcases member with ⟨rfl, rfl⟩ | ⟨rfl, rfl⟩ | ⟨rfl, rfl⟩ | ⟨rfl, rfl⟩ | ⟨rfl, rfl⟩ | ⟨rfl, rfl⟩ | ⟨rfl, rfl⟩
  · exact ⟨rfl, settles_borderline⟩
  · exact ⟨rfl, plain (by decide) (by decide) (by decide) (exists_benign data)⟩
  · exact ⟨rfl, settles_atLeast _ _ _ (by decide) (by simp)⟩
  · exact ⟨rfl, settles_atLeast _ _ _ (by decide) (by simp)⟩
  · exact ⟨rfl, plain (by decide) (by decide) (by decide) ⟨none, rfl⟩⟩
  · exact ⟨rfl, plain (by decide) (by decide) (by decide) ⟨none, rfl⟩⟩
  · exact ⟨rfl, plain (by decide) (by decide) (by decide) ⟨none, rfl⟩⟩

end Rule

namespace Classifier

/-- What a call can come to: a rule trips over the data and nothing is changed; or the occurrence gets the category of
its kind and a share as its confidence, and is noted and logged if that is low. -/
inductive Comes (c : Classifier) (o : Occurrence) (language : String) : Outcome → Prop where
  | tripped {fault : Fault} (trips : Rule.Trips o.kind o.metadata fault) :
    Comes c o language { classifier := c, issue := .error fault }
  | sure {confidence : Number} (free : ∀ fault, ¬Rule.Trips o.kind o.metadata fault) (share : confidence.IsShare)
    (high : ¬confidence < lowConfidence) :
    Comes c o language { classifier := c, issue := .ok ⟨o, Category.ofKind o.kind, confidence, false⟩ }
  | noted {confidence : Number} {event : LowConfidence} (free : ∀ fault, ¬Rule.Trips o.kind o.metadata fault)
    (share : confidence.IsShare) (low : confidence < lowConfidence)
    (about : ∃ reason, event =
      ⟨o.identity, o.kind, languageFor o language, Category.ofKind o.kind, confidence, reason⟩) :
    Comes c o language
      { classifier := c.record event, issue := .ok ⟨o, Category.ofKind o.kind, confidence, false⟩,
        logs := [recordOf event] }

/-- A kind without a standard rule has the category of the fallback. -/
theorem ofKind_of_unruled {kind : String} (unruled : Table.get? Rule.standard kind = none) :
    Category.ofKind kind = .logicClarity := by
  have other : ∀ k ∈ ["magic-number", "long-parameter-list", "nested-loop", "eval-usage", "loose-equality"],
      kind ≠ k := by
    rintro k member rfl
    have ruled : ∀ k ∈ ["magic-number", "long-parameter-list", "nested-loop", "eval-usage", "loose-equality"],
        (Table.get? Rule.standard k).isSome = true := by decide
    have ruled := ruled kind member
    rw [unruled] at ruled
    cases ruled
  unfold Category.ofKind
  split
  · exact absurd rfl (other _ (by decide))
  · exact absurd rfl (other _ (by decide))
  · exact absurd rfl (other _ (by decide))
  · exact absurd rfl (other _ (by decide))
  · exact absurd rfl (other _ (by decide))
  · rfl

/-- The rules for single languages give their kinds the same categories as the standard rules, and trip over
nothing. -/
theorem settles_of_language {language kind : String} {rules : Table String Rule} {rule : Rule} (data : Fields)
    (known : Table.get? Rule.forLanguages language = some rules) (found : Table.get? rules kind = some rule) :
    rule.category = Category.ofKind kind ∧ Rule.Settles kind data rule.adjust := by
  have adjusts := adjust_of_language known found data
  unfold Table.get? Rule.forLanguages at known
  rw [List.lookup_cons] at known
  split at known
  · cases known
    unfold Table.get? at found
    rw [List.lookup_cons] at found
    split at found
    · next same =>
      cases found
      rw [beq_iff_eq.1 same]
      exact ⟨rfl, Or.inr ⟨fun _ => Rule.not_trips (by decide) (by decide) (by decide), none, rfl⟩⟩
    · cases found
  · cases known

section Standard

variable {c : Classifier} (standard : c.Standard)

include standard

/-- With the standard rules an occurrence is judged unless a rule trips over its data, and its category is that of
its kind. -/
theorem judge_standard (o : Occurrence) (language : String) :
    (∃ fault, Rule.Trips o.kind o.metadata fault ∧ c.judge o language = .error fault) ∨
      (∀ fault, ¬Rule.Trips o.kind o.metadata fault) ∧
        ∃ confidence reason, c.judge o language = .ok (Category.ofKind o.kind, confidence, reason) := by
  have settles : ∀ rule, c.rule? o.kind language = some rule →
      rule.category = Category.ofKind o.kind ∧ Rule.Settles o.kind o.metadata rule.adjust := by
    intro rule found
    unfold rule? at found
    rw [standard.rules, standard.languageRules] at found
    rcases Option.or_eq_some_iff.1 found with special | ⟨-, general⟩
    · cases known : Table.get? Rule.forLanguages language with
      | none =>
        rw [known] at special
        cases special
      | some rules =>
        rw [known] at special
        exact settles_of_language o.metadata known special
    · exact Rule.settles_of_standard general
  unfold judge
  cases found : c.rule? o.kind language with
  | none =>
    have unruled : Table.get? Rule.standard o.kind = none := by
      unfold rule? at found
      rw [standard.rules] at found
      exact (Option.or_eq_none_iff.1 found).2
    refine Or.inr ⟨fun fault => Rule.not_trips ?_ ?_ ?_, .float 0.5, _, by rw [ofKind_of_unruled unruled]⟩
    all_goals
      intro same
      rw [same] at unruled
      cases unruled
  | some rule =>
    obtain ⟨category, ⟨fault, trips, failed⟩ | ⟨free, replaced, adjusted⟩⟩ := settles rule found
    · refine Or.inl ⟨fault, trips, ?_⟩
      unfold Rule.confidenceFor
      dsimp only
      rw [failed]
      rfl
    · refine Or.inr ⟨free, (replaced.getD (rule.confidence, "base rule")).1,
        (replaced.getD (rule.confidence, "base rule")).2, ?_⟩
      unfold Rule.confidenceFor
      dsimp only
      rw [adjusted, ← category]
      rfl

theorem comes_classify (o : Occurrence) (language : String) : Comes c o language (c.classify o language) := by
  unfold classify
  dsimp only
  rcases judge_standard standard o (languageFor o language) with
    ⟨fault, trips, failed⟩ | ⟨free, confidence, reason, judged⟩
  · rw [failed]
    exact .tripped trips
  · have share : confidence.unit.IsShare := Number.isShare_unit confidence
    have issue : Issue.ofParts o (Category.ofKind o.kind) confidence.unit =
        .ok ⟨o, Category.ofKind o.kind, confidence.unit, false⟩ := if_pos share
    rw [judged]
    dsimp only
    rw [issue]
    split
    · next low => exact .noted free share low ⟨reason, rfl⟩
    · next high => exact .sure free share high

end Standard

/-!
## What is noted
-/

def event? (call : Occurrence × String) : Option LowConfidence :=
  (classify { history := none } call.1 call.2).classifier.events.head?

def latest (history : Option Nat) (events : List LowConfidence) : List LowConfidence :=
  events.drop (events.length - history.getD events.length)

def after (c : Classifier) (calls : List (Occurrence × String)) : Classifier :=
  calls.foldl (fun c call => (c.classify call.1 call.2).classifier) c

/-- To keep one more of what is kept keeps as much as of everything. -/
theorem latest_append (history : Option Nat) (events : List LowConfidence) (event : LowConfidence) :
    latest history (latest history events ++ [event]) = latest history (events ++ [event]) := by
  cases history with
  | none => simp [latest]
  | some n =>
    unfold latest
    rw [Option.getD_some, Option.getD_some, Option.getD_some, ← List.drop_append_of_le_length (Nat.sub_le _ _),
      List.drop_drop, List.length_drop, List.length_append, List.length_singleton]
    congr 1
    omega

/-- Whatever was classified before, a call notes what a new classifier would note. -/
theorem Standard.classifier_classify {c : Classifier} (standard : c.Standard) (call : Occurrence × String) :
    (c.classify call.1 call.2).classifier = (event? call).elim c c.record := by
  obtain ⟨o, language⟩ := call
  have new : Standard { history := none } := ⟨rfl, rfl⟩
  have judged : c.judge o (languageFor o language) =
      judge { history := none } o (languageFor o language) := by
    unfold judge rule?
    rw [standard.rules, standard.languageRules]
  unfold event? Classifier.classify
  dsimp only
  rw [judged]
  split
  · rfl
  · split
    · rfl
    · rfl

/-- After any calls a classifier keeps the latest of what was noted. -/
theorem Standard.after {c : Classifier} (standard : c.Standard) {noted : List LowConfidence}
    (kept : c.events = latest c.history noted) (calls : List (Occurrence × String)) :
    (c.after calls).Standard ∧ (c.after calls).history = c.history ∧
      (c.after calls).events = latest c.history (noted ++ calls.filterMap event?) := by
  induction calls generalizing c noted with
  | nil => exact ⟨standard, rfl, by rw [List.filterMap_nil, List.append_nil]; exact kept⟩
  | cons call rest ih =>
    have next := standard.classifier_classify call
    have step : c.after (call :: rest) = ((event? call).elim c c.record).after rest := congrArg (·.after rest) next
    rw [step]
    cases found : event? call with
    | none =>
      rw [List.filterMap_cons_none found]
      exact ih standard kept
    | some event =>
      have recorded : (c.record event).events = latest c.history (noted ++ [event]) := by
        rw [← latest_append, ← kept]
        rfl
      have ruled : (c.record event).Standard := ⟨standard.rules, standard.languageRules⟩
      rw [List.filterMap_cons_some found, List.append_cons]
      exact ih ruled recorded

/-- A new classifier notes a call if and only if it gives the occurrence a low confidence. -/
theorem isSome_event?_iff (o : Occurrence) (language : String) {issue : Issue}
    (done : (classify {} o language).issue = .ok issue) :
    (event? (o, language)).isSome = true ↔ issue.confidence < lowConfidence := by
  have new : Standard { history := none } := ⟨rfl, rfl⟩
  have comes := comes_classify new o language
  rw [← (new.classify o language).2] at done
  unfold event?
  dsimp only
  generalize classify { history := none } o language = out at comes done
  cases comes with
  | tripped => cases done
  | sure _ _ high =>
    cases done
    exact ⟨nofun, fun low => absurd low high⟩
  | noted _ _ low =>
    cases done
    exact ⟨fun _ => low, fun _ => rfl⟩

/-- Every call of a classifier with the standard rules, after any other calls, comes to one issue with the category of
its kind unless a rule trips over the data, is noted if and only if its confidence is low, and finds the latest of what
was noted before. -/
theorem calls_settle (history : Option Nat) (calls : List (Occurrence × String)) (o : Occurrence) (language : String) :
    Comes (after { history } calls) o language (classify (after { history } calls) o language) ∧
      (∀ issue, (classify (after { history } calls) o language).issue = .ok issue →
        ((event? (o, language)).isSome = true ↔ issue.confidence < lowConfidence)) ∧
      (after { history } calls).events = latest history (calls.filterMap event?) := by
  have new : Standard { history } := ⟨rfl, rfl⟩
  have none_noted : Classifier.events { history } = latest history [] := List.drop_nil.symm
  obtain ⟨standard, -, events⟩ := new.after none_noted calls
  refine ⟨comes_classify standard o language, fun issue done => ?_, events⟩
  exact isSome_event?_iff o language ((standard.classify o language).2 ▸ done)

/-- A depth that is given as a text. -/
example :
    (classify {} { identity := "id", file := "a", language := "python", kind := "nested-loop", range := ⟨1, 0, 1, 5⟩,
                   severity := .low, metadata := [("depth", .text "3")] }).issue.toOption.isNone = true := by
  decide

end Classifier

end LiveLint
