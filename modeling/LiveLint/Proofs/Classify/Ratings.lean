import LiveLint.Engine.Basic
import LiveLint.Proofs.Doubles
import LiveLint.Proofs.Remote.Adjustments

/-!
# What can be classified

The standard rules give every occurrence a confidence whose data say what the rule for its kind reads: what is
counted is a number, and a limit is not beyond all doubles. Confidences are brought between zero and one
before they are checked, so nothing else can fail.
-/

namespace LiveLint

/-- The rules for a kind give a confidence to what has some data. -/
def Rule.Rates (kind : String) (data : Fields) : Prop :=
  ∀ rule, Table.get? Rule.standard kind = some rule → ∃ replaced, rule.adjust data = .ok replaced

namespace Rule

theorem rates_of_rule {kind : String} {data : Fields} {rule : Rule}
    (found : Table.get? standard kind = some rule) {adjust : Adjustment} (same : rule.adjust = adjust)
    (adjusts : ∃ replaced, adjust data = .ok replaced) : Rates kind data := by
  intro other found'
  rw [found] at found'
  cases found'
  exact same ▸ adjusts

theorem exists_benign (data : Fields) : ∃ replaced, benign data = .ok replaced := by
  unfold benign
  dsimp only
  split <;> exact ⟨_, rfl⟩

theorem exists_atLeast {field : String} {data : Fields} {n : Int} (given : data.get? field = some (.int n))
    (least : Int) (confidence : Number) (reason : String) :
    ∃ replaced, atLeast field least confidence reason data = .ok replaced := by
  unfold atLeast
  rw [given]
  exact ⟨_, rfl⟩

theorem exists_borderline {data : Fields} {lines limit : Number}
    (counted : data.get? "logical_lines" = some (.ofNumber lines))
    (allowed : data.get? "threshold" = some (.ofNumber limit)) (small : limit.overflows = false) :
    ∃ replaced, borderline data = .ok replaced := by
  have number (x : Number) : (Value.ofNumber x).number? = some x := by cases x <;> rfl
  unfold borderline
  rw [counted, allowed]
  dsimp only
  rw [number lines, number limit]
  split
  · next n most whole bound =>
    have fits := Number.overflows_of_whole small bound
    rw [if_neg (by simp [fits])]
    split <;> exact ⟨_, rfl⟩
  · exact ⟨_, rfl⟩

theorem rates_longFunction {data : Fields} {lines limit : Number}
    (counted : data.get? "logical_lines" = some (.ofNumber lines))
    (allowed : data.get? "threshold" = some (.ofNumber limit)) (small : limit.overflows = false) :
    Rates "long-function" data :=
  rates_of_rule rfl rfl (exists_borderline counted allowed small)

theorem rates_magicNumber (data : Fields) : Rates "magic-number" data :=
  rates_of_rule rfl rfl (exists_benign data)

theorem rates_nestedLoop {data : Fields} {depth : Int} (given : data.get? "depth" = some (.int depth)) :
    Rates "nested-loop" data :=
  rates_of_rule rfl rfl (exists_atLeast given ..)

theorem rates_duplicatedCode {data : Fields} {lines : Int} (given : data.get? "lines" = some (.int lines)) :
    Rates "duplicated-code" data :=
  rates_of_rule rfl rfl (exists_atLeast given ..)

end Rule

/-- An occurrence can be classified: the rules for its kind give it a confidence. -/
def Occurrence.Rated (o : Occurrence) : Prop := Rule.Rates o.kind o.metadata

namespace Classifier

/-- A classifier with the rules that hold by default, whatever it has classified. -/
structure Standard (c : Classifier) : Prop where
  rules : c.rules = Rule.standard
  languageRules : c.languageRules = Rule.forLanguages

/-- The rules for single languages do not look at the data. -/
theorem adjust_of_language {language kind : String} {rules : Table String Rule} {rule : Rule}
    (known : Table.get? Rule.forLanguages language = some rules) (found : Table.get? rules kind = some rule)
    (data : Fields) : rule.adjust data = .ok none := by
  unfold Table.get? Rule.forLanguages at known
  rw [List.lookup_cons] at known
  split at known
  · cases known
    unfold Table.get? at found
    rw [List.lookup_cons] at found
    split at found
    · cases found
      rfl
    · cases found
  · cases known

/-- Whatever was classified before, an occurrence is classified as the first one would be. -/
theorem Standard.classify {c : Classifier} (standard : c.Standard) (o : Occurrence) (language : String) :
    (c.classify o language).classifier.Standard ∧
      (c.classify o language).issue = (Classifier.classify {} o language).issue := by
  have judged : c.judge o (languageFor o language) =
      Classifier.judge {} o (languageFor o language) := by
    unfold judge rule?
    rw [standard.rules, standard.languageRules]
  unfold Classifier.classify
  dsimp only
  rw [judged]
  split
  · exact ⟨standard, rfl⟩
  · split
    · exact ⟨⟨standard.rules, standard.languageRules⟩, rfl⟩
    · exact ⟨standard, rfl⟩

/-- Whatever was classified before, occurrences are classified as by a classifier that is new. -/
theorem Standard.classifyAll {c : Classifier} (standard : c.Standard) (language : String)
    (os : List Occurrence) :
    (c.classifyAll language os).1.Standard ∧
      (c.classifyAll language os).2.1 = (Classifier.classifyAll {} language os).2.1 := by
  induction os generalizing c with
  | nil => exact ⟨standard, rfl⟩
  | cons o rest ih =>
    have new : Standard {} := ⟨rfl, rfl⟩
    obtain ⟨kept, issue⟩ := standard.classify o language
    obtain ⟨kept', -⟩ := new.classify o language
    unfold Classifier.classifyAll
    dsimp only
    rw [← issue]
    cases (c.classify o language).issue with
    | error fault => exact ⟨kept, rfl⟩
    | ok found =>
      obtain ⟨after, rest_same⟩ := ih kept
      refine ⟨after, ?_⟩
      dsimp only
      rw [rest_same, (ih kept').2]

variable {c : Classifier} (standard : c.Standard)

include standard

theorem exists_judge {o : Occurrence} (rated : o.Rated) (language : String) :
    ∃ verdict, c.judge o language = .ok verdict := by
  have adjusts : ∀ rule, c.rule? o.kind language = some rule →
      ∃ replaced, rule.adjust o.metadata = .ok replaced := by
    intro rule found
    unfold rule? at found
    rw [standard.rules, standard.languageRules] at found
    cases known : Table.get? Rule.forLanguages language with
    | none =>
      rw [known] at found
      exact rated rule found
    | some rules =>
      rw [known, Option.getD_some] at found
      cases first : Table.get? rules o.kind with
      | none =>
        rw [first] at found
        exact rated rule found
      | some special =>
        rw [first] at found
        cases found
        exact ⟨none, adjust_of_language known first o.metadata⟩
  unfold judge
  cases found : c.rule? o.kind language with
  | none => exact ⟨_, rfl⟩
  | some rule =>
    obtain ⟨replaced, adjusted⟩ := adjusts rule found
    unfold Rule.confidenceFor
    dsimp only
    rw [adjusted]
    exact ⟨_, rfl⟩

theorem standard_classify {o : Occurrence} (rated : o.Rated) (language : String) :
    (c.classify o language).classifier.Standard ∧ ∃ issue, (c.classify o language).issue = .ok issue := by
  obtain ⟨⟨category, confidence, reason⟩, judged⟩ := exists_judge standard rated (languageFor o language)
  have made : ∃ issue, Issue.ofParts o category confidence.unit = .ok issue := by
    have share : Number.float 0 ≤ confidence.unit ∧ confidence.unit ≤ Number.float 1 :=
      Number.isShare_unit confidence
    unfold Issue.ofParts
    rw [if_pos share]
    exact ⟨_, rfl⟩
  unfold classify
  dsimp only
  rw [judged]
  dsimp only
  split
  · exact ⟨⟨standard.rules, standard.languageRules⟩, made⟩
  · exact ⟨standard, made⟩

/-- Everything that is rated can be classified, and the rules stay as they are. -/
theorem standard_classifyAll (language : String) {os : List Occurrence} (rated : ∀ o ∈ os, o.Rated) :
    (c.classifyAll language os).1.Standard ∧
      ∃ issues, (c.classifyAll language os).2.1 = .ok issues := by
  induction os generalizing c with
  | nil => exact ⟨standard, [], rfl⟩
  | cons o rest ih =>
    obtain ⟨kept, issue, classified⟩ := standard_classify standard (rated o List.mem_cons_self) language
    obtain ⟨kept, issues, all⟩ := ih kept fun o member => rated o (List.mem_cons_of_mem _ member)
    unfold classifyAll
    dsimp only
    rw [classified]
    exact ⟨kept, issue :: issues, map_eq_ok_iff.2 ⟨issues, all, rfl⟩⟩

end Classifier

/-- Issues can be selected if the flags of the categories are a table. -/
theorem Engine.exists_select {c : Config} {flags : Fields} (table : c.get .categoryFlags = .table flags)
    (issues : List Issue) : ∃ selected, Engine.select c issues = .ok selected := by
  have enabled (i : Issue) : ∃ b, c.isEnabled i.category = .ok b := by
    unfold Config.isEnabled Config.flag
    rw [table]
    exact ⟨_, rfl⟩
  obtain ⟨kept, filtered⟩ := exists_filterM fun i (_ : i ∈ issues) => enabled i
  unfold Engine.select
  rw [filtered]
  exact ⟨_, rfl⟩

end LiveLint
