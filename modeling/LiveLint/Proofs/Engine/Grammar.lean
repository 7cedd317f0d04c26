import LiveLint.Engine.Request
import LiveLint.Proofs.Outcomes

/-!
# The grammar of requests

Which payloads ask for something, and for what, said without the order in which a payload is checked. A
payload is accepted if it keeps to the grammar, as the request that it asks for, and refused otherwise.
-/

namespace LiveLint

/-- The text in a field is a name, that is not empty. -/
def Fields.Names (fields : Fields) (field name : String) : Prop :=
  Table.get? fields field = some (.text name) ∧ name ≠ ""

/-- A version whose first number is one. -/
def IsVersionOne (version : String) : Prop := version = "1" ∨ ∃ rest, version = "1." ++ rest

/-- A payload that names a version names version one. -/
def Fields.Versioned (fields : Fields) : Prop :=
  ∀ v, Table.get? fields "schema_version" = some v →
    v = .null ∨ ∃ version, v = .text version ∧ IsVersionOne version

/-- A value spells a range: a pair of whole numbers, or a table with a start and an end. -/
inductive Value.SpellsRange : Value → LineRange → Prop where
  | pair (r : LineRange) : SpellsRange (.list [.int r.start, .int r.stop]) r
  | ends {fields : Fields} {r : LineRange} (start : Table.get? fields "start" = some (.int r.start))
      (stop : Table.get? fields "end" = some (.int r.stop)) : SpellsRange (.table fields) r

/-- What is said about the lines that changed: nothing, or a list of ranges. -/
inductive Fields.SpellsRanges (fields : Fields) : Option (List HostRange) → Prop where
  | nothing (absent : ∀ v, Table.get? fields "changedRanges" = some v → v = .null) :
      SpellsRanges fields none
  | ranges {items : List Value} {ranges : List LineRange}
      (items_eq : Table.get? fields "changedRanges" = some (.list items))
      (spelled : List.Forall₂ Value.SpellsRange items ranges) :
      SpellsRanges fields (some (ranges.map .range))

/-- The fields spell a request for an analysis. Without a workspace the one for all is meant. -/
structure Fields.SpellsAnalysis (fields : Fields) (r : AnalysisRequest) : Prop where
  file : fields.Names "file" r.file
  language : Table.get? fields "language" = some (.text r.language)
  code : Table.get? fields "code" = some (.text r.code)
  workspace :
    Table.get? fields "workspace" = none ∧ r.workspace = "default" ∨
      fields.Names "workspace" r.workspace
  ranges : fields.SpellsRanges r.ranges

/-- The fields spell a request for a record. Without an action a showing is meant. -/
structure Fields.SpellsRecord (fields : Fields) (file identity : String) (action : NoticeAction) :
    Prop where
  file : fields.Names "file" file
  identity : fields.Names "identity" identity
  action :
    Table.get? fields "action" = none ∧ action = .shown ∨
      Table.get? fields "action" = some (.text action.label)

/-- A payload keeps to the grammar and asks for something. -/
inductive Value.Asks : Value → HostRequest → Prop where
  | analysis {fields : Fields} {r : AnalysisRequest} (versioned : fields.Versioned)
      (operation : Table.get? fields "operation" = some (.text "analyze"))
      (spelled : fields.SpellsAnalysis r) : Asks (.table fields) (.analyze r)
  | record {fields : Fields} {file identity : String} {action : NoticeAction}
      (versioned : fields.Versioned)
      (operation : Table.get? fields "operation" = some (.text "checkAndRecord"))
      (spelled : fields.SpellsRecord file identity action) :
      Asks (.table fields) (.checkAndRecord file identity action)

namespace HostRequest

variable {fields : Fields}

theorem textIn_eq_ok_iff {field s : String} :
    textIn fields field = .ok s ↔ Table.get? fields field = some (.text s) := by
  unfold textIn
  split <;> simp_all

theorem nameIn_eq_ok_iff {field s : String} : nameIn fields field = .ok s ↔ fields.Names field s := by
  unfold nameIn Fields.Names
  split
  · next text found =>
    rw [found, Option.some.injEq, Value.text.injEq]
    by_cases empty : text.isEmpty = true
    · rw [if_pos empty]
      rw [String.isEmpty_iff] at empty
      constructor
      · nofun
      · rintro ⟨rfl, named⟩
        exact absurd empty named
    · rw [if_neg empty, Except.ok.injEq]
      rw [String.isEmpty_iff] at empty
      exact ⟨fun same => ⟨same, same ▸ empty⟩, And.left⟩
  · next other =>
    constructor
    · nofun
    · rintro ⟨found, -⟩
      exact absurd found (other s)

theorem isSupported_iff (version : String) : isSupported version = true ↔ IsVersionOne version := by
  have one : schemaVersion.toList.takeWhile (· != '.') = ['1'] := by decide
  have split := List.takeWhile_append_dropWhile (p := (· != '.')) (l := version.toList)
  unfold isSupported IsVersionOne
  rw [one, beq_iff_eq]
  constructor
  · intro first
    rw [first] at split
    cases rest : version.toList.dropWhile (· != '.') with
    | nil =>
      rw [rest] at split
      exact Or.inl (String.toList_inj.1 split.symm)
    | cons c others =>
      rw [rest] at split
      have point : c = '.' := by
        have head := List.head?_dropWhile_not (· != '.') version.toList
        rw [rest] at head
        simpa using head
      subst point
      refine Or.inr ⟨String.ofList others, String.toList_inj.1 ?_⟩
      rw [← split, String.toList_append, String.toList_ofList]
      simp
  · rintro (rfl | ⟨rest, rfl⟩)
    · decide
    · rw [String.toList_append]
      rfl

theorem checkVersion_eq_ok_iff {done : Unit} : checkVersion fields = .ok done ↔ fields.Versioned := by
  unfold checkVersion Fields.Versioned
  cases Table.get? fields "schema_version" with
  | none => simp
  | some v =>
    simp only [Option.some.injEq, forall_eq']
    cases v with
    | text version =>
      simp only [reduceCtorEq, Value.text.injEq, exists_eq_left', false_or, ← isSupported_iff]
      by_cases supported : isSupported version = true
      · simp [supported]
      · simp [supported]
    | _ => simp

theorem ofInts?_eq_some_iff {start stop : Int} {r : LineRange} :
    LineRange.ofInts? start stop = some r ↔ start = r.start ∧ stop = r.stop := by
  obtain ⟨first, last, positive, ordered⟩ := r
  unfold LineRange.ofInts?
  split
  · simp only [Option.some.injEq, LineRange.mk.injEq]
    omega
  · simp only [reduceCtorEq, false_iff]
    omega

theorem eq_some_of_getD_null {found : Option Value} {v : Value} (given : found.getD .null = v)
    (present : v ≠ .null) : found = some v := by
  cases found with
  | none => exact absurd given.symm present
  | some w => exact congrArg some given

theorem rangeOf_eq_ok_iff {item : Value} {range : HostRange} :
    rangeOf item = .ok range ↔ ∃ r, item.SpellsRange r ∧ range = .range r := by
  constructor
  · intro read
    unfold rangeOf at read
    dsimp only at read
    split at read
    · next start stop ends =>
      split at read
      · next r made =>
        cases read
        obtain ⟨rfl, rfl⟩ := ofInts?_eq_some_iff.1 made
        refine ⟨r, ?_, rfl⟩
        split at ends
        · next fields =>
          simp only [Option.some.injEq, Prod.mk.injEq] at ends
          exact .ends (eq_some_of_getD_null ends.1 nofun) (eq_some_of_getD_null ends.2 nofun)
        · cases ends
          exact .pair r
        · cases ends
      · cases read
    · cases read
  · rintro ⟨r, spelled, rfl⟩
    have made : LineRange.ofInts? r.start r.stop = some r := ofInts?_eq_some_iff.2 ⟨rfl, rfl⟩
    cases spelled with
    | pair => simp only [rangeOf, made]
    | ends start stop => simp only [rangeOf, Value.get, Value.field?, start, stop, Option.getD_some, made]

theorem mapM_rangeOf {items : List Value} {ranges : List HostRange} :
    items.mapM rangeOf = .ok ranges ↔
      ∃ rs, List.Forall₂ Value.SpellsRange items rs ∧ ranges = rs.map .range := by
  rw [mapM_eq_ok_iff]
  simp only [rangeOf_eq_ok_iff]
  constructor
  · intro all
    induction all with
    | nil => exact ⟨[], .nil, rfl⟩
    | cons first rest ih =>
      obtain ⟨r, spelled, rfl⟩ := first
      obtain ⟨rs, others, rfl⟩ := ih
      exact ⟨r :: rs, .cons spelled others, rfl⟩
  · rintro ⟨rs, all, rfl⟩
    rw [List.forall₂_map_right_iff]
    exact all.imp fun item r spelled => ⟨r, spelled, rfl⟩

theorem rangesIn_eq_ok_iff {ranges : Option (List HostRange)} :
    rangesIn fields = .ok ranges ↔ fields.SpellsRanges ranges := by
  constructor
  · intro read
    unfold rangesIn at read
    split at read
    · next absent =>
      cases read
      exact .nothing fun v found => by rw [absent] at found; cases found
    · next null =>
      cases read
      refine .nothing fun v found => ?_
      rw [null] at found
      exact (Option.some.inj found).symm
    · next items found =>
      obtain ⟨all, each, rfl⟩ := map_eq_ok_iff.1 read
      obtain ⟨rs, spelled, rfl⟩ := mapM_rangeOf.1 each
      exact .ranges found spelled
    · cases read
  · intro spelled
    cases spelled with
    | nothing absent =>
      unfold rangesIn
      cases found : Table.get? fields "changedRanges" with
      | none => rfl
      | some v => rw [absent v found]
    | ranges found spelled =>
      unfold rangesIn
      rw [found]
      exact map_eq_ok_iff.2 ⟨_, mapM_rangeOf.2 ⟨_, spelled, rfl⟩, rfl⟩

/-- The workspace that a payload names, or the one that stands for none. -/
theorem workspace_eq_ok_iff {workspace : String} :
    (if (Table.get? fields "workspace").isSome then nameIn fields "workspace"
        else pure "default") = .ok workspace ↔
      Table.get? fields "workspace" = none ∧ workspace = "default" ∨
        fields.Names "workspace" workspace := by
  rw [← nameIn_eq_ok_iff]
  cases found : Table.get? fields "workspace" with
  | none =>
    have unnamed : nameIn fields "workspace" ≠ .ok workspace := by
      unfold nameIn
      rw [found]
      nofun
    rw [if_neg (by simp), or_iff_left unnamed]
    exact ⟨fun same => ⟨rfl, (Except.ok.inj same).symm⟩, fun named => named.2 ▸ rfl⟩
  | some v => simp

theorem analysisOf_eq_ok_iff {request : HostRequest} :
    analysisOf fields = .ok request ↔ ∃ r, request = .analyze r ∧ fields.SpellsAnalysis r := by
  -- What follows the workspace stands in both branches.
  have joined (others : String → Except RequestFault HostRequest) :
      (if (Table.get? fields "workspace").isSome then nameIn fields "workspace" >>= others
        else pure "default" >>= others) =
      (if (Table.get? fields "workspace").isSome then nameIn fields "workspace"
        else pure "default") >>= others := by
    split <;> rfl
  unfold analysisOf
  simp only [joined, bind_eq_ok_iff, nameIn_eq_ok_iff, textIn_eq_ok_iff, workspace_eq_ok_iff,
    rangesIn_eq_ok_iff]
  constructor
  · rintro ⟨file, named, language, spoken, code, written, workspace, placed, ranges, spelled, same⟩
    exact ⟨_, (Except.ok.inj same).symm, named, spoken, written, placed, spelled⟩
  · rintro ⟨r, rfl, spelled⟩
    exact ⟨_, spelled.file, _, spelled.language, _, spelled.code, _, spelled.workspace, _,
      spelled.ranges, rfl⟩

theorem action_eq_some_iff {action : NoticeAction} :
    ((Table.get? fields "action").getD (.text NoticeAction.shown.label)).text?.bind
        NoticeAction.ofLabel? = some action ↔
      Table.get? fields "action" = none ∧ action = .shown ∨
        Table.get? fields "action" = some (.text action.label) := by
  have labelled (name : String) : NoticeAction.ofLabel? name = some action ↔ name = action.label := by
    unfold NoticeAction.ofLabel?
    split
    · cases action <;> simp [NoticeAction.label]
    · cases action <;> simp [NoticeAction.label]
    · next shown dismissed => cases action <;> simp_all [NoticeAction.label]
  cases Table.get? fields "action" with
  | none => cases action <;> simp [Value.text?, labelled, NoticeAction.label]
  | some v => cases v <;> simp [Value.text?, labelled]

theorem recordOf_eq_ok_iff {request : HostRequest} :
    recordOf fields = .ok request ↔
      ∃ file identity action, request = .checkAndRecord file identity action ∧
        fields.SpellsRecord file identity action := by
  unfold recordOf
  simp only [bind_eq_ok_iff, nameIn_eq_ok_iff]
  constructor
  · rintro ⟨file, named, identity, identified, same⟩
    split at same
    · next action found =>
      exact ⟨file, identity, action, (Except.ok.inj same).symm, named, identified,
        action_eq_some_iff.1 found⟩
    · cases same
  · rintro ⟨file, identity, action, rfl, spelled⟩
    refine ⟨file, spelled.file, identity, spelled.identity, ?_⟩
    rw [action_eq_some_iff.2 spelled.action]
    rfl

/-- A payload is accepted, as the request that it asks for, exactly if it keeps to the grammar. -/
theorem ofValue_eq_ok_iff {payload : Value} {request : HostRequest} :
    ofValue payload = .ok request ↔ payload.Asks request := by
  constructor
  · intro accepted
    unfold ofValue at accepted
    split at accepted
    · next fields =>
      obtain ⟨_, checked, accepted⟩ := bind_eq_ok_iff.1 accepted
      have versioned := checkVersion_eq_ok_iff.1 checked
      split at accepted
      · next operation =>
        obtain ⟨r, rfl, spelled⟩ := analysisOf_eq_ok_iff.1 accepted
        exact .analysis versioned (eq_some_of_getD_null operation nofun) spelled
      · next operation =>
        obtain ⟨file, identity, action, rfl, spelled⟩ := recordOf_eq_ok_iff.1 accepted
        exact .record versioned (eq_some_of_getD_null operation nofun) spelled
      · cases accepted
    · cases accepted
  · intro asks
    cases asks with
    | analysis versioned operation spelled =>
      refine bind_eq_ok_iff.2 ⟨(), checkVersion_eq_ok_iff.2 versioned, ?_⟩
      rw [operation]
      exact analysisOf_eq_ok_iff.2 ⟨_, rfl, spelled⟩
    | record versioned operation spelled =>
      refine bind_eq_ok_iff.2 ⟨(), checkVersion_eq_ok_iff.2 versioned, ?_⟩
      rw [operation]
      exact recordOf_eq_ok_iff.2 ⟨_, _, _, rfl, spelled⟩

end HostRequest

end LiveLint
