import LiveLint.Config.Sources
import LiveLint.Proofs.Outcomes
import LiveLint.Proofs.Toml.Distinct

/-!
# Layers of a configuration

Whatever sources there are, a setting has the value that the heaviest of them gives it: an override, then a variable
of the environment, then the file that was asked for, that of the project and that of the user, and at last the
standard. Flags of categories follow the same order one by one, but for a flag that is hidden: where a heavier file
says anything of categories, what lighter files say of them is lost, and a category that a lighter file switched off
is on again.
-/

namespace LiveLint

/-!
## What sources say
-/

namespace ConfigFile

/-- The document in a file that is there; anything else says nothing. -/
def held (f : ConfigFile) : Fields :=
  match f.content with
  | .file bytes => (Toml.parseBytes bytes).toOption.getD []
  | _ => []

/-- What a file says of a key, in its table for the engine or beside it. -/
def about? (f : ConfigFile) (key : String) : Option Value :=
  match Table.get? f.held "engine" with
  | some (.table engine) => (Table.get? engine key).or (Table.get? f.held key)
  | _ => Table.get? f.held key

def flagIn? (categories : Option Value) (name : String) : Option Value :=
  match categories with
  | some (.table flags) => (Table.get? flags name).map fun v => .bool v.truthy
  | _ => none

def flag? (f : ConfigFile) (name : String) : Option Value := flagIn? (f.about? "categories") name

end ConfigFile

def Environment.value? (environment : List (String × String)) (t : Setting) : Option Value :=
  (environment.lookup (variableOf t)).bind fun text => (t.reading.read text).toOption.join

namespace ConfigSources

/-- The files, the heaviest first. -/
def files (s : ConfigSources) : List ConfigFile := s.explicitFile.toList ++ [s.projectFile, s.userFile]

def setting? (s : ConfigSources) (t : Setting) : Option Value :=
  (Table.get? s.overrides t.key).or <| (Environment.value? s.environment t).or <| s.files.findSome? (·.about? t.key)

/-- The flag that overrides set for a category; the last one counts. -/
def overridden? (s : ConfigSources) (name : String) : Option Value :=
  match (Table.get? s.overrides "category_flags").map ConfigLayers.flagsOf with
  | some (.ok changes) => (changes.reverse.find? fun change => change.1.text? == some name).map (·.2)
  | _ => none

def flag? (s : ConfigSources) (name : String) : Option Value :=
  (s.overridden? name).or (s.files.findSome? (·.flag? name))

/-- A flag that a lighter file sets is hidden by a heavier one that says something of categories and leaves it out. -/
def Hides (s : ConfigSources) (name : String) : Prop :=
  s.overridden? name = none ∧ ∃ heavier f lighter, s.files = heavier ++ f :: lighter ∧
    (∀ g ∈ heavier, g.about? "categories" = none) ∧ (f.about? "categories").isSome ∧ f.flag? name = none ∧
    ∃ g ∈ lighter, (g.flag? name).isSome

/-- A configuration has, setting by setting, what the heaviest sources say. -/
structure Layered (s : ConfigSources) (c : Config) : Prop where
  /-- A setting other than the flags has the value that the heaviest source gives it. -/
  settings : ∀ t, t ≠ .categoryFlags → c.get t = (s.setting? t).getD t.standard
  /-- A category whose flag is not hidden has the flag that the heaviest source sets, and is on if none sets one. -/
  flags : ∀ category : Category, ¬s.Hides category.label →
    (c.get .categoryFlags).field? category.label = some ((s.flag? category.label).getD (.bool true))
  /-- A category whose flag is hidden is on, whatever the flag says. -/
  hidden : ∀ category : Category, s.Hides category.label →
    (c.get .categoryFlags).field? category.label = some (.bool true)

end ConfigSources

/-!
## Files
-/

namespace ConfigFile

theorem held_of_document {f : ConfigFile} {label : String} {document : Fields}
    (read : f.document label = .ok document) : document = f.held := by
  unfold ConfigFile.document at read
  unfold held
  cases content : f.content with
  | absent | blocked =>
    rw [content] at read
    cases read
    rfl
  | folder =>
    rw [content] at read
    cases read
  | file bytes =>
    rw [content] at read
    dsimp only at read ⊢
    split at read
    · rename_i parsed
      cases read
      rw [parsed, Except.toOption, Option.getD_some]
    · cases read

theorem held_of_required {f : ConfigFile} {document : Fields} (read : f.required = .ok document) :
    document = f.held := by
  unfold required at read
  split at read
  · cases read
  · cases read
  · exact held_of_document read

theorem distinct_held (f : ConfigFile) : (Value.table f.held).Distinct := by
  unfold held
  split
  · rename_i bytes _
    cases parsed : Toml.parseBytes bytes with
    | error reason => exact Value.distinct_empty
    | ok document => exact Toml.distinct_parseBytes parsed
  · exact Value.distinct_empty

theorem nodup_fieldsOf (f : ConfigFile) : ((ConfigLayers.fieldsOf f.held).map Prod.fst).Nodup := by
  have erased := Table.nodup_erase (Value.distinct_table_iff.1 f.distinct_held).1 "engine"
  unfold ConfigLayers.fieldsOf
  split
  · exact Table.nodup_setAll erased _
  · exact erased

theorem get?_fieldsOf (f : ConfigFile) {key : String} (other : key ≠ "engine") :
    Table.get? (ConfigLayers.fieldsOf f.held) key = f.about? key := by
  have flat := Table.get?_erase_of_ne f.held other
  unfold ConfigLayers.fieldsOf about?
  cases found : Table.get? f.held "engine" with
  | none => exact flat
  | some v =>
    cases v with
    | table engine =>
      have keys := (Value.distinct_table_iff.1 (Toml.distinct_of_get? f.distinct_held found)).1
      dsimp only
      rw [Table.get?_setAll_of_nodup _ keys, flat]
    | _ => exact flat

theorem flag?_of_silent {f : ConfigFile} (silent : f.about? "categories" = none) (name : String) :
    f.flag? name = none := by
  unfold flag?
  rw [silent]
  rfl

theorem distinct_about? {f : ConfigFile} {key : String} {v : Value} (said : f.about? key = some v) : v.Distinct := by
  unfold about? at said
  split at said
  · rename_i engine found
    rcases Option.or_eq_some_iff.1 said with inner | ⟨-, beside⟩
    · exact Toml.distinct_of_get? (Toml.distinct_of_get? f.distinct_held found) inner
    · exact Toml.distinct_of_get? f.distinct_held beside
  · exact Toml.distinct_of_get? f.distinct_held said

/-- Where files say something of categories, the first one that does so hides the flags of all others. -/
theorem flagIn?_findSome? (fs : List ConfigFile) (name : String) :
    flagIn? (fs.findSome? (·.about? "categories")) name = fs.findSome? (·.flag? name) ∨
      ∃ heavier f lighter, fs = heavier ++ f :: lighter ∧ (∀ g ∈ heavier, g.about? "categories" = none) ∧
        (f.about? "categories").isSome ∧ f.flag? name = none ∧ ∃ g ∈ lighter, (g.flag? name).isSome := by
  induction fs with
  | nil => exact Or.inl rfl
  | cons f rest ih =>
    rw [List.findSome?_cons, List.findSome?_cons]
    cases said : f.about? "categories" with
    | none =>
      rw [flag?_of_silent said]
      refine ih.imp_right ?_
      rintro ⟨heavier, g, lighter, rfl, silent, hides⟩
      exact ⟨f :: heavier, g, lighter, rfl, List.forall_mem_cons.2 ⟨said, silent⟩, hides⟩
    | some v =>
      have here : flagIn? (some v) name = f.flag? name := by rw [flag?, said]
      dsimp only
      rw [here]
      -- The first file that speaks of categories is all that counts, whether it sets this flag or not.
      cases set : f.flag? name with
      | some flag => exact Or.inl rfl
      | none =>
        cases lost : rest.findSome? (·.flag? name) with
        | none => exact Or.inl rfl
        | some flag =>
          obtain ⟨g, member, sets⟩ := List.exists_of_findSome?_eq_some lost
          exact Or.inr ⟨[], f, rest, rfl, nofun, by rw [said]; rfl, set, g, member, by rw [sets]; rfl⟩

theorem flagIn?_of_hidden {heavier lighter : List ConfigFile} {f : ConfigFile} {name : String}
    (silent : ∀ g ∈ heavier, g.about? "categories" = none) (speaks : (f.about? "categories").isSome)
    (missing : f.flag? name = none) :
    flagIn? ((heavier ++ f :: lighter).findSome? (·.about? "categories")) name = none := by
  obtain ⟨v, said⟩ := Option.isSome_iff_exists.1 speaks
  rw [List.findSome?_append, List.findSome?_eq_none_iff.2 silent, Option.none_or, List.findSome?_cons, said]
  rwa [flag?, said] at missing

/-- Of documents on top of each other, the last one that says something of a key counts. -/
theorem get?_foldl_fieldsOf (t : Fields) (fs : List ConfigFile) {key : String} (other : key ≠ "engine") :
    Table.get? ((fs.map held).foldl (fun t d => Table.setAll t (ConfigLayers.fieldsOf d)) t) key =
      (fs.reverse.findSome? (·.about? key)).or (Table.get? t key) := by
  induction fs generalizing t with
  | nil => rfl
  | cons f fs ih =>
    rw [List.map_cons, List.foldl_cons, ih, Table.get?_setAll_of_nodup _ f.nodup_fieldsOf, f.get?_fieldsOf other,
      List.reverse_cons, List.findSome?_append, Option.or_assoc, List.findSome?_singleton]

end ConfigFile

/-!
## The environment
-/

theorem Setting.ofKey?_eq_some_iff {name : String} {t : Setting} : Setting.ofKey? name = some t ↔ t.key = name := by
  refine ⟨fun found => ?_, fun same => same ▸ t.ofKey?_key⟩
  exact eq_of_beq (List.find?_some (p := fun t : Setting => t.key == name) found)

theorem Setting.key_injective : Function.Injective Setting.key := by
  intro t t' same
  exact Option.some.inj ((ofKey?_key t).symm.trans (ofKey?_eq_some_iff.2 same.symm))

namespace Environment

variable {environment : List (String × String)} {ss : List Setting} {fs : Fields}

/-- The fields of variables are those of the settings that are read, in their order. -/
theorem keys_fieldsOf (read : fieldsOf environment ss = .ok fs) : (fs.map Prod.fst).Sublist (ss.map Setting.key) := by
  induction ss generalizing fs with
  | nil =>
    cases read
    exact .slnil
  | cons s rest ih =>
    unfold fieldsOf at read
    split at read
    · exact (ih read).cons _
    · split at read
      · cases read
      · exact (ih read).cons _
      · obtain ⟨more, others, rfl⟩ := map_eq_ok_iff.1 read
        exact (ih others).cons_cons _

theorem value?_of_unset {t : Setting} (unset : environment.lookup (variableOf t) = none) :
    value? environment t = none := by
  unfold value?
  rw [unset, Option.bind_none]

theorem value?_of_read {t : Setting} {text : String} {v : Option Value}
    (set : environment.lookup (variableOf t) = some text) (read : t.reading.read text = .ok v) :
    value? environment t = v := by
  unfold value?
  rw [set, Option.bind_some, read]
  exact Option.join_some

/-- Of the settings that are read, the fields have those values that variables give them. -/
theorem get?_fieldsOf (read : fieldsOf environment ss = .ok fs) (t : Setting) :
    Table.get? fs t.key = if t ∈ ss then value? environment t else none := by
  induction ss generalizing fs with
  | nil =>
    cases read
    rfl
  | cons s rest ih =>
    have passed (silent : value? environment s = none) (others : fieldsOf environment rest = .ok fs) :
        Table.get? fs t.key = if t ∈ s :: rest then value? environment t else none := by
      rw [ih others]
      by_cases same : t = s
      · simp [same, silent]
      · simp [same]
    unfold fieldsOf at read
    split at read
    · rename_i unset
      exact passed (value?_of_unset unset) read
    · rename_i text set
      split at read
      · cases read
      · rename_i skipped
        exact passed (value?_of_read set skipped) read
      · rename_i v taken
        obtain ⟨more, others, rfl⟩ := map_eq_ok_iff.1 read
        by_cases same : t = s
        · rw [same, value?_of_read set taken, Table.get?_cons_self, if_pos List.mem_cons_self]
        · rw [Table.get?_cons_of_ne more v (Setting.key_injective.ne same), ih others]
          simp [same]

theorem get?_fields (read : fields environment = .ok fs) (t : Setting) :
    Table.get? fs t.key = value? environment t := by
  rw [get?_fieldsOf read, if_pos t.mem_all]

theorem get?_fields_of_other (read : fields environment = .ok fs) {name : String}
    (other : Setting.ofKey? name = none) : Table.get? fs name = none := by
  refine Table.get?_eq_none fun member => ?_
  obtain ⟨t, -, same⟩ := List.mem_map.1 ((keys_fieldsOf read).subset member)
  rw [Setting.ofKey?_eq_some_iff.2 same] at other
  cases other

theorem nodup_fields (read : fields environment = .ok fs) : (fs.map Prod.fst).Nodup :=
  ((by decide : Setting.all.Nodup).map Setting.key_injective).sublist (keys_fieldsOf read)

end Environment

/-!
## Fields of a configuration
-/

namespace Config

theorem get_of_ofValues {values : Values} {c : Config} (done : ofValues values = .ok c) : c.get = values := by
  unfold ofValues at done
  split at done
  · cases done
    rfl
  · cases done

/-- Fields that are assigned one after the other are what they say, if no setting is named twice. -/
theorem assignAll_eq {values values' : Values} {fs : Fields} (keys : (fs.map Prod.fst).Nodup)
    (done : assignAll values fs = .ok values') (t : Setting) :
    values' t = (Table.get? fs t.key).getD (values t) := by
  induction fs generalizing values with
  | nil =>
    cases done
    rfl
  | cons field rest ih =>
    obtain ⟨name, v⟩ := field
    obtain ⟨fresh, others⟩ := List.nodup_cons.1 keys
    unfold assignAll at done
    split at done
    · rename_i s found
      have named := Setting.ofKey?_eq_some_iff.1 found
      rw [ih others done]
      unfold assign
      by_cases same : t = s
      · have missing : Table.get? rest t.key = none := Table.get?_eq_none (by rwa [same, named])
        rw [missing, same, named, Table.get?_cons_self, if_pos rfl]
        rfl
      · have different : t.key ≠ name := fun equal => same (Setting.key_injective (equal.trans named.symm))
        rw [Table.get?_cons_of_ne rest v different, if_neg same]
    · cases done

/-- Names among which no unknown ones are found are all names of categories. -/
theorem isCategory_of_unknownNames {names : List Value} (known : unknownNames names = []) :
    ∀ v ∈ names, v.text?.any Category.names.contains = true := by
  -- What was found stays found, so nothing at the end means nothing at any time.
  have none_left (names found : List Value) (none_found : names.foldl (fun found v =>
      if v.text?.any Category.names.contains || found.any v.isSame then found else found ++ [v]) found = []) :
      found = [] ∧ ∀ v ∈ names, v.text?.any Category.names.contains = true := by
    induction names generalizing found with
    | nil => exact ⟨none_found, nofun⟩
    | cons v rest ih =>
      obtain ⟨empty, others⟩ := ih _ none_found
      dsimp only at empty
      split at empty
      · rename_i passes
        rw [empty, List.any_nil, Bool.or_false] at passes
        exact ⟨empty, List.forall_mem_cons.2 ⟨passes, others⟩⟩
      · cases List.append_ne_nil_of_right_ne_nil _ (List.cons_ne_nil _ _) empty
  exact (none_left names [] known).2

theorem isCategory_of_checkFlags {flags : Value} (passed : checkFlags flags = .ok ()) :
    ∃ names, flags.members = .ok names ∧ ∀ v ∈ names, v.text?.any Category.names.contains = true := by
  obtain ⟨names, members, passed⟩ := bind_eq_ok_iff.1 passed
  dsimp only at passed
  split at passed
  · rename_i empty
    exact ⟨names, members, isCategory_of_unknownNames (List.isEmpty_iff.1 empty)⟩
  · obtain ⟨_, -, failed⟩ := bind_eq_ok_iff.1 passed
    cases failed

end Config

/-!
## What documents and environment lead to
-/

namespace ConfigSources

variable {s : ConfigSources} {l : ConfigLayers}

/-- What is read of all sources. -/
structure Reads (s : ConfigSources) (l : ConfigLayers) : Prop where
  documents : l.documents = s.files.reverse.map (·.held)
  environment : Environment.fields s.environment = .ok l.environment
  overrides : l.overrides = s.overrides

theorem reads_of_layers (read : s.layers = .ok l) : s.Reads l := by
  obtain ⟨user, first, read⟩ := bind_eq_ok_iff.1 read
  obtain ⟨project, second, read⟩ := bind_eq_ok_iff.1 read
  have order : user :: project :: s.explicitFile.toList.map (·.held) = s.files.reverse.map (·.held) := by
    rw [ConfigFile.held_of_document first, ConfigFile.held_of_document second, files, List.reverse_append]
    cases s.explicitFile <;> rfl
  cases given : s.explicitFile with
  | none =>
    rw [given] at read order
    obtain ⟨asked, nothing, read⟩ := bind_eq_ok_iff.1 read
    obtain ⟨environment, third, done⟩ := bind_eq_ok_iff.1 read
    cases nothing
    cases done
    exact ⟨order, third, rfl⟩
  | some f =>
    rw [given] at read order
    obtain ⟨asked, last, read⟩ := bind_eq_ok_iff.1 read
    obtain ⟨environment, third, done⟩ := bind_eq_ok_iff.1 read
    obtain ⟨document, required, rfl⟩ := map_eq_ok_iff.1 last
    cases done
    refine ⟨?_, third, rfl⟩
    rw [ConfigFile.held_of_required required]
    exact order

namespace Reads

theorem get?_base (reads : s.Reads l) {key : String} (other : key ≠ "engine") :
    Table.get? l.base key = (Table.get? l.environment key).or (s.files.findSome? (·.about? key)) := by
  have keys := Environment.nodup_fields reads.environment
  rw [ConfigLayers.base, Table.get?_setAll_of_nodup _ keys, reads.documents, ConfigFile.get?_foldl_fieldsOf _ _ other,
    List.reverse_reverse]
  exact congrArg _ (Option.or_none)

/-- What documents and environment say of categories is what the heaviest file says that says anything of them. -/
theorem get?_categories (reads : s.Reads l) :
    Table.get? l.base "categories" = s.files.findSome? (·.about? "categories") := by
  rw [reads.get?_base (by decide), Environment.get?_fields_of_other reads.environment (by decide), Option.none_or]

theorem get?_baseFlags (reads : s.Reads l) (category : Category) :
    Table.get? l.baseFlags category.label =
      some ((ConfigFile.flagIn? (s.files.findSome? (·.about? "categories")) category.label).getD (.bool true)) := by
  have on : Table.get? ConfigLayers.allOn category.label = some (.bool true) := by cases category <;> rfl
  unfold ConfigLayers.baseFlags
  rw [reads.get?_categories]
  cases said : s.files.findSome? (·.about? "categories") with
  | none => exact on
  | some v =>
    cases v with
    | table flags =>
      obtain ⟨f, -, found⟩ := List.exists_of_findSome?_eq_some said
      have keys := (Value.distinct_table_iff.1 (ConfigFile.distinct_about? found)).1
      dsimp only [ConfigFile.flagIn?]
      rw [Table.get?_setAll_of_nodup, Table.get?_map fun v : Value => Value.bool v.truthy, on]
      · cases Table.get? flags category.label <;> rfl
      · rwa [List.map_map]
    | _ => exact on

end Reads

/-- A category whose flag is not hidden has the flag that the heaviest file sets. -/
theorem flagIn?_of_not_hidden {name : String} (unset : s.overridden? name = none) (shown : ¬s.Hides name) :
    ConfigFile.flagIn? (s.files.findSome? (·.about? "categories")) name = s.files.findSome? (·.flag? name) :=
  (ConfigFile.flagIn?_findSome? s.files name).resolve_right fun hidden => shown ⟨unset, hidden⟩

end ConfigSources

/-!
## Flags that are changed
-/

namespace ConfigLayers

def named? (change : Value × Value) : Option (String × Value) := change.1.text?.map fun name => (name, change.2)

def ofNamed (change : String × Value) : Value × Value := (.text change.1, change.2)

theorem ofNamed_of_named? {change : Value × Value} {named : String × Value} (same : named? change = some named) :
    change = ofNamed named := by
  obtain ⟨key, v⟩ := change
  obtain ⟨name, text, rfl⟩ := Option.map_eq_some_iff.1 same
  cases key <;> cases text
  rfl

theorem eq_map_ofNamed {changes : List (Value × Value)} {named : Fields} (all : changes.mapM named? = some named) :
    changes = named.map ofNamed := by
  induction changes generalizing named with
  | nil =>
    cases all
    rfl
  | cons change rest ih =>
    rw [List.mapM_cons] at all
    obtain ⟨first, here, all⟩ := Option.bind_eq_some_iff.1 all
    obtain ⟨others, later, done⟩ := Option.bind_eq_some_iff.1 all
    cases done
    rw [List.map_cons, ← ofNamed_of_named? here, ← ih later]

theorem exists_unnamed {changes : List (Value × Value)} (not_all : changes.mapM named? = none) :
    ∃ change ∈ changes, change.1.text? = none := by
  induction changes with
  | nil => cases not_all
  | cons change rest ih =>
    cases text : change.1.text? with
    | none => exact ⟨change, List.mem_cons_self, text⟩
    | some name =>
      have here : named? change = some (name, change.2) := by rw [named?, text, Option.map_some]
      rw [List.mapM_cons, here] at not_all
      cases later : rest.mapM named? with
      | none =>
        obtain ⟨other, member, unnamed⟩ := ih later
        exact ⟨other, List.mem_cons_of_mem _ member, unnamed⟩
      | some others =>
        rw [later] at not_all
        cases not_all

theorem find?_ofNamed (named : Fields) (name : String) :
    ((named.map ofNamed).find? fun change => change.1.text? == some name).map (·.2) = Table.get? named name := by
  unfold Table.get?
  induction named with
  | nil => rfl
  | cons change rest ih =>
    obtain ⟨k, v⟩ := change
    have test : ((ofNamed (k, v)).1.text? == some name) = (name == k) := by
      have text : (ofNamed (k, v)).1.text? = some k := rfl
      rw [text, Bool.eq_iff_iff, beq_iff_eq, beq_iff_eq, Option.some.injEq]
      exact eq_comm
    rw [List.map_cons, List.find?_cons, test, List.lookup_cons]
    split
    · rfl
    · exact ih

theorem flagTable_cases (base : Fields) (changes : List (Value × Value)) :
    (∃ named, changes.mapM named? = some named ∧ flagTable base changes = .table (Table.setAll base named)) ∨
      ∃ names, changes.mapM named? = none ∧ flagTable base changes = .list (names ++ changes.map (·.1)) := by
  unfold flagTable
  split
  · rename_i named all
    exact Or.inl ⟨named, all, rfl⟩
  · rename_i not_all
    exact Or.inr ⟨_, not_all, rfl⟩

/-- Changes whose names pass the check are those of a table that is laid over the flags. -/
theorem flagTable_of_checkFlags {base : Fields} {changes : List (Value × Value)}
    (passed : Config.checkFlags (flagTable base changes) = .ok ()) :
    ∃ named : Fields, changes = named.map ofNamed ∧ flagTable base changes = .table (Table.setAll base named) := by
  rcases flagTable_cases base changes with ⟨named, all, table⟩ | ⟨names, not_all, list⟩
  · exact ⟨named, eq_map_ofNamed all, table⟩
  · obtain ⟨change, member, unnamed⟩ := exists_unnamed not_all
    rw [list] at passed
    obtain ⟨members, found, known⟩ := Config.isCategory_of_checkFlags passed
    unfold Value.members at found
    dsimp only at found
    split at found
    · cases found
    · cases found
      have text := known change.1 (List.mem_append_right _ (List.mem_map_of_mem member))
      rw [unnamed] at text
      cases text

end ConfigLayers

/-!
## Configurations that are put together
-/

namespace ConfigLayers

theorem nodup_base (l : ConfigLayers) : (l.base.map Prod.fst).Nodup := by
  have each (t : Fields) (documents : List Fields) (keys : (t.map Prod.fst).Nodup) :
      ((documents.foldl (fun t d => Table.setAll t (fieldsOf d)) t).map Prod.fst).Nodup := by
    induction documents generalizing t with
    | nil => exact keys
    | cons d rest ih => exact ih _ (Table.nodup_setAll keys _)
  exact Table.nodup_setAll (each [] _ List.nodup_nil) _

theorem nodup_fields (l : ConfigLayers) (v : Value) : ((l.fields v).map Prod.fst).Nodup :=
  Table.nodup_setAll (Table.nodup_set (Table.nodup_erase l.nodup_base _) _ _) _

end ConfigLayers

namespace ConfigSources

variable {s : ConfigSources} {l : ConfigLayers}

namespace Reads

/-- Flags that pass the check are, one by one, those of the overrides, or else what the layers below lead to. -/
theorem get?_flags (reads : s.Reads l) {v : Value} (done : l.flags = .ok v) (passed : Config.checkFlags v = .ok ()) :
    ∃ flags, v = .table flags ∧
      ∀ name, Table.get? flags name = (s.overridden? name).or (Table.get? l.baseFlags name) := by
  unfold ConfigLayers.flags at done
  rw [reads.overrides] at done
  cases given : Table.get? s.overrides "category_flags" with
  | none =>
    rw [given] at done
    cases done
    refine ⟨_, rfl, fun name => ?_⟩
    rw [overridden?, given]
    rfl
  | some w =>
    rw [given] at done
    obtain ⟨changes, read, rfl⟩ := map_eq_ok_iff.1 done
    obtain ⟨named, rfl, table⟩ := ConfigLayers.flagTable_of_checkFlags passed
    refine ⟨_, table, fun name => ?_⟩
    rw [Table.get?_setAll, overridden?, given, Option.map_some, read]
    dsimp only
    rw [← List.map_reverse, ConfigLayers.find?_ofNamed]

theorem get?_fields_flags (reads : s.Reads l) (distinct : (s.overrides.map Prod.fst).Nodup) (v : Value) :
    Table.get? (l.fields v) "category_flags" = some v := by
  have keys : ((Table.erase l.overrides "category_flags").map Prod.fst).Nodup := by
    rw [reads.overrides]
    exact Table.nodup_erase distinct _
  rw [ConfigLayers.fields, Table.get?_setAll_of_nodup _ keys, Table.get?_erase_self, Table.get?_set_self]
  rfl

/-- A field that is neither about flags nor a table of a file is what the heaviest source says of it. -/
theorem get?_fields (reads : s.Reads l) (distinct : (s.overrides.map Prod.fst).Nodup) (v : Value) {t : Setting}
    (other : t ≠ .categoryFlags) : Table.get? (l.fields v) t.key = s.setting? t := by
  have keys : ((Table.erase l.overrides "category_flags").map Prod.fst).Nodup := by
    rw [reads.overrides]
    exact Table.nodup_erase distinct _
  have flags : t.key ≠ "category_flags" := Setting.key_injective.ne other
  have categories : t.key ≠ "categories" := by cases t <;> decide
  have engine : t.key ≠ "engine" := by cases t <;> decide
  rw [ConfigLayers.fields, Table.get?_setAll_of_nodup _ keys, Table.get?_erase_of_ne _ flags,
    Table.get?_set_of_ne _ _ flags, Table.get?_erase_of_ne _ categories, reads.get?_base engine,
    Environment.get?_fields reads.environment, reads.overrides]
  rfl

end Reads

/-- A configuration that is loaded is put together from fields that pass all checks. -/
theorem exists_layers_of_load {route : Route} {c : Config} (loaded : s.load route = .ok c) :
    ∃ l v, s.Reads l ∧ l.flags = .ok v ∧ Config.assignAll Setting.standard (l.fields v) = .ok c.get := by
  unfold load at loaded
  split at loaded
  · cases loaded
  · obtain ⟨l, read, loaded⟩ := bind_eq_ok_iff.1 loaded
    obtain ⟨v, flags, loaded⟩ := bind_eq_ok_iff.1 loaded
    cases made : Config.ofFields (l.fields v) with
    | error f =>
      rw [made] at loaded
      cases loaded
    | ok c' =>
      rw [made] at loaded
      cases loaded
      obtain ⟨values, assigned, done⟩ := bind_eq_ok_iff.1 made
      rw [← Config.get_of_ofValues done] at assigned
      exact ⟨l, v, reads_of_layers read, flags, assigned⟩

/-- Whatever the sources, a configuration that is loaded has what the heaviest of them say, setting by setting and
flag by flag, but for flags that are hidden. -/
theorem layered_of_load {route : Route} {c : Config} (loaded : s.load route = .ok c)
    (distinct : (s.overrides.map Prod.fst).Nodup) : s.Layered c := by
  obtain ⟨l, v, reads, made, assigned⟩ := exists_layers_of_load loaded
  have get := Config.assignAll_eq (l.nodup_fields v) assigned
  -- A loaded configuration has passed the check of its flags, so they are a table.
  have passed : Config.checkFlags (c.get .categoryFlags) = .ok () := by
    obtain ⟨_, -, passed⟩ := bind_eq_ok_iff.1 c.valid
    obtain ⟨_, passed, -⟩ := bind_eq_ok_iff.1 passed
    exact passed
  have flags : c.get .categoryFlags = v := by
    rw [get]
    exact congrArg (Option.getD · _) (reads.get?_fields_flags distinct v)
  rw [flags] at passed
  obtain ⟨table, rfl, each⟩ := reads.get?_flags made passed
  have flag (category : Category) : (c.get .categoryFlags).field? category.label =
      some ((s.overridden? category.label).getD
        ((ConfigFile.flagIn? (s.files.findSome? (·.about? "categories")) category.label).getD (.bool true))) := by
    rw [flags, Value.field?, each, reads.get?_baseFlags]
    cases s.overridden? category.label <;> rfl
  refine ⟨fun t other => ?_, fun category shown => ?_, fun category ⟨unset, hidden⟩ => ?_⟩
  · rw [get, reads.get?_fields distinct _ other]
  · rw [flag, flag?]
    cases unset : s.overridden? category.label with
    | some w => rfl
    | none => rw [flagIn?_of_not_hidden unset shown]; rfl
  · obtain ⟨heavier, f, lighter, files, silent, speaks, missing, -⟩ := hidden
    rw [flag, unset, files, ConfigFile.flagIn?_of_hidden silent speaks missing]
    rfl

/-- A file that switches a category off. -/
def switchOff (path category : String) : ConfigFile :=
  ⟨path, .file (("[categories]\n" ++ category ++ " = false\n").toList.map fun c => c.toNat.toUInt8)⟩

/-- The user switches one category off, and the project another one. -/
def lostFlag : ConfigSources :=
  { userFile := switchOff "/home/user/.codementor.toml" "Security"
    projectFile := switchOff "/work/codementor.toml" "Performance"
    environment := [("CODEMENTOR_MODE", "gentle")]
    overrides := [("max_parameters", .int 3)] }

/-- What the user says of a category is lost. -/
theorem hides_lostFlag : lostFlag.Hides "Security" := by
  have speaks : ((switchOff "/work/codementor.toml" "Performance").about? "categories").isSome = true := by
    decide +kernel
  have missing : ((switchOff "/work/codementor.toml" "Performance").flag? "Security").isNone = true := by
    decide +kernel
  have lost : ((switchOff "/home/user/.codementor.toml" "Security").flag? "Security").isSome = true := by
    decide +kernel
  exact ⟨rfl, [], _, [_], rfl, nofun, speaks, Option.isNone_iff_eq_none.1 missing, _, List.mem_singleton_self _, lost⟩

theorem layered_lostFlag :
    ∃ c, lostFlag.load = .ok c ∧ (lostFlag.overrides.map Prod.fst).Nodup ∧ lostFlag.Layered c ∧
      (lostFlag.flag? "Security").map Value.truthy = some false ∧
      (c.get .categoryFlags).field? "Security" = some (.bool true) := by
  have loads : lostFlag.load.toOption.isSome = true := by decide +kernel
  have off : (lostFlag.flag? "Security").map Value.truthy = some false := by decide +kernel
  have distinct : (lostFlag.overrides.map Prod.fst).Nodup := by decide
  cases loaded : lostFlag.load with
  | error f =>
    rw [loaded] at loads
    cases loads
  | ok c =>
    have layered := layered_of_load loaded distinct
    exact ⟨c, rfl, distinct, layered, off, layered.hidden .security hides_lostFlag⟩

end ConfigSources

end LiveLint
