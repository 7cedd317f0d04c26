import LiveLint.Proofs.Parse.Published
import LiveLint.Proofs.Revision.Ledger

/-!
# Native trees that are handed over

The native parser may start from the tree of an earlier revision. For that the tracker, the parser and
the grammars must mean the same base: the tree was made for the text that the edit starts from, and the
edit leads to the text that is parsed. The tree is checked by the name of its profile, and two profiles
of one name have grammars of their own. So the grammar is the same unless a file went from one of these
to the other.
-/

namespace LiveLint

namespace Profile

/-- Two grammars are those of the two profiles that have one name. -/
def Twins (grammar grammar' : String) : Prop :=
  grammar = "typescript" ∧ grammar' = "tsx" ∨ grammar = "tsx" ∧ grammar' = "typescript"

instance (grammar grammar' : String) : Decidable (Twins grammar grammar') :=
  inferInstanceAs (Decidable (_ ∨ _))

/-- Profiles of one name have one grammar, but for the twins. -/
theorem grammar_of_name {language language' : String} {profile profile' : Profile}
    (found : find? language = some profile) (found' : find? language' = some profile')
    (name : profile.name = profile'.name) :
    profile.grammar = profile'.grammar ∨ Twins profile.grammar profile'.grammar := by
  have all : ∀ p ∈ [python, javascript, typescript, tsx], ∀ q ∈ [python, javascript, typescript, tsx],
      p.name = q.name → p.grammar = q.grammar ∨ Twins p.grammar q.grammar := by decide +kernel
  exact all profile (mem_of_find? found) profile' (mem_of_find? found') name

end Profile

/-- Whether an old tree is handed over to the native parser. -/
def NativeCall.handsOver : NativeCall → Bool
  | .parse _ _ old => old.isSome
  | .copy => false
  | .edit _ => false

theorem NativeCall.exists_of_handsOver {call : NativeCall} (hands : call.handsOver = true) :
    ∃ grammar text old, call = .parse grammar text (some old) := by
  cases call with
  | parse grammar text old =>
    obtain ⟨tree, rfl⟩ := Option.isSome_iff_exists.1 hands
    exact ⟨grammar, text, tree, rfl⟩
  | copy => cases hands
  | edit e => cases hands

/-- A tree was made for a revision, and its native tree, if it has one, from the text of the revision by
the grammar of its language. -/
structure Tree.MadeFor (t : Tree) (r : Revision) : Prop where
  file : t.file = r.file
  number : t.revision = r.number
  native : ∀ native, t.native = some native → native.text = r.text ∧
    ∃ profile, Profile.find? r.language = some profile ∧ t.language = profile.name ∧
      native.grammar = profile.grammar

namespace Parser

/-- A native tree that a grammar answered was made by it from the text that it was given. -/
theorem text_of_answer {grammar text : String} {reply : NativeReply} {native : NativeTree}
    (answered : Grammars.answer grammar text reply = .ok (some native)) :
    native.text = text ∧ native.grammar = grammar := by
  cases reply with
  | tree root copies =>
    cases answered
    exact ⟨rfl, rfl⟩
  | nothing => cases answered
  | failure text => cases answered
  | torn root stored reason =>
    cases answered
    exact ⟨rfl, rfl⟩

/-- The native trees that are answered are those of the grammar and the text that were asked for. -/
theorem text_of_asked {p : Parser} {r : Revision} {profile : Profile} {base : Option Tree}
    {reply : NativeReply} {native : NativeTree}
    (answered : (p.askNative r profile base reply).2 = .ok native) :
    native.text = r.text ∧ native.grammar = profile.grammar := by
  have from_parse {g : Grammars}
      (found : (g.parse r.text profile.grammar reply).2 = .ok (some native)) :
      native.text = r.text ∧ native.grammar = profile.grammar := by
    unfold Grammars.parse at found
    split at found
    · exact text_of_answer found
    · cases found
  have from_reparse {g : Grammars} {old : NativeTree}
      (found : (g.reparse r.text profile.grammar old r.edit reply).2 = .ok (some native)) :
      native.text = r.text ∧ native.grammar = profile.grammar := by
    unfold Grammars.reparse at found
    split at found
    · split at found
      · exact text_of_answer found
      · exact from_parse found
    · exact from_parse found
  unfold askNative at answered
  split at answered
  · next calls answer asked =>
    have made : answer = .ok (some native) := by
      cases answer with
      | error text => cases answered
      | ok tree? =>
        cases tree? with
        | none => cases answered
        | some tree => exact congrArg _ (congrArg _ (Except.ok.inj answered))
    split at asked
    · exact from_reparse (by rw [asked, made])
    · exact from_parse (by rw [asked, made])

/-- What the scanner reads was made for its revision and has no native tree. -/
theorem madeFor_scan (p : Parser) (r : Revision) (profile : Profile) (base : Option Tree) (k : Nat)
    (crash : Option String) : (p.scan r profile base k crash).2.1.MadeFor r := by
  have none : (p.scan r profile base k crash).2.1.native = Option.none := by
    unfold scan
    split <;> rfl
  refine ⟨?_, ?_, ?_⟩
  · unfold scan
    split <;> rfl
  · unfold scan
    split <;> rfl
  · intro native found
    rw [none] at found
    cases found

/-- What the native parser reads was made for its revision, with its tree. -/
theorem madeFor_finish (p : Parser) {r : Revision} {profile : Profile}
    (supported : Profile.find? r.language = some profile) (base : Option Tree) (k : Nat)
    {native : NativeTree} (text : native.text = r.text) (grammar : native.grammar = profile.grammar) :
    (p.finish r profile base k .native (RootSource.native profile native) (some native)).2.MadeFor r := by
  have own : (p.finish r profile base k .native (RootSource.native profile native)
      (some native)).2.native = some native := rfl
  refine ⟨rfl, rfl, ?_⟩
  intro other found
  rw [own] at found
  cases found
  exact ⟨text, profile, supported, rfl, grammar⟩

/-- Whatever comes of a parse was made for the revision that was parsed. -/
theorem madeFor_parse (p : Parser) (r : Revision) (previous : Option Tree) (reply : NativeReply)
    (crash : Option String) : (p.parse r previous reply crash).tree.MadeFor r := by
  unfold parse
  split
  · exact ⟨rfl, rfl, nofun⟩
  · next profile supported =>
    dsimp only
    split
    · split
      · next native asked =>
        split
        · exact madeFor_finish _ supported _ _ (text_of_asked asked).1 (text_of_asked asked).2
        · exact madeFor_scan ..
      · exact madeFor_scan ..
    · exact madeFor_scan ..

/-- What is asked for when an old tree is handed over: the tree is copied and edited before. -/
theorem calls_of_reparse {g : Grammars} {text grammar grammar' text' : String} {old old' : NativeTree}
    {edit : Option ByteEdit} {reply : NativeReply}
    (asked : .parse grammar' text' (some old') ∈ (g.reparse text grammar old edit reply).1) :
    ∃ e, edit = some e ∧ grammar' = grammar ∧ text' = text ∧ old' = old ∧
      (g.reparse text grammar old edit reply).1 = [.copy, .edit e, .parse grammar text (some old)] := by
  have scratch {calls : List NativeCall} (plain : calls = (g.parse text grammar reply).1)
      (asked : .parse grammar' text' (some old') ∈ calls) : False := by
    rw [plain] at asked
    unfold Grammars.parse at asked
    split at asked <;> simp at asked
  unfold Grammars.reparse at asked ⊢
  split at asked
  · next e =>
    split at asked
    · next copies =>
      simp only [List.mem_cons, reduceCtorEq, NativeCall.parse.injEq, Option.some.injEq,
        List.not_mem_nil, or_false, false_or] at asked
      refine ⟨e, rfl, asked.1, asked.2.1, asked.2.2, ?_⟩
      rw [if_pos copies]
    · exact (scratch rfl asked).elim
  · exact (scratch rfl asked).elim

/-- What a parse asks of the native parser. -/
theorem calls_parse {p : Parser} {r : Revision} {profile : Profile}
    (supported : Profile.find? r.language = some profile) (previous : Option Tree) (reply : NativeReply)
    (crash : Option String) :
    (p.parse r previous reply crash).calls =
      if p.hasGrammar profile then
        (p.askNative r profile (previous.filter (isBaseOf · r profile)) reply).1
      else [] := by
  unfold parse
  rw [supported]
  dsimp only
  split
  · split
    · split <;> rfl
    · rfl
  · rfl

/-- An old tree is handed over only with the edit of the revision, and it is the native tree of a
previous tree that passes for the base. -/
theorem handed_over {p : Parser} {r : Revision} {previous : Option Tree} {reply : NativeReply}
    {crash : Option String} {grammar text : String} {old : NativeTree}
    (asked : .parse grammar text (some old) ∈ (p.parse r previous reply crash).calls) :
    ∃ profile tree e, Profile.find? r.language = some profile ∧ previous = some tree ∧
      isBaseOf tree r profile = true ∧ tree.native = some old ∧ r.edit = some e ∧
      grammar = profile.grammar ∧ text = r.text ∧
      (p.parse r previous reply crash).calls = [.copy, .edit e, .parse grammar text (some old)] := by
  cases supported : Profile.find? r.language with
  | none =>
    unfold parse at asked
    rw [supported] at asked
    cases asked
  | some profile =>
    have calls := calls_parse (p := p) supported previous reply crash
    rw [calls] at asked ⊢
    split at asked
    · next usable =>
      rw [if_pos usable]
      unfold askNative at asked ⊢
      dsimp only at asked ⊢
      split at asked
      · next native found =>
        obtain ⟨tree, kept, native_of⟩ := Option.bind_eq_some_iff.1 found
        obtain ⟨based, -⟩ := Option.filter_eq_some_iff.1 kept
        obtain ⟨given, base⟩ := Option.filter_eq_some_iff.1 based
        obtain ⟨e, edit, rfl, rfl, rfl, order⟩ := calls_of_reparse asked
        exact ⟨profile, tree, e, rfl, given, base, native_of, edit, rfl, rfl, order⟩
      · unfold Grammars.parse at asked
        split at asked <;> simp at asked
    · cases asked

end Parser

/-- A revision was compared with one of some revisions, and its edit turns the text of that one into its
own; or with none, and there is no edit. -/
def Revision.Follows (r : Revision) (returned : List Revision) : Prop :=
  r.base = 0 ∧ r.edit = none ∨
    ∃ b ∈ returned, b.number = r.base ∧ ∀ e, r.edit = some e →
      e.Turns (Text.Utf8.encode b.text.toList) (Text.Utf8.encode r.text.toList)

namespace Ledger

variable {l : Ledger} {file : String}

/-- A revision that is added follows one of those before. -/
theorem Adds.follows {text : String} {r : Revision} (adds : l.Adds file text r) (same : r.text = text) :
    r.Follows (l.returned file) := by
  by_cases based : r.base = 0
  · exact Or.inl ⟨based, adds.edit_none based⟩
  · obtain ⟨b, member, number⟩ := adds.base_returned based
    refine Or.inr ⟨b, member, number, ?_⟩
    intro e edit
    by_cases unchanged : b.text = text
    · rw [adds.edit_same b member number unchanged] at edit
      cases edit
    · obtain ⟨e', edit', turns⟩ := adds.edit_turns b member number unchanged
      rw [edit'] at edit
      cases edit
      rwa [same]

/-- Every revision that was returned for a file follows one that was returned for it. -/
def Followed (l : Ledger) (file : String) : Prop :=
  ∀ r ∈ l.returned file, r.Follows (l.returned file)

theorem returned_record (l : Ledger) (file text : String) (ranges : Option (List HostRange))
    (language other : String) :
    let r := (l.tracker.record file text ranges language).2
    (l.apply (.record file text ranges language)).returned other =
      if other = file ∧ r ∉ l.returned file then l.returned file ++ [r] else l.returned other := rfl

/-- Recording a text forgets none of the returned revisions. -/
theorem mem_returned_record {r : Revision} {other : String} (member : r ∈ l.returned other)
    (file text : String) (ranges : Option (List HostRange)) (language : String) :
    r ∈ (l.apply (.record file text ranges language)).returned other := by
  rw [returned_record]
  split
  · next new =>
    rw [new.1] at member
    exact List.mem_append_left _ member
  · exact member

/-- What follows one of some revisions follows one of more. -/
theorem Follows.mono {r : Revision} {returned more : List Revision} (follows : r.Follows returned)
    (subset : ∀ b ∈ returned, b ∈ more) : r.Follows more := by
  rcases follows with none | ⟨b, member, followed⟩
  · exact Or.inl none
  · exact Or.inr ⟨b, subset b member, followed⟩

/-- Recording a text keeps the revisions of a file in a row. -/
theorem Followed.record (followed : l.Followed file) (life : l.Life file) (recorded text : String)
    (ranges : Option (List HostRange)) (language : String) :
    (l.apply (.record recorded text ranges language)).Followed file := by
  have kept (r : Revision) (member : r ∈ l.returned file) :
      r ∈ (l.apply (.record recorded text ranges language)).returned file :=
    mem_returned_record member recorded text ranges language
  intro r member
  rw [returned_record] at member
  split at member
  · next new =>
    obtain ⟨rfl, new⟩ := new
    rcases List.mem_append.1 member with old | added
    · exact Follows.mono (followed r old) kept
    · rw [List.mem_singleton] at added
      subst added
      rcases l.tracker.record_cases file text ranges language with ⟨newest, found, _, same⟩ | next
      · rw [same] at new
        exact absurd (life.latest_number found).1 new
      · refine Follows.mono ?_ kept
        rw [next]
        exact (life.adds_next text ranges language).follows rfl
  · exact Follows.mono (followed r member) kept

end Ledger

/-- Something that is done with a tracker and a parser, which never forget. Revisions are named by their
place among those that were returned for their file, trees by the order in which they were made. -/
inductive DeskStep where
  | record (file text : String) (ranges : Option (List HostRange)) (language : String)
  | mark (file : String) (place : Nat)
  /-- Parses a revision with an earlier tree, or with none. -/
  | parse (file : String) (place : Nat) (previous : Option Nat) (reply : NativeReply)
      (crash : Option String)

/-- A tracker with the revisions that it returned, and a parser with its trees. -/
structure Desk where
  ledger : Ledger := {}
  log : ParseLog

namespace Desk

def start (grammars : Grammars) (maxNodes : Int) : Desk := { log := .start grammars maxNodes }

/-- The desk after a step. What names no revision changes nothing. -/
def apply (d : Desk) : DeskStep → Desk
  | .record file text ranges language =>
    { d with ledger := d.ledger.apply (.record file text ranges language) }
  | .mark file place =>
    match (d.ledger.returned file)[place]? with
    | some r => { d with ledger := d.ledger.apply (.markAnalyzed r) }
    | none => d
  | .parse file place previous reply crash =>
    match (d.ledger.returned file)[place]? with
    | some r => { d with log := d.log.apply ⟨r, previous, reply, crash⟩ }
    | none => d

def run (d : Desk) (steps : List DeskStep) : Desk := steps.foldl apply d

/-- The lives of all files are in order, with their revisions in a row, and every tree was made for one of
these. -/
structure Sound (d : Desk) : Prop where
  life : ∀ file, d.ledger.Life file
  followed : ∀ file, d.ledger.Followed file
  made : ∀ t ∈ d.log.trees, ∃ r ∈ d.ledger.returned t.file, t.MadeFor r

variable {d : Desk}

theorem sound_start (grammars : Grammars) (maxNodes : Int) : (start grammars maxNodes).Sound where
  life := Ledger.life_empty
  followed _ := nofun
  made := nofun

/-- A tree that is made for a returned revision keeps the desk in order. -/
theorem Sound.next (sound : d.Sound) {file : String} {r : Revision} (member : r ∈ d.ledger.returned file)
    {p : Parser} {t : Tree} (made : t.MadeFor r) :
    Sound { d with log := ⟨p, d.log.trees ++ [t]⟩ } where
  life := sound.life
  followed := sound.followed
  made u parsed := by
    rcases List.mem_append.1 parsed with old | new
    · exact sound.made u old
    · rw [List.mem_singleton] at new
      subst new
      refine ⟨r, ?_, made⟩
      rwa [made.file, (sound.life file).filed r member]

theorem Sound.apply (sound : d.Sound) (step : DeskStep) : (d.apply step).Sound := by
  cases step with
  | record file text ranges language =>
    constructor
    case life => exact fun other => (sound.life other).apply trivial
    case followed =>
      exact fun other => (sound.followed other).record (sound.life other) file text ranges language
    case made =>
      intro t member
      obtain ⟨r, there, made⟩ := sound.made t member
      exact ⟨r, Ledger.mem_returned_record there file text ranges language, made⟩
  | mark file place =>
    rw [Desk.apply]
    split
    · next r found =>
      have member := List.mem_of_getElem? found
      have allowed : r ∈ d.ledger.returned r.file := by
        rwa [(sound.life file).filed r member]
      exact ⟨fun other => (sound.life other).apply allowed, sound.followed, sound.made⟩
    · exact sound
  | parse file place previous reply crash =>
    rw [Desk.apply]
    split
    · next r found =>
      rw [ParseLog.apply]
      refine sound.next (List.mem_of_getElem? found) ?_
      unfold ParseLog.answer
      exact Parser.madeFor_parse ..
    · exact sound

theorem Sound.run (sound : d.Sound) (steps : List DeskStep) : (d.run steps).Sound := by
  unfold Desk.run
  induction steps generalizing d with
  | nil => exact sound
  | cons step rest ih =>
    rw [List.foldl_cons]
    exact ih (sound.apply step)

/-- What it means that an old native tree is handed over for a revision, with the revision `b` as base: the
tree was made for the text of the base by the grammar of its language, and the edit, which is made in a
copy of the tree before, turns that text into the one that is parsed. The grammar is the one that parses,
unless the two are the twins. -/
structure HandsOver (b r : Revision) (e : ByteEdit) (grammar text : String) (old : NativeTree)
    (calls : List NativeCall) : Prop where
  base : b.number = r.base
  edit : r.edit = some e
  calls_eq : calls = [.copy, .edit e, .parse grammar text (some old)]
  old_text : old.text = b.text
  new_text : text = r.text
  turns : e.Turns (Text.Utf8.encode old.text.toList) (Text.Utf8.encode text.toList)
  old_grammar : (Profile.find? b.language).map (·.grammar) = some old.grammar
  new_grammar : (Profile.find? r.language).map (·.grammar) = some grammar
  grammars : old.grammar = grammar ∨ Profile.Twins old.grammar grammar

/-- Whatever was recorded, marked and parsed, in any languages and with any earlier trees: a native tree
that the next parse of a returned revision hands over is handed over in order. -/
theorem native_trees_fit (grammars : Grammars) (maxNodes : Int) (steps : List DeskStep) :
    let d := (start grammars maxNodes).run steps
    ∀ file, ∀ r ∈ d.ledger.returned file, ∀ previous reply crash grammar text old,
      let calls := (d.log.answer ⟨r, previous, reply, crash⟩).calls
      .parse grammar text (some old) ∈ calls →
        ∃ b ∈ d.ledger.returned file, ∃ e, HandsOver b r e grammar text old calls := by
  intro d file r member previous reply crash grammar text old calls asked
  have sound : d.Sound := (sound_start grammars maxNodes).run steps
  obtain ⟨profile, tree, e, supported, found, fits, native, edit, rfl, rfl, order⟩ :=
    Parser.handed_over asked
  obtain ⟨a, a_mem, made⟩ := sound.made tree (ParseLog.mem_of_previous? found)
  simp only [Parser.isBaseOf, Bool.and_eq_true, Bool.not_eq_true', beq_iff_eq, decide_eq_true_iff]
    at fits
  obtain ⟨⟨⟨⟨-, same_file⟩, name⟩, -⟩, number⟩ := fits
  rw [same_file, (sound.life file).filed r member] at a_mem
  rcases sound.followed file r member with ⟨-, none⟩ | ⟨b, b_mem, base, turns⟩
  · rw [none] at edit
    cases edit
  -- The tree was made for the base, because both have one number.
  have same : a = b := (sound.life file).eq_of_number a_mem b_mem (by rw [base, ← number, made.number])
  subst same
  obtain ⟨old_text, own, own_supported, own_name, old_grammar⟩ := made.native old native
  refine ⟨a, a_mem, e, ⟨base, edit, order, old_text, rfl, ?_, ?_, ?_, ?_⟩⟩
  · rw [old_text]
    exact turns e edit
  · rw [own_supported, old_grammar]
    rfl
  · rw [supported]
    rfl
  · rw [old_grammar]
    exact Profile.grammar_of_name own_supported supported (own_name.symm.trans name)

/-- A text is read by a native grammar, and then it is edited. -/
def nativeEdit : List DeskStep :=
  [.record "a" "x" none "python",
    .parse "a" 0 none (.tree (.mk "module" true 0 1 ⟨0, 0⟩ ⟨0, 1⟩ none false []) true) none,
    .record "a" "y" none "python"]

/-- The tree of the first text is handed over for the second. -/
theorem native_trees_fit_edited_text :
    let d := (start { installed := [("python", .named)] } 200000).run nativeEdit
    ∃ r ∈ d.ledger.returned "a", r.text = "y" ∧ ∃ grammar text old,
      let calls := (d.log.answer ⟨r, some 0, .nothing, none⟩).calls
      .parse grammar text (some old) ∈ calls ∧
        ∃ b ∈ d.ledger.returned "a", ∃ e, HandsOver b r e grammar text old calls := by
  intro d
  let r := ((Tracker.record {} "a" "x" none "python").1.record "a" "y" none "python").2
  have member : r ∈ d.ledger.returned "a" := by decide +kernel
  have handed : (d.log.answer ⟨r, some 0, .nothing, none⟩).calls.any NativeCall.handsOver = true := by
    decide +kernel
  obtain ⟨call, asked, hands⟩ := List.any_eq_true.1 handed
  obtain ⟨grammar, text, old, rfl⟩ := NativeCall.exists_of_handsOver hands
  exact ⟨r, member, by decide +kernel, grammar, text, old, asked,
    native_trees_fit _ _ nativeEdit "a" r member (some 0) .nothing none grammar text old asked⟩

end Desk

end LiveLint
