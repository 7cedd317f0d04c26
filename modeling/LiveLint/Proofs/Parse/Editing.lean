import LiveLint.Proofs.Parse.Incremental
import LiveLint.Proofs.Revision.Tracking
import Mathlib.Data.List.Permutation

/-!
# Files under edit

Texts of files come in one after the other. Each is recorded without ranges from the host and read at
once, with the tree of the last analyzed revision of its file. An analysis may end at any later time. The
tree of every text agrees with the one from scratch, but for what was carried over from earlier texts.
-/

namespace LiveLint

/-- Files under edit: what is known about them, and everything that was read. -/
structure Editor where
  tracker : Tracker := {}
  parser : Parser
  /-- The tree of the last analyzed revision of each file. -/
  trees : Table String Tree := []
  read : List Parsed := []

namespace Editor

/-- What happens to files under edit. Readings are named by their order. -/
inductive Event where
  /-- A text comes in and is read. -/
  | edit (file text language : String)
  /-- The analysis of a reading ends. -/
  | analyzed (reading : Nat)

def start (maxNodes : Int) : Editor where
  parser := { maxNodes }

def edit (e : Editor) (file text language : String) : Editor :=
  let (tracker, r) := e.tracker.record file text none language
  let out := e.parser.parse r (e.trees.get? file)
  { e with tracker, parser := out.parser, read := e.read ++ [(r, out.tree)] }

/-- The analysis of a revision ends. Its tree is kept unless that would be a step back. -/
def finish (e : Editor) (x : Parsed) : Editor :=
  let (tracker, newest) := e.tracker.markAnalyzed x.1
  { e with tracker, trees := if newest then e.trees.set x.1.file x.2 else e.trees }

def handle (e : Editor) : Event → Editor
  | .edit file text language => e.edit file text language
  | .analyzed reading => (e.read[reading]?).elim e e.finish

def after (e : Editor) (events : List Event) : Editor := events.foldl handle e

/-- The messages whose digests were taken. -/
def hashed (e : Editor) : List ByteArray := hashedFor (e.read.map (·.1))

/-- The trees at hand are those of the last analyzed revisions, and everything was read by the scanner. -/
structure Sound (e : Editor) : Prop where
  parser : e.parser.Sound e.read
  analyzed : ∀ file, e.tracker.analyzed.get? file = none ∧ e.trees.get? file = none ∨
    ∃ x ∈ e.read, e.tracker.analyzed.get? file = some x.1 ∧ e.trees.get? file = some x.2
  by_scanner : ∀ x ∈ e.read, x.2.backend = .scanner ∨ x.2.roots = [] ∧ x.1.branches = []

theorem sound_start (maxNodes : Int) : (start maxNodes).Sound where
  parser := Parser.Sound.start rfl
  analyzed _ := Or.inl ⟨rfl, rfl⟩
  by_scanner := nofun

theorem Sound.known {e : Editor} (sound : e.Sound) (file : String) :
    ∀ t, e.trees.get? file = some t → ∃ x ∈ e.read, x.2 = t := by
  intro t found
  rcases sound.analyzed file with ⟨-, none⟩ | ⟨x, member, -, same⟩
  · rw [none] at found
    cases found
  · exact ⟨x, member, Option.some.inj (same.symm.trans found)⟩

theorem Sound.edit {e : Editor} (sound : e.Sound) (file text language : String) :
    (e.edit file text language).Sound := by
  have analyzed := e.tracker.analyzed_record file text none language
  unfold Editor.edit
  generalize e.tracker.record file text none language = recorded at analyzed ⊢
  have parsed := sound.parser.parse recorded.2 (sound.known file) none
  have scanned := Parser.scanned_or_empty sound.parser.grammars recorded.2 (e.trees.get? file)
  dsimp only
  generalize e.parser.parse recorded.2 (e.trees.get? file) .nothing none = out at parsed scanned ⊢
  refine ⟨parsed, ?_, ?_⟩
  · intro other
    dsimp only
    rw [analyzed]
    refine (sound.analyzed other).imp id ?_
    rintro ⟨x, member, same⟩
    exact ⟨x, List.mem_append_left _ member, same⟩
  · intro x member
    rcases List.mem_append.1 member with earlier | last
    · exact sound.by_scanner x earlier
    · rw [List.mem_singleton.1 last]
      exact scanned

theorem Sound.finish {e : Editor} (sound : e.Sound) {x : Parsed} (member : x ∈ e.read) :
    (e.finish x).Sound := by
  unfold Editor.finish Tracker.markAnalyzed
  by_cases step_back : ((e.tracker.analyzed.get? x.1.file).any (·.number ≥ x.1.number)) = true
  · rw [if_pos step_back]
    exact sound
  · rw [if_neg step_back]
    refine ⟨sound.parser, ?_, sound.by_scanner⟩
    intro other
    dsimp only
    rw [if_pos rfl]
    by_cases same : other = x.1.file
    · subst same
      exact Or.inr ⟨x, member, Table.get?_set_self _ _ _, Table.get?_set_self _ _ _⟩
    · rw [Table.get?_set_of_ne _ _ same, Table.get?_set_of_ne _ _ same]
      exact sound.analyzed other

theorem Sound.handle {e : Editor} (sound : e.Sound) (event : Event) : (e.handle event).Sound := by
  cases event with
  | edit file text language => exact sound.edit file text language
  | analyzed reading =>
    unfold Editor.handle
    dsimp only
    cases found : e.read[reading]? with
    | none => exact sound
    | some x => exact sound.finish (List.mem_of_getElem? found)

theorem Sound.after {e : Editor} (sound : e.Sound) (events : List Event) : (e.after events).Sound := by
  induction events generalizing e with
  | nil => exact sound
  | cons event rest ih => exact ih (sound.handle event)

theorem edit_of_recorded (e : Editor) {file text language : String} {r : Revision}
    (recorded : (e.tracker.record file text none language).2 = r) :
    e.edit file text language =
      { tracker := (e.tracker.record file text none language).1
        parser := (e.parser.parse r (e.trees.get? file)).parser
        trees := e.trees
        read := e.read ++ [(r, (e.parser.parse r (e.trees.get? file)).tree)] } := by
  subst recorded
  rfl

theorem finish_of_marked (e : Editor) {x : Parsed} (marked : (e.tracker.markAnalyzed x.1).2 = true) :
    e.finish x =
      { e with
        tracker := (e.tracker.markAnalyzed x.1).1
        trees := e.trees.set x.1.file x.2 } := by
  unfold finish
  dsimp only
  rw [if_pos marked]

/-- A text that comes in after the analysis of the first one is read with the tree of that one. -/
theorem after_two_texts {maxNodes : Int} {file text₁ text₂ language : String} {r₁ r₂ : Revision}
    (recorded₁ : (({} : Tracker).record file text₁ none language).2 = r₁) (same : r₁.file = file)
    (recorded₂ : (((({} : Tracker).record file text₁ none language).1.markAnalyzed r₁).1.record file text₂
      none language).2 = r₂)
    {out₁ out₂ : Parser.Outcome} (parsed₁ : (start maxNodes).parser.parse r₁ = out₁)
    (parsed₂ : out₁.parser.parse r₂ (some out₁.tree) = out₂) :
    let e := (start maxNodes).after [.edit file text₁ language, .analyzed 0, .edit file text₂ language]
    e.read = [(r₁, out₁.tree), (r₂, out₂.tree)] ∧ e.parser = out₂.parser := by
  intro e
  have first : (start maxNodes).edit file text₁ language =
      { tracker := (({} : Tracker).record file text₁ none language).1, parser := out₁.parser,
        read := [(r₁, out₁.tree)] } := by
    rw [edit_of_recorded _ recorded₁, ← parsed₁]
    rfl
  have marked : ((({} : Tracker).record file text₁ none language).1.markAnalyzed r₁).2 = true := by
    unfold Tracker.markAnalyzed
    rw [Tracker.analyzed_record]
    rfl
  have kept : ((start maxNodes).trees.set r₁.file out₁.tree).get? file = some out₁.tree := by
    rw [same]
    exact Table.get?_set_self _ _ _
  have steps : e = (((start maxNodes).edit file text₁ language).finish (r₁, out₁.tree)).edit file text₂
      language := by
    show (((start maxNodes).edit file text₁ language).handle (.analyzed 0)).edit file text₂ language = _
    unfold handle
    dsimp only
    rw [first, List.getElem?_cons_zero, Option.elim_some]
  rw [steps, first, finish_of_marked _ marked, edit_of_recorded _ recorded₂]
  dsimp only
  change Table.get? (Table.set r₁.file out₁.tree []) file = _ at kept
  rw [kept, parsed₂]
  exact ⟨rfl, rfl⟩

/-- If the second text repeats the first one, then its tree shows what the first one shows, moved. -/
theorem shown_after_two_texts {maxNodes : Int} {file text₁ text₂ language : String} {r₁ r₂ : Revision}
    (recorded₁ : (({} : Tracker).record file text₁ none language).2 = r₁) (same : r₁.file = file)
    (recorded₂ : (((({} : Tracker).record file text₁ none language).1.markAnalyzed r₁).1.record file text₂
      none language).2 = r₂)
    {b₁ b₂ : Branch} (repeats : r₂.Repeats r₁ b₂ b₁)
    (room : ((b₁.store b₁.draft.span.start.line {}).1.size : Int) < maxNodes) :
    let e := (start maxNodes).after [.edit file text₁ language, .analyzed 0, .edit file text₂ language]
    ∃ t₁ t₂, e.read = [(r₁, t₁), (r₂, t₂)] ∧ ∀ skipErrors,
      t₂.faces (e.parser.arena t₂.arena) skipErrors =
        b₁.faces ((b₂.draft.span.start.line : Int) - b₁.draft.span.start.line) skipErrors [] := by
  intro e
  obtain ⟨out₁, parsed₁⟩ : ∃ out₁, (start maxNodes).parser.parse r₁ = out₁ := ⟨_, rfl⟩
  obtain ⟨out₂, parsed₂⟩ : ∃ out₂, out₁.parser.parse r₂ (some out₁.tree) = out₂ := ⟨_, rfl⟩
  obtain ⟨read, parser⟩ := after_two_texts recorded₁ same recorded₂ parsed₁ parsed₂
  refine ⟨out₁.tree, out₂.tree, read, ?_⟩
  intro skipErrors
  rw [parser]
  exact Parser.faces_carried_over rfl rfl repeats room parsed₁ parsed₂ skipErrors

/-- A loop in brackets, as the file was opened. -/
def enclosed : Revision :=
  { file := "a", language := "python", number := 1, text := "(\nz\nwhile x:\n y)",
    changed := (LineRange.ofInts? 1 4).toList, base := 0, edit := none, serial := 0 }

/-- The same loop after the opening bracket was removed. -/
def unopened : Revision :=
  { file := "a", language := "python", number := 2, text := "z\nwhile x:\n y)",
    changed := (LineRange.ofInts? 1 1).toList, base := 1, serial := 1,
    edit := some ⟨0, 2, 0, ⟨0, 0⟩, ⟨1, 0⟩, ⟨0, 0⟩⟩ }

/-- The loop in brackets is read and analyzed before the opening bracket is removed. -/
def unopening : List Event :=
  [.edit "a" enclosed.text "python", .analyzed 0, .edit "a" unopened.text "python"]

/-- The loop in one of the texts, on its line there. -/
def loopDraft (line id body : Nat) : Draft :=
  { kind := .loop, type := "loop", span := ⟨⟨line, 0⟩, ⟨line + 1, 3⟩⟩, body := some body, id }

/-- The line below the loop. -/
def lineDraft (kind : NodeKind) (type : String) (line id : Nat) : Draft :=
  { kind, type, span := ⟨⟨line, 1⟩, ⟨line, 3⟩⟩, id }

/-- In brackets the loop has a body. -/
def loop₁ : Branch := .mk (loopDraft 3 0 1) [.mk (lineDraft .other "block" 4 1) []]

/-- Without the opening bracket the body is an error. -/
def loop₂ : Branch := .mk (loopDraft 2 1 2) [.mk (lineDraft .error "ERROR" 3 0) []]

theorem branches_enclosed : enclosed.branches = [loop₁] := by
  have language : Profile.find? enclosed.language = some .python := Profile.find?_python
  have kept : Outline.kept .python enclosed.text.toList =
      [loopDraft 3 0 1, lineDraft .other "block" 4 1] := by decide +kernel
  rw [Revision.branches_of_kept language kept]
  cbv

theorem branches_unopened : unopened.branches = [loop₂] := by
  have language : Profile.find? unopened.language = some .python := Profile.find?_python
  have kept : Outline.kept .python unopened.text.toList =
      [lineDraft .error "ERROR" 3 0, loopDraft 2 1 2] := by decide +kernel
  rw [Revision.branches_of_kept language kept]
  cbv

/-- The second text repeats the loop of the first one. -/
theorem unopened_repeats : unopened.Repeats enclosed loop₂ loop₁ where
  file := rfl
  language := rfl
  numbered := by decide
  base := rfl
  alone := branches_unopened
  alone_before := branches_enclosed
  input := by decide +kernel
  untouched := by decide

/-- The tree of the second text shows the loop as it was in brackets, one line further up. -/
theorem shown_unopening : ∃ t₁ t₂, ((start 200000).after unopening).read = [(enclosed, t₁), (unopened, t₂)] ∧
    ∀ skipErrors, t₂.faces (((start 200000).after unopening).parser.arena t₂.arena) skipErrors =
      loop₁.faces (-1) skipErrors [] := by
  have recorded₁ : (({} : Tracker).record "a" enclosed.text none "python").2 = enclosed := by
    decide +kernel
  have recorded₂ : (((({} : Tracker).record "a" enclosed.text none "python").1.markAnalyzed
      enclosed).1.record "a" unopened.text none "python").2 = unopened := by decide +kernel
  have room : ((loop₁.store loop₁.draft.span.start.line {}).1.size : Int) < 200000 := by decide +kernel
  exact shown_after_two_texts recorded₁ rfl recorded₂ unopened_repeats room

theorem collisionFree_unopening : Digest.CollisionFree ((start 200000).after unopening).hashed := by
  obtain ⟨t₁, t₂, read, -⟩ := shown_unopening
  have alone : hashedFor [enclosed, unopened] =
      List.replicate 2 (RootSource.branchInput enclosed.text.toList loop₁) := by
    unfold hashedFor
    rw [List.flatMap_cons, List.flatMap_singleton, branches_enclosed, branches_unopened,
      List.map_singleton, List.map_singleton, unopened_repeats.input]
    rfl
  unfold hashed
  rw [read, List.map_cons, List.map_singleton, alone]
  exact Digest.CollisionFree.of_same fun m => List.eq_of_mem_replicate

/-- The tree of every text that came in has the roots that it has from scratch. Those that were built for
it show what they show from scratch, and those that were carried over what an earlier text of the file shows
from scratch on the same lines. A walk shows what it shows from scratch exactly if it does so for every root
that was carried over, and then the errors are the same. -/
theorem agrees_but_for_carried_over (maxNodes : Int) (events : List Event)
    (apart : Digest.CollisionFree ((start maxNodes).after events).hashed) (before after : List Parsed)
    (x : Parsed) (split : ((start maxNodes).after events).read = before ++ x :: after) :
    Tree.Matches ((start maxNodes).after events).parser before x := by
  have sound : ((start maxNodes).after events).Sound := (sound_start maxNodes).after events
  generalize (start maxNodes).after events = e at apart split sound ⊢
  exact sound.parser.tree_matches apart split
    (sound.by_scanner x (split ▸ List.mem_append_right _ (List.mem_cons_self ..)))

/-- The loop is carried over from the first text to the second. -/
theorem agrees_but_for_unopened_loop :
    Digest.CollisionFree ((start 200000).after unopening).hashed ∧
      ∃ t₁ t₂, ((start 200000).after unopening).read = [(enclosed, t₁)] ++ [(unopened, t₂)] ∧
        Tree.Matches ((start 200000).after unopening).parser [(enclosed, t₁)] (unopened, t₂) := by
  obtain ⟨t₁, t₂, read, -⟩ := shown_unopening
  exact ⟨collisionFree_unopening, t₁, t₂, read,
    agrees_but_for_carried_over 200000 unopening collisionFree_unopening [(enclosed, t₁)] [] (unopened, t₂)
      read⟩

/-- The tree of the second text shows the loop as it was in brackets. From scratch its body is an error. -/
theorem unopened_loop_without_error :
    Digest.CollisionFree ((start 200000).after unopening).hashed ∧
      ∃ x ∈ ((start 200000).after unopening).read, x.1 = unopened ∧
        let arena := ((start 200000).after unopening).parser.arena x.2.arena
        let scratch := Parser.fromScratch x.1
        x.2.faces arena false ≠ scratch.tree.faces scratch.arena false ∧
          x.2.errorSpans arena = [] ∧ scratch.tree.errorSpans scratch.arena = [(3, 3)] := by
  obtain ⟨t₁, t₂, read, shown⟩ := shown_unopening
  have anew := Parser.faces_fromScratch_alone branches_unopened false
  refine ⟨collisionFree_unopening, (unopened, t₂), ?_, rfl, ?_⟩
  · rw [read]
    exact List.mem_cons_of_mem _ (List.mem_cons_self ..)
  · dsimp only
    rw [Tree.errorSpans_eq, Tree.errorSpans_eq, shown, anew]
    decide

end Editor

end LiveLint
