import LiveLint.Proofs.Detect.Likeness
import LiveLint.Proofs.Detect.Search

/-!
# The memory of a detector is invisible

Revisions are read and trees are searched in any order, by one parser and one detector. Whatever was done
before, detection answers what a detector answers that remembers nothing.
-/

namespace LiveLint

/-!
## What a detector remembers

Every result that is remembered is what a search found in a root of a tree that was made. Since roots of
one arena at one index look alike, a search of another root with the same key would find the same, moved
with the root. So detection answers what it would answer without remembering anything, and what it
remembers stays true when it is interrupted, when results are forgotten, and when revisions are read.
-/

theorem Parser.subject_tree (p : Parser) (x : Parsed) : (p.subject x).tree = x.2 := by
  unfold subject
  rfl

/-- A result that a detector may remember: what a known query found in a root of a tree that was made. -/
structure Recollection (p : Parser) (read : List Parsed) (arena : Nat) (key : MemoKey) (found : Finds)
    (x : Parsed) (root : Root) (query : Query) (find : Find) (settings : Settings) : Prop where
  made : x ∈ read
  scanned : x.2.backend = .scanner
  arena_eq : x.2.arena = arena
  placed : root ∈ x.2.roots
  is_known : query ∈ Query.known
  search : query.search = .inRoot find
  whole : ∃ a b c, settings = .whole a b c
  key_eq : key = ⟨root.index, query.kind, x.2.language, settings.key⟩
  found_eq : found = (root.line, find settings (p.subject x) root)

namespace Detector

/-- A detector with the built-in queries remembers nothing that is not so. -/
structure Recalls (d : Detector) (p : Parser) (read : List Parsed) : Prop where
  queries : d.queries = Query.builtIn
  memo : ∀ arena key found, (d.resultsOf arena)[key]? = some found →
    ∃ x root query find settings,
      Recollection p read arena key found x root query find settings

variable {d : Detector} {p : Parser} {read : List Parsed}

/-- A search of one root answers what the search finds there, remembered or not. -/
theorem Recalls.inRoot_eq (recalls : d.Recalls p read) (sound : p.Sound read)
    (apart : Digest.CollisionFree (hashedFor (read.map (·.1)))) {x : Parsed} (xIn : x ∈ read)
    (scanned : x.2.backend = .scanner) {query : Query} (is_known : query ∈ Query.known) {find : Find}
    (search : query.search = .inRoot find) (a b c : Int) {root : Root} (rootIn : root ∈ x.2.roots) :
    (d.inRoot (.whole a b c) (p.subject x) query.kind find root).2 =
        find (.whole a b c) (p.subject x) root ∧
      (d.inRoot (.whole a b c) (p.subject x) query.kind find root).1.Recalls p read := by
  unfold Detector.inRoot
  dsimp only
  split
  · next line found remembered =>
    refine ⟨?_, recalls.queries, recalls.memo⟩
    obtain ⟨y, root', query', find', settings', known⟩ := recalls.memo _ _ _ remembered
    obtain ⟨a', b', c', rfl⟩ := known.whole
    have key := known.key_eq
    rw [MemoKey.mk.injEq] at key
    obtain ⟨index, kind, language, settings⟩ := key
    cases Query.eq_of_kind is_known known.is_known kind
    cases search.symm.trans known.search
    have same := known.found_eq
    rw [Prod.mk.injEq, ← Settings.whole_of_key settings] at same
    obtain ⟨rfl, rfl⟩ := same
    have alike := sound.alike apart known.made xIn known.scanned scanned known.arena_eq language.symm
      known.placed rootIn index.symm
      (by rw [known.arena_eq]; exact Arena.Extends.refl _)
    exact (Query.moves_of_mem known.is_known known.search _ _ _ _ _ alike).symm
  · refine ⟨rfl, recalls.queries, ?_⟩
    intro arena key found remembered
    rcases mem_remember remembered with ⟨rfl, rfl, rfl⟩ | before
    · exact ⟨x, root, query, find, .whole a b c, xIn, scanned, rfl, rootIn, is_known, search,
        ⟨a, b, c, rfl⟩, rfl, rfl⟩
    · exact recalls.memo arena key found before

/-- A root that is no error belongs to a tree that was scanned. -/
theorem scanned_of_root (sound : p.Sound read) {x : Parsed} (xIn : x ∈ read) {root : Root}
    (rootIn : root ∈ x.2.roots) (readable : ¬ ((p.subject x).arena.kind root.index == .error) = true) :
    x.2.backend = .scanner := by
  obtain ⟨before, after, split⟩ := List.append_of_mem xIn
  rcases sound.made before x after split with unscanned | made
  · exact absurd (beq_iff_eq.2 (unscanned.errors root rootIn)) readable
  · exact made.backend

/-- Whatever it remembers, the detector answers what the known queries find. -/
theorem Recalls.faithful (sound : p.Sound read)
    (apart : Digest.CollisionFree (hashedFor (read.map (·.1)))) {x : Parsed} (xIn : x ∈ read)
    (a b c : Int) : Faithful (·.Recalls p read) (.whole a b c) (p.subject x) Query.known := by
  intro d recalls query is_known find search root rootIn readable
  rw [Parser.subject_tree] at rootIn
  exact recalls.inRoot_eq sound apart xIn (scanned_of_root sound xIn rootIn readable) is_known search
    a b c rootIn

/-- Detection answers what searching every root answers, and what is remembered afterwards is true,
whether detection came to an end or not. -/
theorem Recalls.detect_eq (recalls : d.Recalls p read) (sound : p.Sound read)
    (apart : Digest.CollisionFree (hashedFor (read.map (·.1)))) {x : Parsed} (xIn : x ∈ read)
    (a b c : Int) (checkpoint : Checkpoint) :
    (d.detect (.whole a b c) x.2 (p.arena x.2.arena) checkpoint).2 =
        Query.occurrences (.whole a b c) (p.subject x) checkpoint ∧
      (d.detect (.whole a b c) x.2 (p.arena x.2.arena) checkpoint).1.Recalls p read := by
  have faithful : Faithful (·.Recalls p read) (.whole a b c) { tree := x.2, arena := p.arena x.2.arena }
      (Query.functionSpans :: d.queries) := by
    rw [recalls.queries]
    exact Recalls.faithful sound apart xIn a b c
  have answered := faithful.detect_eq recalls checkpoint
  rw [recalls.queries] at answered
  exact answered

end Detector

/-!
## Any order of calls
-/

/-- A parser and a detector at work, with everything that was read so far. -/
structure Workbench where
  parser : Parser
  detector : Detector
  read : List Parsed := []

namespace Workbench

/-- Something that is done on a workbench. Trees are named by the order in which they were made. -/
inductive Task where
  /-- Reads a revision with an earlier tree, or with none. `crash` makes the scanner fail. -/
  | parse (r : Revision) (previous : Option Nat) (crash : Option String)
  /-- Searches a tree, with whole numbers as thresholds. The checkpoint may interrupt it. -/
  | detect (tree : Nat) (length parameters lines : Int) (checkpoint : Detector.Checkpoint)

def Task.revision? : Task → Option Revision
  | .parse r _ _ => some r
  | .detect .. => none

def start (maxNodes memoLimit : Int) : Workbench where
  parser := { maxNodes }
  detector := { Detector.standard with memoLimit }

def tree? (w : Workbench) (place : Option Nat) : Option Tree := (place.bind (w.read[·]?)).map (·.2)

def perform (w : Workbench) : Task → Workbench
  | .parse r previous crash =>
    let out := w.parser.parse r (w.tree? previous) .nothing crash
    { w with parser := out.parser, read := w.read ++ [(r, out.tree)] }
  | .detect tree length parameters lines checkpoint =>
    match w.read[tree]? with
    | some x =>
      { w with
        detector := (w.detector.detect (.whole length parameters lines) x.2
          (w.parser.arena x.2.arena) checkpoint).1 }
    | none => w

def after (w : Workbench) (tasks : List Task) : Workbench := tasks.foldl perform w

/-- The messages whose digests were taken. -/
def hashed (w : Workbench) : List ByteArray := hashedFor (w.read.map (·.1))

structure Sound (w : Workbench) : Prop where
  parser : w.parser.Sound w.read
  detector : w.detector.Recalls w.parser w.read

theorem mem_of_tree? {w : Workbench} {place : Option Nat} {t : Tree} (found : w.tree? place = some t) :
    ∃ x ∈ w.read, x.2 = t := by
  obtain ⟨x, named, rfl⟩ := Option.map_eq_some_iff.1 found
  obtain ⟨i, -, at_place⟩ := Option.bind_eq_some_iff.1 named
  exact ⟨x, List.mem_of_getElem? at_place, rfl⟩

/-- What was read stays. -/
theorem read_perform (w : Workbench) (task : Task) : w.read <+: (w.perform task).read := by
  cases task with
  | parse r previous crash => exact List.prefix_append ..
  | detect tree length parameters lines checkpoint =>
    unfold perform
    dsimp only
    split <;> exact List.prefix_refl _

/-- What was read are the revisions of the tasks, in order. -/
theorem revisions_after (w : Workbench) (tasks : List Task) :
    (w.after tasks).read.map (·.1) = w.read.map (·.1) ++ tasks.filterMap Task.revision? := by
  induction tasks generalizing w with
  | nil => exact (List.append_nil _).symm
  | cons task rest ih =>
    have step : (w.perform task).read.map (·.1) = w.read.map (·.1) ++ task.revision?.toList := by
      cases task with
      | parse r previous crash => exact List.map_append
      | detect tree length parameters lines checkpoint =>
        unfold perform
        dsimp only
        split <;> exact (List.append_nil _).symm
    show ((w.perform task).after rest).read.map (·.1) = _
    rw [ih, step, List.append_assoc]
    cases task <;> rfl

theorem read_after (w : Workbench) (tasks : List Task) : w.read <+: (w.after tasks).read := by
  induction tasks generalizing w with
  | nil => exact List.prefix_refl _
  | cons task rest ih => exact (w.read_perform task).trans (ih (w.perform task))

/-- Digests that are apart at the end were apart before. -/
theorem collisionFree_of_prefix {w w' : Workbench} (more : w.read <+: w'.read)
    (apart : Digest.CollisionFree w'.hashed) : Digest.CollisionFree w.hashed := by
  refine apart.mono ?_
  intro m member
  obtain ⟨r, read, branch⟩ := List.mem_flatMap.1 member
  exact List.mem_flatMap.2 ⟨r, (more.map (·.1)).subset read, branch⟩

/-- What a detector remembers stays true when arenas grow and more is read. -/
theorem recalls_parse {w : Workbench} (sound : w.Sound) (apart : Digest.CollisionFree w.hashed)
    {r : Revision} {previous : Option Tree} {p' : Parser} {t : Tree}
    (reads : w.parser.Reads r previous p' t) : w.detector.Recalls p' (w.read ++ [(r, t)]) := by
  refine ⟨sound.detector.queries, ?_⟩
  intro arena key found remembered
  obtain ⟨x, root, query, find, settings, known⟩ := sound.detector.memo arena key found remembered
  have alike := sound.parser.alike apart known.made known.made known.scanned known.scanned rfl rfl
    known.placed known.placed rfl (reads.extends x.2.arena)
  have same := Query.moves_of_mem known.is_known known.search settings _ _ root root alike
  rw [Int.sub_self, List.map_congr_left (fun m _ => m.shifted_zero), List.map_id'] at same
  exact ⟨x, root, query, find, settings,
    { known with
      made := List.mem_append_left _ known.made
      found_eq := known.found_eq.trans (by rw [same]) }⟩

theorem Sound.perform {w : Workbench} (sound : w.Sound) (apart : Digest.CollisionFree w.hashed)
    (task : Task) : (w.perform task).Sound := by
  cases task with
  | parse r previous crash =>
    have made : ∀ t, w.tree? previous = some t → ∃ x ∈ w.read, x.2 = t := fun t => mem_of_tree?
    have known : ∀ t, w.tree? previous = some t → t.arena < w.parser.arenas.size := by
      intro t found
      obtain ⟨x, member, rfl⟩ := made t found
      exact sound.parser.arena_lt x member
    have parsed := sound.parser.parse r made crash
    have recalled :=
      recalls_parse sound apart (Parser.reads_parse sound.parser.grammars r known crash)
    unfold Workbench.perform
    dsimp only
    generalize w.parser.parse r (w.tree? previous) .nothing crash = out at parsed recalled ⊢
    exact ⟨parsed, recalled⟩
  | detect tree length parameters lines checkpoint =>
    unfold Workbench.perform
    dsimp only
    split
    · next x found =>
      exact ⟨sound.parser, (sound.detector.detect_eq sound.parser apart (List.mem_of_getElem? found)
        length parameters lines checkpoint).2⟩
    · exact sound

theorem Sound.after {w : Workbench} (sound : w.Sound) (tasks : List Task)
    (apart : Digest.CollisionFree (w.after tasks).hashed) : (w.after tasks).Sound := by
  induction tasks generalizing w with
  | nil => exact sound
  | cons task rest ih =>
    have now := collisionFree_of_prefix (w.read_after (task :: rest)) apart
    exact ih (sound.perform now task) apart

theorem recalls_nothing (p : Parser) (read : List Parsed) (limit : Int) :
    Detector.Recalls { Detector.standard with memoLimit := limit } p read := by
  refine ⟨rfl, ?_⟩
  intro arena key found remembered
  unfold Detector.resultsOf Detector.standard at remembered
  dsimp only at remembered
  rw [Std.HashMap.getD_empty, Std.HashMap.getElem?_empty] at remembered
  cases remembered

theorem sound_start (maxNodes memoLimit : Int) : (start maxNodes memoLimit).Sound :=
  ⟨Parser.Sound.start rfl, recalls_nothing _ _ _⟩

/-- After any tasks, a detector answers about every tree that was made what one answers that remembers
nothing. If the detection is not interrupted, that is also the answer without a checkpoint; and without a
checkpoint there is an answer. -/
theorem memory_invisible (maxNodes memoLimit : Int) (tasks : List Task)
    (apart : Digest.CollisionFree (hashedFor (tasks.filterMap Task.revision?))) :
    let w := (start maxNodes memoLimit).after tasks
    ∀ x ∈ w.read, ∀ (length parameters lines limit : Int) (checkpoint : Detector.Checkpoint),
      let settings := Settings.whole length parameters lines
      let arena := w.parser.arena x.2.arena
      let fresh : Detector := { Detector.standard with memoLimit := limit }
      (w.detector.detect settings x.2 arena checkpoint).2 =
          (fresh.detect settings x.2 arena checkpoint).2 ∧
        (∀ found, (w.detector.detect settings x.2 arena checkpoint).2 = .ok found →
          (fresh.detect settings x.2 arena).2 = .ok found) ∧
        ∃ found, (w.detector.detect settings x.2 arena).2 = .ok found := by
  intro w x xIn length parameters lines limit checkpoint settings arena fresh
  have apart : Digest.CollisionFree w.hashed := by
    unfold hashed
    rw [revisions_after]
    exact apart
  have sound : w.Sound := (sound_start maxNodes memoLimit).after tasks apart
  have kept (checkpoint : Detector.Checkpoint) :=
    (sound.detector.detect_eq sound.parser apart xIn length parameters lines checkpoint).1
  have plain (checkpoint : Detector.Checkpoint) :=
    ((recalls_nothing w.parser w.read limit).detect_eq sound.parser apart xIn length parameters lines
      checkpoint).1
  refine ⟨(kept checkpoint).trans (plain checkpoint).symm, ?_, ?_⟩
  · intro found ended
    rw [kept checkpoint] at ended
    exact (plain .pass).trans (Query.occurrences_of_ok ended)
  · obtain ⟨found, ended⟩ := Query.occurrences_pass length parameters lines (w.parser.subject x)
    exact ⟨found, (kept .pass).trans ended⟩

/-- A call of `eval`, on some line of a text of blank lines. -/
def evalCall (line : Nat) : Branch :=
  .mk { kind := .call, type := "call", span := ⟨⟨line, 0⟩, ⟨line, 5⟩⟩, name := "eval", id := 0 } []

/-- A file with a call of `eval`, before and after a line was put in front of it. -/
def evalRevisions : List Revision :=
  [{ file := "a.py", language := "python", number := 1, text := "eval(x)\n", changed := [{ start := 1, stop := 2 }],
     base := 0, edit := none, serial := 0 },
   { file := "a.py", language := "python", number := 2, text := "\neval(x)\n", changed := [{ start := 1, stop := 1 }],
     base := 1, edit := none, serial := 1 }]

/-- The digest of the call is taken of the same bytes in both. -/
theorem input_evalRevisions :
    ∀ m ∈ hashedFor evalRevisions, m = RootSource.digestInput 0 "eval(x)".toUTF8 := by
  have input {text : String} {line : Nat}
      (kept : Outline.kept .python text.toList = [(evalCall line).draft])
      (covered : RootSource.branchInput text.toList (evalCall line) =
        RootSource.digestInput 0 "eval(x)".toUTF8) {m : ByteArray}
      (member : m ∈ (Outline.branches .python text.toList).map
        (RootSource.branchInput text.toList)) :
      m = RootSource.digestInput 0 "eval(x)".toUTF8 := by
    have alone : Outline.branches .python text.toList = [evalCall line] := by
      unfold Outline.branches Forest.arrange Forest.ordered
      rw [kept, List.map_singleton, List.mergeSort_singleton, List.map_singleton]
      simp [Forest.build, evalCall, Draft.isError, Branch.draft]
    rw [alone, List.map_singleton, List.mem_singleton] at member
    exact member.trans covered
  intro m member
  obtain ⟨r, rIn, member⟩ := List.mem_flatMap.1 member
  unfold Revision.branches at member
  rcases List.mem_cons.1 rIn with rfl | rIn
  · simp only [Profile.find?_python] at member
    exact input (by decide +kernel : _ = [(evalCall 1).draft]) (by decide +kernel) member
  · rw [List.mem_singleton.1 rIn] at member
    simp only [Profile.find?_python] at member
    exact input (by decide +kernel : _ = [(evalCall 2).draft]) (by decide +kernel) member

/-- The call of `eval` is carried over from the first tree to the second, and what was found in it is
remembered. -/
theorem memory_invisible_eval_moved :
    let tasks : List Task :=
      [.parse (evalRevisions[0]) none none, .detect 0 50 5 5 .pass,
        .parse (evalRevisions[1]) (some 0) none]
    let w := (start 200000 50000).after tasks
    Digest.CollisionFree (hashedFor (tasks.filterMap Task.revision?)) ∧
      ∀ x ∈ w.read, ∃ found, (w.detector.detect (.whole 50 5 5) x.2 (w.parser.arena x.2.arena)).2 = .ok found ∧
        (Detector.standard.detect (.whole 50 5 5) x.2 (w.parser.arena x.2.arena)).2 = .ok found := by
  intro tasks w
  have apart : Digest.CollisionFree (hashedFor evalRevisions) :=
    Digest.CollisionFree.of_same input_evalRevisions
  refine ⟨apart, ?_⟩
  intro x xIn
  obtain ⟨-, same, found, ended⟩ :=
    memory_invisible 200000 50000 tasks apart x xIn 50 5 5 50000 .pass
  exact ⟨found, ended, same found ended⟩

end Workbench

end LiveLint
