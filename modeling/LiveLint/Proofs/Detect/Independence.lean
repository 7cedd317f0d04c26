import LiveLint.Proofs.Detect.Assignment
import LiveLint.Proofs.Detect.Faults
import LiveLint.Proofs.Detect.Finds
import LiveLint.Proofs.Detect.Relocation
import LiveLint.Proofs.Detect.Search
import LiveLint.Proofs.Outcomes

/-!
# Queries do not disturb each other

Queries share a memory, one order of all matches, one count of places, and the search for functions that
makes up the scopes. The memory keeps what is found by kind, so queries that search by root have to have kinds
of their own, and the search for functions is one of them although it is never registered. If no registered
query takes its kind, detection finds of each kind what a detector with only that query finds.
-/

namespace LiveLint

/-- A tree that is looked at under some thresholds. -/
structure Look where
  settings : Settings
  tree : Tree
  arena : Arena

def Look.subject (look : Look) : Subject := { tree := look.tree, arena := look.arena }

namespace Query

/-- What a query finds in a root depends on the node alone: wherever it looks at one node of an arena, in one
language and under the same thresholds, it finds the same, moved with the root. -/
def LocalAmong (looks : List Look) (q : Query) : Prop :=
  ∀ find, q.search = .inRoot find → ∀ l ∈ looks, ∀ l' ∈ looks, l.tree.arena = l'.tree.arena →
    l.tree.language = l'.tree.language → l.settings.key = l'.settings.key →
    ∀ root ∈ l.tree.roots, ∀ root' ∈ l'.tree.roots, root.index = root'.index →
      find l'.settings l'.subject root' =
        (find l.settings l.subject root).map (·.shifted ((root'.line : Int) - root.line))

/-- In a single tree whose roots are nodes of their own there is nothing to depend on but the node. -/
theorem LocalAmong.of_distinct {look : Look} (distinct : (look.tree.roots.map (·.index)).Nodup) (q : Query) :
    q.LocalAmong [look] := by
  intro find _ l member l' member' _ _ _ root rootIn root' rootIn' index
  cases List.mem_singleton.1 member
  cases List.mem_singleton.1 member'
  cases List.inj_on_of_nodup_map distinct rootIn rootIn' index
  rw [Int.sub_self]
  exact ((List.map_congr_left fun m _ => m.shifted_zero).trans (List.map_id _)).symm

/-- The queries that search by root, and the search for functions, all have kinds of their own. -/
def KindsApart (queries : List Query) : Prop :=
  ∀ q ∈ functionSpans :: queries, ∀ q' ∈ functionSpans :: queries, ∀ find find',
    q.search = .inRoot find → q'.search = .inRoot find' → q.kind = q'.kind → q = q'

theorem KindsApart.of_nodup {queries : List Query} (nodup : (queries.map (·.kind)).Nodup)
    (apart : ∀ q ∈ queries, ∀ find, q.search = .inRoot find → q.kind ≠ functionSpans.kind) :
    KindsApart queries := by
  intro q member q' member' find find' search search' kind
  rcases List.mem_cons.1 member with rfl | among <;> rcases List.mem_cons.1 member' with rfl | among'
  · rfl
  · exact absurd kind.symm (apart q' among' find' search')
  · exact absurd kind (apart q among find search)
  · exact List.inj_on_of_nodup_map nodup among among' kind

theorem KindsApart.only {queries : List Query} (apart : KindsApart queries) {q : Query}
    (member : q ∈ queries) : KindsApart [q] := by
  have among : ∀ q' ∈ [functionSpans, q], q' ∈ functionSpans :: queries := by
    intro q' found
    rcases List.mem_cons.1 found with rfl | found
    · exact List.mem_cons_self ..
    · exact List.mem_cons_of_mem _ (List.mem_singleton.1 found ▸ member)
  exact fun q' member q'' member' => apart q' (among q' member) q'' (among q'' member')

end Query

namespace Detector

/-- Whatever is remembered is what a query found in a root of a tree that was looked at. -/
def Remembers (queries : List Query) (looks : List Look) (d : Detector) : Prop :=
  ∀ (arena : Nat) (key : MemoKey) (found : Finds), (d.resultsOf arena)[key]? = some found →
    ∃ q ∈ Query.functionSpans :: queries, ∃ find, q.search = .inRoot find ∧
      ∃ l ∈ looks, l.tree.arena = arena ∧ ∃ root ∈ l.tree.roots,
        key = ⟨root.index, q.kind, l.tree.language, l.settings.key⟩ ∧
          found = (root.line, find l.settings l.subject root)

/-- A new detector remembers nothing. -/
theorem Remembers.of_new (queries : List Query) (looks : List Look) {d : Detector} (new : d.memo = ∅) :
    d.Remembers queries looks := by
  intro arena key found remembered
  unfold resultsOf at remembered
  rw [new, Std.HashMap.getD_empty, Std.HashMap.getElem?_empty] at remembered
  cases remembered

/-- If queries look at nodes alone and have kinds of their own, what is remembered is what they find. -/
theorem Remembers.faithful {queries : List Query} {looks : List Look} (apart : Query.KindsApart queries)
    (nodeLocal : ∀ q ∈ Query.functionSpans :: queries, q.LocalAmong looks) {look : Look}
    (looked_at : look ∈ looks) :
    Faithful (Remembers queries looks) look.settings look.subject (Query.functionSpans :: queries) := by
  intro d remembers q member find search root rootIn _
  unfold inRoot
  dsimp only
  split
  · next line found remembered =>
    refine ⟨?_, remembers⟩
    obtain ⟨q', member', find', search', l, seen, arena, root', rootIn', key, found_eq⟩ :=
      remembers _ _ _ remembered
    rw [MemoKey.mk.injEq] at key
    obtain ⟨index, kind, language, settings⟩ := key
    cases apart q member q' member' find find' search search' kind
    cases search.symm.trans search'
    cases found_eq
    exact (nodeLocal q member find search l seen look looked_at arena language.symm settings.symm root'
      rootIn' root rootIn index.symm).symm
  · refine ⟨rfl, ?_⟩
    intro arena key found remembered
    rcases mem_remember remembered with ⟨rfl, rfl, rfl⟩ | before
    · exact ⟨q, member, find, search, look, looked_at, rfl, root, rootIn, rfl, rfl⟩
    · exact remembers arena key found before

def answer (d : Detector) (look : Look) : Except Fault (List Occurrence) :=
  (d.detect look.settings look.tree look.arena).2

def after (d : Detector) (looks : List Look) : Detector :=
  looks.foldl (fun d look => (d.detect look.settings look.tree look.arena).1) d

/-- A new detector answers what searching every root answers, whatever it looked at before. -/
theorem answer_after {d : Detector} (new : d.memo = ∅) {looks history : List Look}
    (apart : Query.KindsApart d.queries)
    (nodeLocal : ∀ q ∈ Query.functionSpans :: d.queries, q.LocalAmong looks)
    (past : ∀ look ∈ history, look ∈ looks) {look : Look} (looked_at : look ∈ looks) :
    (d.after history).answer look =
      Query.occurrencesBy d.queries look.settings look.subject .pass := by
  have faithful {d' : Detector} (same : d'.queries = d.queries) {l : Look} (seen : l ∈ looks) :
      Faithful (Remembers d.queries looks) l.settings { tree := l.tree, arena := l.arena }
        (Query.functionSpans :: d'.queries) := by
    rw [same]
    exact Remembers.faithful apart nodeLocal seen
  have kept : ∀ {history : List Look} {d' : Detector}, (∀ l ∈ history, l ∈ looks) →
      d'.queries = d.queries → d'.Remembers d.queries looks →
      (d'.after history).queries = d.queries ∧ (d'.after history).Remembers d.queries looks := by
    intro history
    induction history with
    | nil => exact fun _ same remembers => ⟨same, remembers⟩
    | cons l rest ih =>
      intro d' past same remembers
      refine ih (fun l member => past l (List.mem_cons_of_mem _ member)) ?_ ?_
      · exact (d'.queries_detect _ _ _ _).trans same
      · exact ((faithful same (past l (List.mem_cons_self ..))).detect_eq remembers .pass).2
  obtain ⟨same, remembers⟩ := kept past rfl (Remembers.of_new d.queries looks new)
  have answered := ((faithful same looked_at).detect_eq remembers .pass).1
  rw [same] at answered
  exact answered

/-- In a tree whose roots are nodes of their own a new detector answers what searching every root answers. -/
theorem detect_of_new {d : Detector} (new : d.memo = ∅) (apart : Query.KindsApart d.queries)
    (settings : Settings) {tree : Tree} (distinct : (tree.roots.map (·.index)).Nodup) (arena : Arena) :
    (d.detect settings tree arena).2 =
      Query.occurrencesBy d.queries settings { tree, arena } .pass := by
  let look : Look := ⟨settings, tree, arena⟩
  have past : ∀ before ∈ ([] : List Look), before ∈ [look] := fun _ member => nomatch member
  exact answer_after new apart (fun q _ => Query.LocalAmong.of_distinct distinct q) past (List.mem_singleton_self look)

/-- Queries that were registered are kept in order, and each kind was registered once. -/
theorem foldlM_register {queries : List Query} {d d' : Detector}
    (registered : queries.foldlM register d = .ok d') (nodup : (d.queries.map (·.kind)).Nodup) :
    d' = { d with queries := d.queries ++ queries } ∧ (d'.queries.map (·.kind)).Nodup := by
  induction queries generalizing d with
  | nil =>
    cases registered
    rw [List.append_nil]
    exact ⟨rfl, nodup⟩
  | cons q rest ih =>
    rw [List.foldlM_cons, bind_eq_ok_iff] at registered
    obtain ⟨more, first, others⟩ := registered
    unfold register at first
    split at first
    · cases first
    · next fresh =>
      cases first
      rw [List.any_eq_true] at fresh
      have added : ((d.queries ++ [q]).map (·.kind)).Nodup := by
        rw [List.map_append, List.map_singleton, List.nodup_append]
        refine ⟨nodup, List.nodup_singleton _, ?_⟩
        rintro kind among _ (_ | ⟨_, ⟨⟩⟩) rfl
        obtain ⟨q', member, same⟩ := List.mem_map.1 among
        exact fresh ⟨q', member, beq_iff_eq.2 same⟩
      obtain ⟨same, all⟩ := ih others added
      rw [same, List.append_assoc, List.singleton_append]
      rw [same, List.append_assoc, List.singleton_append] at all
      exact ⟨rfl, all⟩

theorem ofQueries_ok {queries : List Query} {limit : Int} {d : Detector}
    (registered : ofQueries queries limit = .ok d) :
    d = { queries, memoLimit := limit } ∧ (queries.map (·.kind)).Nodup := by
  obtain ⟨rfl, nodup⟩ := foldlM_register registered List.nodup_nil
  exact ⟨rfl, nodup⟩

end Detector

namespace Query

/-- What a query finds in a tree, nothing if it does not apply to its language. -/
def foundIn (settings : Settings) (s : Subject) (q : Query) : Except Fault (List Match) :=
  if q.appliesTo s.tree.language then q.findIn settings s else .ok []

theorem findAll_cons (settings : Settings) (s : Subject) (q : Query) (rest : List Query) (asked : Nat) :
    ∃ asked', findAll settings s .pass (q :: rest) asked =
      (do
        let here ← q.foundIn settings s
        let there ← findAll settings s .pass rest asked'
        .ok (here ++ there)) := by
  unfold foundIn
  rw [findAll]
  split
  · refine ⟨asked + 1, ?_⟩
    cases q.findIn settings s with
    | error fault => rfl
    | ok here =>
      show (findAll settings s .pass rest (asked + 1)).map (here ++ ·) = _
      cases findAll settings s .pass rest (asked + 1) <;> rfl
  · refine ⟨asked, ?_⟩
    cases findAll settings s .pass rest asked <;> rfl

/-- What is found in all is found in one query after the other. -/
theorem findAll_cons_ok_iff {settings : Settings} {s : Subject} {q : Query} {rest : List Query}
    {asked : Nat} {found : List Match} :
    findAll settings s .pass (q :: rest) asked = .ok found ↔
      ∃ here there, q.foundIn settings s = .ok here ∧ findAll settings s .pass rest 0 = .ok there ∧
        here ++ there = found := by
  obtain ⟨asked', unfolded⟩ := findAll_cons settings s q rest asked
  rw [unfolded]
  simp only [bind_eq_ok_iff, Except.ok.injEq]
  constructor
  · rintro ⟨here, first, there, others, rfl⟩
    exact ⟨here, there, first, findAll_of_ok others, rfl⟩
  · rintro ⟨here, there, first, others, rfl⟩
    exact ⟨here, first, there, findAll_of_ok others, rfl⟩

theorem findAll_only (settings : Settings) (s : Subject) (q : Query) (asked : Nat) :
    findAll settings s .pass [q] asked = q.foundIn settings s := by
  obtain ⟨asked', unfolded⟩ := findAll_cons settings s q [] asked
  rw [unfolded]
  cases q.foundIn settings s with
  | error fault => rfl
  | ok here => exact congrArg Except.ok (List.append_nil here)

/-- All queries come to an end if each of them does. -/
theorem exists_findAll_iff {settings : Settings} {s : Subject} {queries : List Query} {asked : Nat} :
    (∃ found, findAll settings s .pass queries asked = .ok found) ↔
      ∀ q ∈ queries, ∃ found, q.foundIn settings s = .ok found := by
  induction queries generalizing asked with
  | nil => exact ⟨fun _ _ member => (nomatch member), fun _ => ⟨[], rfl⟩⟩
  | cons q rest ih =>
    rw [List.forall_mem_cons, ← @ih 0]
    simp only [findAll_cons_ok_iff]
    constructor
    · rintro ⟨found, here, there, first, others, -⟩
      exact ⟨⟨here, first⟩, there, others⟩
    · rintro ⟨⟨here, first⟩, there, others⟩
      exact ⟨_, here, there, first, others, rfl⟩

theorem ReportsOwnKind.of_foundIn {q : Query} (ownKind : q.ReportsOwnKind) {settings : Settings}
    {s : Subject} {found : List Match} (ended : q.foundIn settings s = .ok found) :
    ∀ m ∈ found, m.kind = q.kind := by
  unfold foundIn at ended
  split at ended
  · exact ownKind settings s found ended
  · cases ended
    exact fun _ member => nomatch member

/-- Of all that is found, what has the kind of a query is what that query finds. -/
theorem filter_findAll {settings : Settings} {s : Subject} {queries : List Query} {asked : Nat}
    {found : List Match} (ownKind : ∀ q ∈ queries, q.ReportsOwnKind)
    (nodup : (queries.map (·.kind)).Nodup)
    (ended : findAll settings s .pass queries asked = .ok found) :
    (∀ m ∈ found, ∃ q ∈ queries, m.kind = q.kind) ∧
      ∀ q ∈ queries, q.foundIn settings s = .ok (found.filter (·.kind == q.kind)) := by
  induction queries generalizing asked found with
  | nil =>
    cases ended
    exact ⟨fun _ member => (nomatch member), fun _ member => (nomatch member)⟩
  | cons q rest ih =>
    obtain ⟨here, there, first, others, rfl⟩ := findAll_cons_ok_iff.1 ended
    rw [List.map_cons, List.nodup_cons] at nodup
    obtain ⟨kinds, each⟩ := ih (fun q member => ownKind q (List.mem_cons_of_mem _ member)) nodup.2 others
    have own := (ownKind q (List.mem_cons_self ..)).of_foundIn first
    constructor
    · intro m member
      rcases List.mem_append.1 member with among | among
      · exact ⟨q, List.mem_cons_self .., own m among⟩
      · obtain ⟨q', among', same⟩ := kinds m among
        exact ⟨q', List.mem_cons_of_mem _ among', same⟩
    · rw [List.forall_mem_cons]
      constructor
      · rw [first, List.filter_append, List.filter_eq_self.2 fun m among => beq_iff_eq.2 (own m among),
          List.filter_eq_nil_iff.2, List.append_nil]
        intro m among same
        obtain ⟨q', among', same'⟩ := kinds m among
        exact nodup.1 (List.mem_map.2 ⟨q', among', same'.symm.trans (eq_of_beq same)⟩)
      · intro q' among'
        have none : here.filter (·.kind == q'.kind) = [] := by
          rw [List.filter_eq_nil_iff]
          intro m among same
          exact nodup.1 (List.mem_map.2 ⟨q', among', (eq_of_beq same).symm.trans (own m among)⟩)
        rw [each q' among', List.filter_append, none, List.nil_append]

/-- In a tree that is searched at all, whatever the queries find gets its identities in one way. -/
theorem occurrencesBy_eq (settings : Settings) {s : Subject}
    (searched : ¬(s.tree.limited || s.tree.roots.isEmpty) = true) :
    ∃ functions, ∀ queries, occurrencesBy queries settings s .pass =
      (findAll settings s .pass queries 0).map
        fun found => Identity.assign s.tree.file s.tree.language s.lines found functions := by
  obtain ⟨functions, named⟩ := functions_named settings s
  refine ⟨functions, ?_⟩
  intro queries
  unfold occurrencesBy
  rw [if_neg searched, named]
  cases findAll settings s .pass queries 0 <;> rfl

/-- If the number of repeated lines is whole, known queries come to an end. -/
theorem occurrencesBy_pass {queries : List Query} (all_known : ∀ query ∈ queries, query ∈ known)
    {settings : Settings} {n : Int} (whole : settings.duplicateMinLines.whole? = some n) (s : Subject) :
    ∃ found, occurrencesBy queries settings s .pass = .ok found := by
  by_cases searched : (s.tree.limited || s.tree.roots.isEmpty) = true
  · exact ⟨[], if_pos searched⟩
  · obtain ⟨functions, same⟩ := occurrencesBy_eq settings searched
    obtain ⟨found, ended⟩ := findAll_pass all_known whole s 0
    exact ⟨_, by rw [same, ended]; rfl⟩

end Query

namespace Detector

/-- What is answered with some queries together, and with each of them alone: together they come to an end if
each does, and then the occurrences of each kind are those that are answered alone. -/
structure Independent (queries : List Query) (together : Except Fault (List Occurrence))
    (alone : Query → Except Fault (List Occurrence)) : Prop where
  ends_iff : (∃ found, together = .ok found) ↔ ∀ q ∈ queries, ∃ found, alone q = .ok found
  kinds : ∀ found, together = .ok found → ∀ o ∈ found, ∃ q ∈ queries, o.kind = q.kind
  each : ∀ found, together = .ok found → ∀ q ∈ queries, alone q = .ok (found.filter (·.kind == q.kind))

/-- Searching every root, no query disturbs another. -/
theorem Independent.of_search {queries : List Query} (ownKind : ∀ q ∈ queries, q.ReportsOwnKind)
    (nodup : (queries.map (·.kind)).Nodup) (settings : Settings) (s : Subject) :
    Independent queries (Query.occurrencesBy queries settings s .pass)
      fun q => Query.occurrencesBy [q] settings s .pass := by
  by_cases empty : (s.tree.limited || s.tree.roots.isEmpty) = true
  · have none : ∀ queries, Query.occurrencesBy queries settings s .pass = .ok [] := by
      intro queries
      unfold Query.occurrencesBy
      rw [if_pos empty]
    simp only [none]
    refine ⟨⟨fun _ _ _ => ⟨[], rfl⟩, fun _ => ⟨[], rfl⟩⟩, ?_, ?_⟩
    · rintro _ ⟨⟩ o member
      cases member
    · rintro _ ⟨⟩ q member
      rfl
  · obtain ⟨functions, same⟩ := Query.occurrencesBy_eq settings empty
    simp only [same, Query.findAll_only]
    refine ⟨?_, ?_, ?_⟩
    · simp only [map_eq_ok_iff]
      constructor
      · rintro ⟨_, found, ended, rfl⟩ q member
        obtain ⟨ms, alone⟩ := Query.exists_findAll_iff.1 ⟨found, ended⟩ q member
        exact ⟨_, ms, alone, rfl⟩
      · intro each
        obtain ⟨found, ended⟩ := Query.exists_findAll_iff.2 fun q member =>
          let ⟨_, ms, alone, _⟩ := each q member
          ⟨ms, alone⟩
        exact ⟨_, found, ended, rfl⟩
    · intro all together o member
      obtain ⟨found, ended, rfl⟩ := map_eq_ok_iff.1 together
      obtain ⟨m, among, kind, -⟩ := Identity.exists_match_of_mem_assign member
      obtain ⟨q, asked, same⟩ := (Query.filter_findAll ownKind nodup ended).1 m among
      exact ⟨q, asked, kind.trans same⟩
    · intro all together q member
      obtain ⟨found, ended, rfl⟩ := map_eq_ok_iff.1 together
      rw [(Query.filter_findAll ownKind nodup ended).2 q member, Identity.filter_assign]
      rfl

def only (q : Query) (limit : Int) : Detector := { queries := [q], memoLimit := limit }

/-- No query disturbs another: a detector that some queries were registered with answers in any tree, also
after it looked at others, as the detectors do that only one of the queries was registered with. Queries
report their own kind and look at nodes alone, and none that searches by root takes the kind of the search
for functions. -/
theorem queries_independent {queries : List Query} {limit : Int} {d : Detector}
    (registered : ofQueries queries limit = .ok d) (limits : Query → Int) (history : List Look)
    (look : Look) (ownKind : ∀ q ∈ queries, q.ReportsOwnKind)
    (nodeLocal : ∀ q ∈ Query.functionSpans :: queries, q.LocalAmong (history ++ [look]))
    (apart : ∀ q ∈ queries, ∀ find, q.search = .inRoot find → q.kind ≠ Query.functionSpans.kind) :
    Independent queries ((d.after history).answer look)
      fun q => ((only q (limits q)).after history).answer look := by
  obtain ⟨rfl, nodup⟩ := ofQueries_ok registered
  have kindsApart := Query.KindsApart.of_nodup nodup apart
  have past : ∀ l ∈ history, l ∈ history ++ [look] := fun l member => List.mem_append_left _ member
  have now : look ∈ history ++ [look] := List.mem_append_right _ (List.mem_singleton.2 rfl)
  have searched := Independent.of_search ownKind nodup look.settings look.subject
  have together := answer_after (d := { queries, memoLimit := limit }) rfl kindsApart nodeLocal past now
  have alone : ∀ q ∈ queries, ((only q (limits q)).after history).answer look =
      Query.occurrencesBy [q] look.settings look.subject .pass := by
    intro q member
    refine answer_after (d := only q (limits q)) rfl (kindsApart.only member) ?_ past now
    intro q' among
    refine nodeLocal q' ?_
    rcases List.mem_cons.1 among with rfl | among
    · exact List.mem_cons_self ..
    · exact List.mem_cons_of_mem _ (List.mem_singleton.1 among ▸ member)
  rw [together]
  refine ⟨searched.ends_iff.trans ?_, searched.kinds, ?_⟩
  · exact forall₂_congr fun q member => by rw [alone q member]
  · intro found ended q member
    rw [alone q member]
    exact searched.each found ended q member

/-- A function with a number in it. -/
def numberInFunction : Look where
  settings := .whole 50 5 5
  tree :=
    { file := "a", language := "python", revision := 1, source := "def g(x):\n  return x * 42\n", arena := 0,
      roots := [{ index := 1, line := 1, digest := "" }] }
  arena :=
    ⟨#[{ kind := .number, type := "number", startLine := 1, startCol := 13, endLine := 1, endCol := 15,
          value := "42" },
      { kind := .function, type := "function", startLine := 0, startCol := 0, endLine := 1, endCol := 15,
          children := [0], name := "g" }]⟩

/-- A query for the functions of one name does not disturb the built-in ones. -/
theorem queries_independent_functions_named :
    let queries := Query.builtIn ++ [Query.functionsNamed "generated-function" "g"]
    ∃ d, ofQueries queries = .ok d ∧
      Independent queries (d.answer numberInFunction)
        fun q => (only q 50000).answer numberInFunction := by
  intro queries
  refine ⟨{ queries }, rfl, ?_⟩
  have distinct : (numberInFunction.tree.roots.map (·.index)).Nodup := List.nodup_singleton 1
  refine queries_independent (d := { queries }) rfl (fun _ => 50000) [] numberInFunction ?_
    (fun q _ => Query.LocalAmong.of_distinct distinct q) ?_
  · exact List.forall_mem_append.2 ⟨Query.builtIn_reportsOwnKind, List.forall_mem_singleton.2
      (Query.functionsNamed_reportsOwnKind _ _)⟩
  · have kinds : ∀ q ∈ queries, q.kind ≠ Query.functionSpans.kind := by decide
    exact fun q member _ _ => kinds q member

end Detector

end LiveLint
