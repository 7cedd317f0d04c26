import LiveLint.Proofs.Engine.Histories
import LiveLint.Proofs.Engine.SingleCalls
import LiveLint.Proofs.Notice.Accounts

/-!
# An analysis that is repeated

When all calls are over, an analysis of a text comes to its end and its result can be told: which tree is
searched, which issues are found in it, and what is kept of it. The same analysis again finds the revision,
the tree and the limits as the first one left them, so it answers the same and leaves the revisions and the
trees as they are.
-/

namespace LiveLint

/-- To set a key to the value it has changes nothing. -/
theorem Table.set_of_get? {κ ν : Type} [BEq κ] [LawfulBEq κ] {t : Table κ ν} {key : κ} {value : ν}
    (found : t.get? key = some value) : t.set key value = t := by
  induction t with
  | nil => cases found
  | cons f rest ih =>
    obtain ⟨k, v⟩ := f
    by_cases same : k = key
    · subst same
      have first : v = value := by simpa [Table.get?, List.lookup_cons] using found
      simp [Table.set, first]
    · have other : (key == k) = false := beq_eq_false_iff_ne.2 (Ne.symm same)
      have behind : Table.get? rest key = some value := by
        simpa [Table.get?, List.lookup_cons, other] using found
      simp [Table.set, same, ih behind]

namespace Tracker

/-- To record the latest text again without ranges changes nothing. -/
theorem record_of_repeats {t : Tracker} {file text language : String} {ranges : Option (List HostRange)}
    {r : Revision} (latest : t.latest.get? file = some r) (again : repeats r text ranges language = true) :
    t.record file text ranges language = (t, r) := by
  unfold record
  rw [latest]
  exact if_pos again

/-- A text that was just recorded is the latest text. -/
theorem repeats_record (t : Tracker) (file text language : String) :
    repeats (t.record file text none language).2 text none language = true := by
  rcases t.record_cases file text none language with ⟨latest, -, again, same⟩ | added
  · rw [same]
    exact again
  · rw [added]
    unfold repeats next
    cases language.isEmpty <;> simp

/-- A revision that was just marked is marked again without a change. -/
theorem markAnalyzed_again (t : Tracker) (r : Revision) :
    ((t.markAnalyzed r).1.markAnalyzed r).1 = (t.markAnalyzed r).1 := by
  have reached : ((t.markAnalyzed r).1.analyzed.get? r.file).any (·.number ≥ r.number) = true := by
    unfold markAnalyzed
    split
    · next before => exact before
    · dsimp only
      rw [Table.get?_set_self]
      exact decide_eq_true (Nat.le_refl _)
  generalize (t.markAnalyzed r).1 = marked at reached
  unfold markAnalyzed
  rw [if_pos reached]

end Tracker

namespace Engine

/-- The cache of a journal has the limits that a configuration asks for. -/
structure Limited (c : Config) (j : Journal) : Prop where
  ttl : j.cache.ttl = c.lifetime.toFloat
  cap : Number.order (c.number .cacheMaxBytes) j.cache.cap.given = some .eq

/-- To apply the limits of the cache changes nothing if it has them. -/
theorem Limited.journal_applyCache {e : Engine} (limited : Limited e.config e.journal) :
    e.applyCache.1.journal = e.journal := by
  unfold applyCache
  dsimp only
  rw [if_pos (by rw [limited.cap]; rfl), ← limited.ttl]

/-- When the limits were applied, the cache has them. -/
theorem limited_applyCache {e : Engine} (typed : e.config.WellTyped) :
    Limited e.config e.applyCache.1.journal := by
  obtain ⟨x, n, -, same, whole⟩ := typed.number .cacheMaxBytes rfl
  have reflexive : Number.order (e.config.number .cacheMaxBytes) (e.config.number .cacheMaxBytes) =
      some .eq := by
    rw [same]
    unfold Number.order
    rw [whole]
    exact congrArg some (Std.ReflCmp.compare_self)
  unfold applyCache
  dsimp only
  split
  · next close => exact ⟨rfl, beq_iff_eq.1 close⟩
  · constructor
    · dsimp only [Journal.apply]
      rw [Journal.cache_commit]
      rfl
    · dsimp only [Journal.apply]
      rw [Journal.cache_commit]
      exact reflexive

def issuesIn (c : Config) (s : Subject) : Except Fault (List Issue) := do
  let found ← Query.occurrences c.settings s .pass
  let issues ← (Classifier.classifyAll {} s.tree.language found).2.1
  select c issues

/-- There are issues to tell for every tree that was made. -/
theorem Intact.exists_issuesIn {e : Engine} {read : List Parsed} (intact : e.Intact read)
    (apart : Digest.CollisionFree (hashedFor (read.map (·.1)))) {c : Config} (standalone : c.Standalone)
    {tree : Tree} (made : ∃ x ∈ read, x.2 = tree) :
    ∃ issues, issuesIn c { tree, arena := e.parser.arena tree.arena } = .ok issues := by
  obtain ⟨x, member, rfl⟩ := made
  obtain ⟨length, parameters, lines, whole⟩ := standalone.thresholds
  obtain ⟨found, ended⟩ := Query.occurrences_pass length parameters lines (e.parser.subject x)
  -- A detector that remembers nothing finds the same, and what it reports can be rated.
  have plain := ((Workbench.recalls_nothing e.parser read 0).detect_eq intact.parser apart member length
    parameters lines .pass).1
  rw [ended, ← whole] at plain
  have rated : ∀ o ∈ found, o.Rated := by
    have keeps : Detector.Keeps { Detector.standard with memoLimit := 0 } := Detector.keeps_standard
    rcases (keeps.detect rfl (Config.settings_sound standalone.typed standalone.within) x.2
      (e.parser.arena x.2.arena) .pass).2 with ⟨n, fault, stopped, -⟩ | ⟨found', same, rated⟩
    · cases stopped
    · cases plain.symm.trans same
      exact rated
  have new : Classifier.Standard {} := ⟨rfl, rfl⟩
  obtain ⟨-, issues, classified⟩ := Classifier.standard_classifyAll new x.2.language rated
  obtain ⟨flags, table⟩ := standalone.typed.flags
  obtain ⟨selected, chosen⟩ := exists_select table issues
  refine ⟨selected, ?_⟩
  unfold issuesIn
  rw [whole]
  exact bind_eq_ok_iff.2 ⟨found, ended, bind_eq_ok_iff.2 ⟨issues, classified, chosen⟩⟩

/-- The tree that is searched for a revision, with the parser afterwards: the tree that is kept, if it is of
this very revision, or else one that is made. -/
def reading (e : Engine) (r : Revision) : Parser × Tree :=
  match e.treeFor? r with
  | some tree => (e.parser, tree)
  | none =>
    let out := e.parser.parse r (e.trees.get? r.file)
    (out.parser, out.tree)

/-- The tree that is searched for a revision is of this very revision. -/
theorem reading_about (e : Engine) (r : Revision) :
    (e.reading r).2.revision = r.number ∧ (e.reading r).2.source = r.text := by
  unfold reading
  cases kept : e.treeFor? r with
  | some tree => simpa using (Option.filter_eq_some_iff.1 kept).2
  | none =>
    have about := e.parser.tree_parse r (e.trees.get? r.file) .nothing none
    dsimp only
    generalize e.parser.parse r (e.trees.get? r.file) .nothing none = out at about ⊢
    exact about

/-- The time at which the tree of a revision is at hand, if it takes some seconds to make one. -/
def readBy (e : Engine) (r : Revision) (clock seconds : Float) : Float :=
  if (e.treeFor? r).isSome then clock else clock + seconds

theorem readBy_of_still (e : Engine) (r : Revision) {clock seconds : Float} (still : clock + seconds = clock) :
    e.readBy r clock seconds = clock := by
  unfold readBy
  rw [still, ite_self]

/-- The engine with a slot for its first call. -/
def admitting (e : Engine) (workspace : String) : Engine :=
  { e with scheduler := (e.scheduler.acquire workspace 0).1 }

def heldUntil (e : Engine) (workspace : String) (clock : Float) : Float :=
  let delay := e.scheduler.debounceSeconds workspace
  if Number.lt 0 delay then clock + delay.toFloat else clock

theorem heldUntil_of_unhurried {e : Engine} {workspace : String}
    (unhurried : Number.lt 0 (e.scheduler.debounceSeconds workspace) = false) (clock : Float) :
    e.heldUntil workspace clock = clock :=
  if_neg (by rw [unhurried]; exact Bool.false_ne_true)

/-- A tree that is kept of a revision is searched again. -/
theorem reading_of_kept {e : Engine} {r : Revision} {tree : Tree} (kept : e.trees.get? r.file = some tree)
    (about : tree.revision = r.number ∧ tree.source = r.text) : e.reading r = (e.parser, tree) := by
  have found : e.treeFor? r = some tree := by
    unfold treeFor?
    rw [kept, Option.filter_some, about.1, about.2, beq_self_eq_true, beq_self_eq_true]
    rfl
  unfold reading
  rw [found]

end Engine

namespace Session

variable {σ : Type} {s : Session σ} {c : Call} {read : List Parsed}

/-- Some property holds of a session after some turns, and however many more it is given. -/
def Leads (s : Session σ) (turns : Nat) (p : Session σ → Prop) : Prop :=
  ∀ fuel, turns ≤ fuel → p (settleWith fuel s)

theorem leads_of_idle {p : Session σ → Prop} {turns : Nat} (idle : s.ready = []) (here : p s) :
    s.Leads turns p := by
  intro fuel _
  cases fuel with
  | zero => exact here
  | succ fuel =>
    unfold settleWith
    rw [idle]
    exact here

theorem leads_of_turn {p : Session σ → Prop} {turns ticket : Nat} {rest : List Nat}
    (turn : s.ready = ticket :: rest) (next : Leads ({ s with ready := rest }.step ticket) turns p) :
    s.Leads (turns + 1) p := by
  intro fuel enough
  cases fuel with
  | zero => exact absurd enough (Nat.not_succ_le_zero _)
  | succ fuel =>
    unfold settleWith
    rw [turn]
    exact next fuel (Nat.le_of_succ_le_succ enough)

/-- The single call of a session works on its file, and nobody waits for its slot. -/
structure Lone (s : Session σ) (c : Call) (ready : List Nat) : Prop where
  calls : s.calls = #[c]
  ready : s.ready = ready
  line : s.lines.get? c.request.file = some [0]
  waiters : (s.engine.scheduler.workspace c.request.workspace).waiters = []
  comparable : s.engine.scheduler.settings.Comparable

/-- An analysis that had its slot for some time has come to its end. Its engine is the one before, but for the
tree that is kept, the revision that counts as analyzed, the slot and what was found. -/
structure Delivers (f : Session σ) (e : Engine) (c : Call) (tree : Tree) (issues : List Issue)
    (began ended : Float) : Prop where
  results : f.results = [.ok (f.outcome c tree issues)]
  revisions : f.revisions = [c.revision]
  closed : f.AllOver
  idle : f.ready = []
  config : f.engine.config = e.config
  parser : f.engine.parser = e.parser
  journal : f.engine.journal = e.journal
  gateway : f.engine.gateway = e.gateway
  tracker : f.engine.tracker = (e.tracker.markAnalyzed c.revision).1
  trees : f.engine.trees = e.trees.set c.request.file tree
  clock : f.clock = ended
  scheduler : f.engine.scheduler = (e.scheduler.release c.request.workspace
    (some (Interval.between (Number.float began) (Number.float ended)))).scheduler

/-- What is reported depends on the connection, the parser, the notices and the time. -/
theorem outcome_congr {s s' : Session σ} {c c' : Call} (request : c'.request = c.request)
    (revision : c'.revision = c.revision) (gateway : s'.engine.gateway = s.engine.gateway)
    (parser : s'.engine.parser = s.engine.parser) (journal : s'.engine.journal = s.engine.journal)
    (clock : s'.clock = s.clock) (tree : Tree) (issues : List Issue) :
    s'.outcome c' tree issues = s.outcome c tree issues := by
  unfold outcome report Engine.isSuppressed
  rw [request, revision, gateway, parser, journal, clock]

/-- A call that came to its end answers in one of three ways. -/
theorem status_outcome (s : Session σ) (c : Call) (tree : Tree) (issues : List Issue) :
    (s.outcome c tree issues).status = .ok ∨ (s.outcome c tree issues).status = .limited ∨
      (s.outcome c tree issues).status = .unparsable := by
  unfold outcome
  split
  · exact Or.inr (Or.inl rfl)
  · split
    · exact Or.inr (Or.inr rfl)
    · exact Or.inl rfl

namespace Lone

theorem goOn (lone : s.Lone c []) (stage : CallStage) : (s.goOn 0 stage).Lone { c with stage } [0] where
  calls := by
    unfold Session.goOn Session.moveTo update wake
    dsimp only
    rw [lone.calls]
    rfl
  ready := by
    unfold Session.goOn Session.moveTo update wake
    dsimp only
    rw [lone.ready]
    rfl
  line := lone.line
  waiters := lone.waiters
  comparable := lone.comparable

/-- A call gives its slot back, and nobody takes it over. -/
theorem publish (lone : s.Lone c []) (current : s.isCurrent c = true) (tree : Tree) (since : Float)
    (issues : List Issue) : (s.publish 0 c tree since issues).Delivers s.engine c tree issues since s.clock := by
  have known : ∀ x ∈ (s.engine.scheduler.workspace c.request.workspace).waiters, x.ticket.isSome = true := by
    rw [lone.waiters]
    exact nofun
  obtain ⟨w, next, released, passed⟩ := Scheduler.exists_release lone.comparable known
    (some (Interval.between (Number.float since) (Number.float s.clock)))
  have alone : next = none := by
    rw [passed.next]
    unfold Workspace.waiting
    rw [lone.waiters]
    rfl
  subst alone
  unfold Session.publish
  rw [if_neg (by rw [current]; exact Bool.false_ne_true)]
  unfold Session.leave
  dsimp only
  rw [released]
  dsimp only [Option.map_none, Option.getD_none]
  unfold Session.leaveLine
  dsimp only
  rw [lone.line]
  dsimp only
  unfold Session.moveTo update
  have calls (stage : CallStage) : s.calls.modify 0 ({ · with stage }) = #[{ c with stage }] := by
    rw [lone.calls]
    rfl
  rw [calls]
  constructor
  case results => rfl
  case revisions => rfl
  case closed =>
    intro c' member
    rw [Array.mem_singleton.1 member]
    rfl
  case idle => exact lone.ready
  case scheduler =>
    rw [released]
  all_goals rfl

/-- Without a remote service the issues are settled as they are. -/
theorem submit (lone : s.Lone c []) (current : s.isCurrent c = true)
    (offline : s.engine.gateway.client = none) (tree : Tree) (since : Float) (issues : List Issue) :
    (s.submit 0 c tree since issues).Delivers s.engine c tree issues since s.clock := by
  have settled : Refinement.start s.engine.gateway (.float s.clock) issues =
      (s.engine.gateway, .settled (.ok issues), []) := by
    unfold Refinement.start
    rw [offline]
    rfl
  unfold Session.submit
  rw [settled]
  have same : (Session.log { s with engine := { s.engine with gateway := s.engine.gateway } } []).Lone c
      [] :=
    { lone with }
  exact same.publish current tree since issues

/-- A tree is searched, and the issues in it are told. -/
theorem detect (lone : s.Lone c []) (intact : s.engine.Intact read)
    (apart : Digest.CollisionFree (hashedFor (read.map (·.1)))) (current : s.isCurrent c = true)
    (standalone : c.config.Standalone) {tree : Tree} (made : ∃ x ∈ read, x.2 = tree) (since : Float)
    {issues : List Issue}
    (told : Engine.issuesIn c.config { tree, arena := s.engine.parser.arena tree.arena } = .ok issues) :
    (s.detect 0 c tree since).Delivers s.engine c tree issues since s.clock := by
  obtain ⟨found, ended, told⟩ := bind_eq_ok_iff.1 told
  obtain ⟨all, classified, chosen⟩ := bind_eq_ok_iff.1 told
  have open_door : s.checkpoint c = .pass := funext fun _ => if_pos current
  have answered : (s.engine.detector.detect c.config.settings tree (s.engine.parser.arena tree.arena)
      (s.checkpoint c)).2 = .ok found := by
    obtain ⟨x, member, rfl⟩ := made
    obtain ⟨length, parameters, lines, whole⟩ := standalone.thresholds
    rw [whole] at ended ⊢
    rw [open_door, ← ended]
    exact ((intact.detector apart).detect_eq intact.parser apart member length parameters lines .pass).1
  obtain ⟨rules, same⟩ := intact.rules.classifyAll tree.language found
  rw [classified] at same
  unfold Session.detect Session.search
  dsimp only
  generalize s.engine.detector.detect c.config.settings tree (s.engine.parser.arena tree.arena)
    (s.checkpoint c) = out at answered
  obtain ⟨detector, answer⟩ := out
  dsimp only at answered ⊢
  subst answered
  unfold Session.classify
  dsimp only
  generalize s.engine.classifier.classifyAll tree.language found = out at same
  obtain ⟨classifier, answer, logs⟩ := out
  dsimp only at same ⊢
  subst same
  rw [show (Except.ok all).bind (Engine.select c.config) = .ok issues from chosen]
  have searched : (Session.log { s with engine := { s.engine with detector, classifier } } logs).Lone c
      [] :=
    { lone with }
  have delivers := searched.submit current intact.offline tree since issues
  exact { delivers with }

end Lone

/-- Only the request and the revision of a call count at its end. -/
theorem Delivers.congr {f : Session σ} {e : Engine} {c c' : Call} {tree : Tree} {issues : List Issue}
    {began ended : Float} (delivers : f.Delivers e c' tree issues began ended)
    (request : c'.request = c.request) (revision : c'.revision = c.revision) :
    f.Delivers e c tree issues began ended :=
  { delivers with
    results := by
      rw [delivers.results]
      rw [outcome_congr request revision rfl rfl rfl rfl]
    revisions := revision ▸ delivers.revisions
    tracker := revision ▸ delivers.tracker
    trees := request ▸ delivers.trees
    scheduler := request ▸ delivers.scheduler }

/-- An analysis of the same revision that starts with what another one left ends as it did. -/
theorem Delivers.again {f f' : Session σ} {e e' : Engine} {c c' : Call} {tree : Tree} {issues : List Issue}
    {began ended began' ended' : Float} (delivers : f.Delivers e c tree issues began ended)
    (delivers' : f'.Delivers e' c' tree issues began' ended') (request : c'.request = c.request)
    (revision : c'.revision = c.revision) (tracker : e'.tracker = f.engine.tracker)
    (journal : e'.journal = f.engine.journal) (gateway : e'.gateway = f.engine.gateway)
    (trees : e'.trees = f.engine.trees) (parser : e'.parser = f.engine.parser)
    (clock : f'.clock = f.clock) :
    f'.results = f.results ∧ f'.engine.tracker = f.engine.tracker ∧ f'.engine.trees = f.engine.trees := by
  refine ⟨?_, ?_, ?_⟩
  · rw [delivers'.results, delivers.results]
    exact congrArg (fun result => [Except.ok result]) (outcome_congr request revision
      (delivers'.gateway.trans gateway) (delivers'.parser.trans parser) (delivers'.journal.trans journal) clock
      tree issues)
  · rw [delivers'.tracker, revision, tracker, delivers.tracker]
    exact Tracker.markAnalyzed_again _ _
  · rw [delivers'.trees, request, trees, delivers.trees]
    exact Table.set_of_get? (Table.get?_set_self _ _ _)

/-- The single call of a session is about the latest revision of its file, and no other text of the file comes
in. -/
structure Prepared (s : Session σ) (c : Call) (read : List Parsed) : Prop where
  engine : s.engine.Intact read
  apart : Digest.CollisionFree (hashedFor (read.map (·.1) ++ [c.revision]))
  current : s.isCurrent c = true
  config : c.config.Standalone
  file : c.revision.file = c.request.file
  edit : c.meanwhile.edit = none

namespace Prepared

/-- What was read before has fewer digests. -/
theorem apart_read (prepared : s.Prepared c read) :
    Digest.CollisionFree (hashedFor (read.map (·.1))) :=
  hashedFor_mono (fun _ member => List.mem_append_left _ member) prepared.apart

/-- The tree that is searched was made. -/
theorem leads_detecting (prepared : s.Prepared c read) (lone : s.Lone c []) {tree : Tree}
    (made : ∃ x ∈ read, x.2 = tree) (since : Float) {issues : List Issue}
    (told : Engine.issuesIn c.config { tree, arena := s.engine.parser.arena tree.arena } = .ok issues) :
    (s.goOn 0 (.detecting tree since)).Leads 1
      (·.Delivers s.engine c tree issues since s.clock) := by
  have works := lone.goOn (.detecting tree since)
  refine leads_of_turn works.ready ?_
  have taken : ({ s.goOn 0 (.detecting tree since) with ready := [] } : Session σ).Lone
      { c with stage := .detecting tree since } [] :=
    { works with ready := rfl }
  unfold Session.step
  rw [show ({ s.goOn 0 (.detecting tree since) with ready := [] } : Session σ).calls[0]? =
    some { c with stage := .detecting tree since } by rw [taken.calls]; rfl]
  have delivers := taken.detect prepared.engine prepared.apart_read prepared.current prepared.config made
    since told
  exact leads_of_idle delivers.idle (delivers.congr rfl rfl)

end Prepared

/-- The single call of a session comes to its end within some turns, with the tree that is searched for its
revision and the issues in it. -/
structure Analyzes (s : Session σ) (e : Engine) (c : Call) (began : Float) (turns : Nat) : Prop where
  single : s.calls.size = 1
  delivers : ∃ issues, Engine.issuesIn c.config
      { tree := (e.reading c.revision).2,
        arena := (e.reading c.revision).1.arena (e.reading c.revision).2.arena } = .ok issues ∧
    s.Leads turns
      (·.Delivers { e with parser := (e.reading c.revision).1 } c (e.reading c.revision).2 issues began
        (e.readBy c.revision began c.meanwhile.seconds))

theorem Leads.mono {p : Session σ → Prop} {few many : Nat} (leads : s.Leads few p) (le : few ≤ many) :
    s.Leads many p :=
  fun fuel enough => leads fuel (Nat.le_trans le enough)

theorem Lone.size_goOn (lone : s.Lone c []) (stage : CallStage) : (s.goOn 0 stage).calls.size = 1 := by
  rw [(lone.goOn stage).calls]
  rfl

namespace Prepared

/-- The revision is read, and then its tree is searched. -/
theorem parse (prepared : s.Prepared c read) (lone : s.Lone c []) (since : Float) {out : Parser.Outcome}
    (parsed : s.engine.parser.parse c.revision (s.engine.trees.get? c.request.file) = out) :
    ∃ issues, Engine.issuesIn c.config
        { tree := out.tree, arena := out.parser.arena out.tree.arena } = .ok issues ∧
      (s.parse 0 c since).Leads 1
        (·.Delivers { s.engine with parser := out.parser } c out.tree issues since
          (s.clock + c.meanwhile.seconds)) := by
  have intact := prepared.engine.parse parsed
  have made : ∃ x ∈ read ++ [(c.revision, out.tree)], x.2 = out.tree :=
    ⟨_, List.mem_append_right _ List.mem_cons_self, rfl⟩
  have digests : (read ++ [(c.revision, out.tree)]).map (·.1) = read.map (·.1) ++ [c.revision] :=
    List.map_append
  have apart : Digest.CollisionFree (hashedFor ((read ++ [(c.revision, out.tree)]).map (·.1))) :=
    digests ▸ prepared.apart
  obtain ⟨issues, told⟩ := intact.exists_issuesIn apart prepared.config made
  refine ⟨issues, told, ?_⟩
  have quiet : c.meanwhile.recordIn s.engine.tracker c.request.file = s.engine.tracker := by
    unfold Meanwhile.recordIn
    rw [prepared.edit]
  unfold Session.parse
  dsimp only
  rw [quiet, parsed]
  generalize later : Session.log _ out.logs = s₁
  have lone₁ : s₁.Lone c [] := by
    rw [← later]
    exact { lone with }
  have engine : s₁.engine = { s.engine with parser := out.parser } := by
    rw [← later]
    rfl
  have prepared₁ : s₁.Prepared c (read ++ [(c.revision, out.tree)]) :=
    { prepared with
      engine := engine ▸ intact
      apart := by
        refine hashedFor_mono (fun r member => ?_) prepared.apart
        rw [digests] at member
        rcases List.mem_append.1 member with before | new
        · exact before
        · exact List.mem_append_right _ new
      current := by
        rw [← later]
        exact prepared.current }
  have clock : s₁.clock = s.clock + c.meanwhile.seconds := by
    rw [← later]
    rfl
  rw [if_pos prepared₁.current]
  rw [← engine, ← clock]
  exact prepared₁.leads_detecting lone₁ made since (engine ▸ told)

/-- A revision is read in one turn, and its tree is searched in another one. -/
theorem leads_parsing (prepared : s.Prepared c read) (lone : s.Lone c []) (since : Float)
    {out : Parser.Outcome}
    (parsed : s.engine.parser.parse c.revision (s.engine.trees.get? c.request.file) = out) :
    ∃ issues, Engine.issuesIn c.config
        { tree := out.tree, arena := out.parser.arena out.tree.arena } = .ok issues ∧
      (s.goOn 0 (.parsing since)).Leads 2
        (·.Delivers { s.engine with parser := out.parser } c out.tree issues since
          (s.clock + c.meanwhile.seconds)) := by
  have works := lone.goOn (.parsing since)
  have taken : ({ s.goOn 0 (.parsing since) with ready := [] } : Session σ).Lone
      { c with stage := .parsing since } [] :=
    { works with ready := rfl }
  have prepared₁ : ({ s.goOn 0 (.parsing since) with ready := [] } : Session σ).Prepared
      { c with stage := .parsing since } read :=
    { prepared with }
  obtain ⟨issues, told, leads⟩ := prepared₁.parse taken since parsed
  refine ⟨issues, told, leads_of_turn works.ready ?_⟩
  unfold Session.step
  rw [show ({ s.goOn 0 (.parsing since) with ready := [] } : Session σ).calls[0]? =
    some { c with stage := .parsing since } by rw [taken.calls]; rfl]
  exact fun fuel enough => (leads fuel enough).congr rfl rfl

/-- A call that has a slot goes on with the tree that is kept, or is parsed. -/
theorem enterSlot (prepared : s.Prepared c read) (lone : s.Lone c []) :
    (s.enterSlot 0 c).Analyzes s.engine c s.clock 2 := by
  unfold Session.enterSlot
  dsimp only
  cases kept : s.engine.treeFor? c.revision with
  | some tree =>
    have found : s.engine.reading c.revision = (s.engine.parser, tree) := by
      unfold Engine.reading
      rw [kept]
    have made : ∃ x ∈ read, x.2 = tree :=
      prepared.engine.trees c.revision.file tree (Option.filter_eq_some_iff.1 kept).1
    obtain ⟨issues, told⟩ :=
      prepared.engine.exists_issuesIn prepared.apart_read prepared.config made
    dsimp only
    rw [if_pos prepared.current]
    refine ⟨lone.size_goOn _, issues, ?_, ?_⟩
    · rw [found]
      exact told
    · have at_hand : s.engine.readBy c.revision s.clock c.meanwhile.seconds = s.clock := by
        unfold Engine.readBy
        rw [kept]
        rfl
      rw [found, at_hand]
      exact (prepared.leads_detecting lone made s.clock told).mono (by decide)
  | none =>
    generalize parsed : s.engine.parser.parse c.revision (s.engine.trees.get? c.request.file) = out
    have found : s.engine.reading c.revision = (out.parser, out.tree) := by
      unfold Engine.reading
      rw [kept]
      dsimp only
      rw [prepared.file, parsed]
    obtain ⟨issues, told, leads⟩ := prepared.leads_parsing lone s.clock parsed
    refine ⟨lone.size_goOn _, issues, ?_, ?_⟩
    · rw [found]
      exact told
    · have at_hand : s.engine.readBy c.revision s.clock c.meanwhile.seconds =
          s.clock + c.meanwhile.seconds := by
        unfold Engine.readBy
        rw [kept]
        rfl
      rw [found, at_hand]
      exact leads

/-- A call gets a slot if one is free. -/
theorem enterFile (prepared : s.Prepared c read) (lone : s.Lone c [])
    (idle : (s.engine.scheduler.workspace c.request.workspace).running = 0) :
    (s.enterFile 0 c).Analyzes (s.engine.admitting c.request.workspace) c s.clock 2 := by
  obtain ⟨most, bounded⟩ := prepared.engine.measured.limits
  have granted := Scheduler.acquire_of_free lone.comparable (idle ▸ bounded.slots) lone.waiters 0
  have measured := prepared.engine.measured.acquire c.request.workspace 0
  unfold Session.enterFile Engine.admitting
  rw [granted] at measured ⊢
  rw [if_neg (by rw [prepared.current]; exact Bool.false_ne_true)]
  dsimp only at measured ⊢
  generalize busy : s.engine.scheduler.set c.request.workspace _ = scheduler at measured ⊢
  have lone₁ : ({ s with engine := { s.engine with scheduler } } : Session σ).Lone c [] := by
    refine { lone with waiters := ?_, comparable := measured.comparable }
    subst busy
    dsimp only
    rw [Scheduler.workspace_set_self]
    exact lone.waiters
  have prepared₁ : ({ s with engine := { s.engine with scheduler } } : Session σ).Prepared c read :=
    { prepared with engine := prepared.engine.schedule measured }
  exact prepared₁.enterSlot lone₁

/-- A call joins the line of its file, in which nobody is. -/
theorem joinLine (prepared : s.Prepared c read) (calls : s.calls = #[c]) (ready : s.ready = [])
    (lines : s.lines = [])
    (free : (s.engine.scheduler.workspace c.request.workspace).waiters = [] ∧
      (s.engine.scheduler.workspace c.request.workspace).running = 0) :
    (s.joinLine 0 c).Analyzes (s.engine.admitting c.request.workspace) c s.clock 2 := by
  unfold Session.joinLine
  rw [lines]
  change Analyzes (Session.enterFile { s with lines := Table.set c.request.file [0] [] } 0 c) _ c s.clock 2
  have lone : ({ s with lines := Table.set c.request.file [0] [] } : Session σ).Lone c [] :=
    ⟨calls, ready, Table.get?_set_self [] c.request.file [0], free.1,
      prepared.engine.measured.comparable⟩
  have prepared₁ : ({ s with lines := Table.set c.request.file [0] [] } : Session σ).Prepared c read :=
    { prepared with }
  exact prepared₁.enterFile lone free.2

/-- A call that was held back joins the line of its file in a turn of its own. -/
theorem afterPause (prepared : ({ s with ready := [] } : Session σ).Prepared c read) (turn : s.ready = [0])
    (calls : s.calls = #[c]) (stage : c.stage = .heldBack) (lines : s.lines = [])
    (free : (s.engine.scheduler.workspace c.request.workspace).waiters = [] ∧
      (s.engine.scheduler.workspace c.request.workspace).running = 0) :
    s.Analyzes (s.engine.admitting c.request.workspace) c s.clock 3 := by
  obtain ⟨-, issues, told, leads⟩ := prepared.joinLine calls rfl lines free
  refine ⟨congrArg Array.size calls, issues, told, leads_of_turn turn ?_⟩
  unfold Session.step
  rw [show ({ s with ready := [] } : Session σ).calls[0]? = some c by rw [calls]; rfl]
  dsimp only
  rw [stage]
  dsimp only
  rw [if_pos prepared.current]
  exact leads

end Prepared

/-- A call that comes to an engine whose slots are free is held back, or taken up at once. -/
theorem analyzes_enter (intact : s.engine.Intact read) {request : AnalysisRequest}
    {meanwhile : Meanwhile} {revision : Revision}
    (apart : Digest.CollisionFree (hashedFor (read.map (·.1) ++ [revision])))
    (current : s.engine.tracker.isCurrent revision = true) (file : revision.file = request.file)
    (edit : meanwhile.edit = none) (calls : s.calls = #[]) (ready : s.ready = []) (lines : s.lines = [])
    (free : (s.engine.scheduler.workspace request.workspace).waiters = [] ∧
      (s.engine.scheduler.workspace request.workspace).running = 0) :
    (s.enter request meanwhile revision).Analyzes (s.engine.admitting request.workspace)
      { request, meanwhile, config := s.engine.config, revision, stage := .heldBack }
      (s.engine.heldUntil request.workspace s.clock) 3 := by
  obtain ⟨pause, paused⟩ : ∃ pause, (s.engine.scheduler.debounce request.workspace).real = .ok pause :=
    ⟨_, Number.real_eq_ok_iff.2 ⟨intact.measured.debounce request.workspace, rfl⟩⟩
  unfold enter
  rw [paused]
  dsimp only
  generalize entering :
    ({ request, meanwhile, config := s.engine.config, revision, stage := .heldBack } : Call) = c
  have stage : c.stage = .heldBack := by
    rw [← entering]
  have size : s.calls.size = 0 := by
    rw [calls]
    rfl
  have opened : (s.opened request meanwhile revision .heldBack).calls = #[c] := by
    unfold Session.opened
    dsimp only
    rw [calls, entering]
    rfl
  have prepared : (s.opened request meanwhile revision .heldBack).Prepared c read := by
    subst entering
    exact ⟨intact, apart, current, intact.config, file, edit⟩
  have workspace : c.request.workspace = request.workspace := by
    rw [← entering]
  rw [← workspace] at free ⊢
  rw [size]
  split
  · next pausing =>
    have held : s.engine.heldUntil c.request.workspace s.clock =
        s.clock + (s.engine.scheduler.debounceSeconds c.request.workspace).toFloat := if_pos pausing
    rw [held]
    refine @Prepared.afterPause σ _ c read { prepared with } ?_ opened stage lines free
    unfold Session.wake Session.opened
    dsimp only
    rw [ready]
    rfl
  · next going =>
    have held : s.engine.heldUntil c.request.workspace s.clock = s.clock := if_neg going
    rw [held]
    obtain ⟨single, issues, told, leads⟩ := prepared.joinLine opened ready lines free
    exact ⟨single, issues, told, leads.mono (by decide)⟩

end Session

/-- An engine that has applied its configuration and recorded a text, with the revision of the text. -/
def Engine.accepting (e : Engine) (request : AnalysisRequest) : Engine × Revision :=
  let e := e.applyConfig.1
  let (tracker, r) := e.tracker.record request.file request.code request.ranges request.language
  ({ e with tracker }, r)

namespace Engine.Intact

variable {σ : Type} {e : Engine} {read : List Parsed}

theorem accepting (intact : e.Intact read) (request : AnalysisRequest) :
    (e.accepting request).1.Intact read :=
  intact.applyConfig.record request.file request.code request.ranges request.language

/-- The revision that was recorded is the latest one of the file. -/
theorem latest_accepting (intact : e.Intact read) (request : AnalysisRequest) :
    (e.accepting request).2.file = request.file ∧
      (e.accepting request).1.tracker.latest.get? request.file = some (e.accepting request).2 :=
  ⟨intact.applyConfig.keyed.file_record .., Tracker.latest_record_self ..⟩

/-- What an engine does before an analysis works on a file. -/
theorem accepting_eq (intact : e.Intact read) (request : AnalysisRequest) :
    e.accepting request =
      ({ e with
          scheduler := e.scheduler.configure e.config.scheduling
          journal := e.applyCache.1.journal
          lifetime := e.config.lifetime
          tracker :=
            (e.tracker.record request.file request.code request.ranges request.language).1 },
        (e.tracker.record request.file request.code request.ranges request.language).2) := by
  obtain ⟨logs, applied⟩ := intact.applyConfig_eq
  unfold Engine.accepting
  rw [applied]

/-- The text that was accepted is that of the latest revision. -/
theorem isCurrent_accepting (intact : e.Intact read) (request : AnalysisRequest) :
    (e.accepting request).1.tracker.isCurrent (e.accepting request).2 = true := by
  obtain ⟨file, latest⟩ := intact.latest_accepting request
  unfold Tracker.isCurrent
  rw [file, latest, Option.any_some, beq_self_eq_true]

/-- No slot is taken before an analysis works on a file. -/
theorem free_accepting (intact : e.Intact read) (request : AnalysisRequest) {name : String}
    (free : (e.scheduler.workspace name).waiters = [] ∧ (e.scheduler.workspace name).running = 0) :
    ((e.accepting request).1.scheduler.workspace name).waiters = [] ∧
      ((e.accepting request).1.scheduler.workspace name).running = 0 := by
  have workspaces : (e.accepting request).1.scheduler.workspaces = e.scheduler.workspaces := by
    rw [intact.accepting_eq]
    rfl
  unfold Scheduler.workspace at free ⊢
  rw [workspaces]
  cases found : e.scheduler.workspaces.get? name with
  | none => exact ⟨rfl, rfl⟩
  | some w =>
    rw [found] at free
    exact free

/-- When every slot is free, an analysis into which no other text comes has its end foretold. -/
theorem analyze (intact : e.Intact read)
    (free : ∀ name, (e.scheduler.workspace name).waiters = [] ∧ (e.scheduler.workspace name).running = 0)
    (request : AnalysisRequest) {meanwhile : Meanwhile} (edit : meanwhile.edit = none)
    (apart : Digest.CollisionFree (hashedFor (read.map (·.1) ++ [(e.accepting request).2])))
    (clock : Float) (transport : Transport σ) (remote : σ) :
    let accepted := (e.accepting request).1
    let r := (e.accepting request).2
    let found := accepted.reading r
    let began := accepted.heldUntil request.workspace clock
    ∃ c issues, c.request = request ∧ c.revision = r ∧
      Engine.issuesIn e.config { tree := found.2, arena := found.1.arena found.2.arena } = .ok issues ∧
        (e.analyze clock transport remote request meanwhile).Delivers
          { accepted.admitting request.workspace with parser := found.1 } c found.2 issues began
          (accepted.readBy r began meanwhile.seconds) := by
  obtain ⟨logs, applied⟩ := intact.applyConfig_eq
  have begun : (e.session clock transport remote).begin request meanwhile =
      Session.enter { (e.session clock transport remote).log logs with engine := (e.accepting request).1 }
        request meanwhile (e.accepting request).2 := by
    unfold Session.begin Session.accept Engine.accepting Engine.session
    dsimp only
    rw [applied]
    rfl
  have config : (e.accepting request).1.config = e.config := by
    rw [intact.accepting_eq]
  have file := (intact.latest_accepting request).1
  have current := intact.isCurrent_accepting request
  have free' := intact.free_accepting request (free request.workspace)
  have engine := intact.accepting request
  generalize e.accepting request = accepted at begun config file current free' engine apart ⊢
  obtain ⟨e', r⟩ := accepted
  dsimp only at begun config file current free' engine apart ⊢
  have analyzes : (Session.enter { (e.session clock transport remote).log logs with engine := e' } request
      meanwhile r).Analyzes (e'.admitting request.workspace)
        { request, meanwhile, config := e'.config, revision := r, stage := .heldBack }
        (e'.heldUntil request.workspace clock) 3 :=
    Session.analyzes_enter engine apart current file edit rfl rfl rfl free'
  rw [← begun] at analyzes
  obtain ⟨single, issues, told, leads⟩ := analyzes
  dsimp only at told leads
  rw [config] at told
  refine ⟨{ request, meanwhile, config := e'.config, revision := r, stage := .heldBack }, issues, rfl, rfl,
    told, ?_⟩
  unfold Engine.analyze Session.settle
  rw [single]
  exact leads (7 * 1) (by decide)

/-- After an analysis has come to its end, a text is accepted again without a new revision, and with the limits
and the tree that there are. -/
theorem accepting_again (intact : e.Intact read) {request : AnalysisRequest}
    (unmarked : request.ranges = none) {p : Parser} {f : Session σ} {c : Call} {issues : List Issue}
    {r : Revision} (recorded : (e.accepting request).2 = r) (asked : c.request = request)
    (about : c.revision = r)
    {began ended : Float}
    (delivers : f.Delivers { (e.accepting request).1.admitting request.workspace with parser := p } c
      ((e.accepting request).1.reading r).2 issues began ended)
    {read' : List Parsed} (intact' : f.engine.Intact read') :
    (f.engine.accepting request).2 = r ∧
      (f.engine.accepting request).1.tracker = f.engine.tracker ∧
      (f.engine.accepting request).1.journal = f.engine.journal ∧
      (f.engine.accepting request).1.gateway = f.engine.gateway ∧
      (f.engine.accepting request).1.trees = f.engine.trees ∧
      (f.engine.accepting request).1.reading r =
        (f.engine.parser, ((e.accepting request).1.reading r).2) := by
  obtain ⟨file, latest⟩ := intact.latest_accepting request
  have of_text := (e.accepting request).1.reading_about r
  have first := intact.accepting_eq request
  have again : f.engine.tracker.record request.file request.code request.ranges request.language =
      (f.engine.tracker, r) := by
    refine Tracker.record_of_repeats ?_ ?_
    · rw [delivers.tracker, about, Tracker.latest_markAnalyzed, ← recorded]
      exact latest
    · rw [← recorded, first, unmarked]
      exact Tracker.repeats_record ..
  have limits : f.engine.applyCache.1.journal = f.engine.journal := by
    refine Limited.journal_applyCache ?_
    rw [delivers.config, delivers.journal, first]
    exact limited_applyCache intact.config.typed
  have second := intact'.accepting_eq request
  rw [again, limits] at second
  have kept : f.engine.trees.get? r.file = some ((e.accepting request).1.reading r).2 := by
    rw [delivers.trees, asked, ← recorded, file]
    exact Table.get?_set_self _ _ _
  rw [second]
  exact ⟨rfl, rfl, rfl, rfl, rfl, Engine.reading_of_kept kept of_text⟩

end Engine.Intact

namespace Session

variable {σ : Type} {s : Session σ} {past : List Revision}

/-- To take turns is one of the ways a history goes on. -/
theorem History.settle (history : s.History past) : s.settle.History past := by
  have turns (fuel : Nat) {s : Session σ} (history : s.History past) :
      (settleWith fuel s).History past := by
    induction fuel generalizing s with
    | zero => exact history
    | succ fuel ih =>
      unfold settleWith
      split
      · exact history
      · next ticket rest due =>
        have taken : ({ s with ready := rest } : Session σ) = s.take ticket := by
          simp only [take, due, List.erase_cons_head]
        rw [taken]
        exact ih (history.turn (by rw [due]; exact List.mem_cons_self))
  exact turns _ history

/-- When all calls are over, a single analysis goes on with the history. -/
theorem History.analyze (history : s.History past) (closed : s.AllOver) (clock : Float)
    (transport : Transport σ) (remote : σ) (request : AnalysisRequest) (meanwhile : Meanwhile) :
    (s.engine.analyze clock transport remote request meanwhile).History (past ++ s.revisions) :=
  ((history.renew closed clock transport remote).begin request meanwhile).settle

/-- When all calls are over, the end of a single analysis is foretold. -/
theorem History.foretold (history : s.History past) (closed : s.AllOver) (request : AnalysisRequest)
    {meanwhile : Meanwhile} (edit : meanwhile.edit = none)
    (apart : Digest.CollisionFree (hashedFor (past ++ s.revisions ++ [(s.engine.accepting request).2])))
    (clock : Float) (transport : Transport σ) (remote : σ) :
    let accepted := (s.engine.accepting request).1
    let r := (s.engine.accepting request).2
    let found := accepted.reading r
    let began := accepted.heldUntil request.workspace clock
    ∃ c issues, c.request = request ∧ c.revision = r ∧
      Engine.issuesIn s.engine.config { tree := found.2, arena := found.1.arena found.2.arena } = .ok issues ∧
        (s.engine.analyze clock transport remote request meanwhile).Delivers
          { accepted.admitting request.workspace with parser := found.1 } c found.2 issues began
          (accepted.readBy r began meanwhile.seconds) := by
  obtain ⟨read, orderly⟩ := history.inOrder
  obtain ⟨free, known⟩ := orderly.rest closed
  refine orderly.engine.analyze free request edit (hashedFor_mono (fun r member => ?_) apart) clock transport
    remote
  rcases List.mem_append.1 member with before | new
  · obtain ⟨x, xIn, rfl⟩ := List.mem_map.1 before
    exact List.mem_append_left _ (known x xIn)
  · exact List.mem_append_right _ new

/-- The end of an analysis is foretold, and of a second one of the same text, which starts with what the first
one left. -/
theorem History.foretold_again (history : s.History past) (closed : s.AllOver) (request : AnalysisRequest)
    (unmarked : request.ranges = none) (meanwhile meanwhile' : Meanwhile) (edit : meanwhile.edit = none)
    (edit' : meanwhile'.edit = none) (clock clock' : Float) (transport transport' : Transport σ)
    (remote remote' : σ)
    (apart : Digest.CollisionFree (hashedFor (past ++ s.revisions ++ [(s.engine.accepting request).2]))) :
    let accepted := (s.engine.accepting request).1
    let r := (s.engine.accepting request).2
    let found := accepted.reading r
    let began := accepted.heldUntil request.workspace clock
    let first := s.engine.analyze clock transport remote request meanwhile
    let accepted' := (first.engine.accepting request).1
    let began' := accepted'.heldUntil request.workspace clock'
    let second := first.engine.analyze clock' transport' remote' request meanwhile'
    ∃ c c' issues, c.request = request ∧
      first.Delivers { accepted.admitting request.workspace with parser := found.1 } c found.2 issues began
        (accepted.readBy r began meanwhile.seconds) ∧
      second.Delivers { accepted'.admitting request.workspace with parser := first.engine.parser } c' found.2
        issues began' (accepted'.readBy r began' meanwhile'.seconds) ∧
      (second.clock = first.clock → second.results = first.results ∧
        second.engine.tracker = first.engine.tracker ∧ second.engine.trees = first.engine.trees) := by
  obtain ⟨read, orderly⟩ := history.inOrder
  obtain ⟨c, issues, asked, recorded, told, delivers⟩ :=
    history.foretold closed request edit apart clock transport remote
  have later := history.analyze closed clock transport remote request meanwhile
  generalize s.engine.analyze clock transport remote request meanwhile = first at delivers later ⊢
  obtain ⟨read', orderly'⟩ := later.inOrder
  obtain ⟨same, tracker, journal, gateway, trees, found⟩ :=
    orderly.engine.accepting_again unmarked rfl asked recorded delivers orderly'.engine
  have apart' : Digest.CollisionFree (hashedFor
      (past ++ s.revisions ++ first.revisions ++ [(first.engine.accepting request).2])) := by
    refine hashedFor_mono (fun r member => ?_) apart
    rw [delivers.revisions, recorded, same] at member
    exact (List.mem_append.1 member).elim id (List.mem_append_right _)
  obtain ⟨c', issues', asked', recorded', told', delivers'⟩ :=
    later.foretold delivers.closed request edit' apart' clock' transport' remote'
  rw [same] at recorded'
  rw [same, found] at told' delivers'
  have config : first.engine.config = s.engine.config := by
    rw [delivers.config, orderly.engine.accepting_eq request]
    rfl
  have found_again : issues' = issues := by
    rw [config, delivers.parser] at told'
    exact Except.ok.inj (told'.symm.trans told)
  subst found_again
  exact ⟨c, c', issues', asked, delivers, delivers', delivers.again delivers' (asked'.trans asked.symm)
    (recorded'.trans recorded.symm) tracker journal gateway trees rfl⟩

/-- An analysis of a file with a call of `eval`. -/
def evalRequest : AnalysisRequest := { file := "a.py", language := "python", code := "eval(x)\n" }

/-- A session of an engine with the standard configuration that has recorded a showing and analyzed nothing. -/
theorem History.exists_shown : ∃ s : Session Unit, s.History [] ∧ s.calls = #[] ∧ s.engine.config = .standard ∧
    s.engine.scheduler = { settings := Config.standard.scheduling } ∧ s.engine.tracker = {} := by
  obtain ⟨e, after, logs, started, config, scheduler, tracker⟩ :
      ∃ e after logs, Engine.start .standard {} = .ok (e, after, logs) ∧ e.config = .standard ∧
        e.scheduler = { settings := Config.standard.scheduling } ∧ e.tracker = {} := ⟨_, _, _, rfl, rfl, rfl, rfl⟩
  have new := History.start Config.standalone_standard started 200000 50000 0 (fun _ state => (.timedOut, state)) ()
  refine ⟨_, new.checkAndRecord "a.py" "p" .shown, rfl, ?_, ?_, ?_⟩
  · exact (Engine.config_checkAndRecord ..).trans config
  · exact (Engine.scheduler_checkAndRecord ..).trans scheduler
  · exact (Engine.tracker_checkAndRecord ..).trans tracker

/-- The clock stands still while such an engine analyzes the file, and while it does so again. -/
theorem History.clock_again (history : s.History past) (closed : s.AllOver) (config : s.engine.config = .standard)
    (scheduler : s.engine.scheduler = { settings := Config.standard.scheduling }) (transport : Transport σ)
    (remote : σ)
    (apart : Digest.CollisionFree (hashedFor (past ++ s.revisions ++ [(s.engine.accepting evalRequest).2]))) :
    ((s.engine.analyze 0 transport remote evalRequest { seconds := 0 }).engine.analyze 0 transport remote evalRequest
        { seconds := 0 }).clock =
      (s.engine.analyze 0 transport remote evalRequest { seconds := 0 }).clock := by
  have still : (0 : Float) + 0 = 0 := by decide +kernel
  obtain ⟨read, orderly⟩ := history.inOrder
  obtain ⟨c, c', issues, asked, delivers, delivers', -⟩ :=
    history.foretold_again closed evalRequest rfl { seconds := 0 } { seconds := 0 } rfl rfl 0 0 transport transport
      remote remote apart
  have later := history.analyze closed 0 transport remote evalRequest { seconds := 0 }
  generalize s.engine.analyze 0 transport remote evalRequest { seconds := 0 } = first at delivers delivers' later ⊢
  obtain ⟨read', orderly'⟩ := later.inOrder
  have accepted : (s.engine.accepting evalRequest).1.scheduler = { settings := Config.standard.scheduling } := by
    rw [orderly.engine.accepting_eq, scheduler, config]
    rfl
  have began : (s.engine.accepting evalRequest).1.heldUntil evalRequest.workspace 0 = 0 := by
    refine Engine.heldUntil_of_unhurried ?_ 0
    rw [accepted]
    decide +kernel
  have clock := delivers.clock
  have freed := delivers.scheduler
  rw [began, Engine.readBy_of_still _ _ still] at clock freed
  have accepted' : (first.engine.accepting evalRequest).1.scheduler =
      ((({ settings := Config.standard.scheduling } : Scheduler Number).acquire "default" 0).1.release "default"
        (some (Interval.between (Number.float 0) (Number.float 0)))).scheduler.configure
          Config.standard.scheduling := by
    have kept : first.engine.config = .standard := by
      rw [delivers.config, ← config, orderly.engine.accepting_eq]
      rfl
    rw [orderly'.engine.accepting_eq, kept, freed, asked, ← accepted]
    rfl
  have began' : (first.engine.accepting evalRequest).1.heldUntil evalRequest.workspace 0 = 0 := by
    refine Engine.heldUntil_of_unhurried ?_ 0
    rw [accepted']
    decide +kernel
  have clock' := delivers'.clock
  rw [began', Engine.readBy_of_still _ _ still] at clock'
  exact clock'.trans clock.symm

end Session

end LiveLint
