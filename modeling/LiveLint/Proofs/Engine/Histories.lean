import LiveLint.Proofs.Engine.Holders
import LiveLint.Proofs.Engine.Intact
import LiveLint.Proofs.Engine.Steps

/-!
# Histories

What can have happened to an engine without a remote service: analyses in any order of their turns, records
of what the user did, files that were forgotten and configurations that were changed. Whatever has happened,
the engine can rely on what it remembers, and when all analyses are over every slot is free.

The operations of a call are followed from its end back to its beginning, as for the order among the calls.
-/

namespace LiveLint

/-- A tree that a call holds was made by the parser, and nothing is refined without a remote service. -/
def CallStage.Rests (stage : CallStage) (read : List Parsed) : Prop :=
  match stage with
  | .detecting tree _ => ∃ x ∈ read, x.2 = tree
  | .refining .. => False
  | _ => True

theorem CallStage.Rests.mono {stage : CallStage} {read more : List Parsed} (rests : stage.Rests read)
    (subset : ∀ x ∈ read, x ∈ more) : stage.Rests more := by
  cases stage with
  | detecting tree since =>
    obtain ⟨x, member, same⟩ := rests
    exact ⟨x, subset x member, same⟩
  | refining tree since r => exact rests
  | heldBack => trivial
  | inLine => trivial
  | waiting => trivial
  | parsing since => trivial
  | finished result => trivial

namespace Session

variable {σ : Type}

/-- Calls, slots and what the engine remembers are in order, with the exception of a call that takes its
step. What was read are revisions of the calls, and revisions of the past. -/
structure Orderly (actor : Option Nat) (busy : Option String) (past : List Revision)
    (read : List Parsed) (s : Session σ) : Prop where
  queues : s.Queues actor
  slots : s.Slots actor busy
  engine : s.engine.Intact read
  config : ∀ (t : Nat) (c : Call), s.calls[t]? = some c → c.config.Standalone
  rests : ∀ (t : Nat) (c : Call), s.calls[t]? = some c → some t ≠ actor → c.stage.Rests read
  read_for : ∀ x ∈ read, x.1 ∈ past ∨
    ∃ (t : Nat) (c : Call), s.calls[t]? = some c ∧ c.revision = x.1

def InOrder (past : List Revision) (s : Session σ) : Prop := ∃ read, s.Orderly none none past read

/-- A call takes its step. -/
structure Acts (s : Session σ) (i : Nat) (c : Call) (busy : Option String) (past : List Revision)
    (read : List Parsed) : Prop extends s.Orderly (some i) busy past read where
  call : s.calls[i]? = some c

variable {past : List Revision} {read : List Parsed}

theorem Orderly.congr {s s' : Session σ} {actor : Option Nat} {busy : Option String}
    (orderly : s.Orderly actor busy past read) (engine : s'.engine.Intact read) (calls : s'.calls = s.calls)
    (ready : s'.ready = s.ready) (lines : s'.lines = s.lines)
    (workspaces : s'.engine.scheduler.workspaces = s.engine.scheduler.workspaces) :
    s'.Orderly actor busy past read where
  queues := orderly.queues.congr calls ready lines workspaces
  slots := orderly.slots.congr_workspaces calls workspaces
  engine
  config := calls ▸ orderly.config
  rests := calls ▸ orderly.rests
  read_for := calls ▸ orderly.read_for

namespace Acts

variable {s s' : Session σ} {i : Nat} {c : Call} {busy : Option String}

theorem congr (acts : s.Acts i c busy past read) (engine : s'.engine.Intact read)
    (calls : s'.calls = s.calls) (ready : s'.ready = s.ready) (lines : s'.lines = s.lines)
    (workspaces : s'.engine.scheduler.workspaces = s.engine.scheduler.workspaces) :
    s'.Acts i c busy past read where
  toOrderly := acts.toOrderly.congr engine calls ready lines workspaces
  call := calls ▸ acts.call

/-- A call that took its step is at another stage now. -/
theorem moved (acts : s.Acts i c busy past read) (stage : CallStage)
    (calls : s'.calls = (s.moveTo i stage).calls) (engine : s'.engine.Intact read)
    (queues : s'.Queues none) (slots : s'.Slots none none) (rests : stage.Rests read) :
    s'.Orderly none none past read where
  queues
  slots
  engine
  config := by
    rw [calls]
    intro t c' call
    by_cases same : t = i
    · rw [same, getElem?_moveTo_self acts.call] at call
      cases call
      exact acts.config i c acts.call
    · rw [getElem?_moveTo_of_ne s same] at call
      exact acts.config t c' call
  rests := by
    rw [calls]
    intro t c' call _
    by_cases same : t = i
    · rw [same, getElem?_moveTo_self acts.call] at call
      cases call
      exact rests
    · rw [getElem?_moveTo_of_ne s same] at call
      exact acts.rests t c' call fun eq => same (Option.some.inj eq)
  read_for := by
    rw [calls]
    intro x member
    rcases acts.read_for x member with before | ⟨t, c', call, about⟩
    · exact Or.inl before
    by_cases same : t = i
    · rw [same] at call
      cases acts.call.symm.trans call
      exact Or.inr ⟨i, _, getElem?_moveTo_self acts.call stage, about⟩
    · refine Or.inr ⟨t, c', ?_, about⟩
      rw [getElem?_moveTo_of_ne s same]
      exact call

/-- A call that works goes on with its work. -/
theorem goOn (acts : s.Acts i c (some c.request.workspace) past read) (first : s.IsFirst i c)
    {stage : CallStage} (running : stage.isRunning = true) (rests : stage.Rests read) :
    (s.goOn i stage).InOrder past :=
  ⟨read, acts.moved stage rfl { acts.engine with } (acts.queues.goOn acts.call first running)
    (acts.slots.goOn acts.call running) rests⟩

/-- A call without a slot is over and leaves the line of its file. -/
theorem turnAway (acts : s.Acts i c none past read) (first : s.IsFirst i c)
    (result : Except Fault AnalysisResult) :
    ((s.leaveLine c.request.file).moveTo i (.finished result)).InOrder past := by
  have engine : (s.leaveLine c.request.file).engine = s.engine := engine_leaveLine s _
  have calls : (s.leaveLine c.request.file).calls = s.calls := calls_leaveLine s _
  have slots : (s.leaveLine c.request.file).Slots (some i) none :=
    acts.slots.congr_workspaces calls (by rw [engine])
  have call : (s.leaveLine c.request.file).calls[i]? = some c := calls ▸ acts.call
  refine ⟨read, acts.moved (.finished result) ?_ ?_ (acts.queues.finished acts.call first result)
    (slots.moveTo_idle call (not_hasSlot rfl)) trivial⟩
  · unfold Session.moveTo Session.update
    dsimp only
    rw [calls]
  · exact engine ▸ acts.engine

/-- A call gives its slot back, and is over. -/
theorem leave (acts : s.Acts i c (some c.request.workspace) past read) (first : s.IsFirst i c) (since : Float)
    (how : Session σ → Except Fault AnalysisResult) : (s.leave i c since how).InOrder past := by
  obtain ⟨w, next, released, slots⟩ := acts.slots.release acts.queues acts.engine.measured.comparable
    (Interval.between (Number.float since) (Number.float s.clock))
  have measured := acts.engine.measured.release c.request.workspace
    (Interval.between (Number.float since) (Number.float s.clock))
  have queues := acts.queues.release c.request.workspace _ released rfl
  rw [released] at measured
  unfold Session.leave
  dsimp only
  rw [released]
  dsimp only at queues measured ⊢
  change (s.withWorkspace c.request.workspace w).Slots (some i) none at slots
  generalize freed : ({ s with
    engine := { s.engine with scheduler := s.engine.scheduler.set c.request.workspace w } } :
      Session σ) = s₁ at queues ⊢
  have slots : s₁.Slots (some i) none := freed ▸ slots
  have acts₁ : s₁.engine.Intact read ∧ s₁.calls = s.calls ∧ s₁.lines = s.lines := by
    rw [← freed]
    exact ⟨acts.engine.schedule measured, rfl, rfl⟩
  obtain ⟨engine, calls, lines⟩ := acts₁
  generalize passed : (next.map s₁.wake).getD s₁ = s₂ at queues ⊢
  have same : s₂.engine = s₁.engine ∧ s₂.calls = s₁.calls ∧ s₂.lines = s₁.lines := by
    rw [← passed, wake_next]
    exact ⟨rfl, rfl, rfl⟩
  obtain ⟨engine₂, calls₂, lines₂⟩ := same
  have acts₂ : s₂.Acts i c none past read :=
    { queues
      slots := slots.congr_workspaces calls₂ (by rw [engine₂])
      engine := engine₂ ▸ engine
      config := calls₂ ▸ calls ▸ acts.config
      rests := calls₂ ▸ calls ▸ acts.rests
      read_for := calls₂ ▸ calls ▸ acts.read_for
      call := calls₂ ▸ calls ▸ acts.call }
  have first₂ : s₂.IsFirst i c := by
    unfold IsFirst
    rw [line_congr (lines₂.trans lines)]
    exact first
  exact acts₂.turnAway first₂ _

theorem publish (acts : s.Acts i c (some c.request.workspace) past read) (first : s.IsFirst i c) {tree : Tree}
    (made : ∃ x ∈ read, x.2 = tree) (since : Float) (issues : List Issue) :
    (s.publish i c tree since issues).InOrder past := by
  unfold Session.publish
  split
  · exact acts.leave first since _
  · have kept : ({ s with engine := { s.engine with
        trees := s.engine.trees.set c.request.file tree
        tracker := (s.engine.tracker.markAnalyzed c.revision).1 } } : Session σ).Acts i c
          (some c.request.workspace) past read :=
      acts.congr (acts.engine.publish made c.request.file c.revision) rfl rfl rfl rfl
    exact kept.leave first since _

/-- Without a remote service the issues are settled as they are. -/
theorem submit (acts : s.Acts i c (some c.request.workspace) past read) (first : s.IsFirst i c) {tree : Tree}
    (made : ∃ x ∈ read, x.2 = tree) (since : Float) (issues : List Issue) :
    (s.submit i c tree since issues).InOrder past := by
  have settled : Refinement.start s.engine.gateway (.float s.clock) issues =
      (s.engine.gateway, .settled (.ok issues), []) := by
    unfold Refinement.start
    rw [acts.engine.offline]
    rfl
  unfold Session.submit
  rw [settled]
  have same : ({ s with engine := { s.engine with gateway := s.engine.gateway } }.log [] :
      Session σ).Acts i c (some c.request.workspace) past read :=
    acts.congr { acts.engine with } rfl rfl rfl rfl
  exact same.publish first made since issues

theorem classify (acts : s.Acts i c (some c.request.workspace) past read) (first : s.IsFirst i c) {tree : Tree}
    (made : ∃ x ∈ read, x.2 = tree) (since : Float) (found : List Occurrence) :
    (s.classify i c tree since found).InOrder past := by
  have rules := (acts.engine.rules.classifyAll tree.language found).1
  unfold Session.classify
  generalize s.engine.classifier.classifyAll tree.language found = out at rules
  obtain ⟨classifier, issues, logs⟩ := out
  have classified :
      (Session.log { s with engine := { s.engine with classifier } } logs).Acts i c
        (some c.request.workspace) past read :=
    acts.congr { acts.engine with rules } rfl rfl rfl rfl
  dsimp only
  split
  · exact classified.submit first made since _
  · exact classified.leave first since _

/-- The queries search a tree that was made. -/
theorem search (acts : s.Acts i c (some c.request.workspace) past read) (first : s.IsFirst i c) {tree : Tree}
    (made : ∃ x ∈ read, x.2 = tree) (since : Float) (checkpoint : Detector.Checkpoint) :
    (s.search i c tree since checkpoint).InOrder past := by
  have engine := acts.engine.detect (acts.config i c acts.call) made checkpoint
  unfold Session.search
  dsimp only
  generalize s.engine.detector.detect c.config.settings tree (s.engine.parser.arena tree.arena)
    checkpoint = out at engine
  obtain ⟨detector, answer⟩ := out
  have searched : ({ s with engine := { s.engine with detector } } : Session σ).Acts i c
      (some c.request.workspace) past read :=
    acts.congr engine rfl rfl rfl rfl
  dsimp only
  split
  · exact searched.classify first made since _
  · exact searched.leave first since _
  · exact searched.leave first since _

/-- The parser has read one more revision. -/
theorem parse (acts : s.Acts i c (some c.request.workspace) past read) (first : s.IsFirst i c) (since : Float) :
    (s.parse i c since).InOrder past := by
  unfold Session.parse
  dsimp only
  generalize parsed : s.engine.parser.parse c.revision (s.engine.trees.get? c.request.file) = out
  have engine := (acts.engine.parse parsed).recordIn c.meanwhile c.request.file
  have grown (x : Parsed) (member : x ∈ read) : x ∈ read ++ [(c.revision, out.tree)] :=
    List.mem_append_left _ member
  have made : ∃ x ∈ read ++ [(c.revision, out.tree)], x.2 = out.tree :=
    ⟨_, List.mem_append_right _ List.mem_cons_self, rfl⟩
  generalize later : Session.log _ out.logs = s₁
  have acts₁ : s₁.Acts i c (some c.request.workspace) past (read ++ [(c.revision, out.tree)]) := by
    subst later
    exact
      { queues := acts.queues.congr rfl rfl rfl rfl
        slots := acts.slots.congr_workspaces rfl rfl
        engine
        config := acts.config
        rests := fun t c' call other => (acts.rests t c' call other).mono grown
        read_for := by
          intro x member
          rcases List.mem_append.1 member with before | new
          · exact acts.read_for x before
          · rw [List.mem_singleton.1 new]
            exact Or.inr ⟨i, c, acts.call, rfl⟩
        call := acts.call }
  have first₁ : s₁.IsFirst i c := by
    subst later
    exact first
  split
  · exact acts₁.goOn first₁ rfl made
  · exact acts₁.leave first₁ since _

/-- A call that has a slot takes the tree that is kept, or is parsed. -/
theorem enterSlot (acts : s.Acts i c (some c.request.workspace) past read) (first : s.IsFirst i c) :
    (s.enterSlot i c).InOrder past := by
  unfold Session.enterSlot
  dsimp only
  split
  · next tree kept =>
    have made : ∃ x ∈ read, x.2 = tree :=
      acts.engine.trees c.revision.file tree (Option.filter_eq_some_iff.1 kept).1
    split
    · exact acts.goOn first rfl made
    · exact acts.leave first _ _
  · exact acts.goOn first rfl trivial

/-- The first call in line asks for a slot, unless it was overtaken. -/
theorem enterFile (acts : s.Acts i c none past read) (first : s.IsFirst i c) : (s.enterFile i c).InOrder past := by
  unfold Session.enterFile
  split
  · exact acts.turnAway first _
  · obtain ⟨w, admission, asked, slots⟩ :=
      acts.slots.acquire acts.engine.measured.comparable c.request.workspace
    have measured := acts.engine.measured.acquire c.request.workspace i
    have lines := s.engine.scheduler.tickets_acquire c.request.workspace i
    rw [asked] at measured lines
    rw [asked]
    dsimp only at measured lines ⊢
    have engine := acts.engine.schedule measured
    have passed (kept : ∀ name, (s.engine.scheduler.set c.request.workspace w).tickets name =
        s.engine.scheduler.tickets name) : (s.withWorkspace c.request.workspace w).Queues (some i) :=
      acts.queues.reschedule fun name => kept name ▸ List.suffix_refl _
    rcases slots with ⟨rfl, slots⟩ | ⟨rfl, slots, joined⟩ | ⟨⟨f, rfl⟩, slots⟩
    · rcases lines with ⟨waits, -⟩ | ⟨-, kept⟩
      · cases waits
      have granted : (s.withWorkspace c.request.workspace w).Acts i c (some c.request.workspace) past read :=
        ⟨⟨passed kept, slots, engine, acts.config, acts.rests, acts.read_for⟩, acts.call⟩
      exact granted.enterSlot first
    · rcases lines with ⟨-, behind, others⟩ | ⟨moves, -⟩
      · refine ⟨read, acts.moved .waiting rfl engine
          (acts.queues.queued acts.call first behind others) ?_ trivial⟩
        refine slots.moveTo_idle acts.call ?_
        rintro (working | ⟨-, out⟩)
        · cases working
        · exact out joined
      · exact absurd rfl moves
    · rcases lines with ⟨waits, -⟩ | ⟨-, kept⟩
      · cases waits
      have refused : (s.withWorkspace c.request.workspace w).Acts i c none past read :=
        ⟨⟨passed kept, slots, engine, acts.config, acts.rests, acts.read_for⟩, acts.call⟩
      exact refused.turnAway first _

/-- A call that was held back joins the line of its file. -/
theorem joinLine (acts : s.Acts i c none past read) (outside : ∀ file, i ∉ s.line file) :
    (s.joinLine i c).InOrder past := by
  have queues := acts.queues.joinLine acts.call outside
  unfold Session.joinLine
  change InOrder past (if (s.line c.request.file).isEmpty then _ else _)
  have joined : Acts
      { s with lines := s.lines.set c.request.file (s.line c.request.file ++ [i]) } i c none past read :=
    ⟨⟨queues, acts.slots.congr_workspaces rfl rfl, acts.engine, acts.config, acts.rests, acts.read_for⟩,
      acts.call⟩
  split
  · next empty =>
    refine joined.enterFile ?_
    unfold IsFirst
    rw [line_set_self, List.isEmpty_iff.1 empty]
    rfl
  · refine ⟨read, joined.moved .inLine rfl acts.engine
      (queues.moveTo acts.call (fun _ _ => rfl) nofun) ?_ trivial⟩
    refine joined.slots.moveTo_idle acts.call ?_
    rintro (working | ⟨waits, -⟩)
    · cases working
    · cases waits

end Acts

namespace Orderly

variable {s : Session σ} {i : Nat} {c : Call}

/-- A call that is at turn takes its step. -/
theorem take (orderly : s.Orderly none none past read) (ready : i ∈ s.ready) (call : s.calls[i]? = some c)
    {busy : Option String}
    (has : ∀ name, busy = some name ↔ c.request.workspace = name ∧ s.HasSlot i c) :
    (s.take i).Acts i c busy past read where
  queues := orderly.queues.take ready
  slots := orderly.slots.take call has
  engine := orderly.engine
  config := orderly.config
  rests := fun t c' call' _ => orderly.rests t c' call' nofun
  read_for := orderly.read_for
  call

/-- A call that is at turn and has no slot takes its step. -/
theorem take_idle (orderly : s.Orderly none none past read) (ready : i ∈ s.ready)
    (call : s.calls[i]? = some c) (idle : ¬ s.HasSlot i c) : (s.take i).Acts i c none past read :=
  orderly.take ready call fun _ => ⟨nofun, fun has => absurd has.2 idle⟩

/-- A call that is at turn and has a slot takes its step. -/
theorem take_busy (orderly : s.Orderly none none past read) (ready : i ∈ s.ready)
    (call : s.calls[i]? = some c) (slot : s.HasSlot i c) :
    (s.take i).Acts i c (some c.request.workspace) past read :=
  orderly.take ready call fun _ => ⟨fun same => ⟨Option.some.inj same, slot⟩, fun has => by rw [has.1]⟩

/-- The first call in the line of its file is at turn. -/
theorem isFirst (orderly : s.Orderly none none past read) (call : s.calls[i]? = some c)
    (holds : c.stage.holdsFile = true) : (s.take i).IsFirst i c :=
  orderly.queues.holder i c call nofun holds

/-- A call that is at turn takes its step, and everything stays in order. -/
theorem step (orderly : s.Orderly none none past read) (ready : i ∈ s.ready) :
    ((s.take i).step i).InOrder past := by
  obtain ⟨-, c, call, unfinished⟩ := orderly.queues.ready_open i ready
  have here : (s.take i).calls[i]? = some c := call
  have rests := orderly.rests i c call nofun
  unfold Session.step
  rw [here]
  dsimp only
  cases stage : c.stage with
  | heldBack =>
    have acts := orderly.take_idle ready call (not_hasSlot (by rw [stage]; rfl))
    have outside (file : String) : i ∉ (s.take i).line file := by
      intro member
      obtain ⟨c', call', -, inside⟩ := orderly.queues.in_line file i member
      cases call.symm.trans call'
      have inside := inside nofun
      rw [stage] at inside
      cases inside
    dsimp only
    split
    · exact acts.joinLine outside
    · exact ⟨read, acts.moved _ rfl acts.engine
        (acts.queues.moveTo call (fun file member => absurd member (outside file)) nofun)
        (acts.slots.moveTo_idle call (not_hasSlot rfl)) trivial⟩
  | inLine =>
    have idle : ¬ s.HasSlot i c := by
      rintro (working | ⟨waits, -⟩)
      · rw [stage] at working
        cases working
      · rw [stage] at waits
        cases waits
    exact (orderly.take_idle ready call idle).enterFile (orderly.queues.called i ready c call stage)
  | waiting =>
    -- Whoever is in line for a slot is not at turn.
    have handed : s.HasSlot i c := Or.inr ⟨stage, fun waits => (orderly.queues.waiting _ i waits).2.1 ready⟩
    exact (orderly.take_busy ready call handed).enterSlot (orderly.isFirst call (by rw [stage]; rfl))
  | parsing since =>
    have working : s.HasSlot i c := Or.inl (by rw [stage]; rfl)
    exact (orderly.take_busy ready call working).parse (orderly.isFirst call (by rw [stage]; rfl)) since
  | detecting tree since =>
    have working : s.HasSlot i c := Or.inl (by rw [stage]; rfl)
    rw [stage] at rests
    exact (orderly.take_busy ready call working).search (orderly.isFirst call (by rw [stage]; rfl)) rests
      since _
  | refining tree since r =>
    rw [stage] at rests
    exact absurd rests id
  | finished result =>
    rw [stage] at unfinished
    cases unfinished

/-- The search for a call ends that ran aside. -/
theorem search (orderly : s.Orderly none none past read) (ready : i ∈ s.ready)
    (call : s.calls[i]? = some c) {tree : Tree} {since : Float} (stage : c.stage = .detecting tree since)
    (checkpoint : Detector.Checkpoint) : ((s.take i).search i c tree since checkpoint).InOrder past := by
  have working : s.HasSlot i c := Or.inl (by rw [stage]; rfl)
  have rests := orderly.rests i c call nofun
  rw [stage] at rests
  exact (orderly.take_busy ready call working).search (orderly.isFirst call (by rw [stage]; rfl)) rests since
    checkpoint

/-- A call begins that joins no line yet. -/
theorem opened (orderly : s.Orderly none none past read) (request : AnalysisRequest)
    (meanwhile : Meanwhile) (revision : Revision) (stage : CallStage) (outside : stage.isInFile = false)
    (rests : stage.Rests read) :
    (s.opened request meanwhile revision stage).Orderly none none past read where
  queues := orderly.queues.opened request meanwhile revision stage outside
  slots := orderly.slots.opened request meanwhile revision outside
  engine := orderly.engine
  config := by
    intro t c call
    by_cases new : t = s.calls.size
    · rw [new, getElem?_opened_self] at call
      cases call
      exact orderly.engine.config
    · rw [getElem?_opened_of_ne s new] at call
      exact orderly.config t c call
  rests := by
    intro t c call other
    by_cases new : t = s.calls.size
    · rw [new, getElem?_opened_self] at call
      cases call
      exact rests
    · rw [getElem?_opened_of_ne s new] at call
      exact orderly.rests t c call other
  read_for := by
    intro x member
    rcases orderly.read_for x member with before | ⟨t, c, call, about⟩
    · exact Or.inl before
    · have old : t ≠ s.calls.size := Nat.ne_of_lt (Array.getElem?_eq_some_iff.1 call).1
      refine Or.inr ⟨t, c, ?_, about⟩
      rw [getElem?_opened_of_ne s old]
      exact call

/-- A call whose text was recorded is held back or put in line. -/
theorem enter (orderly : s.Orderly none none past read) (request : AnalysisRequest) (meanwhile : Meanwhile)
    (revision : Revision) : (s.enter request meanwhile revision).InOrder past := by
  obtain ⟨rests, free, outside⟩ := orderly.queues.fresh
  unfold Session.enter
  split
  · exact ⟨read, orderly.opened request meanwhile revision _ rfl trivial⟩
  · have held := orderly.opened request meanwhile revision .heldBack rfl trivial
    have call := getElem?_opened_self s request meanwhile revision .heldBack
    dsimp only
    split
    · have woken := held.queues.wake call nofun rfl rests free nofun
      exact ⟨read, woken.congr rfl rfl rfl rfl, held.slots.congr_workspaces rfl rfl, held.engine,
        held.config, held.rests, held.read_for⟩
    · have acts : (s.opened request meanwhile revision .heldBack).Acts s.calls.size _ none past read :=
        ⟨⟨held.queues.borrow rests free, held.slots.borrow call (not_hasSlot rfl), held.engine, held.config,
          fun t c call _ => held.rests t c call nofun, held.read_for⟩, call⟩
      exact acts.joinLine outside

/-- The text of a call is recorded. -/
theorem accept (orderly : s.Orderly none none past read) (request : AnalysisRequest)
    (meanwhile : Meanwhile) : (s.accept request meanwhile).InOrder past := by
  have recorded : ({ s with engine := { s.engine with
      tracker := (s.engine.tracker.record request.file request.code request.ranges
        request.language).1 } } : Session σ).Orderly none none past read :=
    orderly.congr (orderly.engine.record ..) rfl rfl rfl rfl
  exact recorded.enter request meanwhile _

/-- A call begins. -/
theorem begin (orderly : s.Orderly none none past read) (request : AnalysisRequest)
    (meanwhile : Meanwhile) : (s.begin request meanwhile).InOrder past := by
  have same := s.sameWork_applyConfig
  have applied := orderly.congr orderly.engine.applyConfig same.calls same.ready same.lines same.workspaces
  unfold Session.begin
  dsimp only
  split
  · exact applied.accept request meanwhile
  · exact ⟨read, applied.opened request meanwhile _ _ rfl trivial⟩

end Orderly

def revisions (s : Session σ) : List Revision := s.calls.toList.map (·.revision)

def AllOver (s : Session σ) : Prop := ∀ c ∈ s.calls, c.stage.isFinished = true

/-- What can have happened in a session of an engine without a remote service. The past are the revisions of
earlier sessions. -/
inductive History : List Revision → Session σ → Prop where
  /-- An engine is started. It may be given a parser and a detector with other limits. -/
  | start {c : Config} (standalone : c.Standalone) {disk after : Disk} {e : Engine}
      {logs : List Log.Record} (started : Engine.start c disk = .ok (e, after, logs))
      (maxNodes memoLimit : Int) (clock : Float) (transport : Transport σ) (remote : σ) :
      History []
        (Engine.session
          { e with parser := { maxNodes }, detector := { Detector.standard with memoLimit } }
          clock transport remote)
  /-- Time goes by. -/
  | wait {past : List Revision} {s : Session σ} (before : History past s) (clock : Float) :
      History past { s with clock }
  /-- The configuration is changed. -/
  | configure {past : List Revision} {s : Session σ} (before : History past s) {c : Config}
      (standalone : c.Standalone) : History past { s with engine := { s.engine with config := c } }
  /-- What the user did is recorded. -/
  | checkAndRecord {past : List Revision} {s : Session σ} (before : History past s)
      (file identity : String) (action : NoticeAction) :
      History past { s with engine := (s.engine.checkAndRecord file identity action s.clock).1 }
  /-- A file is forgotten. -/
  | forget {past : List Revision} {s : Session σ} (before : History past s) (file : String) :
      History past { s with engine := s.engine.forget file }
  /-- An analysis begins. -/
  | begin {past : List Revision} {s : Session σ} (before : History past s) (request : AnalysisRequest)
      (meanwhile : Meanwhile) : History past (s.begin request meanwhile)
  /-- An analysis has its turn. -/
  | turn {past : List Revision} {s : Session σ} (before : History past s) {ticket : Nat}
      (ready : ticket ∈ s.ready) : History past ((s.take ticket).step ticket)
  /-- The search for an analysis ends that ran aside, with the answers it was given. -/
  | search {past : List Revision} {s : Session σ} (before : History past s) {ticket : Nat} {c : Call}
      {tree : Tree} {since : Float} (ready : ticket ∈ s.ready) (call : s.calls[ticket]? = some c)
      (stage : c.stage = .detecting tree since) (checkpoint : Detector.Checkpoint) :
      History past ((s.take ticket).search ticket c tree since checkpoint)
  /-- A new session is begun when all analyses are over. -/
  | renew {past : List Revision} {s : Session σ} (before : History past s) (closed : s.AllOver)
      (clock : Float) (transport : Transport σ) (remote : σ) :
      History (past ++ s.revisions) (s.engine.session clock transport remote)

end Session

/-- An engine whose slots are all free starts a session without calls. -/
theorem Engine.Intact.session {σ : Type} {e : Engine} {read : List Parsed} (intact : e.Intact read)
    (free : ∀ name, (e.scheduler.workspace name).waiters = [] ∧ (e.scheduler.workspace name).running = 0)
    {past : List Revision} (known : ∀ x ∈ read, x.1 ∈ past) (clock : Float) (transport : Transport σ)
    (remote : σ) : (e.session clock transport remote).Orderly none none past read := by
  have no_call {t : Nat} {c : Call} : (e.session clock transport remote).calls[t]? ≠ some c := nofun
  constructor
  case queues =>
    refine Session.queues_session (fun name => ?_) clock transport remote
    unfold Scheduler.tickets Workspace.tickets
    rw [(free name).1]
    rfl
  case slots =>
    constructor
    case live =>
      intro name
      change ∀ x ∈ (e.scheduler.workspace name).waiters, _
      rw [(free name).1]
      exact nofun
    case counted =>
      intro name
      refine ⟨[], List.nodup_nil, (free name).2.symm, fun t => ?_⟩
      rw [Session.occupies_none]
      exact ⟨nofun, fun ⟨c, call, _⟩ => absurd call no_call⟩
  case engine => exact intact
  case config => exact fun t c call => absurd call no_call
  case rests => exact fun t c call => absurd call no_call
  case read_for => exact fun x member => Or.inl (known x member)

namespace Session

variable {σ : Type} {s : Session σ} {past : List Revision}

/-- When all calls are over the engine can rely on what it remembers, and every slot is free. -/
theorem Orderly.rest {read : List Parsed} (orderly : s.Orderly none none past read) (closed : s.AllOver) :
    (∀ name, (s.engine.scheduler.workspace name).waiters = [] ∧
        (s.engine.scheduler.workspace name).running = 0) ∧
      ∀ x ∈ read, x.1 ∈ past ++ s.revisions := by
  refine ⟨orderly.slots.free orderly.queues fun t c call => closed c (Array.mem_of_getElem? call), ?_⟩
  intro x member
  rcases orderly.read_for x member with before | ⟨t, c, call, about⟩
  · exact List.mem_append_left _ before
  · rw [← about]
    exact List.mem_append_right _
      (List.mem_map_of_mem (Array.mem_toList_iff.2 (Array.mem_of_getElem? call)))

/-- Whatever has happened, everything is in order. -/
theorem History.inOrder (history : s.History past) : s.InOrder past := by
  induction history with
  | start standalone started maxNodes memoLimit clock transport remote =>
    have unused := (Engine.isNew_of_start started).workspaces
    refine ⟨[], (Engine.intact_of_start standalone started maxNodes memoLimit).session ?_ nofun clock
      transport remote⟩
    intro name
    unfold Scheduler.workspace
    dsimp only
    rw [unused]
    exact ⟨rfl, rfl⟩
  | wait before clock ih =>
    obtain ⟨read, orderly⟩ := ih
    exact ⟨read, orderly.congr orderly.engine rfl rfl rfl rfl⟩
  | configure before standalone ih =>
    obtain ⟨read, orderly⟩ := ih
    exact ⟨read, orderly.congr (orderly.engine.configure standalone) rfl rfl rfl rfl⟩
  | checkAndRecord before file identity action ih =>
    obtain ⟨read, orderly⟩ := ih
    exact ⟨read, orderly.congr (orderly.engine.checkAndRecord file identity action _) rfl rfl rfl
      (congrArg Scheduler.workspaces (Engine.scheduler_checkAndRecord ..))⟩
  | forget before file ih =>
    obtain ⟨read, orderly⟩ := ih
    exact ⟨read, orderly.congr (orderly.engine.forget file) rfl rfl rfl rfl⟩
  | begin before request meanwhile ih =>
    obtain ⟨read, orderly⟩ := ih
    exact orderly.begin request meanwhile
  | turn before ready ih =>
    obtain ⟨read, orderly⟩ := ih
    exact orderly.step ready
  | search before ready call stage checkpoint ih =>
    obtain ⟨read, orderly⟩ := ih
    exact orderly.search ready call stage checkpoint
  | renew before closed clock transport remote ih =>
    obtain ⟨read, orderly⟩ := ih
    obtain ⟨free, known⟩ := orderly.rest closed
    exact ⟨read, orderly.engine.session free known clock transport remote⟩

end Session

end LiveLint
