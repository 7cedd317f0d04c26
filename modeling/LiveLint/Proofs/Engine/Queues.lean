import LiveLint.Proofs.Engine.Moves
import LiveLint.Proofs.Schedule.Slots

/-!
# Turns, lines and slots

The order among the calls of a session. A call is in the line of its file from when it joins it until
it is over, and only the first one in line may wait for a slot or work. A call in line gets its turn
when it has become the first one, and a call that waits for a slot gets it together with the slot.

While a call takes its step it is neither at turn nor waiting for a slot, and its stage says nothing.
-/

namespace LiveLint.Session

variable {σ : Type}

def line (s : Session σ) (file : String) : List Nat := (s.lines.get? file).getD []

/-- The order among calls, with the exception of one that takes its step. -/
structure Queues (actor : Option Nat) (s : Session σ) : Prop where
  ready_nodup : s.ready.Nodup
  ready_open : ∀ t ∈ s.ready, some t ≠ actor ∧ ∃ c, s.calls[t]? = some c ∧ c.stage.isFinished = false
  line_nodup : ∀ file, (s.line file).Nodup
  in_line : ∀ file, ∀ t ∈ s.line file,
    ∃ c, s.calls[t]? = some c ∧ c.request.file = file ∧ (some t ≠ actor → c.stage.isInFile = true)
  holder : ∀ t c, s.calls[t]? = some c → some t ≠ actor → c.stage.holdsFile = true →
    (s.line c.request.file).head? = some t
  called : ∀ t ∈ s.ready, ∀ c, s.calls[t]? = some c → c.stage = .inLine →
    (s.line c.request.file).head? = some t
  tickets_nodup : ∀ name, (s.engine.scheduler.tickets name).Nodup
  waiting : ∀ name, ∀ t ∈ s.engine.scheduler.tickets name,
    some t ≠ actor ∧ t ∉ s.ready ∧
      ∃ c, s.calls[t]? = some c ∧ c.request.workspace = name ∧ c.stage = .waiting

/-- A session begins without calls, so nothing waits in it if nobody waits for a slot of its engine. -/
theorem queues_session {e : Engine} (nobody : ∀ name, e.scheduler.tickets name = []) (clock : Float)
    (transport : Transport σ) (remote : σ) : (e.session clock transport remote).Queues none := by
  have no_call {t : Nat} {c : Call} : (e.session clock transport remote).calls[t]? ≠ some c := nofun
  constructor
  case ready_nodup => exact List.nodup_nil
  case ready_open => exact nofun
  case line_nodup => exact fun _ => List.nodup_nil
  case in_line => exact nofun
  case holder => exact fun t c call => absurd call no_call
  case called => exact nofun
  case tickets_nodup =>
    intro name
    change (e.scheduler.tickets name).Nodup
    rw [nobody]
    exact List.nodup_nil
  case waiting =>
    intro name t member
    change t ∈ e.scheduler.tickets name at member
    rw [nobody] at member
    cases member

theorem line_congr {s s' : Session σ} (same : s'.lines = s.lines) (file : String) :
    s'.line file = s.line file := by
  unfold line
  rw [same]

theorem line_set_self (s : Session σ) (file : String) (tickets : List Nat) :
    Session.line { s with lines := s.lines.set file tickets } file = tickets := by
  simp only [line, Table.get?_set_self, Option.getD_some]

theorem line_set_of_ne (s : Session σ) {file other : String} (tickets : List Nat) (ne : other ≠ file) :
    Session.line { s with lines := s.lines.set file tickets } other = s.line other := by
  simp only [line, Table.get?_set_of_ne _ _ ne]

theorem get?_of_line {s : Session σ} {file : String} {t : Nat} {rest : List Nat}
    (line : s.line file = t :: rest) : s.lines.get? file = some (t :: rest) := by
  unfold Session.line at line
  cases found : s.lines.get? file with
  | none =>
    rw [found] at line
    cases line
  | some tickets =>
    rw [found] at line
    exact congrArg some line

/-- Nothing but the turns changes when the next one has its turn, if there is one. -/
theorem wake_next (s : Session σ) (next : Option Nat) :
    (next.map s.wake).getD s = { s with ready := s.ready ++ next.toList } := by
  cases next with
  | none => rw [Option.toList_none, List.append_nil, Option.map_none, Option.getD_none]
  | some t => rfl

theorem getElem?_moveTo_self {s : Session σ} {i : Nat} {c : Call} (call : s.calls[i]? = some c)
    (stage : CallStage) : (s.moveTo i stage).calls[i]? = some { c with stage } := by
  simp only [moveTo, update, Array.getElem?_modify, call, if_true, Option.map_some]

theorem getElem?_moveTo_of_ne (s : Session σ) {i t : Nat} (ne : t ≠ i) (stage : CallStage) :
    (s.moveTo i stage).calls[t]? = s.calls[t]? := by
  simp only [moveTo, update, Array.getElem?_modify, if_neg (Ne.symm ne)]

/-- A call that leaves the front of a line leaves the rest of it. -/
theorem line_leaveLine_self (s : Session σ) (file : String) :
    (s.leaveLine file).line file = (s.line file).tail := by
  unfold leaveLine line
  split
  · next first next rest found =>
    simp only [wake, found, Table.get?_set_self, Option.getD_some, List.tail_cons]
  · next short =>
    simp only [Table.get?_erase_self, Option.getD_none]
    cases found : s.lines.get? file with
    | none => rfl
    | some tickets =>
      match tickets, found with
      | [], _ => rfl
      | [_], _ => rfl
      | first :: next :: rest, found => exact absurd found (short first next rest)

theorem line_leaveLine_of_ne (s : Session σ) {file other : String} (ne : other ≠ file) :
    (s.leaveLine file).line other = s.line other := by
  unfold leaveLine line
  split
  · simp only [wake, Table.get?_set_of_ne _ _ ne]
  · simp only [Table.get?_erase_of_ne _ ne]

theorem getElem?_opened_self (s : Session σ) (request : AnalysisRequest) (meanwhile : Meanwhile)
    (revision : Revision) (stage : CallStage) :
    (s.opened request meanwhile revision stage).calls[s.calls.size]? =
      some { request, meanwhile, config := s.engine.config, revision, stage } :=
  Array.getElem?_push_size

theorem getElem?_opened_of_ne (s : Session σ) {t : Nat} (ne : t ≠ s.calls.size)
    (request : AnalysisRequest) (meanwhile : Meanwhile) (revision : Revision) (stage : CallStage) :
    (s.opened request meanwhile revision stage).calls[t]? = s.calls[t]? := by
  simp only [opened, Array.getElem?_push, if_neg ne]

theorem calls_leaveLine (s : Session σ) (file : String) : (s.leaveLine file).calls = s.calls := by
  unfold leaveLine
  split <;> rfl

theorem engine_leaveLine (s : Session σ) (file : String) : (s.leaveLine file).engine = s.engine := by
  unfold leaveLine
  split <;> rfl

namespace Queues

variable {s s' : Session σ} {actor : Option Nat} {i : Nat} {c : Call}

theorem congr (queues : s.Queues actor) (calls : s'.calls = s.calls) (ready : s'.ready = s.ready)
    (lines : s'.lines = s.lines)
    (workspaces : s'.engine.scheduler.workspaces = s.engine.scheduler.workspaces) :
    s'.Queues actor where
  ready_nodup := by
    rw [ready]
    exact queues.ready_nodup
  ready_open := by
    rw [ready, calls]
    exact queues.ready_open
  line_nodup file := by
    rw [line_congr lines]
    exact queues.line_nodup file
  in_line file := by
    rw [line_congr lines, calls]
    exact queues.in_line file
  holder t c := by
    rw [line_congr lines, calls]
    exact queues.holder t c
  called := by
    rw [ready, calls]
    intro t ready c
    rw [line_congr lines]
    exact queues.called t ready c
  tickets_nodup name := by
    rw [Scheduler.tickets_congr workspaces]
    exact queues.tickets_nodup name
  waiting name := by
    rw [Scheduler.tickets_congr workspaces, ready, calls]
    exact queues.waiting name

/-- A call that is at turn takes its step. -/
theorem take (queues : s.Queues none) (ready : i ∈ s.ready) : (s.take i).Queues (some i) where
  ready_nodup := queues.ready_nodup.erase i
  ready_open := by
    intro t member
    obtain ⟨ne, before⟩ := (queues.ready_nodup.mem_erase_iff).1 member
    exact ⟨fun same => ne (Option.some.inj same), (queues.ready_open t before).2⟩
  line_nodup := queues.line_nodup
  in_line := by
    intro file t member
    obtain ⟨c, call, filed, stage⟩ := queues.in_line file t member
    exact ⟨c, call, filed, fun _ => stage (by simp)⟩
  holder t c call _ := queues.holder t c call (by simp)
  called t member := queues.called t (List.mem_of_mem_erase member)
  tickets_nodup := queues.tickets_nodup
  waiting := by
    intro name t member
    obtain ⟨_, rests, c, call, workspace, stage⟩ := queues.waiting name t member
    refine ⟨?_, fun again => rests (List.mem_of_mem_erase again), c, call, workspace, stage⟩
    intro same
    cases same
    exact rests ready

/-- A call that takes its step is not at turn. -/
theorem not_ready (queues : s.Queues (some i)) : i ∉ s.ready := by
  intro member
  exact (queues.ready_open i member).1 rfl

/-- A call that takes its step does not wait for a slot. -/
theorem not_waiting (queues : s.Queues (some i)) (name : String) :
    i ∉ s.engine.scheduler.tickets name := by
  intro member
  exact (queues.waiting name i member).1 rfl

/-- A call that takes its step has left its stage for another one. -/
theorem moveTo (queues : s.Queues (some i)) (call : s.calls[i]? = some c) {stage : CallStage}
    (inside : ∀ file, i ∈ s.line file → stage.isInFile = true)
    (first : stage.holdsFile = true → (s.line c.request.file).head? = some i) :
    (s.moveTo i stage).Queues none where
  ready_nodup := queues.ready_nodup
  ready_open := by
    intro t member
    obtain ⟨other, open'⟩ := queues.ready_open t member
    refine ⟨by simp, ?_⟩
    rw [getElem?_moveTo_of_ne s (fun same => other (congrArg some same))]
    exact open'
  line_nodup := queues.line_nodup
  in_line := by
    intro file t member
    obtain ⟨c', call', filed, stage'⟩ := queues.in_line file t member
    by_cases same : t = i
    · subst t
      rw [call] at call'
      cases call'
      exact ⟨_, getElem?_moveTo_self call stage, filed, fun _ => inside file member⟩
    · rw [getElem?_moveTo_of_ne s same]
      exact ⟨c', call', filed, fun _ => stage' (fun eq => same (Option.some.inj eq))⟩
  holder := by
    intro t c' call' _ holds
    by_cases same : t = i
    · subst t
      rw [getElem?_moveTo_self call] at call'
      cases call'
      exact first holds
    · rw [getElem?_moveTo_of_ne s same] at call'
      exact queues.holder t c' call' (fun eq => same (Option.some.inj eq)) holds
  called := by
    intro t member c' call' stage'
    have same : t ≠ i := by
      rintro rfl
      exact queues.not_ready member
    rw [getElem?_moveTo_of_ne s same] at call'
    exact queues.called t member c' call' stage'
  tickets_nodup := queues.tickets_nodup
  waiting := by
    intro name t member
    obtain ⟨other, rests, waits⟩ := queues.waiting name t member
    refine ⟨by simp, rests, ?_⟩
    rw [getElem?_moveTo_of_ne s (fun same => other (congrArg some same))]
    exact waits

/-- A call gets a turn. -/
theorem wake (queues : s.Queues actor) (call : s.calls[i]? = some c) (other : some i ≠ actor)
    (unfinished : c.stage.isFinished = false) (rests : i ∉ s.ready)
    (free : ∀ name, i ∉ s.engine.scheduler.tickets name)
    (first : c.stage = .inLine → (s.line c.request.file).head? = some i) :
    (s.wake i).Queues actor where
  ready_nodup := by
    refine List.nodup_append.2 ⟨queues.ready_nodup, List.pairwise_singleton _ i, ?_⟩
    rintro t member u single rfl
    rw [List.mem_singleton.1 single] at member
    exact rests member
  ready_open := by
    intro t member
    rcases List.mem_append.1 member with before | new
    · exact queues.ready_open t before
    · rw [List.mem_singleton.1 new]
      exact ⟨other, c, call, unfinished⟩
  line_nodup := queues.line_nodup
  in_line := queues.in_line
  holder := queues.holder
  called := by
    intro t member c' call' stage
    rcases List.mem_append.1 member with before | new
    · exact queues.called t before c' call' stage
    · rw [List.mem_singleton.1 new] at call' ⊢
      have same : some c = some c' := call.symm.trans call'
      cases same
      exact first stage
  tickets_nodup := queues.tickets_nodup
  waiting := by
    intro name t member
    obtain ⟨ne, asleep, waits⟩ := queues.waiting name t member
    refine ⟨ne, ?_, waits⟩
    intro again
    rcases List.mem_append.1 again with before | new
    · exact asleep before
    · rw [List.mem_singleton.1 new] at member
      exact free name member

/-- Only the call in front of a line was called, so the one behind it rests there. -/
theorem behind_rests (queues : s.Queues (some i)) {file : String} {t : Nat} {rest : List Nat}
    (line : s.line file = i :: t :: rest) :
    some t ≠ some i ∧ t ∉ s.ready ∧
      ∃ c, s.calls[t]? = some c ∧ c.request.file = file ∧ c.stage = .inLine := by
  have unique := queues.line_nodup file
  rw [line, List.nodup_cons] at unique
  have other : some t ≠ some i := by
    intro same
    exact unique.1 (Option.some.inj same ▸ List.mem_cons_self)
  obtain ⟨c, call, filed, inside⟩ :=
    queues.in_line file t (line ▸ List.mem_cons_of_mem i List.mem_cons_self)
  have not_first : (s.line c.request.file).head? ≠ some t := by
    rw [filed, line, List.head?_cons]
    exact Ne.symm other
  have stage : c.stage = .inLine := by
    have free : c.stage.holdsFile = false :=
      Bool.eq_false_iff.2 fun holds => not_first (queues.holder t c call other holds)
    have waits := inside other
    unfold CallStage.isInFile at waits
    split at waits
    · next is => exact is
    · rw [free] at waits
      cases waits
  exact ⟨other, fun again => not_first (queues.called t again c call stage), c, call, filed, stage⟩

/-- The first call in a line is taken out of it. -/
theorem cutLine (queues : s.Queues (some i)) {file : String} {rest : List Nat}
    (line : s.line file = i :: rest) (calls : s'.calls = s.calls) (ready : s'.ready = s.ready)
    (engine : s'.engine = s.engine) (front : s'.line file = rest)
    (others : ∀ other, other ≠ file → s'.line other = s.line other) : s'.Queues (some i) := by
  have still_first {t : Nat} {c : Call} (other : some t ≠ some i)
      (before : (s.line c.request.file).head? = some t) :
      (s'.line c.request.file).head? = some t := by
    have elsewhere : c.request.file ≠ file := by
      intro same
      rw [same, line, List.head?_cons] at before
      exact other before.symm
    rw [others c.request.file elsewhere]
    exact before
  constructor
  case ready_nodup =>
    rw [ready]
    exact queues.ready_nodup
  case ready_open =>
    rw [ready, calls]
    exact queues.ready_open
  case line_nodup =>
    intro other
    by_cases same : other = file
    · have unique := queues.line_nodup file
      rw [line] at unique
      rw [same, front]
      exact unique.of_cons
    · rw [others other same]
      exact queues.line_nodup other
  case in_line =>
    intro other t member
    rw [calls]
    by_cases same : other = file
    · rw [same, front] at member
      rw [same]
      exact queues.in_line file t (line ▸ List.mem_cons_of_mem i member)
    · rw [others other same] at member
      exact queues.in_line other t member
  case holder =>
    rw [calls]
    intro t c call other holds
    exact still_first other (queues.holder t c call other holds)
  case called =>
    rw [ready, calls]
    intro t member c call stage
    exact still_first (queues.ready_open t member).1 (queues.called t member c call stage)
  case tickets_nodup =>
    rw [engine]
    exact queues.tickets_nodup
  case waiting =>
    rw [engine, ready, calls]
    exact queues.waiting

/-- The first call in the line of its file leaves it, and the next one has its turn. -/
theorem leaveLine (queues : s.Queues (some i)) {file : String}
    (first : (s.line file).head? = some i) : (s.leaveLine file).Queues (some i) := by
  obtain ⟨rest, line⟩ : ∃ rest, s.line file = i :: rest := List.head?_eq_some_iff.1 first
  have found : s.lines.get? file = some (i :: rest) := get?_of_line line
  cases rest with
  | nil =>
    have alone : s.leaveLine file = { s with lines := s.lines.erase file } := by
      simp only [Session.leaveLine, found]
    have front := line_leaveLine_self s file
    rw [line] at front
    rw [alone] at front ⊢
    refine queues.cutLine line rfl rfl rfl front fun other ne => ?_
    rw [← alone]
    exact line_leaveLine_of_ne s ne
  | cons next rest =>
    obtain ⟨other, rests, c, call, filed, stage⟩ := queues.behind_rests line
    have followed : s.leaveLine file =
        ({ s with lines := s.lines.set file (next :: rest) } : Session σ).wake next := by
      simp only [Session.leaveLine, found]
    have front := line_leaveLine_self s file
    rw [line] at front
    have apart (other : String) (ne : other ≠ file) := line_leaveLine_of_ne s ne
    rw [followed] at front apart ⊢
    have cut : ({ s with lines := s.lines.set file (next :: rest) } : Session σ).Queues (some i) :=
      queues.cutLine line rfl rfl rfl front apart
    refine cut.wake call other (by rw [stage]; rfl) rests ?_ ?_
    · intro name waits
      obtain ⟨-, -, c', call', -, stage'⟩ := queues.waiting name next waits
      rw [call] at call'
      cases call'
      rw [stage] at stage'
      cases stage'
    · intro _
      rw [filed]
      exact congrArg List.head? front

/-- A call that has left the front of its line is in no line. -/
theorem outside_leaveLine (queues : s.Queues (some i)) (call : s.calls[i]? = some c)
    (first : (s.line c.request.file).head? = some i) (file : String) :
    i ∉ (s.leaveLine c.request.file).line file := by
  intro member
  by_cases same : file = c.request.file
  · obtain ⟨rest, line⟩ := List.head?_eq_some_iff.1 first
    have unique := queues.line_nodup c.request.file
    rw [line, List.nodup_cons] at unique
    rw [same, line_leaveLine_self, line, List.tail_cons] at member
    exact unique.1 member
  · rw [line_leaveLine_of_ne s same] at member
    obtain ⟨c', call', filed, -⟩ := queues.in_line file i member
    rw [call] at call'
    cases call'
    exact same filed.symm

/-- The first call in the line of its file works, and has another turn when that ends. -/
theorem goOn (queues : s.Queues (some i)) (call : s.calls[i]? = some c)
    (first : (s.line c.request.file).head? = some i) {stage : CallStage}
    (running : stage.isRunning = true) : (s.goOn i stage).Queues none := by
  have holds : stage.holdsFile = true := by
    cases stage <;> first | rfl | exact running
  have inside : stage.isInFile = true := by
    cases stage <;> first | rfl | exact holds
  have unfinished : stage.isFinished = false := by
    cases stage <;> first | rfl | cases running
  refine (queues.moveTo call (fun _ _ => inside) (fun _ => first)).wake
    (getElem?_moveTo_self call stage) (by simp) unfinished queues.not_ready queues.not_waiting ?_
  rintro (rfl : stage = .inLine)
  cases running

/-- The first call in the line of its file is over and leaves the line. -/
theorem finished (queues : s.Queues (some i)) (call : s.calls[i]? = some c)
    (first : (s.line c.request.file).head? = some i) (result : Except Fault AnalysisResult) :
    ((s.leaveLine c.request.file).moveTo i (.finished result)).Queues none := by
  refine (queues.leaveLine first).moveTo (c := c) ?_ ?_ ?_
  · rw [calls_leaveLine]
    exact call
  · intro file member
    exact absurd member (queues.outside_leaveLine call first file)
  · intro holds
    cases holds

/-- Slots may be dealt with as long as nobody joins a line for them. -/
theorem reschedule (queues : s.Queues actor) {scheduler : Scheduler Number}
    (shorter : ∀ name, scheduler.tickets name <:+ s.engine.scheduler.tickets name) :
    Queues actor { s with engine := { s.engine with scheduler } } :=
  { queues with
    line_nodup := queues.line_nodup
    in_line := queues.in_line
    holder := queues.holder
    called := queues.called
    tickets_nodup := fun name => (queues.tickets_nodup name).sublist (shorter name).sublist
    waiting := fun name t member => queues.waiting name t ((shorter name).subset member) }

/-- A slot is given back, and the call that gets it has its turn. -/
theorem release (queues : s.Queues (some i)) (name : String) (latency : Option Number)
    {out : Scheduler.Release Number} (released : s.engine.scheduler.release name latency = out)
    {after : Session σ}
    (set : after = { s with engine := { s.engine with scheduler := out.scheduler } }) :
    ((out.next.map after.wake).getD after).Queues (some i) := by
  have effect := s.engine.scheduler.tickets_release name latency
  rw [released] at effect
  obtain ⟨taken, others⟩ := effect
  have shorter (other : String) :
      out.scheduler.tickets other <:+ s.engine.scheduler.tickets other := by
    by_cases same : other = name
    · rw [same]
      exact (List.suffix_append _ _).trans taken
    · exact (others other same).symm ▸ List.suffix_refl _
  have passed : after.Queues (some i) := set ▸ queues.reschedule shorter
  cases next : out.next with
  | none => exact passed
  | some t =>
    rw [next, Option.toList_some, List.singleton_append] at taken
    have waited : t ∈ s.engine.scheduler.tickets name := taken.subset (List.mem_cons_self ..)
    obtain ⟨other, rests, c, call, workspace, stage⟩ := queues.waiting name t waited
    have gone (place : String) : t ∉ out.scheduler.tickets place := by
      intro member
      by_cases same : place = name
      · have unique := (queues.tickets_nodup name).sublist taken.sublist
        rw [same] at member
        exact (List.nodup_cons.1 unique).1 member
      · obtain ⟨-, -, c', call', workspace', -⟩ := queues.waiting place t ((shorter place).subset member)
        rw [call] at call'
        cases call'
        exact same (workspace'.symm.trans workspace)
    subst set
    refine passed.wake call other ?_ rests gone ?_
    · rw [stage]
      rfl
    · intro waits
      rw [stage] at waits
      cases waits

/-- The first call in the line of its file has to wait for a slot. -/
theorem queued (queues : s.Queues (some i)) (call : s.calls[i]? = some c)
    (first : (s.line c.request.file).head? = some i) {scheduler : Scheduler Number}
    (joined : scheduler.tickets c.request.workspace =
      s.engine.scheduler.tickets c.request.workspace ++ [i])
    (others : ∀ name, name ≠ c.request.workspace →
      scheduler.tickets name = s.engine.scheduler.tickets name) :
    (Session.moveTo { s with engine := { s.engine with scheduler } } i .waiting).Queues none := by
  have moved : (s.moveTo i .waiting).Queues none :=
    queues.moveTo call (fun _ _ => rfl) (fun _ => first)
  refine
    { ready_nodup := moved.ready_nodup
      ready_open := moved.ready_open
      line_nodup := moved.line_nodup
      in_line := moved.in_line
      holder := moved.holder
      called := moved.called
      tickets_nodup := ?_
      waiting := ?_ }
  · intro name
    by_cases same : name = c.request.workspace
    · change (scheduler.tickets name).Nodup
      rw [same, joined]
      refine List.nodup_append.2 ⟨queues.tickets_nodup _, List.pairwise_singleton _ i, ?_⟩
      rintro t member u single rfl
      rw [List.mem_singleton.1 single] at member
      exact queues.not_waiting _ member
    · change (scheduler.tickets name).Nodup
      rw [others name same]
      exact queues.tickets_nodup name
  · intro name t member
    change t ∈ scheduler.tickets name at member
    by_cases same : name = c.request.workspace
    · rw [same, joined] at member
      rw [same]
      rcases List.mem_append.1 member with before | new
      · exact moved.waiting _ t before
      · rw [List.mem_singleton.1 new]
        exact ⟨by simp, queues.not_ready, _, getElem?_moveTo_self call _, rfl, rfl⟩
    · rw [others name same] at member
      exact moved.waiting name t member

/-- A call that was in no line joins the one of its file. -/
theorem joinLine (queues : s.Queues (some i)) (call : s.calls[i]? = some c)
    (outside : ∀ file, i ∉ s.line file) :
    Queues (some i)
      { s with lines := s.lines.set c.request.file (s.line c.request.file ++ [i]) } := by
  have here := s.line_set_self c.request.file (s.line c.request.file ++ [i])
  have elsewhere {file : String} (ne : file ≠ c.request.file) :=
    s.line_set_of_ne (s.line c.request.file ++ [i]) ne
  have still_first {t : Nat} {file : String} (before : (s.line file).head? = some t) : (Session.line
      { s with lines := s.lines.set c.request.file (s.line c.request.file ++ [i]) } file).head? =
        some t := by
    by_cases same : file = c.request.file
    · rw [same] at before ⊢
      rw [here, List.head?_append, before, Option.some_or]
    · rw [elsewhere same]
      exact before
  refine
    { ready_nodup := queues.ready_nodup
      ready_open := queues.ready_open
      line_nodup := ?_
      in_line := ?_
      holder := fun t c call other holds => still_first (queues.holder t c call other holds)
      called := fun t ready c call stage => still_first (queues.called t ready c call stage)
      tickets_nodup := queues.tickets_nodup
      waiting := queues.waiting }
  · intro file
    by_cases same : file = c.request.file
    · rw [same, here]
      refine List.nodup_append.2 ⟨queues.line_nodup _, List.pairwise_singleton _ i, ?_⟩
      rintro t member u single rfl
      rw [List.mem_singleton.1 single] at member
      exact outside _ member
    · rw [elsewhere same]
      exact queues.line_nodup file
  · intro file t member
    by_cases same : file = c.request.file
    · rw [same, here] at member
      rcases List.mem_append.1 member with before | new
      · rw [same]
        exact queues.in_line _ t before
      · rw [List.mem_singleton.1 new]
        exact ⟨c, call, same.symm, fun other => absurd rfl other⟩
    · rw [elsewhere same] at member
      exact queues.in_line file t member

/-- A call begins that joins no line yet. -/
theorem opened (queues : s.Queues none) (request : AnalysisRequest) (meanwhile : Meanwhile)
    (revision : Revision) (stage : CallStage) (outside : stage.isInFile = false) :
    (s.opened request meanwhile revision stage).Queues none := by
  have old {t : Nat} {c : Call} (call : s.calls[t]? = some c) :
      (s.opened request meanwhile revision stage).calls[t]? = some c := by
    have bound : t < s.calls.size := (Array.getElem?_eq_some_iff.1 call).1
    rw [getElem?_opened_of_ne s (Nat.ne_of_lt bound)]
    exact call
  have free : stage.holdsFile = false := by
    cases stage <;> first | rfl | exact outside
  have ready_old {t : Nat} (member : t ∈ s.ready) : t ≠ s.calls.size := by
    obtain ⟨-, c, call, -⟩ := queues.ready_open t member
    exact Nat.ne_of_lt (Array.getElem?_eq_some_iff.1 call).1
  constructor
  case ready_nodup => exact queues.ready_nodup
  case ready_open =>
    intro t member
    obtain ⟨other, c, call, unfinished⟩ := queues.ready_open t member
    exact ⟨other, c, old call, unfinished⟩
  case line_nodup => exact queues.line_nodup
  case in_line =>
    intro file t member
    obtain ⟨c, call, filed, inside⟩ := queues.in_line file t member
    exact ⟨c, old call, filed, inside⟩
  case holder =>
    intro t c call other holds
    by_cases new : t = s.calls.size
    · rw [new, getElem?_opened_self] at call
      cases call
      rw [free] at holds
      cases holds
    · rw [getElem?_opened_of_ne s new] at call
      exact queues.holder t c call other holds
  case called =>
    intro t member c call
    rw [getElem?_opened_of_ne s (ready_old member)] at call
    exact queues.called t member c call
  case tickets_nodup => exact queues.tickets_nodup
  case waiting =>
    intro name t member
    obtain ⟨other, rests, c, call, waits⟩ := queues.waiting name t member
    exact ⟨other, rests, c, old call, waits⟩

/-- A call that neither is at turn nor waits for a slot may take a step. -/
theorem borrow (queues : s.Queues none) (rests : i ∉ s.ready)
    (free : ∀ name, i ∉ s.engine.scheduler.tickets name) : s.Queues (some i) where
  ready_nodup := queues.ready_nodup
  ready_open := by
    intro t member
    refine ⟨?_, (queues.ready_open t member).2⟩
    intro same
    cases same
    exact rests member
  line_nodup := queues.line_nodup
  in_line := by
    intro file t member
    obtain ⟨c, call, filed, inside⟩ := queues.in_line file t member
    exact ⟨c, call, filed, fun _ => inside (by simp)⟩
  holder t c call _ := queues.holder t c call (by simp)
  called := queues.called
  tickets_nodup := queues.tickets_nodup
  waiting := by
    intro name t member
    obtain ⟨-, asleep, waits⟩ := queues.waiting name t member
    refine ⟨?_, asleep, waits⟩
    intro same
    cases same
    exact free name member

/-- Nobody has a ticket that is not given out yet. -/
theorem fresh (queues : s.Queues none) :
    s.calls.size ∉ s.ready ∧ (∀ name, s.calls.size ∉ s.engine.scheduler.tickets name) ∧
      ∀ file, s.calls.size ∉ s.line file := by
  have unknown {c : Call} (call : s.calls[s.calls.size]? = some c) : False := by
    rw [Array.getElem?_size] at call
    cases call
  refine ⟨?_, ?_, ?_⟩
  · intro member
    obtain ⟨-, c, call, -⟩ := queues.ready_open _ member
    exact unknown call
  · intro name member
    obtain ⟨-, -, c, call, -⟩ := queues.waiting name _ member
    exact unknown call
  · intro file member
    obtain ⟨c, call, -⟩ := queues.in_line file _ member
    exact unknown call

end Queues

end LiveLint.Session
