import LiveLint.Proofs.Engine.Queues

/-!
# Who has a slot

The slots of a workspace that are in use belong to calls: to those that work, and to those that were handed
a slot while they waited and have not had their turn since. So when all calls are over every slot is free and
nobody waits for one.

Of a call that takes its step the stage says nothing. `busy` is the workspace of which it has a slot then.
-/

namespace LiveLint

/-- Where nobody was given up, all who are in line wait. -/
theorem Workspace.waiting_of_live {α : Type} {w : Workspace α} (live : ∀ x ∈ w.waiters, x.live = true) :
    w.waiting = w.tickets := by
  unfold waiting tickets
  rw [List.filter_eq_self.2 live]

/-- Where everybody has a ticket and there is none, nobody is in line. -/
theorem Workspace.waiters_of_tickets {α : Type} {w : Workspace α}
    (known : ∀ x ∈ w.waiters, x.ticket.isSome = true) (empty : w.tickets = []) : w.waiters = [] := by
  cases line : w.waiters with
  | nil => rfl
  | cons x rest =>
    have first : x ∈ w.waiters := line ▸ List.mem_cons_self
    obtain ⟨ticket, name⟩ := Option.isSome_iff_exists.1 (known x first)
    have member : ticket ∈ w.tickets := List.mem_filterMap.2 ⟨x, first, name⟩
    rw [empty] at member
    cases member

namespace Session

variable {σ : Type}

/-- A call has a slot: it works, or it was handed one while it waited. -/
def HasSlot (s : Session σ) (t : Nat) (c : Call) : Prop :=
  c.stage.isRunning = true ∨
    c.stage = .waiting ∧ t ∉ s.engine.scheduler.tickets c.request.workspace

/-- A call that is neither in line for its file nor works on it has no slot. -/
theorem not_hasSlot {s : Session σ} {t : Nat} {c : Call} (outside : c.stage.isInFile = false) :
    ¬ s.HasSlot t c := by
  have still : c.stage.isRunning = false := by
    generalize c.stage = stage at outside
    cases stage <;> first | rfl | exact outside
  rintro (working | ⟨waits, -⟩)
  · rw [still] at working
    cases working
  · rw [waits] at outside
    cases outside

/-- The call with a ticket has a slot of a workspace. -/
def Occupies (actor : Option Nat) (busy : Option String) (s : Session σ) (name : String) (t : Nat) :
    Prop :=
  if some t = actor then busy = some name
  else ∃ c, s.calls[t]? = some c ∧ c.request.workspace = name ∧ s.HasSlot t c

/-- Nobody in line was given up, and the slots in use are those of calls. -/
structure Slots (actor : Option Nat) (busy : Option String) (s : Session σ) : Prop where
  live : ∀ name, ∀ x ∈ (s.engine.scheduler.workspace name).waiters,
    x.live = true ∧ x.ticket.isSome = true
  counted : ∀ name, ∃ holders : List Nat, holders.Nodup ∧
    holders.length = (s.engine.scheduler.workspace name).running ∧
    ∀ t, t ∈ holders ↔ s.Occupies actor busy name t

theorem occupies_actor {s : Session σ} {i : Nat} {busy : Option String} {name : String} :
    s.Occupies (some i) busy name i ↔ busy = some name := by
  unfold Occupies
  rw [if_pos rfl]

theorem occupies_of_ne {s : Session σ} {actor : Option Nat} {busy : Option String} {name : String}
    {t : Nat} (other : some t ≠ actor) : s.Occupies actor busy name t ↔
      ∃ c, s.calls[t]? = some c ∧ c.request.workspace = name ∧ s.HasSlot t c := by
  unfold Occupies
  rw [if_neg other]

theorem occupies_none {s : Session σ} {busy : Option String} {name : String} {t : Nat} :
    s.Occupies none busy name t ↔
      ∃ c, s.calls[t]? = some c ∧ c.request.workspace = name ∧ s.HasSlot t c :=
  occupies_of_ne (Option.some_ne_none t)

namespace Slots

variable {s s' : Session σ} {actor : Option Nat} {busy : Option String} {i : Nat} {c : Call}

theorem waiting_eq (slots : s.Slots actor busy) (name : String) :
    (s.engine.scheduler.workspace name).waiting = s.engine.scheduler.tickets name :=
  Workspace.waiting_of_live fun x member => (slots.live name x member).1

/-- Nothing about slots depends on anything but the calls and the workspaces. -/
theorem congr (slots : s.Slots actor busy) (calls : s'.calls = s.calls)
    (waiters : ∀ name, (s'.engine.scheduler.workspace name).waiters =
      (s.engine.scheduler.workspace name).waiters)
    (running : ∀ name, (s'.engine.scheduler.workspace name).running =
      (s.engine.scheduler.workspace name).running) : s'.Slots actor busy where
  live name := by
    rw [waiters]
    exact slots.live name
  counted name := by
    have tickets (place : String) :
        s'.engine.scheduler.tickets place = s.engine.scheduler.tickets place := by
      unfold Scheduler.tickets Workspace.tickets
      rw [waiters]
    obtain ⟨holders, unique, count, held⟩ := slots.counted name
    refine ⟨holders, unique, count.trans (running name).symm, ?_⟩
    intro t
    rw [held]
    unfold Occupies HasSlot
    simp only [calls, tickets]

/-- The limits may change, and everything that is not about slots. -/
theorem congr_workspaces (slots : s.Slots actor busy) (calls : s'.calls = s.calls)
    (workspaces : s'.engine.scheduler.workspaces = s.engine.scheduler.workspaces) :
    s'.Slots actor busy := by
  refine slots.congr calls ?_ ?_ <;>
  · intro name
    unfold Scheduler.workspace
    rw [workspaces]
    cases s.engine.scheduler.workspaces.get? name <;> rfl

/-- A call that is at turn takes its step, with its slot if it has one. -/
theorem take (slots : s.Slots none none) (call : s.calls[i]? = some c)
    (has : ∀ name, busy = some name ↔ c.request.workspace = name ∧ s.HasSlot i c) :
    (s.take i).Slots (some i) busy where
  live := slots.live
  counted name := by
    obtain ⟨holders, unique, count, held⟩ := slots.counted name
    refine ⟨holders, unique, count, ?_⟩
    intro t
    rw [held, occupies_none]
    by_cases same : t = i
    · rw [same, occupies_actor, has]
      constructor
      · rintro ⟨c', call', place, slot⟩
        cases call.symm.trans call'
        exact ⟨place, slot⟩
      · rintro ⟨place, slot⟩
        exact ⟨c, call, place, slot⟩
    · rw [occupies_of_ne (fun eq => same (Option.some.inj eq))]
      exact Iff.rfl

/-- A call that takes its step has left its stage for another one. -/
theorem moveTo (slots : s.Slots (some i) busy) (call : s.calls[i]? = some c) {stage : CallStage}
    (has : ∀ name, busy = some name ↔
      c.request.workspace = name ∧ s.HasSlot i { c with stage }) : (s.moveTo i stage).Slots none none where
  live := slots.live
  counted name := by
    obtain ⟨holders, unique, count, held⟩ := slots.counted name
    refine ⟨holders, unique, count, ?_⟩
    intro t
    rw [held, occupies_none]
    by_cases same : t = i
    · rw [same, occupies_actor, has, getElem?_moveTo_self call]
      constructor
      · rintro ⟨place, slot⟩
        exact ⟨_, rfl, place, slot⟩
      · rintro ⟨c', moved, place, slot⟩
        cases moved
        exact ⟨place, slot⟩
    · rw [occupies_of_ne (fun eq => same (Option.some.inj eq)), getElem?_moveTo_of_ne s same]
      exact Iff.rfl

/-- A call that has no slot is over, or waits in line. -/
theorem moveTo_idle (slots : s.Slots (some i) none) (call : s.calls[i]? = some c) {stage : CallStage}
    (idle : ¬ s.HasSlot i { c with stage }) : (s.moveTo i stage).Slots none none :=
  slots.moveTo call fun _ => ⟨nofun, fun has => absurd has.2 idle⟩

/-- A call that has a slot goes on with its work. -/
theorem goOn (slots : s.Slots (some i) (some c.request.workspace)) (call : s.calls[i]? = some c)
    {stage : CallStage} (running : stage.isRunning = true) : (s.goOn i stage).Slots none none := by
  have moved : (s.moveTo i stage).Slots none none := by
    refine slots.moveTo call fun name => ?_
    rw [Option.some.injEq]
    exact ⟨fun same => ⟨same, Or.inl running⟩, fun has => has.1⟩
  exact moved.congr rfl (fun _ => rfl) fun _ => rfl

/-- A call begins without a slot. -/
theorem opened (slots : s.Slots none none) (request : AnalysisRequest) (meanwhile : Meanwhile)
    (revision : Revision) {stage : CallStage} (outside : stage.isInFile = false) :
    (s.opened request meanwhile revision stage).Slots none none where
  live := slots.live
  counted name := by
    obtain ⟨holders, unique, count, held⟩ := slots.counted name
    refine ⟨holders, unique, count, ?_⟩
    intro t
    rw [held, occupies_none, occupies_none]
    by_cases new : t = s.calls.size
    · rw [new, getElem?_opened_self, Array.getElem?_size]
      constructor
      · rintro ⟨c, known, -⟩
        cases known
      · rintro ⟨c, known, -, slot⟩
        cases known
        exact absurd slot (not_hasSlot outside)
    · rw [getElem?_opened_of_ne s new]
      exact Iff.rfl

/-- The call that was just opened takes a step at once. -/
theorem borrow (slots : s.Slots none none) (call : s.calls[i]? = some c)
    (idle : ¬ s.HasSlot i c) : s.Slots (some i) none := by
  have taken : (s.take i).Slots (some i) none :=
    slots.take call fun _ => ⟨nofun, fun has => absurd has.2 idle⟩
  exact taken.congr rfl (fun _ => rfl) fun _ => rfl

end Slots

def withWorkspace (s : Session σ) (name : String) (w : Workspace Number) : Session σ :=
  { s with engine := { s.engine with scheduler := s.engine.scheduler.set name w } }

/-- Whether another call has a slot depends only on whether it is still in line. -/
theorem occupies_withWorkspace {s : Session σ} {busy busy' : Option String} {i t : Nat}
    {name place : String} {w : Workspace Number} (other : t ≠ i)
    (line : t ∈ (s.engine.scheduler.set name w).tickets place ↔ t ∈ s.engine.scheduler.tickets place) :
    s.Occupies (some i) busy place t ↔ (s.withWorkspace name w).Occupies (some i) busy' place t := by
  have ne : some t ≠ some i := fun eq => other (Option.some.inj eq)
  rw [occupies_of_ne ne, occupies_of_ne ne]
  refine exists_congr fun c => and_congr_right fun _ => and_congr_right fun here => ?_
  unfold HasSlot withWorkspace
  dsimp only
  rw [here, line]

namespace Slots

variable {s : Session σ} {busy busy' : Option String} {i : Nat} {name : String}

theorem withWorkspace (slots : s.Slots (some i) busy) {w : Workspace Number}
    (live : ∀ x ∈ w.waiters, x.live = true ∧ x.ticket.isSome = true)
    (counted : ∃ holders : List Nat, holders.Nodup ∧ holders.length = w.running ∧
      ∀ t, t ∈ holders ↔ (s.withWorkspace name w).Occupies (some i) busy' name t)
    (others : ∀ other, other ≠ name → (busy' = some other ↔ busy = some other)) :
    (s.withWorkspace name w).Slots (some i) busy' where
  live other := by
    by_cases same : other = name
    · rw [same]
      change ∀ x ∈ ((s.engine.scheduler.set name w).workspace name).waiters, _
      rw [Scheduler.workspace_set_self]
      exact live
    · change ∀ x ∈ ((s.engine.scheduler.set name w).workspace other).waiters, _
      rw [Scheduler.workspace_set_of_ne _ w same]
      exact slots.live other
  counted other := by
    by_cases same : other = name
    · rw [same]
      change ∃ holders : List Nat, holders.Nodup ∧
        holders.length = ((s.engine.scheduler.set name w).workspace name).running ∧ _
      rw [Scheduler.workspace_set_self]
      exact counted
    · obtain ⟨holders, unique, count, held⟩ := slots.counted other
      refine ⟨holders, unique, ?_, ?_⟩
      · change holders.length = ((s.engine.scheduler.set name w).workspace other).running
        rw [Scheduler.workspace_set_of_ne _ w same]
        exact count
      · intro t
        rw [held]
        by_cases actor : t = i
        · rw [actor, occupies_actor, occupies_actor, others other same]
        · exact occupies_withWorkspace actor (by rw [Scheduler.tickets_set_of_ne _ w same])

/-- Nothing about slots changes if neither the line nor the number of slots in use does. -/
theorem sameLine (slots : s.Slots (some i) busy) {w : Workspace Number}
    (waiters : w.waiters = (s.engine.scheduler.workspace name).waiters)
    (running : w.running = (s.engine.scheduler.workspace name).running) :
    (s.withWorkspace name w).Slots (some i) busy := by
  have here (other : String) :
      ((s.engine.scheduler.set name w).workspace other).waiters =
          (s.engine.scheduler.workspace other).waiters ∧
        ((s.engine.scheduler.set name w).workspace other).running =
          (s.engine.scheduler.workspace other).running := by
    by_cases same : other = name
    · rw [same, Scheduler.workspace_set_self]
      exact ⟨waiters, running⟩
    · rw [Scheduler.workspace_set_of_ne _ w same]
      exact ⟨rfl, rfl⟩
  exact slots.congr rfl (fun other => (here other).1) fun other => (here other).2

/-- A call that asks for a slot has one, or waits for one, or is turned away. -/
theorem acquire (slots : s.Slots (some i) none) (comparable : s.engine.scheduler.settings.Comparable)
    (name : String) :
    ∃ w admission, s.engine.scheduler.acquire name i = (s.engine.scheduler.set name w, admission) ∧
      (admission = .granted ∧ (s.withWorkspace name w).Slots (some i) (some name) ∨
        admission = .queued ∧ (s.withWorkspace name w).Slots (some i) none ∧
          i ∈ (s.engine.scheduler.set name w).tickets name ∨
        (∃ f, admission = .refused f) ∧ (s.withWorkspace name w).Slots (some i) none) := by
  obtain ⟨holders, unique, count, held⟩ := slots.counted name
  have idle : i ∉ holders := by
    rw [held, occupies_actor]
    exact nofun
  rcases Scheduler.acquire_cases comparable name i with
    ⟨w, granted, -, line, waiters, running⟩ | ⟨w, queued, -, waiters, running⟩ |
    ⟨w, f, refused, waiters, running⟩
  · refine ⟨w, _, granted, Or.inl ⟨rfl, slots.withWorkspace ?_ ⟨i :: holders, ?_, ?_, ?_⟩ ?_⟩⟩
    · rw [waiters]
      exact nofun
    · exact List.nodup_cons.2 ⟨idle, unique⟩
    · rw [running, ← count]
      rfl
    · -- The line is as empty as it was, so whoever else has a slot had it before.
      have same : (s.engine.scheduler.set name w).tickets name = s.engine.scheduler.tickets name := by
        rw [Scheduler.tickets_set_self]
        unfold Scheduler.tickets Workspace.tickets
        rw [waiters, line]
      intro t
      rw [List.mem_cons]
      by_cases actor : t = i
      · rw [actor, occupies_actor]
        exact ⟨fun _ => rfl, fun _ => Or.inl rfl⟩
      · rw [or_iff_right actor, held]
        exact occupies_withWorkspace actor (by rw [same])
    · intro other ne
      simp [Ne.symm ne]
  · have joined : (s.engine.scheduler.set name w).tickets name =
        s.engine.scheduler.tickets name ++ [i] := by
      rw [Scheduler.tickets_set_self]
      unfold Scheduler.tickets Workspace.tickets
      rw [waiters, List.filterMap_append]
      rfl
    refine ⟨w, _, queued, Or.inr (Or.inl ⟨rfl, slots.withWorkspace ?_ ⟨holders, unique, ?_, ?_⟩ ?_, ?_⟩)⟩
    · rw [waiters]
      intro x member
      rcases List.mem_append.1 member with before | new
      · exact slots.live name x before
      · rw [List.mem_singleton.1 new]
        exact ⟨rfl, rfl⟩
    · rw [running]
      exact count
    · intro t
      rw [held]
      by_cases actor : t = i
      · rw [actor, occupies_actor, occupies_actor]
      · refine occupies_withWorkspace actor ?_
        rw [joined, List.mem_append, List.mem_singleton, or_iff_left actor]
    · exact fun _ _ => Iff.rfl
    · rw [joined]
      exact List.mem_append_right _ List.mem_cons_self
  · exact ⟨w, _, refused, Or.inr (Or.inr ⟨⟨f, rfl⟩, slots.sameLine waiters running⟩)⟩

/-- When a call gives its slot back, the others keep theirs. -/
theorem exists_others (slots : s.Slots (some i) (some name)) :
    ∃ others : List Nat, others.Nodup ∧
      others.length + 1 = (s.engine.scheduler.workspace name).running ∧
      ∀ t, t ∈ others ↔ t ≠ i ∧ s.Occupies (some i) (some name) name t := by
  obtain ⟨holders, unique, count, held⟩ := slots.counted name
  have own : i ∈ holders := (held i).2 (occupies_actor.2 rfl)
  refine ⟨holders.erase i, unique.erase i, ?_, fun t => ?_⟩
  · have positive := List.length_pos_of_mem own
    rw [List.length_erase_of_mem own, ← count]
    omega
  · rw [unique.mem_erase_iff, held]

theorem elsewhere_iff {other : String} (ne : other ≠ name) :
    (none : Option String) = some other ↔ some name = some other := by
  simp [Ne.symm ne]

/-- A slot becomes free if nobody waits for it. -/
theorem freed (slots : s.Slots (some i) (some name)) {w : Workspace Number}
    (live : ∀ x ∈ w.waiters, x.live = true ∧ x.ticket.isSome = true)
    (nobody : s.engine.scheduler.tickets name = [])
    (tickets : (s.engine.scheduler.set name w).tickets name = [])
    (running : w.running = (s.engine.scheduler.workspace name).running - 1) :
    (s.withWorkspace name w).Slots (some i) none := by
  obtain ⟨others, unique, count, held⟩ := slots.exists_others
  refine slots.withWorkspace live ⟨others, unique, by omega, fun t => ?_⟩ fun _ => elsewhere_iff
  rw [held]
  by_cases actor : t = i
  · rw [actor, occupies_actor, occupies_actor]
    exact ⟨fun held => absurd rfl held.1, nofun⟩
  · rw [and_iff_right actor]
    exact occupies_withWorkspace actor (by rw [tickets, nobody])

/-- A slot goes to the first one in line, which is a call that waits and does not have a slot yet. -/
theorem handedOn (slots : s.Slots (some i) (some name)) (queues : s.Queues (some i)) {w : Workspace Number}
    (live : ∀ x ∈ w.waiters, x.live = true ∧ x.ticket.isSome = true) {n : Nat} {behind : List Nat}
    (line : s.engine.scheduler.tickets name = n :: behind)
    (tickets : (s.engine.scheduler.set name w).tickets name = behind)
    (running : w.running = (s.engine.scheduler.workspace name).running) :
    (s.withWorkspace name w).Slots (some i) none := by
  obtain ⟨others, unique, count, held⟩ := slots.exists_others
  have waits : n ∈ s.engine.scheduler.tickets name := line ▸ List.mem_cons_self
  obtain ⟨other, -, cn, call, place, stage⟩ := queues.waiting name n waits
  have apart := queues.tickets_nodup name
  rw [line, List.nodup_cons] at apart
  have without : n ∉ others := by
    rw [held, occupies_of_ne other]
    rintro ⟨-, c, call', place', slot⟩
    cases call.symm.trans call'
    rcases slot with working | ⟨-, out⟩
    · rw [stage] at working
      cases working
    · exact out (place ▸ waits)
  refine slots.withWorkspace live ⟨n :: others, List.nodup_cons.2 ⟨without, unique⟩, ?_, fun t => ?_⟩
    fun _ => elsewhere_iff
  · rw [List.length_cons, count, running]
  · rw [List.mem_cons, held]
    by_cases first : t = n
    · rw [first, occupies_of_ne other, occupies_of_ne other]
      refine ⟨fun _ => ⟨cn, call, place, Or.inr ⟨stage, ?_⟩⟩, fun _ => Or.inl rfl⟩
      unfold Session.withWorkspace
      dsimp only
      rw [place, tickets]
      exact apart.1
    rw [or_iff_right first]
    by_cases actor : t = i
    · rw [actor, occupies_actor, occupies_actor]
      exact ⟨fun held => absurd rfl held.1, nofun⟩
    · rw [and_iff_right actor]
      refine occupies_withWorkspace actor ?_
      rw [tickets, line, List.mem_cons, or_iff_right first]

/-- A call gives its slot back. It becomes free, or it goes to the call that has waited longest. -/
theorem release (slots : s.Slots (some i) (some name)) (queues : s.Queues (some i))
    (comparable : s.engine.scheduler.settings.Comparable) (latency : Number) :
    ∃ w next, s.engine.scheduler.release name (some latency) =
        { scheduler := s.engine.scheduler.set name w, next } ∧
      (s.withWorkspace name w).Slots (some i) none := by
  have known : ∀ x ∈ (s.engine.scheduler.workspace name).waiters, x.ticket.isSome = true :=
    fun x member => (slots.live name x member).2
  obtain ⟨w, next, released, passed⟩ :=
    Scheduler.exists_release comparable known (some latency)
  have live : ∀ x ∈ w.waiters, x.live = true ∧ x.ticket.isSome = true :=
    fun x member => slots.live name x (passed.rest.subset member)
  have tickets : (s.engine.scheduler.set name w).tickets name =
      (s.engine.scheduler.tickets name).tail := by
    rw [Scheduler.tickets_set_self, ← Workspace.waiting_of_live fun x member => (live x member).1,
      passed.waiting, slots.waiting_eq]
  have running := passed.running
  rw [slots.waiting_eq] at running
  refine ⟨w, next, released, ?_⟩
  cases line : s.engine.scheduler.tickets name with
  | nil =>
    rw [line] at tickets running
    exact slots.freed live line tickets running
  | cons n behind =>
    rw [line] at tickets running
    exact slots.handedOn queues live line tickets running

end Slots

/-- When all calls are over, every slot is free and nobody waits for one. -/
theorem Slots.free {s : Session σ} (slots : s.Slots none none) (queues : s.Queues none)
    (ended : ∀ (t : Nat) (c : Call), s.calls[t]? = some c → c.stage.isFinished = true) (name : String) :
    (s.engine.scheduler.workspace name).waiters = [] ∧
      (s.engine.scheduler.workspace name).running = 0 := by
  have no_ticket : s.engine.scheduler.tickets name = [] := by
    refine List.eq_nil_iff_forall_not_mem.2 fun t member => ?_
    obtain ⟨-, -, c, call, -, stage⟩ := queues.waiting name t member
    have closed := ended t c call
    rw [stage] at closed
    cases closed
  obtain ⟨holders, -, count, held⟩ := slots.counted name
  have no_holder : holders = [] := by
    refine List.eq_nil_iff_forall_not_mem.2 fun t member => ?_
    obtain ⟨c, call, -, slot⟩ := occupies_none.1 ((held t).1 member)
    refine not_hasSlot ?_ slot
    have closed := ended t c call
    cases stage : c.stage <;> first | rfl | (rw [stage] at closed; cases closed)
  refine ⟨Workspace.waiters_of_tickets (fun x member => (slots.live name x member).2) no_ticket, ?_⟩
  rw [← count, no_holder]
  rfl

end Session

end LiveLint
