import LiveLint.Schedule.Scheduler

/-!
# Slots and who waits for them

What the operations of a scheduler do to the slots of a workspace and to the line for them, when all
limits are amounts. Requests that were given up stay in line for a while and count for nothing: a slot
that is handed over goes to the first request that still waits, and none of them is left before it.
-/

/-!
## Who waits for a slot

The tickets that are in line for the slots of a workspace. A request adds its ticket at the end only
if it has to wait, and a release takes the ticket of the request that gets the slot from the front.
Other workspaces are not affected.
-/

namespace LiveLint

def Workspace.tickets {α : Type} (w : Workspace α) : List Nat := w.waiters.filterMap (·.ticket)

/-- What is left of a line when a slot was handed over is its end. -/
theorem Workspace.tickets_handOver {α : Type} (w : Workspace α) :
    w.handOver.2.toList ++ w.handOver.1.tickets <:+ w.tickets := by
  have rest : w.waiters.dropWhile (!·.live) <:+ w.waiters := List.dropWhile_suffix _
  unfold handOver
  cases left : w.waiters.dropWhile (!·.live) with
  | nil => exact List.nil_suffix
  | cons next waiting =>
    rw [left] at rest
    have tickets := rest.filterMap (·.ticket)
    have front : next.ticket.toList ++ waiting.filterMap (·.ticket) =
        (next :: waiting).filterMap (·.ticket) := by
      cases name : next.ticket <;> simp [name]
    rw [← front] at tickets
    exact tickets

namespace Scheduler

variable {α : Type} [Interval α]

/-- The tickets of the requests in line for the slots of a workspace. -/
def tickets (s : Scheduler α) (name : String) : List Nat := (s.workspace name).tickets

theorem tickets_set_self (s : Scheduler α) (name : String) (w : Workspace α) :
    (s.set name w).tickets name = w.tickets := by
  simp only [tickets, workspace, set, Table.get?_set_self, Option.getD_some]

theorem tickets_set_of_ne (s : Scheduler α) {name other : String} (w : Workspace α)
    (ne : other ≠ name) : (s.set name w).tickets other = s.tickets other := by
  simp only [tickets, workspace, set, Table.get?_set_of_ne _ _ ne]

theorem tickets_congr {s s' : Scheduler α} (same : s'.workspaces = s.workspaces) (name : String) :
    s'.tickets name = s.tickets name := by
  unfold tickets workspace
  rw [same]
  cases s.workspaces.get? name <;> rfl

/-- Setting a workspace to a state with the same line changes no line. -/
theorem tickets_set_same (s : Scheduler α) (name : String) {w : Workspace α}
    (same : w.tickets = s.tickets name) (other : String) :
    (s.set name w).tickets other = s.tickets other := by
  by_cases here : other = name
  · rw [here, tickets_set_self, same]
  · exact tickets_set_of_ne s w here

theorem tickets_adapt {w adapted : Workspace α} {settings : SchedulerSettings α}
    (done : w.adapt settings = .ok adapted) : adapted.tickets = w.tickets := by
  unfold Workspace.adapt at done
  cases load : w.isLoaded settings with
  | error f =>
    rw [load] at done
    cases done
  | ok loaded =>
    rw [load] at done
    cases loaded with
    | false =>
      cases done
      rfl
    | true =>
      cases interval : Workspace.grown settings w.debounce with
      | error f =>
        simp only [bind, Except.bind, interval, if_true] at done
        cases done
      | ok debounce =>
        simp only [bind, Except.bind, interval, if_true] at done
        cases done
        rfl

/-- A request that joins a line is the last one in it, or it fails and its ticket is not in line. -/
theorem tickets_joinLine (s : Scheduler α) (name : String) (ticket : Nat) :
    ((s.joinLine name ticket).2 = .queued ∧
        (s.joinLine name ticket).1.tickets name = s.tickets name ++ [ticket] ∧
        ∀ other, other ≠ name → (s.joinLine name ticket).1.tickets other = s.tickets other) ∨
      (s.joinLine name ticket).2 ≠ .queued ∧
        ∀ other, (s.joinLine name ticket).1.tickets other = s.tickets other := by
  have joined (given : Option Nat) :
      Workspace.tickets { s.workspace name with
          waiters := (s.workspace name).waiters ++ [{ ticket := given }] } =
        s.tickets name ++ given.toList := by
    cases given <;> simp [Workspace.tickets, tickets]
  unfold joinLine
  dsimp only
  split
  · next w done =>
    refine Or.inl ⟨rfl, ?_, ?_⟩
    · rw [tickets_set_self, tickets_adapt done, joined]
      rfl
    · intro other ne
      exact tickets_set_of_ne s w ne
  · next f failed =>
    refine Or.inr ⟨by simp, ?_⟩
    refine tickets_set_same s name ?_
    rw [joined]
    exact List.append_nil _

/-- A request that has to wait is the last one in line, any other one changes no line. -/
theorem tickets_acquire (s : Scheduler α) (name : String) (ticket : Nat) :
    ((s.acquire name ticket).2 = .queued ∧
        (s.acquire name ticket).1.tickets name = s.tickets name ++ [ticket] ∧
        ∀ other, other ≠ name → (s.acquire name ticket).1.tickets other = s.tickets other) ∨
      (s.acquire name ticket).2 ≠ .queued ∧
        ∀ other, (s.acquire name ticket).1.tickets other = s.tickets other := by
  unfold acquire
  dsimp only
  split
  case h_5 => exact s.tickets_joinLine name ticket
  all_goals exact Or.inr ⟨by simp, s.tickets_set_same name rfl⟩

/-- A release takes from the line of its workspace, and the ticket it answers stood before all that
are left. -/
theorem tickets_release (s : Scheduler α) (name : String) (latency : Option α) :
    (s.release name latency).next.toList ++ (s.release name latency).scheduler.tickets name <:+
        s.tickets name ∧
      ∀ other, other ≠ name →
        (s.release name latency).scheduler.tickets other = s.tickets other := by
  have counted (w : Workspace α) : ((latency.map w.complete).getD w).tickets = w.tickets := by
    cases latency <;> rfl
  have handed := ((latency.map (s.workspace name).complete).getD (s.workspace name)).tickets_handOver
  rw [counted] at handed
  unfold release
  dsimp only
  split
  · next w done =>
    refine ⟨?_, fun other ne => tickets_set_of_ne s w ne⟩
    rw [tickets_set_self, tickets_adapt done]
    exact handed
  · next f failed =>
    refine ⟨?_, fun other ne => tickets_set_of_ne s _ ne⟩
    rw [tickets_set_self]
    exact handed

end Scheduler

/-! ## Slots and who waits for them -/

variable {α : Type}

/-- All limits are amounts, so no comparison with them fails. -/
structure SchedulerSettings.Comparable (s : SchedulerSettings α) : Prop where
  maxConcurrent : ∃ x, s.maxConcurrent = .amount x
  maxQueueDepth : ∃ x, s.maxQueueDepth = .amount x
  maxDebounce : ∃ x, s.maxDebounce = .amount x
  queueThreshold : ∃ x, s.queueThreshold = .amount x
  latencyThreshold : ∃ x, s.latencyThreshold = .amount x

instance (l : Limit α) : Decidable (∃ x, l = .amount x) :=
  match l with
  | .amount x => isTrue ⟨x, rfl⟩
  | .unordered _ => isFalse nofun

instance (s : SchedulerSettings α) : Decidable s.Comparable :=
  decidable_of_iff ((∃ x, s.maxConcurrent = .amount x) ∧ (∃ x, s.maxQueueDepth = .amount x) ∧
      (∃ x, s.maxDebounce = .amount x) ∧ (∃ x, s.queueThreshold = .amount x) ∧
        ∃ x, s.latencyThreshold = .amount x)
    ⟨fun ⟨slots, depth, longest, threshold, latency⟩ => ⟨slots, depth, longest, threshold, latency⟩,
      fun all => ⟨all.1, all.2, all.3, all.4, all.5⟩⟩

def SchedulerSettings.withSlots (n : Nat) : SchedulerSettings Number where
  maxConcurrent := .amount n
  baseDebounce := .float 0
  maxDebounce := .amount (.float 5000)
  latencyThreshold := .amount (.float 1000)

def SchedulerSettings.slots (s : SchedulerSettings α) : Nat :=
  match s.maxConcurrent with
  | .amount n => n
  | .unordered _ => 0

namespace Workspace

/-- The tickets of the requests that still wait, in the order of the line. -/
def waiting (w : Workspace α) : List Nat := (w.waiters.filter (·.live)).filterMap (·.ticket)

/-- What becomes of a workspace and its line when a slot is handed over. -/
structure HandsOver (w w' : Workspace α) (next : Option Nat) : Prop where
  next : next = w.waiting.head?
  waiting : w'.waiting = w.waiting.tail
  running : w'.running = if w.waiting = [] then w.running - 1 else w.running
  rest : w'.waiters <:+ w.waiters
  cleared : w.waiting = [] → w'.waiters = []

/-- A slot goes to the first request that still waits, or it becomes free. -/
theorem handsOver_handOver {w : Workspace α} (known : ∀ x ∈ w.waiters, x.ticket.isSome) :
    w.HandsOver w.handOver.1 w.handOver.2 := by
  have skipped : (w.waiters.dropWhile (!·.live)).filter (·.live) = w.waiters.filter (·.live) := by
    induction w.waiters with
    | nil => rfl
    | cons x rest ih =>
      cases live : x.live with
      | true => simp [live]
      | false => simpa [live] using ih
  have suffix : w.waiters.dropWhile (!·.live) <:+ w.waiters := List.dropWhile_suffix _
  unfold handOver
  cases left : w.waiters.dropWhile (!·.live) with
  | nil =>
    rw [left] at skipped
    have empty : w.waiting = [] := by
      rw [waiting, ← skipped]
      rfl
    exact ⟨by rw [empty]; rfl, by rw [empty]; rfl, by rw [if_pos empty], List.nil_suffix, fun _ => rfl⟩
  | cons x rest =>
    rw [left] at skipped suffix
    have live : x.live = true := by
      have head := List.head?_dropWhile_not (fun x : Waiter => !x.live) w.waiters
      rw [left] at head
      simpa using head
    obtain ⟨ticket, name⟩ := Option.isSome_iff_exists.1 (known x (suffix.subset List.mem_cons_self))
    have waits : w.waiting = ticket :: (rest.filter (·.live)).filterMap (·.ticket) := by
      rw [waiting, ← skipped, List.filter_cons_of_pos live, List.filterMap_cons_some name]
    have busy : w.waiting ≠ [] := by
      rw [waits]
      exact List.cons_ne_nil _ _
    refine ⟨?_, by rw [waits]; rfl, by rw [if_neg busy], (List.suffix_cons x rest).trans suffix,
      fun empty => absurd empty busy⟩
    rw [waits]
    exact name

theorem waiting_sublist (w : Workspace α) : w.waiting.Sublist w.tickets :=
  List.filter_sublist.filterMap _

theorem waiting_append {w w' : Workspace α} {ticket : Nat}
    (line : w'.waiters = w.waiters ++ [{ ticket := some ticket }]) :
    w'.waiting = w.waiting ++ [ticket] := by
  simp [waiting, line]

/-- Without a ticket the others wait in the same order. -/
theorem waiting_of_without {w w' : Workspace α} {ticket : Nat}
    (line : w'.waiters.filter (·.live) = w.waiters.filter fun x => x.live && x.ticket != some ticket) :
    w'.waiting = w.waiting.filter (· != ticket) := by
  unfold waiting
  rw [line]
  induction w.waiters with
  | nil => rfl
  | cons x rest ih =>
    obtain ⟨name, live⟩ := x
    by_cases same : name = some ticket
    · cases live <;> simp_all
    · cases live <;> cases name <;> simp_all

/-- A request that is given up does not wait any more, although its ticket is still in line. -/
theorem waiting_giveUp (w : Workspace α) (ticket : Nat) :
    (w.giveUp ticket).waiting = w.waiting.filter (· != ticket) := by
  refine waiting_of_without ?_
  unfold giveUp
  induction w.waiters with
  | nil => rfl
  | cons x rest ih => by_cases same : x.ticket = some ticket <;> simp_all [List.filter_cons]

theorem tickets_giveUp (w : Workspace α) (ticket : Nat) : (w.giveUp ticket).tickets = w.tickets := by
  unfold tickets giveUp
  rw [List.filterMap_map]
  refine congrArg (List.filterMap · w.waiters) (funext fun x => ?_)
  simp only [Function.comp_apply]
  split <;> rfl

theorem waiting_withdraw (w : Workspace α) (ticket : Nat) :
    (w.withdraw ticket).waiting = w.waiting.filter (· != ticket) :=
  waiting_of_without List.filter_filter

end Workspace

namespace Scheduler

theorem workspace_set_self [Interval α] (s : Scheduler α) (name : String) (w : Workspace α) :
    (s.set name w).workspace name = w := by
  simp only [workspace, set, Table.get?_set_self, Option.getD_some]

theorem workspace_set_of_ne [Interval α] (s : Scheduler α) {name other : String} (w : Workspace α)
    (ne : other ≠ name) : (s.set name w).workspace other = s.workspace other := by
  simp only [workspace, set, Table.get?_set_of_ne _ _ ne]

end Scheduler

namespace Workspace

variable {settings : SchedulerSettings α} (comparable : settings.Comparable)

include comparable

theorem isOpen_eq (w : Workspace α) :
    w.isOpen settings = .ok (decide (w.running < settings.slots) && w.waiters.isEmpty) := by
  obtain ⟨n, slots⟩ := comparable.maxConcurrent
  simp only [isOpen, SchedulerSettings.slots, slots, Limit.holds_amount, Except.map]

theorem isFull_eq (w : Workspace α) : ∃ full, w.isFull settings = .ok full := by
  obtain ⟨n, depth⟩ := comparable.maxQueueDepth
  exact ⟨_, by rw [isFull, depth, Limit.holds_amount]⟩

/-- Adapting the interval changes nothing else, and it succeeds. -/
theorem exists_adapt [Interval α] (w : Workspace α) :
    ∃ debounce, w.adapt settings = .ok { w with debounce } := by
  obtain ⟨n, threshold⟩ := comparable.queueThreshold
  obtain ⟨x, latency⟩ := comparable.latencyThreshold
  obtain ⟨most, longest⟩ := comparable.maxDebounce
  have load : ∃ loaded, w.isLoaded settings = .ok loaded := by
    unfold isLoaded
    rw [threshold, latency]
    by_cases many : n ≤ w.waiters.length
    · exact ⟨true, by simp [bind, Except.bind, pure, Except.pure, many]⟩
    · exact ⟨_, by simp only [Limit.holds_amount, bind, Except.bind, many, decide_false]; rfl⟩
  obtain ⟨loaded, load⟩ := load
  unfold adapt
  rw [load]
  cases loaded with
  | true => exact ⟨_, by simp only [grown, longest, Limit.cap_amount, bind, Except.bind]; rfl⟩
  | false => exact ⟨_, rfl⟩

end Workspace

namespace Scheduler

variable [Interval α] {s : Scheduler α} (comparable : s.settings.Comparable)

section

include comparable

/-- Where nobody waits, a slot that is free goes to whoever asks for one. -/
theorem acquire_of_free {name : String} (free : (s.workspace name).running < s.settings.slots)
    (line : (s.workspace name).waiters = []) (ticket : Nat) : s.acquire name ticket =
      (s.set name { s.workspace name with running := (s.workspace name).running + 1 }, .granted) := by
  have isOpen := (s.workspace name).isOpen_eq comparable
  rw [line, decide_eq_true free] at isOpen
  unfold acquire
  dsimp only
  rw [isOpen]
  rfl

/-- A request gets a slot at once, joins the line, or is turned away. -/
theorem acquire_cases (name : String) (ticket : Nat) :
    (∃ w, s.acquire name ticket = (s.set name w, .granted) ∧
      (s.workspace name).running < s.settings.slots ∧ (s.workspace name).waiters = [] ∧
      w.waiters = [] ∧ w.running = (s.workspace name).running + 1) ∨
    (∃ w, s.acquire name ticket = (s.set name w, .queued) ∧
      ((s.workspace name).waiters = [] → s.settings.slots ≤ (s.workspace name).running) ∧
      w.waiters = (s.workspace name).waiters ++ [{ ticket := some ticket }] ∧
      w.running = (s.workspace name).running) ∨
    (∃ w f, s.acquire name ticket = (s.set name w, .refused f) ∧
      w.waiters = (s.workspace name).waiters ∧ w.running = (s.workspace name).running) := by
  have isOpen := (s.workspace name).isOpen_eq comparable
  obtain ⟨full, isFull⟩ := (s.workspace name).isFull_eq comparable
  unfold acquire
  dsimp only
  rw [isOpen, isFull]
  cases free : decide ((s.workspace name).running < s.settings.slots) &&
      (s.workspace name).waiters.isEmpty with
  | true =>
    rw [Bool.and_eq_true, decide_eq_true_iff, List.isEmpty_iff] at free
    exact Or.inl ⟨_, rfl, free.1, free.2, free.2, rfl⟩
  | false =>
    cases full with
    | true => exact Or.inr (Or.inr ⟨_, _, rfl, rfl, rfl⟩)
    | false =>
      have busy : (s.workspace name).waiters = [] → s.settings.slots ≤ (s.workspace name).running := by
        intro none
        rw [none] at free
        simpa using free
      let joined : Workspace α :=
        { s.workspace name with
          waiters := (s.workspace name).waiters ++ [{ ticket := some ticket }] }
      obtain ⟨debounce, adapted⟩ := Workspace.exists_adapt comparable joined
      refine Or.inr (Or.inl ⟨{ joined with debounce }, ?_, busy, rfl, rfl⟩)
      change s.joinLine name ticket = _
      unfold joinLine
      simp only [adapted, joined]

/-- A released slot is handed over, and nothing fails. -/
theorem exists_release {name : String} (known : ∀ x ∈ (s.workspace name).waiters, x.ticket.isSome)
    (latency : Option α) :
    ∃ w next, s.release name latency = { scheduler := s.set name w, next } ∧
      (s.workspace name).HandsOver w next := by
  have handed : ∀ w : Workspace α, w.waiters = (s.workspace name).waiters →
      w.running = (s.workspace name).running →
      (s.workspace name).HandsOver w.handOver.1 w.handOver.2 := by
    intro w line running
    have passed := w.handsOver_handOver (line ▸ known)
    have waiting : w.waiting = (s.workspace name).waiting := by
      rw [Workspace.waiting, line]
      rfl
    exact ⟨waiting ▸ passed.next, waiting ▸ passed.waiting, waiting ▸ running ▸ passed.running,
      line ▸ passed.rest, waiting ▸ passed.cleared⟩
  unfold release
  dsimp only
  cases latency with
  | none =>
    obtain ⟨debounce, adapted⟩ := Workspace.exists_adapt comparable (s.workspace name).handOver.1
    have passed := handed _ rfl rfl
    refine ⟨_, _, by rw [Option.map_none, Option.getD_none, adapted], ?_⟩
    exact ⟨passed.next, passed.waiting, passed.running, passed.rest, passed.cleared⟩
  | some x =>
    obtain ⟨debounce, adapted⟩ :=
      Workspace.exists_adapt comparable ((s.workspace name).complete x).handOver.1
    have passed := handed ((s.workspace name).complete x) rfl rfl
    refine ⟨_, _, by rw [Option.map_some, Option.getD_some, adapted], ?_⟩
    exact ⟨passed.next, passed.waiting, passed.running, passed.rest, passed.cleared⟩

end

end Scheduler

end LiveLint
