import LiveLint.Proofs.Schedule.Runs

/-!
# No slot is lost or doubled

Whatever happens to jobs, and in whatever order, a workspace counts one slot for each job that has one.
Requests get their slots in the order in which they came, and one that was given up costs nothing: it
never gets a slot, or it passes it on. While the limit stays, a request waits only if all slots are taken.
-/

namespace LiveLint

variable {α : Type} [Interval α]

namespace JobLog

variable {l : JobLog α} {m : JobMove α}

/-- No more slots are taken than the limit says, if no more were taken before. -/
theorem Step.running_le {n : Nat} (step : l.Step m) (within : l.running ≤ n) (limit : l.slots ≤ n) :
    (l.perform m).running ≤ n := by
  obtain ⟨xs, ys, notes⟩ := step.notes
  cases ys with
  | nil => exact Nat.le_trans (notes.less rfl) within
  | cons t rest =>
    obtain ⟨-, same⟩ | ⟨-, free, more⟩ := notes.given t List.mem_cons_self
    · exact same ▸ within
    · omega

/-- While somebody is in line, as many slots are taken as there were when the line was joined first. -/
theorem Step.bar_le (step : l.Step m) (before : l.line ≠ [] → l.bar ≤ l.running)
    (somebody : (l.perform m).line ≠ []) : (l.perform m).bar ≤ (l.perform m).running := by
  obtain ⟨xs, ys, notes⟩ := step.notes
  obtain ⟨kept, busy⟩ := notes.kept somebody
  by_cases nobody : l.line = []
  · have bar : (l.perform m).bar = l.slots := by
      rw [notes.bar, nobody, if_pos]
      simpa using somebody
    exact bar ▸ busy nobody
  · have bar : (l.perform m).bar = l.bar := by
      rw [notes.bar, if_neg]
      simp [nobody]
    exact bar ▸ Nat.le_trans (before nobody) kept

theorem Step.le_bar {n : Nat} (step : l.Step m) (limit : n ≤ l.slots) (before : l.line ≠ [] → n ≤ l.bar)
    (somebody : (l.perform m).line ≠ []) : n ≤ (l.perform m).bar := by
  obtain ⟨xs, ys, notes⟩ := step.notes
  rw [notes.bar]
  split
  · exact limit
  · next no =>
    refine before fun nobody => no ?_
    simpa [nobody] using somebody

/-- Nobody waits in an empty line. -/
theorem waiting_of_line (nobody : l.line = []) : l.waiting = [] := by
  rw [waiting, Workspace.waiting]
  change (l.line.filter _).filterMap _ = []
  rw [nobody]
  rfl

namespace Regular

variable (regular : l.Regular) {moves : List (JobMove α)} (legal : l.Legal moves)

include regular

theorem served_of_holds {t : Nat} (holds : t ∈ l.holders) : t ∈ l.served := by
  obtain ⟨j, job, has⟩ := mem_holders_iff.1 holds
  exact regular.booked.served_of_entered job (Job.entered_of_holds has)

/-- The turn of a request that was given up after it got a slot passes the slot on to the first one that
waits, or frees it. -/
theorem passes_on {t : Nat} {j : Job α} (job : l.jobs.jobs[t]? = some j) (here : j.workspace = l.workspace)
    (stage : j.stage = .granted) (given_up : j.cancelled = true) :
    t ∉ (l.perform (.turn t)).holders ∧
      (l.waiting = [] → (l.perform (.turn t)).running + 1 = l.running) ∧
      ∀ u rest, l.waiting = u :: rest → u ∈ (l.perform (.turn t)).holders ∧
        (l.perform (.turn t)).waiting = rest ∧ (l.perform (.turn t)).running = l.running := by
  obtain ⟨w, next, handed⟩ : ∃ w next, (l.jobs.scheduler.workspace l.workspace).handOver = (w, next) :=
    ⟨_, _, rfl⟩
  have passed := (l.jobs.scheduler.workspace l.workspace).handsOver_handOver regular.sound.known
  rw [handed] at passed
  have acts : l.jobs.act (.turn t) =
      (((l.jobs.take t).setWorkspace l.workspace w).grant next).leave t .cancelled := by
    have again : (l.jobs.take t).jobs[t]? = some j := job
    have taken : (l.jobs.take t).scheduler = l.jobs.scheduler := rfl
    simp only [Jobs.act, Jobs.step, again, stage, given_up, here, if_true, Scheduler.passOn, taken, handed]
    rfl
  have after : (l.jobs.act (.turn t)).scheduler.workspace l.workspace = w := by
    rw [acts]
    change (((l.jobs.take t).setWorkspace l.workspace w).grant next).scheduler.workspace l.workspace = _
    rw [Jobs.scheduler_grant, Jobs.workspace_setWorkspace, if_pos rfl]
  have busy := regular.booked.running_pos job here (by simp only [Job.holds, stage])
  have running : (l.perform (.turn t)).running = if l.waiting = [] then l.running - 1 else l.running :=
    (congrArg Workspace.running after).trans passed.running
  refine ⟨fun holds => ?_, fun nobody => ?_, fun u rest first => ?_⟩
  · obtain ⟨k, job', has⟩ := mem_holders_iff.1 holds
    have own := (Jobs.jobOf?_eq_some_iff.1 job').1
    change (l.jobs.act (.turn t)).jobs[t]? = some k at own
    rw [acts, Jobs.leave, Jobs.getElem?_update, if_pos rfl] at own
    obtain ⟨k', -, rfl⟩ := Option.map_eq_some_iff.1 own
    exact Bool.false_ne_true has
  · rw [running, if_pos nobody]
    omega
  · have somebody : l.waiting ≠ [] := by
      rw [first]
      exact List.cons_ne_nil u rest
    have next_eq : next = some u := passed.next.trans (congrArg List.head? first)
    subst next_eq
    obtain ⟨k, waited, there, inLine, -⟩ := regular.sound.next_waits passed
    have ne : u ≠ t := by
      rintro rfl
      cases job.symm.trans waited
      rw [stage] at inLine
      cases inLine
    refine ⟨mem_holders_iff.2 ⟨{ k with stage := .granted }, ?_, rfl⟩, ?_, running.trans (if_neg somebody)⟩
    · change (l.jobs.act (.turn t)).jobOf? l.workspace u = _
      rw [acts, Jobs.leave, Jobs.jobOf?_update_of_ne _ _ ne]
      refine Jobs.jobOf?_eq_some_iff.2 ⟨?_, there⟩
      exact Jobs.getElem?_update_self (s := (l.jobs.take t).setWorkspace l.workspace w) waited
        ({ · with stage := .granted })
    · rw [waiting]
      refine (congrArg Workspace.waiting after).trans (passed.waiting.trans ?_)
      exact congrArg List.tail first

include legal

/-- The limits that are in force bound the number of slots that are taken. -/
theorem running_le {n : Nat} (within : l.running ≤ n) (limit : l.slots ≤ n)
    (limits : ∀ settings, .configure settings ∈ moves → settings.slots ≤ n) :
    (l.run moves).running ≤ n := by
  induction moves generalizing l with
  | nil => exact within
  | cons m rest ih =>
    have step := regular.step legal.1
    refine ih step.regular legal.2 (step.running_le within limit) ?_
      fun settings member => limits settings (List.mem_cons_of_mem m member)
    obtain same | ⟨-, settings, rfl, given⟩ := step.slots
    · exact same ▸ limit
    · exact given ▸ limits settings List.mem_cons_self

theorem bar_le (before : l.line ≠ [] → l.bar ≤ l.running) (somebody : (l.run moves).line ≠ []) :
    (l.run moves).bar ≤ (l.run moves).running := by
  induction moves generalizing l with
  | nil => exact before somebody
  | cons m rest ih =>
    have step := regular.step legal.1
    exact ih step.regular legal.2 (step.bar_le before) somebody

theorem le_bar {n : Nat} (limit : n ≤ l.slots) (before : l.line ≠ [] → n ≤ l.bar)
    (limits : ∀ settings, .configure settings ∈ moves → n ≤ settings.slots)
    (somebody : (l.run moves).line ≠ []) : n ≤ (l.run moves).bar := by
  induction moves generalizing l with
  | nil => exact before somebody
  | cons m rest ih =>
    have step := regular.step legal.1
    refine ih step.regular legal.2 ?_ (step.le_bar limit before)
      (fun settings member => limits settings (List.mem_cons_of_mem m member)) somebody
    obtain same | ⟨-, settings, rfl, given⟩ := step.slots
    · exact same ▸ limit
    · exact given ▸ limits settings List.mem_cons_self

/-- A request that was given up before it got a slot never gets one. -/
theorem spared {t : Nat} (given_up : l.jobs.isCancelled t = true) (before : t ∉ l.served) :
    t ∉ (l.run moves).served ∧ t ∉ (l.run moves).holders := by
  induction moves generalizing l with
  | nil => exact ⟨before, mt regular.served_of_holds before⟩
  | cons m rest ih =>
    have step := regular.step legal.1
    refine ih step.regular legal.2 (step.given_up t given_up) ?_
    obtain ⟨xs, ys, notes⟩ := step.notes
    rw [notes.served, List.mem_append]
    rintro (old | new)
    · exact before old
    · exact Bool.false_ne_true ((notes.live t new).symm.trans given_up)

end Regular

/-- Of two requests the later one gets no slot while the earlier one waits. -/
theorem InOrder.first (ordered : l.InOrder) {t u : Nat} (came : [t, u].Sublist l.arrived)
    (waits : t ∈ l.waiting) : u ∉ l.served := by
  intro given
  have persists : ∀ v ∈ l.served ++ l.waiting, l.persists v = true := by
    intro v member
    rw [← ordered.order] at member
    exact (List.mem_filter.1 member).2
  have kept : [t, u].Sublist (l.served ++ l.waiting) := by
    have filtered := came.filter l.persists
    rw [ordered.order, List.filter_cons_of_pos (persists t (List.mem_append_right _ waits)),
      List.filter_cons_of_pos (persists u (List.mem_append_left _ given)), List.filter_nil] at filtered
    exact filtered
  obtain ⟨before, after, split, served, waiting⟩ := List.sublist_append_iff.1 kept
  cases before with
  | nil =>
    obtain rfl : [t, u] = after := split
    exact ordered.not_served (waiting.subset (List.mem_cons_of_mem t List.mem_cons_self)) given
  | cons v rest =>
    obtain ⟨rfl, -⟩ := List.cons.inj split
    exact ordered.not_served waits (served.subset List.mem_cons_self)

/-- How the slots of a workspace are given. -/
structure Fair (l : JobLog α) : Prop where
  /-- The slots that are counted are those that jobs have. -/
  counted : l.running = l.holders.length
  waits : ∀ t, t ∈ l.waiting ↔
    ∃ j, l.jobs.jobs[t]? = some j ∧ j.workspace = l.workspace ∧ j.stage = .inLine ∧ j.cancelled = false
  order : l.arrived.filter l.persists = l.served ++ l.waiting
  first : ∀ t u, [t, u].Sublist l.arrived → t ∈ l.waiting → u ∉ l.served
  /-- Who was given up before it got a slot never gets one. -/
  spared : ∀ t, l.jobs.isCancelled t = true → t ∉ l.served → ∀ more, l.Legal more →
    t ∉ (l.run more).served ∧ t ∉ (l.run more).holders
  /-- Who was given up after it got a slot will have a turn, and with that the slot is passed on. -/
  passed : ∀ t j, l.jobs.jobs[t]? = some j → j.workspace = l.workspace → j.stage = .granted →
    j.cancelled = true → t ∈ l.jobs.ready ∧ t ∉ (l.perform (.turn t)).holders ∧
      (l.waiting = [] → (l.perform (.turn t)).running + 1 = l.running) ∧
      ∀ u rest, l.waiting = u :: rest → u ∈ (l.perform (.turn t)).holders ∧
        (l.perform (.turn t)).waiting = rest ∧ (l.perform (.turn t)).running = l.running
  /-- While the limit stays after the workspace was empty, it is kept and made use of. -/
  capped : l.running = 0 → l.line = [] → ∀ more, l.Legal more →
    (∀ settings, .configure settings ∈ more → settings.slots = l.slots) →
      (l.run more).running ≤ l.slots ∧ ((l.run more).waiting ≠ [] → (l.run more).running = l.slots)
  /-- When all jobs are over and all slots were given back, nothing is left. -/
  cleared : l.holders = [] →
    (∀ (t : Nat) (j : Job α), l.jobs.jobs[t]? = some j → j.workspace = l.workspace →
      j.stage = .ended) → l.running = 0 ∧ l.line = []

theorem Regular.fair (regular : l.Regular) : l.Fair where
  counted := regular.booked.counted.symm
  waits _ := regular.sound.mem_waiting_iff
  order := regular.ordered.order
  first _ _ := regular.ordered.first
  spared _ given_up before _ legal := regular.spared legal given_up before
  passed t j job here stage given_up :=
    ⟨(regular.sound.due t j job stage).resolve_left nofun,
      regular.passes_on job here stage given_up⟩
  capped := by
    intro empty nobody more legal limits
    have below := regular.running_le legal (empty ▸ Nat.zero_le _) (Nat.le_refl _)
      fun settings member => Nat.le_of_eq (limits settings member)
    refine ⟨below, fun waits => Nat.le_antisymm below ?_⟩
    have somebody : (l.run more).line ≠ [] := mt waiting_of_line waits
    have raised := regular.le_bar legal (Nat.le_refl _) (absurd nobody)
      (fun settings member => Nat.le_of_eq (limits settings member).symm) somebody
    exact Nat.le_trans raised (regular.bar_le legal (absurd nobody) somebody)
  cleared := by
    intro free ended
    refine ⟨?_, List.eq_nil_iff_forall_not_mem.2 fun x member => ?_⟩
    · rw [← Nat.add_zero l.running, ← regular.booked.counted, free]
      rfl
    · obtain ⟨t, j, -, job, here, inLine⟩ := regular.sound.in_line l.workspace x member
      have past := ended t j job here
      rw [inLine] at past
      cases past

end JobLog

end LiveLint

/-!
## Limits that change

The limit is read when a request comes, and then only if nobody waits. A slot that is handed over is not
held against it, and nobody in line gets a slot because the limit was raised. So a limit that was lowered
may be exceeded and one that was raised may not be made use of, until the slots were given back and the
line is empty.
-/

namespace LiveLint

variable {α : Type} [Interval α]

namespace JobLog

variable {l : JobLog α}

/-- What a limit means that may change at any time. -/
structure Limited (l : JobLog α) : Prop where
  /-- A request gets a slot at once if nobody waits and that is within the limit. By hand-over it gets it
  in exchange, whatever the limit is by then. -/
  granted : ∀ m, l.Allows m → ∀ t ∈ (l.perform m).served, t ∉ l.served →
    l.waiting = [] ∧ (l.perform m).holders.length ≤ (l.perform m).slots ∨
      t ∈ l.waiting ∧ (l.perform m).holders.length = l.holders.length
  /-- Who waits does so because all slots were taken when the line was joined first. -/
  waits : l.waiting ≠ [] → l.bar ≤ l.holders.length

theorem Regular.limited (regular : l.Regular) (busy : l.line ≠ [] → l.bar ≤ l.running) : l.Limited where
  granted := by
    intro m allowed t after before
    have step := regular.step allowed
    have same : (l.perform m).slots = l.slots :=
      step.slots.resolve_right fun ⟨nobody, _⟩ => before (nobody ▸ after)
    obtain ⟨xs, ys, notes⟩ := step.notes
    rw [notes.served, List.mem_append] at after
    have counted : l.holders.length = l.running := regular.booked.counted
    have counted' : (l.perform m).holders.length = (l.perform m).running := step.regular.booked.counted
    rw [counted, counted', same]
    obtain ⟨waited, kept⟩ | ⟨nobody, free, more⟩ := notes.given t (after.resolve_left before)
    · exact Or.inr ⟨waited, kept⟩
    · exact Or.inl ⟨nobody, Nat.le_trans more free⟩
  waits somebody := regular.booked.counted.symm ▸ busy (mt waiting_of_line somebody)

/-- While limits change, a slot is given at once only within the limit in force, and requests wait only
while as many slots are taken as there were when the line was joined first. No more slots are ever taken
than the largest limit allowed. -/
theorem limited_while_limits_change {settings : SchedulerSettings α} (comparable : settings.Comparable)
    {workspace : String} {clock : α} {moves : List (JobMove α)}
    (legal : (start workspace settings clock).Legal moves) :
    ((start workspace settings clock).run moves).Limited ∧
      ∀ n, settings.slots ≤ n → (∀ later, .configure later ∈ moves → later.slots ≤ n) →
        ((start workspace settings clock).run moves).holders.length ≤ n := by
  have regular := regular_start comparable workspace clock
  refine ⟨(regular.run legal).limited (regular.bar_le legal (absurd rfl)), fun n limit limits => ?_⟩
  rw [(regular.run legal).booked.counted]
  exact regular.running_le legal (Nat.zero_le n) limit limits

theorem limited_while_limits_change_lowered_and_raised :
    let moves : List (JobMove Number) := [.request "a" "w" true, .turn 0, .request "b" "w" true, .turn 1,
      .request "c" "w" true, .turn 2, .configure (.withSlots 1), .release 0 none, .turn 2,
      .request "d" "w" true, .turn 3, .configure (.withSlots 3), .release 1 none]
    ((start "w" (.withSlots 2) (.float 0)).run moves).Limited ∧
      ∀ n, 2 ≤ n → (∀ later, .configure later ∈ moves → later.slots ≤ n) →
        ((start "w" (.withSlots 2) (.float 0)).run moves).holders.length ≤ n :=
  limited_while_limits_change (by decide) (by decide)

/-- The limit is lowered while a request waits, and a slot is handed over to it beyond the limit. Then it is
raised while another request waits, which goes on waiting beside a free slot. -/
theorem handed_over_beyond_limit :
    let lowered : List (JobMove Number) := [.request "a" "w" true, .turn 0, .request "b" "w" true, .turn 1,
      .request "c" "w" true, .turn 2, .configure (.withSlots 1)]
    let raised : List (JobMove Number) := lowered ++ [.release 0 none, .turn 2, .request "d" "w" true,
      .turn 3, .configure (.withSlots 3)]
    let l := start "w" (.withSlots 2) (.float 0)
    let m := JobMove.release 0 none
    l.Legal raised ∧ (l.run lowered).Allows m ∧
      (2 ∉ (l.run lowered).served ∧ 2 ∈ ((l.run lowered).perform m).served ∧
        ¬((l.run lowered).perform m).holders.length ≤ ((l.run lowered).perform m).slots) ∧
      (l.run raised).waiting ≠ [] ∧ ¬(l.run raised).slots ≤ (l.run raised).holders.length := by
  decide

end JobLog

end LiveLint
