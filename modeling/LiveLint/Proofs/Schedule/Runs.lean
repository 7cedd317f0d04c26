import LiveLint.Proofs.Schedule.Paths

/-!
# Runs

What holds of jobs, of the notes on a workspace and of the order of its requests at all times, whatever
happens to the jobs.
-/

namespace LiveLint

variable {α : Type} [Interval α]

namespace JobLog

/-- What holds of a log at all times. -/
structure Regular (l : JobLog α) : Prop where
  sound : l.jobs.Sound none
  booked : l.Booked 0
  ordered : l.InOrder

theorem InOrder.served_sublist {l : JobLog α} (ordered : l.InOrder) : l.served.Sublist l.arrived := by
  have served : l.served.Sublist (l.arrived.filter l.persists) := by
    rw [ordered.order]
    exact List.sublist_append_left _ _
  exact served.trans List.filter_sublist

/-- A job that shows that it got a slot is noted. -/
theorem Booked.served_of_entered {l : JobLog α} {owed t : Nat} {j : Job α} (booked : l.Booked owed)
    (job : l.jobs.jobOf? l.workspace t = some j) (entered : j.entered = true) : t ∈ l.served := by
  have noted := booked.noted t j job
  unfold Noted at noted
  split at noted
  · next stage => simp only [Job.entered, stage, Bool.false_eq_true] at entered
  · next stage => simp only [Job.entered, stage, Bool.false_eq_true] at entered
  · exact noted.1
  · exact noted.1
  · exact noted entered

theorem Booked.arrived_of_joined {l : JobLog α} {owed t : Nat} {j : Job α} (booked : l.Booked owed)
    (ordered : l.InOrder) (job : l.jobs.jobOf? l.workspace t = some j) (joined : j.joined = true) :
    t ∈ l.arrived := by
  unfold Job.joined at joined
  split at joined
  · next stage =>
    have noted := booked.noted t j job
    simp only [Noted, stage] at noted
    exact noted.1
  · exact ordered.served_sublist.subset (booked.served_of_entered job joined)

omit [Interval α] in
/-- At most one ticket that shows something new is the list of all that do. -/
theorem newly_eq {l : JobLog α} {shows : Job α → Bool} {known xs : List Nat} {s : Jobs α}
    (few : xs.length ≤ 1)
    (mem_iff : ∀ t, t ∈ xs ↔ (∃ j, s.jobOf? l.workspace t = some j ∧ shows j = true) ∧ t ∉ known) :
    l.newly shows known s = xs := by
  have same : ∀ t, t ∈ l.newly shows known s ↔ t ∈ xs := by
    intro t
    rw [mem_iff]
    simp only [newly, List.mem_filter, List.mem_range, Option.any_eq_true, Bool.and_eq_true, beq_iff_eq,
      Bool.not_eq_true', Jobs.jobOf?_eq_some_iff, and_assoc, List.contains_eq_mem,
      decide_eq_false_iff_not]
    constructor
    · rintro ⟨-, ⟨j, job, here, shown⟩, new⟩
      exact ⟨⟨j, job, here, shown⟩, new⟩
    · rintro ⟨⟨j, job, here, shown⟩, new⟩
      exact ⟨Jobs.lt_size job, ⟨j, job, here, shown⟩, new⟩
  have nodup : (l.newly shows known s).Nodup := List.nodup_range.filter _
  cases xs with
  | nil => exact List.eq_nil_iff_forall_not_mem.2 fun t member => List.not_mem_nil ((same t).1 member)
  | cons x rest =>
    obtain rfl : rest = [] := List.eq_nil_of_length_eq_zero (Nat.le_zero.1 (Nat.le_of_succ_le_succ few))
    refine List.perm_singleton.1 ((List.perm_ext_iff_of_nodup nodup ?_).2 same)
    exact List.nodup_cons.2 ⟨List.not_mem_nil, List.nodup_nil⟩

/-- What transitions lead to is what is noted, if one move is noted of them. -/
theorem Notes.perform_eq {l l' : JobLog α} {xs ys : List Nat} {m : JobMove α} (notes : l.Notes l' xs ys)
    (booked : l'.Booked 0) (ordered : l'.InOrder) (workspace : l'.workspace = l.workspace)
    (jobs : l'.jobs = l.jobs.act m) (returned : l'.returned = (l.perform m).returned) :
    l.perform m = l' := by
  have arrived : l.newly Job.joined l.arrived l'.jobs = xs := by
    refine newly_eq notes.few.1 fun t => ?_
    constructor
    · intro new
      have nodup := ordered.distinct
      rw [notes.arrived] at nodup
      exact ⟨notes.joined t new, fun old => (List.nodup_append.1 nodup).2.2 t old t new rfl⟩
    · rintro ⟨⟨j, job, joined⟩, new⟩
      have member := booked.arrived_of_joined ordered (workspace ▸ job) joined
      rw [notes.arrived, List.mem_append] at member
      exact member.resolve_left new
  have served : l.newly Job.entered l.served l'.jobs = ys := by
    refine newly_eq notes.few.2 fun t => ?_
    constructor
    · intro new
      have nodup := ordered.distinct.sublist ordered.served_sublist
      rw [notes.served] at nodup
      exact ⟨notes.entered t new, fun old => (List.nodup_append.1 nodup).2.2 t old t new rfl⟩
    · rintro ⟨⟨j, job, entered⟩, new⟩
      have member := booked.served_of_entered (workspace ▸ job) entered
      rw [notes.served, List.mem_append] at member
      exact member.resolve_left new
  have line' : l'.line = ((l.jobs.act m).scheduler.workspace l.workspace).waiters := by
    rw [line, workspace, jobs]
  have bar := notes.bar
  rw [line'] at bar
  rw [jobs] at arrived served
  have shape : l' = ⟨l'.workspace, l'.jobs, l'.returned, l'.arrived, l'.served, l'.bar⟩ := rfl
  rw [shape, workspace, jobs, returned, notes.arrived, notes.served, bar, ← arrived, ← served]
  rfl

/-- Transitions change neither the workspace nor the limits, and who was given up stays so. -/
theorem Transition.frame {actor : Option Nat} {l l' : JobLog α} (moved : l.Transition actor l')
    (sound : l.jobs.Sound actor) :
    l'.workspace = l.workspace ∧ l'.slots = l.slots ∧
      ∀ t, l.jobs.isCancelled t = true → l'.jobs.isCancelled t = true := by
  have granted : ∀ (s : Jobs α) (next : Option Nat),
      (s.grant next).scheduler.settings.slots = s.scheduler.settings.slots := by
    intro s next
    rw [Jobs.scheduler_grant]
  have kept : ∀ {s : Jobs α} {i : Nat} {j : Job α} {f : Job α → Job α}, s.jobs[i]? = some j →
      (j.cancelled = true → (f j).cancelled = true) → ∀ t, s.isCancelled t = true →
        (s.update i f).isCancelled t = true := by
    intro s i j f job keeps t given
    by_cases same : t = i
    · subst same
      rw [Jobs.isCancelled_eq job] at given
      rw [Jobs.isCancelled_eq (Jobs.getElem?_update_self job f)]
      exact keeps given
    · rw [Jobs.isCancelled_update_of_ne s same f]
      exact given
  cases moved with
  | request name workspace keepsSlot =>
    refine ⟨rfl, rfl, fun t given => ?_⟩
    obtain ⟨j, job, given⟩ := Option.any_eq_true _ _ |>.1 given
    have old := Jobs.lt_size job
    have same : (l.jobs.add name workspace keepsSlot).jobs[t]? = some j :=
      ((Array.getElem?_push_lt old).trans (Array.getElem?_eq_getElem old).symm).trans job
    exact (Jobs.isCancelled_eq same).trans given
  | wait clock | wake job old called | touch line running => exact ⟨rfl, rfl, fun _ => id⟩
  | flag job stage state workspace cancelled =>
    refine ⟨rfl, rfl, kept job fun given => ?_⟩
    rcases cancelled with same | ⟨live, -⟩
    · exact same.trans given
    · exact absurd (live.symm.trans given) Bool.false_ne_true
  | giveUp job stage live => exact ⟨rfl, rfl, kept (s := l.jobs.setWorkspace _ _) job fun _ => rfl⟩
  | withdraw job stage cancelled => exact ⟨rfl, rfl, kept (s := l.jobs.setWorkspace _ _) job id⟩
  | drop job stage workspace ended cancelled out => exact ⟨rfl, rfl, kept job cancelled.trans⟩
  | enter job acts stage live free alone line running =>
    exact ⟨rfl, rfl, kept (s := l.jobs.setWorkspace _ _) job id⟩
  | queue job stage live rests busy line running =>
    exact ⟨rfl, rfl, kept (s := l.jobs.setWorkspace _ _) job id⟩
  | goOn job stage workspace cancelled holds entered => exact ⟨rfl, rfl, kept job cancelled.trans⟩
  | handOver job stage passed workspace ended cancelled gone =>
    refine ⟨rfl, granted _ _, fun t given => ?_⟩
    have stays := sound.stays passed job (Job.out_of_line stage)
    exact kept stays cancelled.trans t ((Jobs.isCancelled_grant _ _ t).trans given)
  | giveBack job stage holds passed =>
    exact ⟨rfl, granted _ _, fun t given => (Jobs.isCancelled_grant _ _ t).trans given⟩

/-- What holds at all times is kept by transitions, one after the other. -/
theorem Transitions.kept {actor : Option Nat} {l l' : JobLog α} (path : l.Transitions actor l')
    (sound : l.jobs.Sound actor) (booked : l.Booked 0) (ordered : l.InOrder) :
    l'.jobs.Sound actor ∧ l'.Booked 0 ∧ l'.InOrder ∧ l'.workspace = l.workspace ∧ l'.slots = l.slots ∧
      ∀ t, l.jobs.isCancelled t = true → l'.jobs.isCancelled t = true := by
  induction path with
  | refl => exact ⟨sound, booked, ordered, rfl, rfl, fun _ => id⟩
  | more before last ih =>
    obtain ⟨sound, booked, ordered, workspace, slots, given⟩ := ih
    obtain ⟨workspace', slots', given'⟩ := last.frame sound
    exact ⟨last.sound sound, last.booked sound booked, last.inOrder sound booked ordered,
      workspace'.trans workspace, slots'.trans slots, fun t old => given' t (given t old)⟩

/-- What becomes of a log in one move. -/
structure Step (l : JobLog α) (m : JobMove α) : Prop where
  regular : (l.perform m).Regular
  notes : ∃ xs ys, l.Notes (l.perform m) xs ys
  given_up : ∀ t, l.jobs.isCancelled t = true → (l.perform m).jobs.isCancelled t = true
  /-- The limit changes only in a move that is there for that, and then nobody gets a slot. -/
  slots : (l.perform m).slots = l.slots ∨ (l.perform m).served = l.served ∧
    ∃ settings, m = .configure settings ∧ (l.perform m).slots = settings.slots

variable {l : JobLog α} {m : JobMove α}

theorem Regular.step_of_reaches (regular : l.Regular)
    (reached : l.Reaches none (l.jobs.act m) (l.perform m).returned) : l.Step m := by
  obtain ⟨l', xs, ys, path, jobs, returned, notes⟩ := reached
  obtain ⟨sound, booked, ordered, workspace, slots, given⟩ :=
    path.kept regular.sound regular.booked regular.ordered
  have same := notes.perform_eq booked ordered workspace jobs returned
  subst same
  exact ⟨⟨sound, booked, ordered⟩, ⟨xs, ys, notes⟩, given, Or.inl slots⟩

/-- A job may take its turn. -/
theorem Regular.turn (regular : l.Regular) {t : Nat} (ready : t ∈ l.jobs.ready) :
    l.Step (.turn t) := by
  let acting : JobLog α := { l with jobs := l.jobs.take t }
  have sound : acting.jobs.Sound (some t) := regular.sound.take t
  have booked : acting.Booked 0 :=
    regular.booked.away rfl (fun _ => rfl) rfl rfl rfl (fun _ _ _ => Iff.rfl) regular.booked.old
  have ordered : acting.InOrder := regular.ordered.congr rfl rfl rfl fun _ _ => Or.inr rfl
  have lt := regular.sound.ready_lt t ready
  have job : l.jobs.jobs[t]? = some l.jobs.jobs[t] := Array.getElem?_eq_getElem lt
  have rests : l.jobs.jobs[t].stage = .created → t ∉ (l.jobs.take t).ready := by
    intro stage again
    have count := (regular.sound.fresh t _ job stage).2
    have left := List.count_pos_iff.2 again
    rw [Jobs.take, List.count_erase_self] at left
    omega
  obtain ⟨l', xs, ys, path, jobs, returned, notes⟩ :=
    reaches_step sound job rests (regular.sound.called t ready _ job)
  obtain ⟨sound', booked', ordered', workspace, slots, given⟩ := path.kept sound booked ordered
  have notes : l.Notes l' xs ys :=
    ⟨notes.arrived, notes.served, notes.few, notes.joined, notes.entered, notes.live, notes.given,
      notes.less, notes.kept, notes.bar⟩
  have same : l.perform (.turn t) = l' := notes.perform_eq booked' ordered' workspace jobs returned
  have rested : l'.jobs.Sound none :=
    sound'.rest fun j after => (l.jobs.take t).rests_step t j (jobs ▸ after)
  subst same
  exact ⟨⟨rested, booked', ordered'⟩, ⟨xs, ys, notes⟩, given, Or.inl slots⟩

/-- Whatever happens, jobs, notes and order stay as they should be. -/
theorem Regular.step (regular : l.Regular) (allowed : l.Allows m) : l.Step m := by
  cases m with
  | request name workspace keepsSlot =>
    exact regular.step_of_reaches (l.reaches_add name workspace keepsSlot)
  | turn t => exact regular.turn allowed
  | cancel t => exact regular.step_of_reaches (l.reaches_cancel t)
  | finish t fault => exact regular.step_of_reaches (l.reaches_finish t fault)
  | release t latency =>
    obtain ⟨j, job, stage, holds⟩ := allowed
    refine regular.step_of_reaches ?_
    have act : l.jobs.act (.release t latency) = (l.jobs.release j.workspace latency).1 := by
      simp only [Jobs.act, job]
    rw [act]
    exact reaches_release regular.sound job stage holds latency
  | configure settings =>
    have line : ∀ name, ((l.jobs.scheduler.configure settings).workspace name).waiters =
          (l.jobs.scheduler.workspace name).waiters ∧
        ((l.jobs.scheduler.configure settings).workspace name).running =
          (l.jobs.scheduler.workspace name).running := by
      intro name
      unfold Scheduler.workspace Scheduler.configure
      dsimp only
      cases l.jobs.scheduler.workspaces.get? name <;> exact ⟨rfl, rfl⟩
    let later : JobLog α := { l with jobs.scheduler := l.jobs.scheduler.configure settings }
    have sound : later.jobs.Sound none :=
      regular.sound.congr allowed rfl rfl fun name => (line name).1
    have booked : later.Booked 0 := regular.booked.away rfl (fun _ => rfl) (line l.workspace).2 rfl rfl
      (fun _ _ _ => Iff.rfl) regular.booked.old
    have ordered : later.InOrder := by
      refine regular.ordered.congr rfl rfl ?_ fun _ _ => Or.inr rfl
      change Workspace.waiting _ = Workspace.waiting _
      rw [Workspace.waiting, (line l.workspace).1]
      rfl
    have notes : l.Notes later [] [] :=
      Notes.quiet rfl rfl rfl (line l.workspace).1.trans (line l.workspace).2
    have same : l.perform (.configure settings) = later :=
      notes.perform_eq booked ordered rfl rfl rfl
    exact ⟨same ▸ ⟨sound, booked, ordered⟩, ⟨[], [], same ▸ notes⟩, fun t given => same ▸ given,
      Or.inr ⟨by rw [same], settings, rfl, rfl⟩⟩
  | wait clock => exact regular.step_of_reaches (l.reaches_wait clock)

/-- Before anything happened there are no jobs, and all is as it should be. -/
theorem regular_start {settings : SchedulerSettings α} (comparable : settings.Comparable)
    (workspace : String) (clock : α) : (start workspace settings clock).Regular := by
  have empty : ∀ (t : Nat) (j : Job α), (start workspace settings clock).jobs.jobs[t]? ≠ some j := by
    intro t j job
    rw [start, Array.getElem?_empty] at job
    cases job
  refine ⟨⟨comparable, ?_, ?_, ?_, ?_, ?_, fun _ => List.nodup_nil, ?_⟩, ⟨rfl, ?_, ?_, ?_⟩,
    ⟨List.nodup_nil, rfl⟩⟩
  · exact fun t ready => absurd ready List.not_mem_nil
  · exact fun t j job => absurd job (empty t j)
  · exact fun t ready => absurd ready List.not_mem_nil
  · exact fun t j job => absurd job (empty t j)
  · exact fun name x member => absurd member List.not_mem_nil
  · exact fun t j job => absurd job (empty t j)
  · exact fun t member => absurd member List.not_mem_nil
  · exact fun t member => absurd member List.not_mem_nil
  · exact fun t j job => absurd (Jobs.jobOf?_eq_some_iff.1 job).1 (empty t j)

theorem Regular.run (regular : l.Regular) {moves : List (JobMove α)} (legal : l.Legal moves) :
    (l.run moves).Regular := by
  induction moves generalizing l with
  | nil => exact regular
  | cons m rest ih => exact ih (regular.step legal.1).regular legal.2

/-- Jobs that settle take their turns in the order in which they fell due. -/
theorem exists_turns (l : JobLog α) (fuel : Nat) :
    ∃ moves, l.Legal moves ∧ (l.run moves).jobs = Jobs.settleWith fuel l.jobs := by
  induction fuel generalizing l with
  | zero => exact ⟨[], trivial, rfl⟩
  | succ fuel ih =>
    unfold Jobs.settleWith
    cases ready : l.jobs.ready with
    | nil => exact ⟨[], trivial, rfl⟩
    | cons t rest =>
      have due : t ∈ l.jobs.ready := ready ▸ List.mem_cons_self
      have left : l.jobs.take t = { l.jobs with ready := rest } := by
        rw [Jobs.take, ready, List.erase_cons_head]
      obtain ⟨moves, legal, settled⟩ := ih (l.perform (.turn t))
      exact ⟨.turn t :: moves, ⟨due, legal⟩,
        settled.trans (congrArg (fun s : Jobs α => Jobs.settleWith fuel (s.step t)) left)⟩

end JobLog

end LiveLint
