import LiveLint.Proofs.Schedule.Notes

/-!
# The transitions of a move

Every move of jobs is made of transitions, at most one of which lets a request join or gives a slot.
-/

namespace LiveLint

variable {α : Type} [Interval α]

namespace Jobs

omit [Interval α] in
/-- A job whose stage was overwritten was not just granted a slot. -/
theorem rests_update (s : Jobs α) (t : Nat) {f : Job α → Job α} (overrides : ∀ j, (f j).stage ≠ .granted) :
    ∀ k, (s.update t f).jobs[t]? = some k → k.stage ≠ .granted := by
  intro k job
  rw [getElem?_update, if_pos rfl] at job
  obtain ⟨j, -, rfl⟩ := Option.map_eq_some_iff.1 job
  exact overrides j

theorem rests_enter (s : Jobs α) (t : Nat) (j : Job α) :
    ∀ k, (s.enter t j).jobs[t]? = some k → k.stage ≠ .granted := by
  unfold enter
  split
  · exact rests_update _ t fun _ => nofun
  split
  · exact rests_update _ t fun _ => nofun
  · exact rests_update _ t fun _ => nofun

/-- A job that took its turn does not wait for it any more. -/
theorem rests_step (s : Jobs α) (t : Nat) : ∀ k, (s.step t).jobs[t]? = some k → k.stage ≠ .granted := by
  unfold step
  cases job : s.jobs[t]? with
  | none =>
    intro k same
    cases job.symm.trans same
  | some j =>
    cases stage : j.stage with
    | created =>
      simp only [stage]
      split
      · exact rests_update _ t fun _ => nofun
      · split
        · exact rests_enter _ t j
        all_goals exact rests_update _ t fun _ => nofun
    | inLine =>
      simp only [stage]
      exact rests_update _ t fun _ => nofun
    | granted =>
      simp only [stage]
      split
      · exact rests_update _ t fun _ => nofun
      · exact rests_enter _ t j
    | working since =>
      simp only [stage]
      exact rests_update _ t fun _ => nofun
    | ended =>
      simp only [stage]
      intro k same
      cases job.symm.trans same
      rw [stage]
      exact nofun

variable {s : Jobs α} {actor : Option Nat} (sound : s.Sound actor)

include sound

/-- A slot that is released is handed over, and nothing fails. -/
theorem exists_release (name : String) (latency : Option α) :
    ∃ w next, s.release name latency = ((s.setWorkspace name w).grant next, none) ∧
      (s.scheduler.workspace name).HandsOver w next := by
  obtain ⟨w, next, released, passed⟩ :=
    Scheduler.exists_release sound.comparable (sound.known : ∀ x ∈ (s.scheduler.workspace name).waiters, _)
      latency
  refine ⟨w, next, ?_, passed⟩
  unfold release
  rw [released]
  rfl

/-- A job that is over gives its slot back. It shows that it got one, unless it was given up. -/
theorem exists_conclude (t : Nat) (j : Job α) (since : α) :
    ∃ w next state, s.conclude t j since = ((s.setWorkspace j.workspace w).grant next).leave t state ∧
      (s.scheduler.workspace j.workspace).HandsOver w next ∧
      ∀ k : Job α, k.stage = .ended → k.state = state →
        k.holds false = false ∧ (j.cancelled = false → k.entered = true) := by
  obtain ⟨w, next, released, passed⟩ :=
    exists_release sound j.workspace (some (Interval.between since s.clock))
  unfold conclude
  rw [released]
  cases given : j.cancelled with
  | true =>
    refine ⟨w, next, .cancelled, rfl, passed, fun k ended state => ⟨?_, nofun⟩⟩
    simp only [Job.holds, ended, state]
  | false =>
    cases fault : j.fault with
    | none =>
      refine ⟨w, next, .done, rfl, passed, fun k ended state => ?_⟩
      simp only [Job.holds, Job.entered, ended, state, implies_true, and_self]
    | some text =>
      refine ⟨w, next, .failed text, rfl, passed, fun k ended state => ?_⟩
      simp only [Job.holds, Job.entered, ended, state, implies_true, and_self]

/-- A request to which a slot is handed over has it. -/
theorem exists_granted {name : String} {w : Workspace α} {u : Nat}
    (passed : (s.scheduler.workspace name).HandsOver w (some u)) :
    ∃ k, ((s.setWorkspace name w).grant (some u)).jobOf? name u = some k ∧ k.entered = true := by
  obtain ⟨j, job, rfl, -⟩ := sound.next_waits passed
  have granted := jobOf?_update_self (s := s.setWorkspace j.workspace w)
    (f := ({ · with stage := .granted })) job rfl
  exact ⟨_, granted, rfl⟩

end Jobs

namespace JobLog

def Reaches (actor : Option Nat) (l : JobLog α) (s : Jobs α) (returned : List Nat) : Prop :=
  ∃ l' xs ys, l.Transitions actor l' ∧ l'.jobs = s ∧ l'.returned = returned ∧ l.Notes l' xs ys

variable {l : JobLog α} {actor : Option Nat}

theorem Transition.transitions {l' : JobLog α} (moved : l.Transition actor l') :
    l.Transitions actor l' := .more .refl moved

theorem reaches_self (l : JobLog α) : l.Reaches actor l.jobs l.returned :=
  ⟨l, [], [], .refl, rfl, rfl, Notes.quiet rfl rfl rfl id rfl⟩

theorem reaches_add (l : JobLog α) (name workspace : String) (keepsSlot : Bool) :
    l.Reaches actor (l.jobs.add name workspace keepsSlot) l.returned :=
  ⟨_, [], [], (Transition.request name workspace keepsSlot).transitions, rfl, rfl,
    Notes.quiet rfl rfl rfl id rfl⟩

theorem reaches_wait (l : JobLog α) (clock : α) :
    l.Reaches actor { l.jobs with clock } l.returned :=
  ⟨_, [], [], (Transition.wait clock).transitions, rfl, rfl, Notes.quiet rfl rfl rfl id rfl⟩

theorem reaches_finish (l : JobLog α) (t : Nat) (fault : Option String) :
    l.Reaches actor (l.jobs.finish t fault) l.returned := by
  unfold Jobs.finish
  cases job : l.jobs.jobs[t]? with
  | none => exact l.reaches_self
  | some j =>
    have told : l.Transition actor _ :=
      .flag (f := ({ · with finishing := true, fault })) job rfl rfl rfl (Or.inl rfl)
    have now := Jobs.getElem?_update_self job ({ · with finishing := true, fault })
    cases stage : j.stage with
    | working since =>
      simp only [stage]
      refine ⟨_, [], [], .more told.transitions (.wake now ?_ ?_), rfl, rfl, Notes.quiet rfl rfl rfl id rfl⟩
      all_goals simp only [stage]
      all_goals exact nofun
    | created | inLine | granted | ended =>
      simp only [stage]
      exact ⟨_, [], [], told.transitions, rfl, rfl, Notes.quiet rfl rfl rfl id rfl⟩

theorem reaches_cancel (l : JobLog α) (t : Nat) : l.Reaches actor (l.jobs.cancel t) l.returned := by
  unfold Jobs.cancel
  cases job : l.jobs.jobs[t]? with
  | none => exact l.reaches_self
  | some j =>
    have flagged : j.stage ≠ .inLine → j.stage ≠ .ended → l.Transition actor
        { l with jobs := l.jobs.update t ({ · with cancelled := true }) } := by
      intro out here
      refine .flag job rfl rfl rfl ?_
      cases given : j.cancelled with
      | true => exact Or.inl rfl
      | false => exact Or.inr ⟨rfl, out, here⟩
    have now := Jobs.getElem?_update_self job ({ · with cancelled := true })
    cases stage : j.stage with
    | ended =>
      simp only [stage]
      exact l.reaches_self
    | inLine =>
      simp only [stage]
      cases given : j.cancelled with
      | true => exact l.reaches_self
      | false =>
        have later := Jobs.getElem?_update_self (s := l.jobs.setWorkspace j.workspace
          ((l.jobs.scheduler.workspace j.workspace).giveUp t)) job ({ · with cancelled := true })
        refine ⟨_, [], [],
          .more (Transition.giveUp job stage given).transitions (.wake later ?_ fun _ => rfl), rfl, rfl, Notes.touch (l.jobs.workspace_setWorkspace _ _ _) (fun nobody => ?_) rfl⟩
        · simp [stage]
        · rw [Workspace.giveUp, nobody]
          rfl
    | working since =>
      simp only [stage]
      refine ⟨_, [], [], .more (flagged ?_ ?_).transitions (.wake now ?_ ?_), rfl, rfl,
        Notes.quiet rfl rfl rfl id rfl⟩
      all_goals simp [stage]
    | created | granted =>
      simp only [stage]
      refine ⟨_, [], [], (flagged ?_ ?_).transitions, rfl, rfl, Notes.quiet rfl rfl rfl id rfl⟩
      all_goals simp [stage]

theorem reaches_release (sound : l.jobs.Sound actor) {t : Nat} {j : Job α}
    (job : l.jobs.jobs[t]? = some j) (stage : j.stage = .ended)
    (holds : j.holds (l.returned.contains t) = true) (latency : Option α) :
    l.Reaches actor (l.jobs.release j.workspace latency).1 (t :: l.returned) := by
  obtain ⟨w, next, released, passed⟩ := Jobs.exists_release sound j.workspace latency
  rw [released]
  refine ⟨_, [], _, (Transition.giveBack job stage holds passed).transitions, rfl, rfl,
    Notes.pass sound passed ?_ ?_ _⟩
  · rw [Jobs.scheduler_grant, Jobs.workspace_setWorkspace]
  · rintro u rfl
    exact Jobs.exists_granted sound passed

/-- A job with a slot ends, and its slot is handed over. -/
theorem reaches_handOver (sound : l.jobs.Sound actor) {t : Nat} {j : Job α} {f : Job α → Job α}
    {w : Workspace α} {next : Option Nat} (job : l.jobs.jobs[t]? = some j)
    (stage : j.stage = .granted ∨ ∃ since, j.stage = .working since)
    (passed : (l.jobs.scheduler.workspace j.workspace).HandsOver w next)
    (workspace : (f j).workspace = j.workspace) (ended : (f j).stage = .ended)
    (cancelled : (f j).cancelled = j.cancelled) (gone : (f j).holds false = false) :
    l.Reaches actor (((l.jobs.setWorkspace j.workspace w).grant next).update t f) l.returned := by
  refine ⟨_, [], _, (Transition.handOver job stage passed workspace ended cancelled gone).transitions, rfl,
    rfl, Notes.pass sound passed ?_ ?_ _⟩
  · change ((l.jobs.setWorkspace j.workspace w).grant next).scheduler.workspace l.workspace = _
    rw [Jobs.scheduler_grant, Jobs.workspace_setWorkspace]
  · rintro u rfl
    have ne : u ≠ t := by
      rintro rfl
      obtain ⟨k, same, -, inLine, -⟩ := sound.next_waits passed
      cases job.symm.trans same
      exact Job.out_of_line stage inLine
    rw [Jobs.jobOf?_update_of_ne _ _ ne]
    exact Jobs.exists_granted sound passed

theorem reaches_conclude (sound : l.jobs.Sound actor) {t : Nat} {j : Job α}
    (job : l.jobs.jobs[t]? = some j) (stage : j.stage = .granted ∨ ∃ since, j.stage = .working since)
    (since : α) : l.Reaches actor (l.jobs.conclude t j since) l.returned := by
  obtain ⟨w, next, state, concluded, passed, shows⟩ := Jobs.exists_conclude sound t j since
  rw [concluded]
  exact reaches_handOver sound job stage passed rfl rfl rfl (shows _ rfl rfl).1

/-- A job that was granted a slot goes on with it. -/
theorem reaches_enter (sound : l.jobs.Sound actor) {t : Nat} {j : Job α}
    (job : l.jobs.jobs[t]? = some j) (stage : j.stage = .granted) :
    l.Reaches actor (l.jobs.enter t j) l.returned := by
  have goesOn : ∀ f : Job α → Job α, (f j).workspace = j.workspace → (f j).cancelled = j.cancelled →
      (f j).holds false = true → (f j).entered = true →
      l.Reaches actor (l.jobs.update t f) l.returned := by
    intro f workspace cancelled holds entered
    exact ⟨_, [], [], (Transition.goOn job stage workspace cancelled holds entered).transitions, rfl, rfl,
      Notes.quiet rfl rfl rfl id rfl⟩
  unfold Jobs.enter
  split
  · exact goesOn _ rfl rfl rfl rfl
  split
  · exact reaches_conclude sound job (Or.inl stage) _
  · exact goesOn _ rfl rfl rfl rfl

section AtOnce

variable {t : Nat} {j : Job α} {w : Workspace α} (job : l.jobs.jobs[t]? = some j)
  (stage : j.stage = .created) (live : j.cancelled = false)
  (free : (l.jobs.scheduler.workspace j.workspace).running < l.slots)
  (alone : (l.jobs.scheduler.workspace j.workspace).waiters = []) (line : w.waiters = [])
  (running : w.running = (l.jobs.scheduler.workspace j.workspace).running + 1)

include job stage live free alone line running

/-- A request gets a slot at once, and its job keeps it. -/
theorem reaches_goOn_at_once {f : Job α → Job α} (overrides : f ∘ ({ · with stage := .granted }) = f)
    (workspace : (f j).workspace = j.workspace) (cancelled : (f j).cancelled = j.cancelled)
    (holds : (f j).holds false = true) (shows : (f j).entered = true) :
    l.Reaches (some t) ((l.jobs.setWorkspace j.workspace w).update t f) l.returned := by
  have entered : l.Transition (some t) _ := .enter job rfl stage live free alone line running
  have now := Jobs.getElem?_update_self (s := l.jobs.setWorkspace j.workspace w) job
    ({ · with stage := .granted })
  have same : f { j with stage := .granted } = f j := congrFun overrides j
  refine ⟨_, _, _, .more entered.transitions (.goOn (f := f) now rfl ?_ ?_ ?_ ?_), ?_, rfl,
    Notes.enter free alone line (Nat.le_of_eq running) ((Jobs.isCancelled_eq job).trans live) ?_ ?_⟩
  · rw [same]
    exact workspace
  · rw [same]
    exact cancelled
  · rw [same]
    exact holds
  · rw [same]
    exact shows
  · exact (Jobs.update_update _ _ _ _).trans (congrArg _ overrides)
  · exact l.jobs.workspace_setWorkspace _ _ _
  · refine ⟨f j, Jobs.jobOf?_eq_some_iff.2 ⟨?_, workspace⟩, shows⟩
    exact (Jobs.getElem?_update_self now f).trans (congrArg some same)

/-- A request gets a slot at once, and its job ends with it. Nobody waits, so the slot becomes free again. -/
theorem reaches_conclude_at_once (sound : l.jobs.Sound (some t)) (since : α) :
    l.Reaches (some t) ((l.jobs.setWorkspace j.workspace w).conclude t j since) l.returned := by
  have entered : l.Transition (some t) _ := .enter job rfl stage live free alone line running
  have now := Jobs.getElem?_update_self (s := l.jobs.setWorkspace j.workspace w) job
    ({ · with stage := .granted })
  obtain ⟨w', next, state, concluded, passed, shows⟩ :=
    Jobs.exists_conclude (sound.touch (line.trans alone.symm)) t j since
  have at' : (l.jobs.setWorkspace j.workspace w).scheduler.workspace j.workspace = w :=
    l.jobs.scheduler.workspace_set_self _ _
  have nobody : w.waiting = [] := by
    rw [Workspace.waiting, line]
    rfl
  have nobody' : next = none := by
    rw [passed.next, at', nobody]
    rfl
  subst nobody'
  have left : Transition (some t) { l with
      jobs := (l.jobs.setWorkspace j.workspace w).update t ({ · with stage := .granted })
      arrived := l.arrived ++ l.noted j.workspace (some t)
      served := l.served ++ l.noted j.workspace (some t) } _ :=
    .handOver (f := ({ · with state, stage := .ended })) now (Or.inl rfl) passed rfl rfl rfl
      (shows _ rfl rfl).1
  rw [noted_none, List.append_nil] at left
  rw [concluded]
  have cleared : w'.waiters = [] := by
    refine passed.cleared ?_
    rw [at', nobody]
  refine ⟨_, _, _, .more entered.transitions left, ?_, rfl,
    Notes.enter free alone cleared ?_ ((Jobs.isCancelled_eq job).trans live) ?_ ?_⟩
  · exact Jobs.update_update ((l.jobs.setWorkspace j.workspace w).setWorkspace j.workspace w') t
      ({ · with stage := .granted }) ({ · with state, stage := .ended })
  · rw [passed.running, at', nobody, if_pos rfl, running, Nat.add_sub_cancel]
    exact Nat.le_succ _
  · change ((l.jobs.setWorkspace j.workspace w).setWorkspace j.workspace w').scheduler.workspace
      l.workspace = _
    rw [Jobs.workspace_setWorkspace, Jobs.workspace_setWorkspace]
    split <;> rfl
  · refine ⟨_, Jobs.jobOf?_eq_some_iff.2 ⟨Jobs.getElem?_update_self now _, rfl⟩, ?_⟩
    exact (shows _ rfl rfl).2 live

/-- A request gets a slot at once, and its job goes on with it. -/
theorem reaches_enter_at_once (sound : l.jobs.Sound (some t)) :
    l.Reaches (some t) ((l.jobs.setWorkspace j.workspace w).enter t j) l.returned := by
  have goesOn {f : Job α → Job α} := reaches_goOn_at_once (f := f) job stage live free alone line running
  unfold Jobs.enter
  split
  · exact goesOn rfl rfl rfl rfl rfl
  split
  · exact reaches_conclude_at_once job stage live free alone line running sound _
  · exact goesOn rfl rfl rfl rfl rfl

end AtOnce

/-- A job takes its turn. -/
theorem reaches_step {t : Nat} (sound : l.jobs.Sound (some t)) {j : Job α}
    (job : l.jobs.jobs[t]? = some j) (rests : j.stage = .created → t ∉ l.jobs.ready)
    (called : j.stage = .inLine → j.cancelled = true) :
    l.Reaches (some t) (l.jobs.step t) l.returned := by
  unfold Jobs.step
  rw [job]
  cases stage : j.stage with
  | created =>
    simp only [stage]
    have state := (sound.fresh t j job stage).1
    cases live : j.cancelled with
    | true =>
      refine ⟨_, [], [], (Transition.drop (f := ({ · with stage := .ended })) job stage rfl rfl rfl
        ?_).transitions, rfl, rfl, Notes.quiet rfl rfl rfl id rfl⟩
      simp only [Job.entered, state]
    | false =>
      simp only [Bool.false_eq_true, if_false]
      obtain ⟨w, acquired, free, alone, line, running⟩ | ⟨w, acquired, busy, line, running⟩ |
          ⟨w, failure, acquired, line, running⟩ :=
        Scheduler.acquire_cases sound.comparable j.workspace t
      · rw [acquired]
        exact reaches_enter_at_once job stage live free alone line running sound
      · rw [acquired]
        refine ⟨_, _, [], (Transition.queue job stage live (rests stage) busy line running).transitions, rfl,
          rfl, Notes.join busy ?_ running (l.jobs.workspace_setWorkspace _ _ _) ?_⟩
        · rw [line]
          exact List.append_ne_nil_of_right_ne_nil _ (List.cons_ne_nil _ _)
        · exact ⟨_, Jobs.jobOf?_update_self (s := l.jobs.setWorkspace j.workspace w) job rfl, rfl⟩
      · rw [acquired]
        have touched : l.Transition (some t) _ := .touch line running
        refine ⟨_, [], [], .more touched.transitions (.drop
          (f := ({ · with state := .refused (.failure failure), stage := .ended })) job stage rfl rfl rfl
          rfl), rfl, rfl, Notes.touch (l.jobs.workspace_setWorkspace _ _ _) (fun nobody => ?_) running⟩
        rw [line, nobody]
  | inLine =>
    simp only [stage]
    refine ⟨_, [], [], (Transition.withdraw job stage (called stage)).transitions, rfl, rfl,
      Notes.touch (l.jobs.workspace_setWorkspace _ _ _) (fun nobody => ?_) rfl⟩
    rw [Workspace.withdraw, nobody]
    rfl
  | granted =>
    simp only [stage]
    cases given : j.cancelled with
    | true =>
      have passed := (l.jobs.scheduler.workspace j.workspace).handsOver_handOver sound.known
      exact reaches_handOver (f := ({ · with state := .cancelled, stage := .ended })) sound job
        (Or.inl stage) passed rfl rfl rfl rfl
    | false => exact reaches_enter sound job stage
  | working since =>
    simp only [stage]
    exact reaches_conclude sound job (Or.inr ⟨since, stage⟩) since
  | ended =>
    simp only [stage]
    exact l.reaches_self

end JobLog

end LiveLint
