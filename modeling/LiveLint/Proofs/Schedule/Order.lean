import LiveLint.Proofs.Schedule.Books

/-!
# The order in which slots are given

The requests that got a slot and those that wait for one are, in this order, the requests that came, but
for those that were given up before they got a slot.
-/

namespace LiveLint

variable {α : Type}

namespace Jobs

theorem isCancelled_eq {s : Jobs α} {t : Nat} {j : Job α} (job : s.jobs[t]? = some j) :
    s.isCancelled t = j.cancelled := by
  rw [isCancelled, job, Option.any_some]

theorem isCancelled_update_of_ne (s : Jobs α) {i t : Nat} (ne : t ≠ i) (f : Job α → Job α) :
    (s.update i f).isCancelled t = s.isCancelled t := by
  rw [isCancelled, isCancelled, getElem?_update_of_ne s ne]

/-- Nothing is given up by a change of something else. -/
theorem isCancelled_update {s : Jobs α} {i : Nat} {f : Job α → Job α}
    (same : ∀ j, s.jobs[i]? = some j → (f j).cancelled = j.cancelled) (t : Nat) :
    (s.update i f).isCancelled t = s.isCancelled t := by
  by_cases here : t = i
  · subst here
    rw [isCancelled, isCancelled, getElem?_update, if_pos rfl]
    cases job : s.jobs[t]? with
    | none => rfl
    | some j => exact same j job
  · exact isCancelled_update_of_ne s here f

theorem isCancelled_grant (s : Jobs α) (next : Option Nat) (t : Nat) :
    (s.grant next).isCancelled t = s.isCancelled t := by
  cases next with
  | none => rfl
  | some i => exact isCancelled_update (f := ({ · with stage := .granted })) (fun _ _ => rfl) t

/-- Who waits in a workspace is not affected if somebody else's workspace changes, or something else. -/
theorem waiting_setWorkspace [Interval α] (s : Jobs α) {name other : String} {w : Workspace α}
    (same : name = other → w.waiting = (s.scheduler.workspace other).waiting) :
    ((s.setWorkspace name w).scheduler.workspace other).waiting =
      (s.scheduler.workspace other).waiting := by
  change ((s.scheduler.set name w).workspace other).waiting = _
  by_cases here : name = other
  · subst here
    rw [Scheduler.workspace_set_self, same rfl]
  · rw [Scheduler.workspace_set_of_ne _ _ (Ne.symm here)]

end Jobs

namespace JobLog

variable [Interval α]

/-- A request that is noted is not that of a job of another workspace. -/
theorem Booked.ne_of_away {l : JobLog α} {owed t i : Nat} {j : Job α} (booked : l.Booked owed)
    (member : t ∈ l.arrived) (job : l.jobs.jobs[i]? = some j) (away : j.workspace ≠ l.workspace) :
    t ≠ i := by
  rintro rfl
  obtain ⟨k, own⟩ := booked.own t member
  obtain ⟨same, there⟩ := Jobs.jobOf?_eq_some_iff.1 own
  cases job.symm.trans same
  exact away there

theorem Booked.not_arrived {l : JobLog α} {owed i : Nat} {j : Job α} (booked : l.Booked owed)
    (job : l.jobs.jobs[i]? = some j) (here : j.workspace = l.workspace) (stage : j.stage = .created) :
    i ∉ l.arrived := by
  have noted := booked.noted i j (Jobs.jobOf?_eq_some_iff.2 ⟨job, here⟩)
  simp only [Noted, stage] at noted
  exact noted.1

/-- The requests get their slots in the order in which they came. -/
structure InOrder (l : JobLog α) : Prop where
  distinct : l.arrived.Nodup
  order : l.arrived.filter l.persists = l.served ++ l.waiting

namespace InOrder

variable {l l' : JobLog α} (ordered : l.InOrder)

include ordered

/-- The order stays if nobody who may wait is given up. -/
theorem congr (arrived : l'.arrived = l.arrived) (served : l'.served = l.served)
    (waiting : l'.waiting = l.waiting)
    (cancelled : ∀ t ∈ l.arrived, t ∈ l.served ∨ l'.jobs.isCancelled t = l.jobs.isCancelled t) :
    l'.InOrder where
  distinct := arrived ▸ ordered.distinct
  order := by
    rw [arrived, served, waiting, ← ordered.order]
    refine List.filter_congr fun t member => ?_
    unfold persists
    rw [served]
    rcases cancelled t member with given | same
    · rw [List.contains_iff_mem.2 given, Bool.true_or, Bool.true_or]
    · rw [same]

/-- A request that waits was not served before. -/
theorem not_served {t : Nat} (waits : t ∈ l.waiting) : t ∉ l.served := by
  have nodup := ordered.distinct.filter l.persists
  rw [ordered.order] at nodup
  exact fun given => (List.nodup_append.1 nodup).2.2 t given t waits rfl

/-- A request that is given up does not wait any more. -/
theorem giveUp {i : Nat} (waits : i ∈ l.waiting) (arrived : l'.arrived = l.arrived)
    (served : l'.served = l.served) (waiting : l'.waiting = l.waiting.filter (· != i))
    (cancelled : l'.jobs.isCancelled i = true)
    (others : ∀ t, t ≠ i → l'.jobs.isCancelled t = l.jobs.isCancelled t) : l'.InOrder where
  distinct := arrived ▸ ordered.distinct
  order := by
    have kept : l.served = l.served.filter (· != i) := by
      refine (List.filter_eq_self.2 fun t given => bne_iff_ne.2 ?_).symm
      rintro rfl
      exact ordered.not_served waits given
    have without : l'.arrived.filter l'.persists = (l.arrived.filter l.persists).filter (· != i) := by
      rw [arrived, List.filter_filter]
      refine List.filter_congr fun t _ => ?_
      unfold persists
      rw [served]
      by_cases same : t = i
      · subst same
        rw [cancelled, Bool.eq_false_iff.2 (mt List.contains_iff_mem.1 (ordered.not_served waits)),
          bne_self_eq_false, Bool.false_and]
        rfl
      · rw [others t same, bne_iff_ne.2 same, Bool.true_and]
    rw [without, ordered.order, List.filter_append, ← kept, served, waiting]

/-- A request joins, and it has its slot at once or is the last one that waits. -/
theorem join {i : Nat} (new : i ∉ l.arrived) (arrived : l'.arrived = l.arrived ++ [i])
    (added : l'.served ++ l'.waiting = l.served ++ l.waiting ++ [i])
    (served : ∀ t ∈ l.arrived, t ∈ l'.served ↔ t ∈ l.served)
    (cancelled : ∀ t, l'.jobs.isCancelled t = l.jobs.isCancelled t)
    (live : l.jobs.isCancelled i = false) : l'.InOrder where
  distinct := by
    rw [arrived]
    refine List.nodup_append.2 ⟨ordered.distinct, List.nodup_cons.2 ⟨List.not_mem_nil, List.nodup_nil⟩, ?_⟩
    intro t old u last same
    cases List.mem_singleton.1 last
    exact new (same ▸ old)
  order := by
    have before : l.arrived.filter l'.persists = l.arrived.filter l.persists := by
      refine List.filter_congr fun t member => ?_
      have same : l'.served.contains t = l.served.contains t := by
        rw [Bool.eq_iff_iff, List.contains_iff_mem, List.contains_iff_mem]
        exact served t member
      unfold persists
      rw [same, cancelled]
    have last : l'.persists i = true := by
      unfold persists
      rw [cancelled, live, Bool.not_false, Bool.or_true]
    rw [arrived, List.filter_append, before, ordered.order, List.filter_cons_of_pos last, List.filter_nil,
      added]

/-- The first one that waits gets a slot. -/
theorem pass {next : Option Nat} (arrived : l'.arrived = l.arrived) (first : next = l.waiting.head?)
    (served : l'.served = l.served ++ next.toList) (waiting : l'.waiting = l.waiting.tail)
    (cancelled : ∀ t, l'.jobs.isCancelled t = l.jobs.isCancelled t) : l'.InOrder where
  distinct := arrived ▸ ordered.distinct
  order := by
    have moved : l'.served ++ l'.waiting = l.served ++ l.waiting := by
      rw [served, waiting, first]
      cases l.waiting <;> simp
    rw [arrived, moved, ← ordered.order]
    refine List.filter_congr fun t member => ?_
    -- The one that gets the slot was not given up, so it was not left out before.
    have kept : t ∈ next.toList → l.persists t = true := by
      intro given
      have waits : t ∈ l.waiting := by
        rw [first, Option.mem_toList] at given
        exact List.mem_of_head? given
      have listed : t ∈ l.arrived.filter l.persists := by
        rw [ordered.order]
        exact List.mem_append_right _ waits
      exact (List.mem_filter.1 listed).2
    rw [Bool.eq_iff_iff]
    constructor
    · intro after
      unfold persists at after
      rw [cancelled, served, Bool.or_eq_true, List.contains_iff_mem, List.mem_append] at after
      rcases after with (given | given) | live
      · unfold persists
        rw [List.contains_iff_mem.2 given, Bool.true_or]
      · exact kept given
      · unfold persists
        rw [live, Bool.or_true]
    · intro before
      unfold persists at before ⊢
      rw [cancelled, served, Bool.or_eq_true, List.contains_iff_mem, List.mem_append]
      rw [Bool.or_eq_true, List.contains_iff_mem] at before
      exact before.imp_left Or.inl

end InOrder

/-- A slot is handed over in the workspace or in another one. -/
theorem InOrder.handOver {l : JobLog α} (ordered : l.InOrder) {name : String} {w : Workspace α}
    {next : Option Nat} (passed : (l.jobs.scheduler.workspace name).HandsOver w next) :
    InOrder { l with
      jobs := (l.jobs.setWorkspace name w).grant next
      served := l.served ++ l.noted name next } := by
  have cancelled := ((l.jobs.setWorkspace name w).isCancelled_grant next)
  have line : ((l.jobs.setWorkspace name w).grant next).scheduler.workspace l.workspace =
      (l.jobs.setWorkspace name w).scheduler.workspace l.workspace := by
    rw [Jobs.scheduler_grant]
  by_cases here : name = l.workspace
  · subst here
    rw [noted_here rfl]
    refine ordered.pass rfl passed.next rfl ?_ cancelled
    rw [waiting, line]
    change ((l.jobs.scheduler.set l.workspace w).workspace l.workspace).waiting = _
    rw [Scheduler.workspace_set_self, passed.waiting]
    rfl
  · rw [noted_elsewhere here, List.append_nil]
    refine ordered.congr rfl rfl ?_ fun t _ => Or.inr (cancelled t)
    rw [waiting, line]
    exact l.jobs.waiting_setWorkspace (absurd · here)

section Steps

variable {l : JobLog α} (ordered : l.InOrder) (booked : l.Booked 0)

include ordered booked

/-- A job that is not in line may be given up: its request has its slot, or it has not come yet. -/
theorem InOrder.flag {i : Nat} {j : Job α} {f : Job α → Job α} (job : l.jobs.jobs[i]? = some j)
    (cancelled : (f j).cancelled = j.cancelled ∨
      j.cancelled = false ∧ j.stage ≠ .inLine ∧ j.stage ≠ .ended) :
    InOrder { l with jobs := l.jobs.update i f } := by
  refine ordered.congr rfl rfl rfl fun t member => ?_
  by_cases same : t = i
  · subst same
    obtain ⟨k, own⟩ := booked.own t member
    cases job.symm.trans (Jobs.jobOf?_eq_some_iff.1 own).1
    have noted := booked.noted t j own
    rcases cancelled with kept | ⟨-, out, here⟩
    · exact Or.inr (Jobs.isCancelled_update (fun k again => by cases job.symm.trans again; exact kept) t)
    · unfold Noted at noted
      split at noted
      · exact absurd member noted.1
      · next stage => exact absurd stage out
      · exact Or.inl noted.1
      · exact Or.inl noted.1
      · next stage => exact absurd stage here
  · exact Or.inr (Jobs.isCancelled_update_of_ne _ same f)

/-- A request that waits is given up, in the workspace or in another one. -/
theorem InOrder.giveUpIn {actor : Option Nat} (sound : l.jobs.Sound actor) {i : Nat} {j : Job α}
    (job : l.jobs.jobs[i]? = some j) (stage : j.stage = .inLine) (live : j.cancelled = false) :
    InOrder { l with
      jobs := (l.jobs.setWorkspace j.workspace
        ((l.jobs.scheduler.workspace j.workspace).giveUp i)).update i ({ · with cancelled := true }) } := by
  have job' : (l.jobs.setWorkspace j.workspace
      ((l.jobs.scheduler.workspace j.workspace).giveUp i)).jobs[i]? = some j := job
  by_cases here : j.workspace = l.workspace
  · refine ordered.giveUp (sound.mem_waiting_iff.2 ⟨j, job, here, stage, live⟩) rfl rfl ?_
      (Jobs.isCancelled_eq (Jobs.getElem?_update_self job' _))
      fun t ne => Jobs.isCancelled_update_of_ne _ ne _
    change ((l.jobs.scheduler.set j.workspace _).workspace l.workspace).waiting = _
    rw [← here, Scheduler.workspace_set_self, Workspace.waiting_giveUp, here]
    rfl
  · refine ordered.congr rfl rfl (Jobs.waiting_setWorkspace _ (absurd · here)) fun t member => ?_
    exact Or.inr (Jobs.isCancelled_update_of_ne _ (booked.ne_of_away member job here) _)

/-- A request gets a slot at once, so nobody waits whom it could overtake. -/
theorem InOrder.enter {i : Nat} {j : Job α} {w : Workspace α} (job : l.jobs.jobs[i]? = some j)
    (stage : j.stage = .created) (live : j.cancelled = false)
    (alone : (l.jobs.scheduler.workspace j.workspace).waiters = []) (line : w.waiters = []) :
    InOrder { l with
      jobs := (l.jobs.setWorkspace j.workspace w).update i ({ · with stage := .granted })
      arrived := l.arrived ++ l.noted j.workspace (some i)
      served := l.served ++ l.noted j.workspace (some i) } := by
  have cancelled : ∀ t, ((l.jobs.setWorkspace j.workspace w).update i
      ({ · with stage := .granted })).isCancelled t = l.jobs.isCancelled t :=
    Jobs.isCancelled_update fun _ _ => rfl
  by_cases here : j.workspace = l.workspace
  · have new := booked.not_arrived job here stage
    have nobody : l.waiting = [] := by
      rw [waiting, ← here, Workspace.waiting, alone]
      rfl
    rw [noted_here here, Option.toList_some]
    refine ordered.join new rfl ?_ (fun t member => ?_) cancelled ((Jobs.isCancelled_eq job).trans live)
    · change l.served ++ [i] ++
        ((l.jobs.scheduler.set j.workspace w).workspace l.workspace).waiting = _
      rw [← here, Scheduler.workspace_set_self, Workspace.waiting, line, nobody]
      simp
    · rw [List.mem_append, List.mem_singleton, or_iff_left]
      exact fun same => new (same ▸ member)
  · rw [noted_elsewhere here, List.append_nil, List.append_nil]
    exact ordered.congr rfl rfl (Jobs.waiting_setWorkspace _ (absurd · here))
      fun t _ => Or.inr (cancelled t)

/-- A request joins the line as the last one. -/
theorem InOrder.queue {i : Nat} {j : Job α} {w : Workspace α} {bar : Nat} (job : l.jobs.jobs[i]? = some j)
    (stage : j.stage = .created) (live : j.cancelled = false)
    (line : w.waiters = (l.jobs.scheduler.workspace j.workspace).waiters ++ [{ ticket := some i }]) :
    InOrder { l with
      jobs := (l.jobs.setWorkspace j.workspace w).update i ({ · with stage := .inLine })
      arrived := l.arrived ++ l.noted j.workspace (some i)
      bar } := by
  have cancelled : ∀ t, ((l.jobs.setWorkspace j.workspace w).update i
      ({ · with stage := .inLine })).isCancelled t = l.jobs.isCancelled t :=
    Jobs.isCancelled_update fun _ _ => rfl
  by_cases here : j.workspace = l.workspace
  · rw [noted_here here, Option.toList_some]
    refine ordered.join (booked.not_arrived job here stage) rfl ?_ (fun _ _ => Iff.rfl) cancelled
      ((Jobs.isCancelled_eq job).trans live)
    change l.served ++ ((l.jobs.scheduler.set j.workspace w).workspace l.workspace).waiting = _
    rw [← here, Scheduler.workspace_set_self, Workspace.waiting_append line, here, List.append_assoc]
    rfl
  · rw [noted_elsewhere here, List.append_nil]
    exact ordered.congr rfl rfl (Jobs.waiting_setWorkspace _ (absurd · here))
      fun t _ => Or.inr (cancelled t)

end Steps

/-- The requests always get their slots in order. -/
theorem Transition.inOrder {actor : Option Nat} {l l' : JobLog α} (moved : l.Transition actor l')
    (sound : l.jobs.Sound actor) (booked : l.Booked 0) (ordered : l.InOrder) : l'.InOrder := by
  cases moved with
  | request name workspace keepsSlot =>
    refine ordered.congr rfl rfl rfl fun t member => Or.inr ?_
    obtain ⟨j, own⟩ := booked.own t member
    have old := Jobs.lt_size (Jobs.jobOf?_eq_some_iff.1 own).1
    have same : (l.jobs.add name workspace keepsSlot).jobs[t]? = l.jobs.jobs[t]? :=
      (Array.getElem?_push_lt old).trans (Array.getElem?_eq_getElem old).symm
    rw [Jobs.isCancelled, same, Jobs.isCancelled]
  | wait clock | wake job old called => exact ordered.congr rfl rfl rfl fun _ _ => Or.inr rfl
  | @touch name w line running =>
    refine ordered.congr rfl rfl (Jobs.waiting_setWorkspace _ fun here => ?_) fun _ _ => Or.inr rfl
    rw [Workspace.waiting, line, here]
    rfl
  | flag job _ _ _ cancelled => exact ordered.flag booked job cancelled
  | giveUp job stage live => exact ordered.giveUpIn booked sound job stage live
  | @withdraw ticket j job stage cancelled =>
    refine ordered.congr rfl rfl (Jobs.waiting_setWorkspace _ fun here => ?_)
      fun t _ => Or.inr (Jobs.isCancelled_update (f := ({ · with state := .cancelled, stage := .ended }))
        (fun _ _ => rfl) t)
    rw [Workspace.waiting_withdraw, here]
    refine List.filter_eq_self.2 fun t waits => bne_iff_ne.2 ?_
    rintro rfl
    obtain ⟨k, same, -, -, live⟩ := sound.mem_waiting_iff.1 waits
    cases job.symm.trans same
    exact Bool.false_ne_true (live.symm.trans cancelled)
  | @drop ticket j f job stage workspace ended cancelled out =>
    refine ordered.congr rfl rfl rfl fun t _ => Or.inr (Jobs.isCancelled_update (fun k again => ?_) t)
    cases job.symm.trans again
    exact cancelled
  | enter job _ stage live _ alone line _ => exact ordered.enter booked job stage live alone line
  | queue job stage live _ _ line _ => exact ordered.queue booked job stage live line
  | @goOn ticket j f job stage workspace cancelled holds entered =>
    refine ordered.congr rfl rfl rfl fun t _ => Or.inr (Jobs.isCancelled_update (fun k again => ?_) t)
    cases job.symm.trans again
    exact cancelled
  | @handOver ticket j f w next job stage passed workspace ended cancelled gone =>
    refine (ordered.handOver passed).congr rfl rfl rfl
      fun t _ => Or.inr (Jobs.isCancelled_update (fun k again => ?_) t)
    have stays := sound.stays passed job (Job.out_of_line stage)
    cases stays.symm.trans again
    exact cancelled
  | @giveBack ticket j w next job stage holds passed =>
    exact (ordered.handOver passed).congr rfl rfl rfl fun _ _ => Or.inr rfl

end JobLog

end LiveLint
