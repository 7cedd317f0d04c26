import LiveLint.Proofs.Schedule.Moves

/-!
# Turns and lines of jobs

The line of a workspace consists of its jobs that joined it, each once and marked as its job is. A job in
line has a turn only when it was given up, and a job that was granted a slot has a turn until it goes on.
Every transition keeps this. While a job takes its turn it may have been granted a slot without having
another turn.
-/

namespace LiveLint

variable {α : Type} [Interval α]

namespace Jobs

/-- Jobs, their turns and the lines of their workspaces fit together. -/
structure Sound (actor : Option Nat) (s : Jobs α) : Prop where
  comparable : s.scheduler.settings.Comparable
  ready_lt : ∀ t ∈ s.ready, t < s.jobs.size
  fresh : ∀ t j, s.jobs[t]? = some j → j.stage = .created → j.state = .waiting ∧ s.ready.count t ≤ 1
  called : ∀ t ∈ s.ready, ∀ j, s.jobs[t]? = some j → j.stage = .inLine → j.cancelled = true
  due : ∀ t j, s.jobs[t]? = some j → j.stage = .granted → actor = some t ∨ t ∈ s.ready
  in_line : ∀ name, ∀ x ∈ (s.scheduler.workspace name).waiters,
    ∃ t j, x = ⟨some t, !j.cancelled⟩ ∧ s.jobs[t]? = some j ∧ j.workspace = name ∧ j.stage = .inLine
  distinct : ∀ name, (s.scheduler.workspace name).tickets.Nodup
  waits : ∀ t j, s.jobs[t]? = some j → j.stage = .inLine → j.cancelled = false →
    t ∈ (s.scheduler.workspace j.workspace).waiting

section

omit [Interval α]

theorem getElem?_update (s : Jobs α) (t u : Nat) (f : Job α → Job α) :
    (s.update t f).jobs[u]? = if t = u then s.jobs[u]?.map f else s.jobs[u]? :=
  Array.getElem?_modify

theorem size_update (s : Jobs α) (t : Nat) (f : Job α → Job α) :
    (s.update t f).jobs.size = s.jobs.size := Array.size_modify

theorem getElem?_update_self {s : Jobs α} {i : Nat} {j : Job α} (job : s.jobs[i]? = some j)
    (f : Job α → Job α) : (s.update i f).jobs[i]? = some (f j) := by
  rw [getElem?_update, if_pos rfl, job, Option.map_some]

theorem getElem?_update_of_ne (s : Jobs α) {i t : Nat} (ne : t ≠ i) (f : Job α → Job α) :
    (s.update i f).jobs[t]? = s.jobs[t]? := by
  rw [getElem?_update, if_neg (Ne.symm ne)]

/-- Only the last of two updates counts if it overwrites the first one. -/
theorem update_update (s : Jobs α) (i : Nat) (f g : Job α → Job α) :
    (s.update i f).update i g = s.update i (g ∘ f) := by
  have same : (s.jobs.modify i f).modify i g = s.jobs.modify i (g ∘ f) := by
    refine Array.ext_getElem? fun t => ?_
    rw [Array.getElem?_modify, Array.getElem?_modify, Array.getElem?_modify]
    split
    · exact Option.map_map g f _
    · rfl
  unfold update
  rw [same]

/-- A job after an update is the one that was updated, or it was there before. -/
theorem update_cases {s : Jobs α} {i t : Nat} {j j' : Job α} {f : Job α → Job α}
    (job : s.jobs[i]? = some j) (job' : (s.update i f).jobs[t]? = some j') :
    t = i ∧ j' = f j ∨ t ≠ i ∧ s.jobs[t]? = some j' := by
  by_cases same : t = i
  · subst same
    rw [getElem?_update_self job] at job'
    exact Or.inl ⟨rfl, (Option.some.inj job').symm⟩
  · rw [getElem?_update_of_ne s same] at job'
    exact Or.inr ⟨same, job'⟩

theorem getElem?_grant_of_ne (s : Jobs α) {next : Option Nat} {t : Nat} (ne : next ≠ some t) :
    (s.grant next).jobs[t]? = s.jobs[t]? := by
  cases next with
  | none => rfl
  | some i => exact getElem?_update_of_ne s (fun same => ne (congrArg some same.symm)) _

theorem lt_size {s : Jobs α} {t : Nat} {j : Job α} (job : s.jobs[t]? = some j) : t < s.jobs.size :=
  (Array.getElem?_eq_some_iff.1 job).1

end

namespace Sound

variable {s : Jobs α} {actor : Option Nat} (sound : s.Sound actor)

include sound

theorem known {name : String} : ∀ x ∈ (s.scheduler.workspace name).waiters, x.ticket.isSome := by
  intro x member
  obtain ⟨t, j, rfl, -⟩ := sound.in_line name x member
  rfl

/-- A ticket in line is that of a job in line. -/
theorem exists_of_mem_tickets {name : String} {t : Nat}
    (member : t ∈ (s.scheduler.workspace name).tickets) :
    ∃ j, s.jobs[t]? = some j ∧ j.workspace = name ∧ j.stage = .inLine := by
  obtain ⟨x, waits, ticket⟩ := List.mem_filterMap.1 member
  obtain ⟨t', j, rfl, job, workspace, stage⟩ := sound.in_line name x waits
  cases ticket
  exact ⟨j, job, workspace, stage⟩

/-- The requests that wait are those in line that were not given up. -/
theorem mem_waiting_iff {name : String} {t : Nat} :
    t ∈ (s.scheduler.workspace name).waiting ↔
      ∃ j, s.jobs[t]? = some j ∧ j.workspace = name ∧ j.stage = .inLine ∧ j.cancelled = false := by
  constructor
  · intro member
    obtain ⟨x, kept, ticket⟩ := List.mem_filterMap.1 member
    obtain ⟨waits, live⟩ := List.mem_filter.1 kept
    obtain ⟨t', j, rfl, job, workspace, stage⟩ := sound.in_line name x waits
    cases ticket
    exact ⟨j, job, workspace, stage, by simpa using live⟩
  · rintro ⟨j, job, rfl, stage, live⟩
    exact sound.waits t j job stage live

theorem waiting_nodup (name : String) : (s.scheduler.workspace name).waiting.Nodup :=
  (sound.distinct name).sublist (Workspace.waiting_sublist _)

/-- Changing a job neither makes it join nor leave the line. -/
theorem update {i : Nat} {j : Job α} {f : Job α → Job α} (job : s.jobs[i]? = some j)
    (workspace : (f j).workspace = j.workspace)
    (created : (f j).stage = .created → j.stage = .created ∧ (f j).state = j.state)
    (granted : (f j).stage = .granted → actor = some i ∨ j.stage = .granted)
    (line : (f j).stage = .inLine ↔ j.stage = .inLine)
    (cancelled : j.stage = .inLine → (f j).cancelled = j.cancelled) : (s.update i f).Sound actor := by
  constructor
  case comparable => exact sound.comparable
  case ready_lt =>
    rw [size_update]
    exact sound.ready_lt
  case fresh =>
    intro t j' job' new
    obtain ⟨rfl, rfl⟩ | ⟨-, old⟩ := update_cases job job'
    · obtain ⟨before, state⟩ := created new
      exact state ▸ sound.fresh t j job before
    · exact sound.fresh t j' old new
  case called =>
    intro t ready j' job' stage
    obtain ⟨rfl, rfl⟩ | ⟨-, old⟩ := update_cases job job'
    · rw [cancelled (line.1 stage)]
      exact sound.called t ready j job (line.1 stage)
    · exact sound.called t ready j' old stage
  case due =>
    intro t j' job' stage
    obtain ⟨rfl, rfl⟩ | ⟨-, old⟩ := update_cases job job'
    · exact (granted stage).elim Or.inl (sound.due t j job)
    · exact sound.due t j' old stage
  case in_line =>
    intro name x member
    obtain ⟨t, j', rfl, job', rfl, stage⟩ := sound.in_line name x member
    by_cases same : t = i
    · subst same
      rw [job] at job'
      cases job'
      exact ⟨t, f j, by rw [cancelled stage], getElem?_update_self job f, workspace, line.2 stage⟩
    · exact ⟨t, j', rfl, by rw [getElem?_update_of_ne s same, job'], rfl, stage⟩
  case distinct => exact sound.distinct
  case waits =>
    intro t j' job' stage live
    obtain ⟨rfl, rfl⟩ | ⟨-, old⟩ := update_cases job job'
    · rw [workspace]
      exact sound.waits t j job (line.1 stage) (cancelled (line.1 stage) ▸ live)
    · exact sound.waits t j' old stage live

/-- Workspaces may change in other things than their lines. -/
theorem congr {s' : Jobs α} (comparable : s'.scheduler.settings.Comparable) (jobs : s'.jobs = s.jobs)
    (ready : s'.ready = s.ready)
    (line : ∀ name, (s'.scheduler.workspace name).waiters = (s.scheduler.workspace name).waiters) :
    s'.Sound actor := by
  constructor
  case comparable => exact comparable
  case ready_lt =>
    rw [jobs, ready]
    exact sound.ready_lt
  case fresh =>
    rw [jobs, ready]
    exact sound.fresh
  case called =>
    rw [jobs, ready]
    exact sound.called
  case due =>
    rw [jobs, ready]
    exact sound.due
  case in_line =>
    intro name
    rw [jobs, line]
    exact sound.in_line name
  case distinct =>
    intro name
    rw [Workspace.tickets, line]
    exact sound.distinct name
  case waits =>
    intro t j job stage live
    rw [Workspace.waiting, line]
    exact sound.waits t j (jobs ▸ job) stage live

theorem touch {name : String} {w : Workspace α}
    (line : w.waiters = (s.scheduler.workspace name).waiters) : (s.setWorkspace name w).Sound actor := by
  refine sound.congr sound.comparable rfl rfl fun other => ?_
  change ((s.scheduler.set name w).workspace other).waiters = _
  by_cases here : other = name
  · rw [here, Scheduler.workspace_set_self, line]
  · rw [Scheduler.workspace_set_of_ne _ _ here]

/-- A job joins or leaves the line, or is given up in it, and may get a turn. -/
theorem moveLine {i : Nat} {j : Job α} {w : Workspace α} {ready : List Nat} (f : Job α → Job α)
    (job : s.jobs[i]? = some j) (turns : ready = s.ready ∨ ready = s.ready ++ [i])
    (workspace : (f j).workspace = j.workspace) (created : (f j).stage ≠ .created)
    (called : i ∈ ready → (f j).stage = .inLine → (f j).cancelled = true)
    (due : (f j).stage = .granted → i ∈ ready)
    (line : ∀ x ∈ w.waiters, x ∈ (s.scheduler.workspace j.workspace).waiters ∧ x.ticket ≠ some i ∨
      x = ⟨some i, !(f j).cancelled⟩ ∧ (f j).stage = .inLine)
    (distinct : w.tickets.Nodup)
    (others : ∀ t ∈ (s.scheduler.workspace j.workspace).waiting, t ≠ i → t ∈ w.waiting)
    (waits : (f j).stage = .inLine → (f j).cancelled = false → i ∈ w.waiting) :
    Sound actor { (s.setWorkspace j.workspace w).update i f with ready } := by
  have job' : (s.setWorkspace j.workspace w).jobs[i]? = some j := job
  have counted : ∀ t, t ≠ i → ready.count t = s.ready.count t := by
    rintro t ne
    rcases turns with rfl | rfl
    · rfl
    · rw [List.count_append, List.count_eq_zero.2 (mt List.mem_singleton.1 ne), Nat.add_zero]
  have mem_iff : ∀ t, t ≠ i → (t ∈ ready ↔ t ∈ s.ready) := by
    intro t ne
    rw [← List.count_pos_iff, counted t ne, List.count_pos_iff]
  constructor
  case comparable => exact sound.comparable
  case ready_lt =>
    intro t member
    rw [size_update]
    by_cases same : t = i
    · exact same ▸ lt_size job
    · exact sound.ready_lt t ((mem_iff t same).1 member)
  case fresh =>
    intro t k later new
    obtain ⟨rfl, rfl⟩ | ⟨ne, old⟩ := update_cases job' later
    · exact absurd new created
    · exact counted t ne ▸ sound.fresh t k old new
  case called =>
    intro t member k later stage
    obtain ⟨rfl, rfl⟩ | ⟨ne, old⟩ := update_cases job' later
    · exact called member stage
    · exact sound.called t ((mem_iff t ne).1 member) k old stage
  case due =>
    intro t k later stage
    obtain ⟨rfl, rfl⟩ | ⟨ne, old⟩ := update_cases job' later
    · exact Or.inr (due stage)
    · exact (sound.due t k old stage).imp_right (mem_iff t ne).2
  case in_line =>
    intro name x member
    have elsewhere : ∀ (t : Nat) (k : Job α), t ≠ i → s.jobs[t]? = some k →
        ((s.setWorkspace j.workspace w).update i f).jobs[t]? = some k := by
      intro t k ne old
      rw [getElem?_update_of_ne _ ne]
      exact old
    by_cases here : name = j.workspace
    · subst here
      change x ∈ ((s.scheduler.set j.workspace w).workspace j.workspace).waiters at member
      rw [Scheduler.workspace_set_self] at member
      obtain ⟨old, ne⟩ | ⟨rfl, stage⟩ := line x member
      · obtain ⟨t, k, rfl, job, at', stage⟩ := sound.in_line j.workspace x old
        exact ⟨t, k, rfl, elsewhere t k (fun same => ne (congrArg some same)) job, at', stage⟩
      · exact ⟨i, f j, rfl, getElem?_update_self job' f, workspace, stage⟩
    · change x ∈ ((s.scheduler.set j.workspace w).workspace name).waiters at member
      rw [Scheduler.workspace_set_of_ne _ _ here] at member
      obtain ⟨t, k, rfl, at', rfl, stage⟩ := sound.in_line name x member
      refine ⟨t, k, rfl, elsewhere t k ?_ at', rfl, stage⟩
      rintro rfl
      rw [job] at at'
      cases at'
      exact here rfl
  case distinct =>
    intro name
    change ((s.scheduler.set j.workspace w).workspace name).tickets.Nodup
    by_cases here : name = j.workspace
    · rw [here, Scheduler.workspace_set_self]
      exact distinct
    · rw [Scheduler.workspace_set_of_ne _ _ here]
      exact sound.distinct name
  case waits =>
    intro t k later stage live
    change t ∈ ((s.scheduler.set j.workspace w).workspace k.workspace).waiting
    obtain ⟨rfl, rfl⟩ | ⟨ne, old⟩ := update_cases job' later
    · rw [workspace, Scheduler.workspace_set_self]
      exact waits stage live
    · have waited := sound.waits t k old stage live
      by_cases here : k.workspace = j.workspace
      · rw [here] at waited ⊢
        rw [Scheduler.workspace_set_self]
        exact others t waited ne
      · rw [Scheduler.workspace_set_of_ne _ _ here]
        exact waited

theorem add (name workspace : String) (keepsSlot : Bool) :
    (s.add name workspace keepsSlot).Sound actor := by
  have cases' : ∀ (t : Nat) (j : Job α), (s.add name workspace keepsSlot).jobs[t]? = some j →
      t = s.jobs.size ∧ j.stage = .created ∧ j.state = .waiting ∨
        t < s.jobs.size ∧ s.jobs[t]? = some j := by
    intro t j job
    change (s.jobs.push _)[t]? = some j at job
    rw [Array.getElem?_push] at job
    split at job
    · next last =>
      cases job
      exact Or.inl ⟨last, rfl, rfl⟩
    · exact Or.inr ⟨lt_size job, job⟩
  have kept : ∀ (t : Nat) (j : Job α), s.jobs[t]? = some j →
      (s.add name workspace keepsSlot).jobs[t]? = some j := by
    intro t j job
    change (s.jobs.push _)[t]? = some j
    rw [Array.getElem?_push_lt (lt_size job), ← Array.getElem?_eq_getElem, job]
  constructor
  case comparable => exact sound.comparable
  case ready_lt =>
    intro t ready
    change t ∈ s.ready ++ [s.jobs.size] at ready
    change t < (s.jobs.push _).size
    rw [Array.size_push]
    rcases List.mem_append.1 ready with old | new
    · exact Nat.lt_succ_of_lt (sound.ready_lt t old)
    · rw [List.mem_singleton.1 new]
      exact Nat.lt_succ_self _
  case fresh =>
    intro t j job stage
    change _ ∧ (s.ready ++ [s.jobs.size]).count t ≤ 1
    rw [List.count_append]
    obtain ⟨rfl, -, state⟩ | ⟨lt, old⟩ := cases' t j job
    · refine ⟨state, ?_⟩
      have fresh : s.ready.count s.jobs.size = 0 :=
        List.count_eq_zero.2 fun member => absurd (sound.ready_lt _ member) (Nat.lt_irrefl _)
      simp only [fresh, List.count_singleton_self, Nat.zero_add, Nat.le_refl]
    · have other : [s.jobs.size].count t = 0 :=
        List.count_eq_zero.2 fun member => absurd (List.mem_singleton.1 member) (Nat.ne_of_lt lt)
      rw [other]
      exact sound.fresh t j old stage
  case called =>
    intro t ready j job stage
    obtain ⟨-, created, -⟩ | ⟨lt, old⟩ := cases' t j job
    · rw [created] at stage
      cases stage
    · rcases List.mem_append.1 ready with before | new
      · exact sound.called t before j old stage
      · exact absurd (List.mem_singleton.1 new) (Nat.ne_of_lt lt)
  case due =>
    intro t j job stage
    obtain ⟨-, created, -⟩ | ⟨-, old⟩ := cases' t j job
    · rw [created] at stage
      cases stage
    · exact (sound.due t j old stage).imp_right (List.mem_append_left _)
  case in_line =>
    intro other x member
    obtain ⟨t, j, shape, job, rest⟩ := sound.in_line other x member
    exact ⟨t, j, shape, kept t j job, rest⟩
  case distinct => exact sound.distinct
  case waits =>
    intro t j job stage live
    obtain ⟨-, created, -⟩ | ⟨-, old⟩ := cases' t j job
    · rw [created] at stage
      cases stage
    · exact sound.waits t j old stage live

theorem wake {i : Nat} {j : Job α} (job : s.jobs[i]? = some j) (old : j.stage ≠ .created)
    (called : j.stage = .inLine → j.cancelled = true) : (s.wake i).Sound actor where
  comparable := sound.comparable
  ready_lt := by
    intro t ready
    rcases List.mem_append.1 ready with before | new
    · exact sound.ready_lt t before
    · rw [List.mem_singleton.1 new]
      exact lt_size job
  fresh := by
    intro t k later stage
    have ne : t ≠ i := by
      rintro rfl
      cases job.symm.trans later
      exact old stage
    change _ ∧ (s.ready ++ [i]).count t ≤ 1
    rw [List.count_append, List.count_eq_zero.2 (mt List.mem_singleton.1 ne)]
    exact sound.fresh t k later stage
  called := by
    intro t ready k later stage
    rcases List.mem_append.1 ready with before | new
    · exact sound.called t before k later stage
    · rw [List.mem_singleton.1 new] at later
      cases job.symm.trans later
      exact called stage
  due t k later stage := (sound.due t k later stage).imp_right (List.mem_append_left _)
  in_line := sound.in_line
  distinct := sound.distinct
  waits := sound.waits

omit sound

/-- A job starts its turn. -/
theorem take (rested : s.Sound none) (i : Nat) : (s.take i).Sound (some i) where
  comparable := rested.comparable
  ready_lt t ready := rested.ready_lt t (List.mem_of_mem_erase ready)
  fresh t j job stage := (rested.fresh t j job stage).imp_right
    (Nat.le_trans (List.erase_sublist.count_le t))
  called t ready := rested.called t (List.mem_of_mem_erase ready)
  due t j job stage := by
    by_cases acts : i = t
    · exact Or.inl (congrArg some acts)
    · refine Or.inr ((List.mem_erase_of_ne (Ne.symm acts)).2 ?_)
      exact (rested.due t j job stage).resolve_left nofun
  in_line := rested.in_line
  distinct := rested.distinct
  waits := rested.waits

/-- The turn of a job ends. -/
theorem rest {i : Nat} (acted : s.Sound (some i))
    (stage : ∀ j, s.jobs[i]? = some j → j.stage ≠ .granted) : s.Sound none :=
  { acted with
    due := by
      intro t j job granted
      obtain acts | ready := acted.due t j job granted
      · cases acts
        exact absurd granted (stage j job)
      · exact Or.inr ready }

variable (sound : s.Sound actor)

include sound

/-- A request in line is given up. -/
theorem giveUp {i : Nat} {j : Job α} (job : s.jobs[i]? = some j) (stage : j.stage = .inLine) :
    ((s.setWorkspace j.workspace ((s.scheduler.workspace j.workspace).giveUp i)).update i
      ({ · with cancelled := true })).Sound actor := by
  refine sound.moveLine ({ · with cancelled := true }) job (Or.inl rfl) rfl ?_ (fun _ _ => rfl) ?_ ?_
    ?_ ?_ nofun
  · simp only [stage]
    exact nofun
  · simp only [stage]
    exact nofun
  · intro x member
    obtain ⟨y, old, rfl⟩ := List.mem_map.1 member
    split
    · next same =>
      obtain ⟨t, k, rfl, -⟩ := sound.in_line _ y old
      cases beq_iff_eq.1 same
      exact Or.inr ⟨rfl, stage⟩
    · next other => exact Or.inl ⟨old, fun same => other (beq_iff_eq.2 same)⟩
  · rw [Workspace.tickets_giveUp]
    exact sound.distinct _
  · intro t member ne
    rw [Workspace.waiting_giveUp]
    exact List.mem_filter.2 ⟨member, bne_iff_ne.2 ne⟩

/-- A request that was given up leaves the line. -/
theorem withdraw {i : Nat} {j : Job α} (job : s.jobs[i]? = some j) (state : JobState) :
    ((s.setWorkspace j.workspace ((s.scheduler.workspace j.workspace).withdraw i)).leave i
      state).Sound actor := by
  refine sound.moveLine ({ · with state, stage := .ended }) job (Or.inl rfl) rfl nofun nofun nofun ?_ ?_
    ?_ nofun
  · intro x member
    obtain ⟨old, other⟩ := List.mem_filter.1 member
    exact Or.inl ⟨old, bne_iff_ne.1 other⟩
  · exact (sound.distinct _).sublist (List.filter_sublist.filterMap _)
  · intro t member ne
    rw [Workspace.waiting_withdraw]
    exact List.mem_filter.2 ⟨member, bne_iff_ne.2 ne⟩

/-- A request joins the line. -/
theorem join {i : Nat} {j : Job α} {w : Workspace α} (job : s.jobs[i]? = some j)
    (stage : j.stage = .created) (rests : i ∉ s.ready) (live : j.cancelled = false)
    (line : w.waiters = (s.scheduler.workspace j.workspace).waiters ++ [{ ticket := some i }]) :
    ((s.setWorkspace j.workspace w).update i ({ · with stage := .inLine })).Sound actor := by
  have fresh : i ∉ (s.scheduler.workspace j.workspace).tickets := by
    intro member
    obtain ⟨k, same, -, inLine⟩ := sound.exists_of_mem_tickets member
    cases job.symm.trans same
    rw [stage] at inLine
    cases inLine
  have waiting := Workspace.waiting_append line
  refine sound.moveLine ({ · with stage := .inLine }) job (Or.inl rfl) rfl
    (fun same => by cases same) (fun ready => absurd ready rests) (fun same => by cases same) ?_ ?_ ?_ ?_
  · intro x member
    rw [line] at member
    rcases List.mem_append.1 member with old | new
    · refine Or.inl ⟨old, fun ticket => fresh ?_⟩
      exact List.mem_filterMap.2 ⟨x, old, ticket⟩
    · rw [List.mem_singleton.1 new, live]
      exact Or.inr ⟨rfl, rfl⟩
  · rw [Workspace.tickets, line, List.filterMap_append]
    refine List.nodup_append.2 ⟨sound.distinct _, List.nodup_cons.2 ⟨List.not_mem_nil, List.nodup_nil⟩, ?_⟩
    intro t old u new same
    cases List.mem_singleton.1 new
    exact fresh (same ▸ old)
  · intro t member _
    rw [waiting]
    exact List.mem_append_left _ member
  · intro _ _
    rw [waiting]
    exact List.mem_append_right _ (List.mem_singleton_self i)

/-- Nobody is left in line when a slot becomes free. -/
theorem clear {name : String} {w : Workspace α} (nobody : (s.scheduler.workspace name).waiting = [])
    (line : w.waiters = []) : (s.setWorkspace name w).Sound actor where
  comparable := sound.comparable
  ready_lt := sound.ready_lt
  fresh := sound.fresh
  called := sound.called
  due := sound.due
  in_line := by
    intro other x member
    change x ∈ ((s.scheduler.set name w).workspace other).waiters at member
    by_cases here : other = name
    · rw [here, Scheduler.workspace_set_self, line] at member
      cases member
    · rw [Scheduler.workspace_set_of_ne _ _ here] at member
      exact sound.in_line other x member
  distinct := by
    intro other
    change ((s.scheduler.set name w).workspace other).tickets.Nodup
    by_cases here : other = name
    · rw [here, Scheduler.workspace_set_self, Workspace.tickets, line]
      exact List.nodup_nil
    · rw [Scheduler.workspace_set_of_ne _ _ here]
      exact sound.distinct other
  waits := by
    intro t j job stage live
    have waited := sound.waits t j job stage live
    change t ∈ ((s.scheduler.set name w).workspace j.workspace).waiting
    by_cases here : j.workspace = name
    · rw [here, nobody] at waited
      cases waited
    · rw [Scheduler.workspace_set_of_ne _ _ here]
      exact waited

/-- A slot is handed over to the first request that waits. -/
theorem pass {name : String} {w : Workspace α} {next : Option Nat}
    (passed : (s.scheduler.workspace name).HandsOver w next) :
    ((s.setWorkspace name w).grant next).Sound actor := by
  cases found : (s.scheduler.workspace name).waiting with
  | nil =>
    have nobody := passed.next
    rw [found] at nobody
    subst nobody
    exact sound.clear found (passed.cleared found)
  | cons i rest =>
    have first := passed.next
    rw [found] at first
    subst first
    obtain ⟨j, job, rfl, stage, live⟩ := sound.mem_waiting_iff.1 (found ▸ List.mem_cons_self)
    have others : w.waiting = rest := by
      rw [passed.waiting, found]
      rfl
    refine sound.moveLine ({ · with stage := .granted }) job (Or.inr rfl) rfl nofun nofun
      (fun _ => List.mem_append_right _ (List.mem_singleton_self i)) ?_ ?_ ?_ nofun
    · intro x member
      refine Or.inl ⟨passed.rest.subset member, fun ticket => ?_⟩
      -- Its mark says that it waits, but it would have to wait behind itself.
      obtain ⟨t, k, rfl, same, -⟩ := sound.in_line _ x (passed.rest.subset member)
      cases ticket
      cases job.symm.trans same
      have again : i ∈ w.waiting :=
        List.mem_filterMap.2 ⟨_, List.mem_filter.2 ⟨member, by simp only [live, Bool.not_false]⟩, rfl⟩
      have nodup := sound.waiting_nodup j.workspace
      rw [found] at nodup
      exact (List.nodup_cons.1 nodup).1 (others ▸ again)
    · exact (sound.distinct _).sublist (passed.rest.sublist.filterMap _)
    · intro t member ne
      rw [found] at member
      rw [others]
      exact (List.mem_cons.1 member).resolve_left ne

/-- A request that gets a slot by hand-over waited for it. -/
theorem next_waits {name : String} {w : Workspace α} {i : Nat}
    (passed : (s.scheduler.workspace name).HandsOver w (some i)) :
    ∃ j, s.jobs[i]? = some j ∧ j.workspace = name ∧ j.stage = .inLine ∧ j.cancelled = false :=
  sound.mem_waiting_iff.1 (List.mem_of_head? passed.next.symm)

/-- A job that is not in line does not get a slot by hand-over. -/
theorem stays {name : String} {w : Workspace α} {next : Option Nat} {i : Nat} {j : Job α}
    (passed : (s.scheduler.workspace name).HandsOver w next) (job : s.jobs[i]? = some j)
    (out : j.stage ≠ .inLine) : ((s.setWorkspace name w).grant next).jobs[i]? = some j := by
  refine (getElem?_grant_of_ne _ ?_).trans job
  rintro rfl
  obtain ⟨k, same, -, inLine, -⟩ := sound.next_waits passed
  cases job.symm.trans same
  exact out inLine

end Sound

end Jobs

namespace JobLog

theorem Transition.sound {actor : Option Nat} {l l' : JobLog α} (moved : l.Transition actor l')
    (sound : l.jobs.Sound actor) : l'.jobs.Sound actor := by
  cases moved with
  | request name workspace keepsSlot => exact sound.add name workspace keepsSlot
  | wait clock => exact sound.congr sound.comparable rfl rfl fun _ => rfl
  | wake job old called => exact sound.wake job old called
  | touch line running => exact sound.touch line
  | flag job stage state workspace cancelled =>
    refine sound.update job workspace ?_ ?_ ?_ ?_
    · exact fun created => ⟨stage ▸ created, state⟩
    · exact fun granted => Or.inr (stage ▸ granted)
    · rw [stage]
    · intro inLine
      exact cancelled.resolve_right fun ⟨_, out, _⟩ => out inLine
  | giveUp job stage live => exact sound.giveUp job stage
  | withdraw job stage cancelled => exact sound.withdraw job .cancelled
  | drop job stage workspace ended cancelled out =>
    refine sound.update job workspace ?_ ?_ ?_ ?_
    all_goals simp only [stage, ended, reduceCtorEq, false_implies]
  | enter job acts stage live free alone line running =>
    refine (sound.touch (line.trans alone.symm)).update job rfl nofun (fun _ => Or.inl acts) ?_ ?_
    all_goals simp only [stage, reduceCtorEq, false_implies]
  | queue job stage live rests busy line running => exact sound.join job stage rests live line
  | goOn job stage workspace cancelled holds entered =>
    refine sound.update job workspace ?_ (fun _ => Or.inr stage) ?_ ?_
    all_goals simp only [stage, reduceCtorEq, false_implies, iff_false]
    all_goals
      intro there
      simp only [Job.entered, there, Bool.false_eq_true] at entered
  | handOver job stage passed workspace ended cancelled gone =>
    have held := sound.stays passed job (Job.out_of_line stage)
    refine (sound.pass passed).update held workspace ?_ ?_ ?_ ?_
    all_goals
      rcases stage with stage | ⟨since, stage⟩ <;>
        simp only [stage, ended, reduceCtorEq, false_implies]
  | giveBack job stage holds passed => exact sound.pass passed

end JobLog

end LiveLint
