import LiveLint.Proofs.Schedule.Turns

/-!
# Who has a slot

As many slots of a workspace are counted as jobs of it have one. When a slot is handed over there is for a
moment one more job that has a slot than are counted, until the job that had it is over.
-/

namespace LiveLint

variable {α : Type}

namespace Jobs

def jobOf? (s : Jobs α) (name : String) (ticket : Nat) : Option (Job α) :=
  s.jobs[ticket]?.filter (·.workspace == name)

theorem jobOf?_eq_some_iff {s : Jobs α} {name : String} {t : Nat} {j : Job α} :
    s.jobOf? name t = some j ↔ s.jobs[t]? = some j ∧ j.workspace = name := by
  rw [jobOf?, Option.filter_eq_some_iff, beq_iff_eq]

theorem jobOf?_update_self {s : Jobs α} {i : Nat} {j : Job α} {f : Job α → Job α}
    (job : s.jobs[i]? = some j) (workspace : (f j).workspace = j.workspace) :
    (s.update i f).jobOf? j.workspace i = some (f j) :=
  jobOf?_eq_some_iff.2 ⟨getElem?_update_self job f, workspace⟩

theorem jobOf?_update_of_ne (s : Jobs α) (name : String) {i t : Nat} (ne : t ≠ i) (f : Job α → Job α) :
    (s.update i f).jobOf? name t = s.jobOf? name t := by
  rw [jobOf?, jobOf?, getElem?_update_of_ne s ne]

/-- The jobs of a workspace are not affected if one of another workspace changes. -/
theorem jobOf?_update_of_away {s : Jobs α} {i : Nat} {j : Job α} {f : Job α → Job α} {name : String}
    (job : s.jobs[i]? = some j) (workspace : (f j).workspace = j.workspace) (away : j.workspace ≠ name)
    (t : Nat) : (s.update i f).jobOf? name t = s.jobOf? name t := by
  by_cases same : t = i
  · subst same
    rw [jobOf?, jobOf?, getElem?_update_self job, job, Option.filter_some_neg, Option.filter_some_neg]
    · exact beq_false_of_ne away
    · exact beq_false_of_ne (workspace.symm ▸ away)
  · exact jobOf?_update_of_ne s name same f

end Jobs

/-- A job that has a slot shows that it got one. -/
theorem Job.entered_of_holds {j : Job α} {given : Bool} (has : j.holds given = true) :
    j.entered = true := by
  unfold holds at has
  unfold entered
  cases stage : j.stage <;> cases state : j.state <;> simp_all

namespace JobLog

theorem mem_holders_iff {l : JobLog α} {t : Nat} :
    t ∈ l.holders ↔
      ∃ j, l.jobs.jobOf? l.workspace t = some j ∧ j.holds (l.returned.contains t) = true := by
  simp only [holders, List.mem_filter, List.mem_range, Option.any_eq_true, Bool.and_eq_true, beq_iff_eq,
    Jobs.jobOf?_eq_some_iff, and_assoc]
  constructor
  · rintro ⟨-, j, job, here, holds⟩
    exact ⟨j, job, here, holds⟩
  · rintro ⟨j, job, here, holds⟩
    exact ⟨Jobs.lt_size job, j, job, here, holds⟩

theorem mem_holders_congr {l l' : JobLog α} {t : Nat} (workspace : l'.workspace = l.workspace)
    (jobs : l'.jobs.jobOf? l.workspace t = l.jobs.jobOf? l.workspace t)
    (returned : ∀ j, l.jobs.jobOf? l.workspace t = some j → (t ∈ l'.returned ↔ t ∈ l.returned)) :
    t ∈ l'.holders ↔ t ∈ l.holders := by
  rw [mem_holders_iff, mem_holders_iff, workspace, jobs]
  refine exists_congr fun j => and_congr_right fun job => ?_
  have same : l'.returned.contains t = l.returned.contains t := by
    rw [Bool.eq_iff_iff, List.contains_iff_mem, List.contains_iff_mem]
    exact returned j job
  rw [same]

theorem holders_nodup (l : JobLog α) : l.holders.Nodup := List.nodup_range.filter _

/-- If one job alone may get or lose its slot, the number of those that have one changes by that. -/
theorem length_holders_change {l l' : JobLog α} {i : Nat}
    (others : ∀ t, t ≠ i → (t ∈ l'.holders ↔ t ∈ l.holders)) :
    l'.holders.length + (l.holders.contains i).toNat =
      l.holders.length + (l'.holders.contains i).toNat := by
  have apart : ∀ k : JobLog α, k.holders.length = (k.holders.erase i).length +
      (k.holders.contains i).toNat := by
    intro k
    by_cases member : i ∈ k.holders
    · rw [List.length_erase_of_mem member, List.contains_iff_mem.2 member, Bool.toNat_true,
        Nat.sub_add_cancel (List.length_pos_of_mem member)]
    · rw [List.erase_of_not_mem member, Bool.eq_false_iff.2 (mt List.contains_iff_mem.1 member),
        Bool.toNat_false, Nat.add_zero]
  have same : (l'.holders.erase i).length = (l.holders.erase i).length := by
    refine ((List.perm_ext_iff_of_nodup (l'.holders_nodup.erase i) (l.holders_nodup.erase i)).2
      fun t => ?_).length_eq
    rw [l'.holders_nodup.mem_erase_iff, l.holders_nodup.mem_erase_iff]
    exact and_congr_right (others t)
  rw [apart l, apart l', same]
  omega

/-- What is noted of a job of the workspace. -/
def Noted (l : JobLog α) (t : Nat) (j : Job α) : Prop :=
  match j.stage with
  | .created => t ∉ l.arrived ∧ t ∉ l.returned
  | .inLine => t ∈ l.arrived ∧ t ∉ l.returned
  | .granted | .working _ => t ∈ l.served ∧ t ∉ l.returned
  | .ended => j.entered = true → t ∈ l.served

theorem Noted.congr {l l' : JobLog α} {t : Nat} {j : Job α} (noted : l.Noted t j)
    (arrived : t ∈ l'.arrived ↔ t ∈ l.arrived) (served : t ∈ l'.served ↔ t ∈ l.served)
    (returned : t ∈ l'.returned ↔ t ∈ l.returned) : l'.Noted t j := by
  unfold Noted at noted ⊢
  rw [arrived, served, returned]
  exact noted

/-- A note on a ticket says nothing about others. -/
theorem mem_append_noted_of_ne (l : JobLog α) (xs : List Nat) (name : String) {i t : Nat} (ne : t ≠ i) :
    t ∈ xs ++ l.noted name (some i) ↔ t ∈ xs := by
  rw [List.mem_append, or_iff_left]
  exact fun member => ne (Option.some.inj (mem_noted_iff.1 member).2).symm

variable [Interval α]

/-- The notes on a workspace agree with its jobs. Some jobs may have a slot that is not counted. -/
structure Booked (owed : Nat) (l : JobLog α) : Prop where
  counted : l.holders.length = l.running + owed
  own : ∀ t ∈ l.arrived, ∃ j, l.jobs.jobOf? l.workspace t = some j
  old : ∀ t ∈ l.returned, t < l.jobs.jobs.size
  noted : ∀ t j, l.jobs.jobOf? l.workspace t = some j → l.Noted t j

namespace Booked

variable {l l' : JobLog α} {owed owed' : Nat} (booked : l.Booked owed)

include booked

/-- What happens to other workspaces is not noted, and a slot may become free. -/
theorem away (workspace : l'.workspace = l.workspace)
    (jobs : ∀ t, l'.jobs.jobOf? l.workspace t = l.jobs.jobOf? l.workspace t)
    (counted : l'.running + owed' = l.running + owed) (arrived : l'.arrived = l.arrived)
    (served : l'.served = l.served)
    (returned : ∀ t j, l.jobs.jobOf? l.workspace t = some j → (t ∈ l'.returned ↔ t ∈ l.returned))
    (old : ∀ t ∈ l'.returned, t < l'.jobs.jobs.size) : l'.Booked owed' := by
  constructor
  case counted =>
    rw [counted, ← booked.counted]
    exact ((List.perm_ext_iff_of_nodup l'.holders_nodup l.holders_nodup).2 fun t =>
      mem_holders_congr workspace (jobs t) (returned t)).length_eq
  case own =>
    rw [workspace, arrived]
    intro t member
    rw [jobs]
    exact booked.own t member
  case old => exact old
  case noted =>
    rw [workspace]
    intro t j job
    rw [jobs] at job
    exact (booked.noted t j job).congr (by rw [arrived]) (by rw [served]) (returned t j job)

/-- One job of the workspace changes, and notes are made of it. -/
theorem change {i : Nat} {j j' : Job α} (workspace : l'.workspace = l.workspace)
    (size : l'.jobs.jobs.size = l.jobs.jobs.size)
    (before : l.jobs.jobOf? l.workspace i = some j) (after : l'.jobs.jobOf? l.workspace i = some j')
    (jobs : ∀ t, t ≠ i → l'.jobs.jobOf? l.workspace t = l.jobs.jobOf? l.workspace t)
    (arrived : ∀ t, t ≠ i → (t ∈ l'.arrived ↔ t ∈ l.arrived))
    (served : ∀ t, t ≠ i → (t ∈ l'.served ↔ t ∈ l.served))
    (returned : ∀ t, t ≠ i → (t ∈ l'.returned ↔ t ∈ l.returned)) (noted : l'.Noted i j')
    (counted : l'.running + owed' + (j.holds (l.returned.contains i)).toNat =
      l.running + owed + (j'.holds (l'.returned.contains i)).toNat) : l'.Booked owed' := by
  have holds : l.holders.contains i = j.holds (l.returned.contains i) := by
    rw [Bool.eq_iff_iff, List.contains_iff_mem, mem_holders_iff, before]
    simp only [Option.some.injEq, exists_eq_left']
  have holds' : l'.holders.contains i = j'.holds (l'.returned.contains i) := by
    rw [Bool.eq_iff_iff, List.contains_iff_mem, mem_holders_iff, workspace, after]
    simp only [Option.some.injEq, exists_eq_left']
  constructor
  case counted =>
    have change := length_holders_change fun t (ne : t ≠ i) =>
      mem_holders_congr workspace (jobs t ne) fun _ _ => returned t ne
    rw [holds, holds', booked.counted] at change
    omega
  case own =>
    rw [workspace]
    intro t member
    by_cases same : t = i
    · exact same ▸ ⟨j', after⟩
    · rw [jobs t same]
      exact booked.own t ((arrived t same).1 member)
  case old =>
    rw [size]
    intro t member
    by_cases same : t = i
    · exact same ▸ Jobs.lt_size (Jobs.jobOf?_eq_some_iff.1 before).1
    · exact booked.old t ((returned t same).1 member)
  case noted =>
    rw [workspace]
    intro t k later
    by_cases same : t = i
    · subst same
      cases after.symm.trans later
      exact noted
    · exact (booked.noted t k (jobs t same ▸ later)).congr (arrived t same) (served t same)
        (returned t same)

/-- A workspace changes in other things than slots, or it is another workspace. -/
theorem touch {name : String} {w : Workspace α} (running : name = l.workspace → w.running = l.running) :
    Booked owed { l with jobs := l.jobs.setWorkspace name w } := by
  refine booked.away rfl (fun _ => rfl) ?_ rfl rfl (fun _ _ _ => Iff.rfl) booked.old
  refine congrArg (· + owed) ?_
  change ((l.jobs.scheduler.set name w).workspace l.workspace).running = _
  by_cases here : name = l.workspace
  · subst here
    rw [Scheduler.workspace_set_self, running rfl]
  · rw [Scheduler.workspace_set_of_ne _ _ (Ne.symm here)]
    rfl

/-- A job changes and shows nothing new, or it is one of another workspace. -/
theorem update {i : Nat} {j : Job α} {f : Job α → Job α} (job : l.jobs.jobs[i]? = some j)
    (workspace : (f j).workspace = j.workspace)
    (quiet : j.workspace = l.workspace → l.Noted i j →
      l.Noted i (f j) ∧ (f j).holds (l.returned.contains i) = j.holds (l.returned.contains i)) :
    Booked owed { l with jobs := l.jobs.update i f } := by
  by_cases here : j.workspace = l.workspace
  · have before := Jobs.jobOf?_eq_some_iff.2 ⟨job, here⟩
    obtain ⟨noted, holds⟩ := quiet here (booked.noted i j before)
    refine booked.change rfl (Jobs.size_update _ _ _) before
      (here ▸ Jobs.jobOf?_update_self job workspace) (fun t ne => Jobs.jobOf?_update_of_ne _ _ ne f)
      (fun _ _ => Iff.rfl) (fun _ _ => Iff.rfl) (fun _ _ => Iff.rfl) noted ?_
    rw [holds]
    rfl
  · refine booked.away rfl (Jobs.jobOf?_update_of_away job workspace here) rfl rfl rfl
      (fun _ _ _ => Iff.rfl) ?_
    exact fun t member => (Jobs.size_update _ _ _).symm ▸ booked.old t member

/-- A new job has no slot, and nothing is noted of it. -/
theorem add (name workspace : String) (keepsSlot : Bool) :
    Booked owed { l with jobs := l.jobs.add name workspace keepsSlot } := by
  have view : ∀ t, (l.jobs.add name workspace keepsSlot).jobOf? l.workspace t =
        l.jobs.jobOf? l.workspace t ∨
      t = l.jobs.jobs.size ∧ l.jobs.jobOf? l.workspace t = none ∧
        ∀ j, (l.jobs.add name workspace keepsSlot).jobOf? l.workspace t = some j →
          j.stage = .created := by
    intro t
    have pushed : (l.jobs.add name workspace keepsSlot).jobs =
        l.jobs.jobs.push { name, workspace, keepsSlot } := rfl
    by_cases last : t = l.jobs.jobs.size
    · refine Or.inr ⟨last, ?_, fun j job => ?_⟩
      · rw [Jobs.jobOf?, last, Array.getElem?_size, Option.filter_none]
      · have new := (Jobs.jobOf?_eq_some_iff.1 job).1
        rw [pushed, last, Array.getElem?_push_size] at new
        cases new
        rfl
    · left
      rw [Jobs.jobOf?, Jobs.jobOf?, pushed, Array.getElem?_push, if_neg last]
  have lost : ∀ t j, l.jobs.jobOf? l.workspace t = some j →
      (l.jobs.add name workspace keepsSlot).jobOf? l.workspace t = some j := by
    intro t j job
    rcases view t with same | ⟨-, new, -⟩
    · exact same.trans job
    · cases new.symm.trans job
  have grown : (l.jobs.add name workspace keepsSlot).jobs.size = l.jobs.jobs.size + 1 :=
    Array.size_push _
  constructor
  case counted =>
    change _ = l.running + owed
    rw [← booked.counted]
    refine ((List.perm_ext_iff_of_nodup (holders_nodup _) l.holders_nodup).2 fun t => ?_).length_eq
    rw [mem_holders_iff, mem_holders_iff]
    rcases view t with same | ⟨-, new, created⟩
    · exact same ▸ Iff.rfl
    · rw [new]
      constructor
      · rintro ⟨j, job, has⟩
        simp only [Job.holds, created j job, Bool.false_eq_true] at has
      · rintro ⟨j, job, -⟩
        cases job
  case own =>
    intro t member
    obtain ⟨j, job⟩ := booked.own t member
    exact ⟨j, lost t j job⟩
  case old =>
    intro t member
    exact grown ▸ Nat.lt_succ_of_lt (booked.old t member)
  case noted =>
    intro t j job
    rcases view t with same | ⟨rfl, new, created⟩
    · exact booked.noted t j (same ▸ job)
    · unfold Noted
      rw [created j job]
      refine ⟨fun member => ?_, fun member => Nat.lt_irrefl _ (booked.old _ member)⟩
      obtain ⟨k, own⟩ := booked.own _ member
      cases new.symm.trans own

/-- A request gets a slot at once. -/
theorem enter {i : Nat} {j : Job α} {w : Workspace α} (job : l.jobs.jobs[i]? = some j)
    (stage : j.stage = .created)
    (running : w.running = (l.jobs.scheduler.workspace j.workspace).running + 1) :
    Booked owed { l with
      jobs := (l.jobs.setWorkspace j.workspace w).update i ({ · with stage := .granted })
      arrived := l.arrived ++ l.noted j.workspace (some i)
      served := l.served ++ l.noted j.workspace (some i) } := by
  have job' : (l.jobs.setWorkspace j.workspace w).jobs[i]? = some j := job
  by_cases here : j.workspace = l.workspace
  · have before := Jobs.jobOf?_eq_some_iff.2 ⟨job, here⟩
    have new := booked.noted i j before
    simp only [Noted, stage] at new
    have notes : l.noted j.workspace (some i) = [i] := noted_here here _
    refine booked.change rfl (Jobs.size_update _ _ _) before (here ▸ Jobs.jobOf?_update_self job' rfl)
      (fun t ne => Jobs.jobOf?_update_of_ne _ _ ne _) (fun t ne => l.mem_append_noted_of_ne _ _ ne)
      (fun t ne => l.mem_append_noted_of_ne _ _ ne) (fun _ _ => Iff.rfl) ?_ ?_
    · refine ⟨?_, new.2⟩
      rw [notes]
      exact List.mem_append_right _ (List.mem_singleton_self i)
    · change ((l.jobs.scheduler.set j.workspace w).workspace l.workspace).running + owed + _ = _
      rw [← here, Scheduler.workspace_set_self, running, here]
      simp only [Job.holds, stage, Bool.toNat_false, Bool.toNat_true]
      change l.running + 1 + owed + 0 = _
      omega
  · rw [noted_elsewhere here, List.append_nil, List.append_nil]
    exact (booked.touch (absurd · here)).update job' rfl (absurd · here)

/-- A request joins the line. -/
theorem join {i : Nat} {j : Job α} {w : Workspace α} {bar : Nat} (job : l.jobs.jobs[i]? = some j)
    (stage : j.stage = .created)
    (running : w.running = (l.jobs.scheduler.workspace j.workspace).running) :
    Booked owed { l with
      jobs := (l.jobs.setWorkspace j.workspace w).update i ({ · with stage := .inLine })
      arrived := l.arrived ++ l.noted j.workspace (some i)
      bar } := by
  have job' : (l.jobs.setWorkspace j.workspace w).jobs[i]? = some j := job
  by_cases here : j.workspace = l.workspace
  · have before := Jobs.jobOf?_eq_some_iff.2 ⟨job, here⟩
    have new := booked.noted i j before
    simp only [Noted, stage] at new
    have notes : l.noted j.workspace (some i) = [i] := noted_here here _
    refine booked.change rfl (Jobs.size_update _ _ _) before (here ▸ Jobs.jobOf?_update_self job' rfl)
      (fun t ne => Jobs.jobOf?_update_of_ne _ _ ne _) (fun t ne => l.mem_append_noted_of_ne _ _ ne)
      (fun _ _ => Iff.rfl) (fun _ _ => Iff.rfl) ?_ ?_
    · refine ⟨?_, new.2⟩
      rw [notes]
      exact List.mem_append_right _ (List.mem_singleton_self i)
    · change ((l.jobs.scheduler.set j.workspace w).workspace l.workspace).running + owed + _ = _
      rw [← here, Scheduler.workspace_set_self, running, here]
      simp only [Job.holds, stage]
      rfl
  · rw [noted_elsewhere here, List.append_nil]
    have moved := (booked.touch (absurd · here)).update (f := ({ · with stage := .inLine })) job' rfl
      (absurd · here)
    exact moved.away rfl (fun _ => rfl) rfl rfl rfl (fun _ _ _ => Iff.rfl) moved.old

/-- A slot is handed over while the job that had it still counts. -/
theorem pass {actor : Option Nat} {w : Workspace α} {next : Option Nat} (sound : l.jobs.Sound actor)
    (passed : (l.jobs.scheduler.workspace l.workspace).HandsOver w next) (busy : 0 < l.running) :
    Booked (owed + 1) { l with
      jobs := (l.jobs.setWorkspace l.workspace w).grant next
      served := l.served ++ next.toList } := by
  cases next with
  | none =>
    have nobody : (l.jobs.scheduler.workspace l.workspace).waiting = [] :=
      List.head?_eq_none_iff.1 passed.next.symm
    refine booked.away rfl (fun _ => rfl) ?_ rfl (List.append_nil _) (fun _ _ _ => Iff.rfl) booked.old
    change ((l.jobs.scheduler.set l.workspace w).workspace l.workspace).running + (owed + 1) = _
    rw [Scheduler.workspace_set_self, passed.running, if_pos nobody]
    change l.running - 1 + (owed + 1) = _
    omega
  | some i =>
    obtain ⟨j, job, here, stage, -⟩ := sound.next_waits passed
    have before := Jobs.jobOf?_eq_some_iff.2 ⟨job, here⟩
    have waited := booked.noted i j before
    simp only [Noted, stage] at waited
    have job' : (l.jobs.setWorkspace l.workspace w).jobs[i]? = some j := job
    have somebody : (l.jobs.scheduler.workspace l.workspace).waiting ≠ [] := by
      intro nobody
      have first := passed.next
      rw [nobody] at first
      cases first
    refine booked.change rfl (Jobs.size_update _ _ _) before (here ▸ Jobs.jobOf?_update_self job' rfl)
      (fun t ne => Jobs.jobOf?_update_of_ne _ _ ne _) (fun _ _ => Iff.rfl) ?_ (fun _ _ => Iff.rfl) ?_ ?_
    · intro t ne
      rw [List.mem_append, Option.toList_some, List.mem_singleton, or_iff_left ne]
    · exact ⟨List.mem_append_right _ (List.mem_singleton_self i), waited.2⟩
    · change ((l.jobs.scheduler.set l.workspace w).workspace l.workspace).running + _ + _ = _
      rw [Scheduler.workspace_set_self, passed.running, if_neg somebody]
      simp only [Job.holds, stage]
      rfl

/-- A slot is handed over in another workspace. -/
theorem pass_away {actor : Option Nat} {name : String} {w : Workspace α} {next : Option Nat}
    (sound : l.jobs.Sound actor) (passed : (l.jobs.scheduler.workspace name).HandsOver w next)
    (away : name ≠ l.workspace) :
    Booked owed { l with jobs := (l.jobs.setWorkspace name w).grant next } := by
  have touched : Booked owed { l with jobs := l.jobs.setWorkspace name w } :=
    booked.touch (absurd · away)
  cases next with
  | none => exact touched
  | some i =>
    obtain ⟨j, job, there, -⟩ := sound.next_waits passed
    have granted := touched.update (f := ({ · with stage := .granted })) (i := i) job rfl
      (absurd · (there ▸ away))
    exact granted.away rfl (fun _ => rfl) rfl rfl rfl (fun _ _ _ => Iff.rfl) granted.old

omit booked

/-- A job is over, and somebody else has its slot. -/
theorem vacate {i : Nat} {j : Job α} {f : Job α → Job α} (booked : l.Booked (owed + 1))
    (job : l.jobs.jobs[i]? = some j) (here : j.workspace = l.workspace)
    (stage : j.stage = .granted ∨ ∃ since, j.stage = .working since)
    (workspace : (f j).workspace = j.workspace) (ended : (f j).stage = .ended)
    (gone : (f j).holds false = false) : Booked owed { l with jobs := l.jobs.update i f } := by
  have before := Jobs.jobOf?_eq_some_iff.2 ⟨job, here⟩
  have noted : i ∈ l.served ∧ i ∉ l.returned := by
    have noted := booked.noted i j before
    rcases stage with stage | ⟨since, stage⟩ <;> simpa only [Noted, stage] using noted
  have held : j.holds (l.returned.contains i) = true := Job.holds_of_slot stage _
  refine booked.change rfl (Jobs.size_update _ _ _) before
    (here ▸ Jobs.jobOf?_update_self job workspace) (fun t ne => Jobs.jobOf?_update_of_ne _ _ ne f)
    (fun _ _ => Iff.rfl) (fun _ _ => Iff.rfl) (fun _ _ => Iff.rfl) ?_ ?_
  · simp only [Noted, ended]
    exact fun _ => noted.1
  · have kept : l.returned.contains i = false :=
      Bool.eq_false_iff.2 (mt List.contains_iff_mem.1 noted.2)
    rw [held, kept, gone]
    change l.running + owed + 1 = l.running + (owed + 1) + 0
    omega

/-- A slot that was kept is given back, and somebody else has it. -/
theorem giveBack {i : Nat} {j : Job α} (booked : l.Booked (owed + 1)) (job : l.jobs.jobs[i]? = some j)
    (here : j.workspace = l.workspace) (stage : j.stage = .ended)
    (has : j.holds (l.returned.contains i) = true) :
    Booked owed { l with returned := i :: l.returned } := by
  have before := Jobs.jobOf?_eq_some_iff.2 ⟨job, here⟩
  have noted := booked.noted i j before
  simp only [Noted, stage] at noted
  refine booked.change rfl rfl before before (fun _ _ => rfl) (fun _ _ => Iff.rfl) (fun _ _ => Iff.rfl)
    (fun t ne => ?_) ?_ ?_
  · rw [List.mem_cons, or_iff_right ne]
  · simp only [Noted, stage]
    exact noted
  · have gone : j.holds ((i :: l.returned).contains i) = false := by
      rw [List.contains_cons, beq_self_eq_true, Bool.true_or]
      unfold Job.holds
      rw [stage]
      cases j.state <;> rfl
    rw [has, gone]
    change l.running + owed + 1 = l.running + (owed + 1) + 0
    omega

end Booked

/-- As long as a job has a slot, one is counted. -/
theorem Booked.running_pos {l : JobLog α} (booked : l.Booked 0) {i : Nat} {j : Job α}
    (job : l.jobs.jobs[i]? = some j) (here : j.workspace = l.workspace)
    (has : j.holds (l.returned.contains i) = true) : 0 < l.running := by
  have counted := booked.counted
  rw [Nat.add_zero] at counted
  rw [← counted]
  exact List.length_pos_of_mem (mem_holders_iff.2 ⟨j, Jobs.jobOf?_eq_some_iff.2 ⟨job, here⟩, has⟩)

/-- The notes on a workspace always agree with its jobs. -/
theorem Transition.booked {actor : Option Nat} {l l' : JobLog α} (moved : l.Transition actor l')
    (sound : l.jobs.Sound actor) (booked : l.Booked 0) : l'.Booked 0 := by
  cases moved with
  | request name workspace keepsSlot => exact booked.add name workspace keepsSlot
  | wait clock | wake job old called =>
    exact booked.away rfl (fun _ => rfl) rfl rfl rfl (fun _ _ _ => Iff.rfl) booked.old
  | touch line running =>
    refine booked.touch fun here => ?_
    subst here
    exact running
  | @flag ticket j f job stage state workspace cancelled =>
    refine booked.update job workspace fun _ noted => ⟨?_, ?_⟩
    · unfold Noted Job.entered at noted ⊢
      rw [stage, state]
      exact noted
    · unfold Job.holds
      rw [stage, state]
  | @giveUp ticket j job stage live =>
    refine (booked.touch fun here => ?_).update job rfl fun _ noted => ⟨noted, rfl⟩
    rw [here]
    rfl
  | @withdraw ticket j job stage cancelled =>
    refine (booked.touch fun here => ?_).update job rfl fun _ _ => ⟨?_, ?_⟩
    · rw [here]
      rfl
    · simp only [Noted, Job.entered, Bool.false_eq_true, false_implies]
    · simp only [Job.holds, stage]
  | @drop ticket j f job stage workspace ended cancelled out =>
    refine booked.update job workspace fun _ _ => ⟨?_, ?_⟩
    · simp only [Noted, ended, out, Bool.false_eq_true, false_implies]
    · have before : ∀ given, j.holds given = false := by simp only [Job.holds, stage, implies_true]
      rw [before, Bool.eq_false_iff]
      exact fun has => Bool.false_ne_true (out ▸ Job.entered_of_holds has)
  | enter job acts stage live free alone line running => exact booked.enter job stage running
  | queue job stage live rests busy line running => exact booked.join job stage running
  | @goOn ticket j f job stage workspace cancelled holds entered =>
    refine booked.update job workspace fun _ noted => ?_
    simp only [Noted, stage] at noted
    have kept : l.returned.contains ticket = false :=
      Bool.eq_false_iff.2 (mt List.contains_iff_mem.1 noted.2)
    rw [kept, holds]
    refine ⟨?_, by simp only [Job.holds, stage]⟩
    unfold Noted
    unfold Job.entered at entered
    split
    · next now => simp only [now, Bool.false_eq_true] at entered
    · next now => simp only [now, Bool.false_eq_true] at entered
    · exact noted
    · exact noted
    · exact fun _ => noted.1
  | @handOver ticket j f w next job stage passed workspace ended cancelled gone =>
    have stays : ((l.jobs.setWorkspace j.workspace w).grant next).jobs[ticket]? = some j :=
      sound.stays passed job (Job.out_of_line stage)
    by_cases here : j.workspace = l.workspace
    · have held : j.holds (l.returned.contains ticket) = true := Job.holds_of_slot stage _
      have busy := booked.running_pos job here held
      rw [here] at passed stays
      rw [noted_here here, here]
      exact (booked.pass sound passed busy).vacate stays here stage workspace ended gone
    · rw [noted_elsewhere here, List.append_nil]
      exact (booked.pass_away sound passed here).update stays workspace (absurd · here)
  | @giveBack ticket j w next job stage holds passed =>
    have stays : ((l.jobs.setWorkspace j.workspace w).grant next).jobs[ticket]? = some j :=
      sound.stays passed job (by simp [stage])
    by_cases here : j.workspace = l.workspace
    · have busy := booked.running_pos job here holds
      rw [here] at passed stays
      rw [noted_here here, here]
      exact (booked.pass sound passed busy).giveBack stays here stage holds
    · rw [noted_elsewhere here, List.append_nil]
      have granted := booked.pass_away sound passed here
      refine granted.away rfl (fun _ => rfl) rfl rfl rfl (fun t k own => ?_) fun t member => ?_
      · rw [List.mem_cons, or_iff_right]
        rintro rfl
        obtain ⟨same, there⟩ := Jobs.jobOf?_eq_some_iff.1 own
        cases stays.symm.trans same
        exact here there
      · rcases List.mem_cons.1 member with rfl | old
        · exact Jobs.lt_size stays
        · exact granted.old t old

end JobLog

end LiveLint
