import LiveLint.Proofs.Schedule.Order

/-!
# What a move comes to

Everything that may happen to jobs is one transition or a few of them, after which at most one request
joined and at most one got a slot. A request that gets a slot either waited before all others, and then
the number of slots that are taken stays, or nobody waited and a slot was free.
-/

namespace LiveLint

variable {α : Type} [Interval α]

omit [Interval α] in
theorem Job.joined_of_entered {j : Job α} (has : j.entered = true) : j.joined = true := by
  unfold joined
  split
  · rfl
  · exact has

namespace JobLog

/-- What is added to the notes by a move, and what becomes of the slots. -/
structure Notes (l l' : JobLog α) (xs ys : List Nat) : Prop where
  arrived : l'.arrived = l.arrived ++ xs
  served : l'.served = l.served ++ ys
  few : xs.length ≤ 1 ∧ ys.length ≤ 1
  joined : ∀ t ∈ xs, ∃ j, l'.jobs.jobOf? l.workspace t = some j ∧ j.joined = true
  entered : ∀ t ∈ ys, ∃ j, l'.jobs.jobOf? l.workspace t = some j ∧ j.entered = true
  live : ∀ t ∈ ys, l.jobs.isCancelled t = false
  given : ∀ t ∈ ys, t ∈ l.waiting ∧ l'.running = l.running ∨
    l.waiting = [] ∧ l.running < l.slots ∧ l'.running ≤ l.running + 1
  less : ys = [] → l'.running ≤ l.running
  kept : l'.line ≠ [] → l.running ≤ l'.running ∧ (l.line = [] → l.slots ≤ l'.running)
  bar : l'.bar = if l.line.isEmpty && !l'.line.isEmpty then l.slots else l.bar

/-- The limit is not noted when nobody joins an empty line. -/
theorem bar_kept {l l' : JobLog α} (line : l.line = [] → l'.line = []) :
    (if l.line.isEmpty && !l'.line.isEmpty then l.slots else l.bar) = l.bar := by
  refine if_neg ?_
  rw [Bool.and_eq_true, List.isEmpty_iff, Bool.not_eq_true', ← Bool.not_eq_true, List.isEmpty_iff]
  exact fun ⟨nobody, somebody⟩ => somebody (line nobody)

/-- Nothing is noted of a move that gives no slot and lets nobody join. -/
theorem Notes.quiet {l l' : JobLog α} (arrived : l'.arrived = l.arrived) (served : l'.served = l.served)
    (bar : l'.bar = l.bar) (line : l.line = [] → l'.line = []) (running : l'.running = l.running) :
    l.Notes l' [] [] where
  arrived := by rw [arrived, List.append_nil]
  served := by rw [served, List.append_nil]
  few := ⟨Nat.zero_le 1, Nat.zero_le 1⟩
  joined := nofun
  entered := nofun
  live := nofun
  given := nofun
  less _ := Nat.le_of_eq running
  kept somebody := ⟨Nat.le_of_eq running.symm, fun nobody => absurd (line nobody) somebody⟩
  bar := bar.trans (bar_kept line).symm

/-- Nothing is noted of a workspace that keeps its slots, and whose line stays empty if it was. -/
theorem Notes.touch {l : JobLog α} {s : Jobs α} {name : String} {w : Workspace α}
    (after : s.scheduler.workspace l.workspace =
      if name = l.workspace then w else l.jobs.scheduler.workspace l.workspace)
    (line : (l.jobs.scheduler.workspace name).waiters = [] → w.waiters = [])
    (running : w.running = (l.jobs.scheduler.workspace name).running) :
    l.Notes { l with jobs := s } [] [] := by
  refine Notes.quiet rfl rfl rfl (fun nobody => ?_) ?_
  · rw [JobLog.line, after]
    split
    · next here => exact line (here ▸ nobody)
    · exact nobody
  · rw [JobLog.running, after]
    split
    · next here => rw [running, here, JobLog.running]
    · rfl

/-- Nothing is noted of what happens in another workspace. -/
theorem Notes.elsewhere {l l' : JobLog α} (kept : l'.workspace = l.workspace)
    (same : l'.jobs.scheduler.workspace l.workspace = l.jobs.scheduler.workspace l.workspace)
    (arrived : l'.arrived = l.arrived) (served : l'.served = l.served) (bar : l'.bar = l.bar) :
    l.Notes l' [] [] := by
  refine Notes.quiet arrived served bar (fun nobody => ?_) ?_
  · rw [line, kept, same]
    exact nobody
  · rw [running, kept, same, running]

/-- A slot is handed over to the first one that waits, or it becomes free. -/
theorem Notes.pass {l : JobLog α} {s : Jobs α} {name : String} {w : Workspace α} {next : Option Nat}
    {actor : Option Nat} (sound : l.jobs.Sound actor)
    (passed : (l.jobs.scheduler.workspace name).HandsOver w next)
    (after : s.scheduler.workspace l.workspace =
      if name = l.workspace then w else l.jobs.scheduler.workspace l.workspace)
    (granted : ∀ u, next = some u → ∃ k, s.jobOf? name u = some k ∧ k.entered = true)
    (returned : List Nat) :
    l.Notes { l with jobs := s, returned, served := l.served ++ l.noted name next } []
      (l.noted name next) := by
  by_cases here : name = l.workspace
  · subst here
    rw [if_pos rfl] at after
    rw [noted_here rfl]
    have waits : ∀ t, next = some t → t ∈ l.waiting ∧ l.waiting ≠ [] := by
      rintro t rfl
      have first := List.mem_of_head? passed.next.symm
      exact ⟨first, List.ne_nil_of_mem first⟩
    have running : (s.scheduler.workspace l.workspace).running =
        if l.waiting = [] then l.running - 1 else l.running := by
      rw [after, passed.running]
      rfl
    have empty : l.line = [] → (s.scheduler.workspace l.workspace).waiters = [] := by
      intro nobody
      rw [after]
      exact List.suffix_nil.1 (nobody ▸ passed.rest)
    constructor
    case arrived => exact (List.append_nil _).symm
    case served => rfl
    case few => exact ⟨Nat.zero_le 1, by cases next <;> simp⟩
    case joined => exact nofun
    case entered => exact fun t first => granted t (Option.mem_toList.1 first)
    case live =>
      intro t first
      cases Option.mem_toList.1 first
      obtain ⟨j, job, -, -, live⟩ := sound.next_waits passed
      exact (Jobs.isCancelled_eq job).trans live
    case given =>
      intro t first
      obtain ⟨waited, somebody⟩ := waits t (Option.mem_toList.1 first)
      exact Or.inl ⟨waited, running.trans (if_neg somebody)⟩
    case less =>
      intro _
      change (s.scheduler.workspace l.workspace).running ≤ _
      rw [running]
      split
      · exact Nat.sub_le _ _
      · exact Nat.le_refl _
    case kept =>
      intro somebody
      have waiting : l.waiting ≠ [] := by
        intro nobody
        refine somebody ?_
        rw [line, after]
        exact passed.cleared nobody
      exact ⟨Nat.le_of_eq (running.trans (if_neg waiting)).symm,
        fun nobody => absurd (empty nobody) somebody⟩
    case bar =>
      symm
      exact bar_kept empty
  · rw [if_neg here] at after
    rw [noted_elsewhere here]
    exact Notes.elsewhere rfl after rfl (List.append_nil _) rfl

/-- A request gets a slot at once. -/
theorem Notes.enter {l : JobLog α} {s : Jobs α} {name : String} {w : Workspace α} {t : Nat}
    (free : (l.jobs.scheduler.workspace name).running < l.slots)
    (alone : (l.jobs.scheduler.workspace name).waiters = []) (line : w.waiters = [])
    (running : w.running ≤ (l.jobs.scheduler.workspace name).running + 1)
    (live : l.jobs.isCancelled t = false)
    (after : s.scheduler.workspace l.workspace =
      if name = l.workspace then w else l.jobs.scheduler.workspace l.workspace)
    (granted : ∃ k, s.jobOf? name t = some k ∧ k.entered = true) :
    l.Notes { l with
      jobs := s
      arrived := l.arrived ++ l.noted name (some t)
      served := l.served ++ l.noted name (some t) } (l.noted name (some t)) (l.noted name (some t)) := by
  by_cases here : name = l.workspace
  · subst here
    rw [if_pos rfl] at after
    rw [noted_here rfl, Option.toList_some]
    have shown : ∀ u ∈ [t], ∃ k, s.jobOf? l.workspace u = some k ∧ k.entered = true := by
      intro u member
      exact List.mem_singleton.1 member ▸ granted
    constructor
    case arrived => rfl
    case served => rfl
    case few => exact ⟨Nat.le_refl 1, Nat.le_refl 1⟩
    case joined =>
      intro u member
      obtain ⟨k, job, entered⟩ := shown u member
      exact ⟨k, job, Job.joined_of_entered entered⟩
    case entered => exact shown
    case live =>
      intro u member
      exact List.mem_singleton.1 member ▸ live
    case given =>
      intro u _
      have nobody : l.waiting = [] := by
        rw [waiting, Workspace.waiting, alone]
        rfl
      refine Or.inr ⟨nobody, free, ?_⟩
      rw [JobLog.running, after]
      exact running
    case less => exact fun none => absurd none (List.cons_ne_nil t [])
    case kept =>
      intro somebody
      refine absurd ?_ somebody
      rw [JobLog.line, after]
      exact line
    case bar =>
      symm
      refine bar_kept fun _ => ?_
      rw [JobLog.line, after]
      exact line
  · rw [if_neg here] at after
    rw [noted_elsewhere here]
    exact Notes.elsewhere rfl after (List.append_nil _) (List.append_nil _) rfl

/-- A request joins the line. -/
theorem Notes.join {l : JobLog α} {s : Jobs α} {name : String} {w : Workspace α} {t : Nat}
    (busy : (l.jobs.scheduler.workspace name).waiters = [] →
      l.slots ≤ (l.jobs.scheduler.workspace name).running)
    (line : w.waiters ≠ []) (running : w.running = (l.jobs.scheduler.workspace name).running)
    (after : s.scheduler.workspace l.workspace =
      if name = l.workspace then w else l.jobs.scheduler.workspace l.workspace)
    (joined : ∃ k, s.jobOf? name t = some k ∧ k.stage = .inLine) :
    l.Notes { l with
      jobs := s
      arrived := l.arrived ++ l.noted name (some t)
      bar := if name = l.workspace ∧ l.line = [] then l.slots else l.bar } (l.noted name (some t)) [] := by
  by_cases here : name = l.workspace
  · subst here
    rw [if_pos rfl] at after
    rw [noted_here rfl, Option.toList_some]
    constructor
    case arrived => rfl
    case served => exact (List.append_nil _).symm
    case few => exact ⟨Nat.le_refl 1, Nat.zero_le 1⟩
    case joined =>
      intro u member
      obtain ⟨k, job, stage⟩ := joined
      rw [List.mem_singleton.1 member]
      exact ⟨k, job, by simp only [Job.joined, stage]⟩
    case entered => exact nofun
    case live => exact nofun
    case given => exact nofun
    case less =>
      intro _
      change (s.scheduler.workspace l.workspace).running ≤ _
      rw [after, running]
      exact Nat.le_refl _
    case kept =>
      intro _
      change _ ≤ (s.scheduler.workspace l.workspace).running ∧
        (_ → _ ≤ (s.scheduler.workspace l.workspace).running)
      rw [after, running]
      exact ⟨Nat.le_refl _, busy⟩
    case bar =>
      have somebody : (s.scheduler.workspace l.workspace).waiters.isEmpty = false := by
        rw [after, Bool.eq_false_iff]
        exact fun nobody => line (List.isEmpty_iff.1 nobody)
      change (if l.workspace = l.workspace ∧ l.line = [] then l.slots else l.bar) =
        if l.line.isEmpty && !(s.scheduler.workspace l.workspace).waiters.isEmpty then l.slots else l.bar
      rw [somebody]
      simp only [true_and, Bool.not_false, Bool.and_true, List.isEmpty_iff]
  · rw [if_neg here] at after
    rw [noted_elsewhere here]
    exact Notes.elsewhere rfl after (List.append_nil _) rfl (if_neg fun both => here both.1)

end JobLog

end LiveLint
