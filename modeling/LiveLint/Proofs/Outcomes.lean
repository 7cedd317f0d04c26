import Mathlib.Data.List.Forall2

/-!
# Computations that may fail

A computation in several parts succeeds if all its parts do, and it fails with the fault of the first
part that does not. The same holds of a computation for every member of a list.
-/

namespace LiveLint

variable {ε α β : Type}

theorem bind_eq_ok_iff {part : Except ε α} {others : α → Except ε β} {b : β} :
    (part >>= others) = .ok b ↔ ∃ a, part = .ok a ∧ others a = .ok b := by
  cases part with
  | error e => exact ⟨nofun, nofun⟩
  | ok a =>
    refine ⟨fun done => ⟨a, rfl, done⟩, ?_⟩
    rintro ⟨a', same, done⟩
    cases same
    exact done

theorem bind_eq_error_iff {part : Except ε α} {others : α → Except ε β} {e : ε} :
    (part >>= others) = .error e ↔
      part = .error e ∨ ∃ a, part = .ok a ∧ others a = .error e := by
  cases part with
  | error e' =>
    constructor
    · intro failed
      cases failed
      exact Or.inl rfl
    · rintro (failed | ⟨a, same, -⟩)
      · cases failed
        rfl
      · cases same
  | ok a =>
    refine ⟨fun failed => Or.inr ⟨a, rfl, failed⟩, ?_⟩
    rintro (failed | ⟨a', same, failed⟩)
    · cases failed
    · cases same
      exact failed

theorem map_eq_ok_iff {part : Except ε α} {f : α → β} {b : β} :
    part.map f = .ok b ↔ ∃ a, part = .ok a ∧ f a = b := by
  cases part with
  | error e => exact ⟨nofun, nofun⟩
  | ok a => simp [Except.map]

theorem map_eq_error_iff {part : Except ε α} {f : α → β} {e : ε} :
    part.map f = .error e ↔ part = .error e := by
  cases part with
  | error e' => simp [Except.map]
  | ok a => exact ⟨nofun, nofun⟩

/-- A computation for every member of a list succeeds if it does for each of them. -/
theorem mapM_eq_ok_iff {f : α → Except ε β} {xs : List α} {ys : List β} :
    xs.mapM f = .ok ys ↔ List.Forall₂ (fun x y => f x = .ok y) xs ys := by
  induction xs generalizing ys with
  | nil =>
    rw [List.mapM_nil, List.forall₂_nil_left_iff]
    exact ⟨fun same => (Except.ok.inj same).symm, fun same => same ▸ rfl⟩
  | cons x rest ih =>
    rw [List.mapM_cons, List.forall₂_cons_left_iff, bind_eq_ok_iff]
    simp only [bind_eq_ok_iff, ih]
    constructor
    · rintro ⟨y, first, others, all, same⟩
      exact ⟨y, others, first, all, (Except.ok.inj same).symm⟩
    · rintro ⟨y, others, first, all, rfl⟩
      exact ⟨y, first, others, all, rfl⟩

/-- A computation for every member of a list succeeds only if it does for each of them. -/
theorem exists_ok_of_mem {f : α → Except ε β} {xs : List α} {ys : List β} (done : xs.mapM f = .ok ys)
    {x : α} (member : x ∈ xs) : ∃ y, f x = .ok y := by
  induction mapM_eq_ok_iff.1 done with
  | nil => cases member
  | cons one others ih =>
    rcases List.mem_cons.1 member with rfl | member
    · exact ⟨_, one⟩
    · exact ih (mapM_eq_ok_iff.2 others) member

/-- A computation for every member of a list fails as it does for the first member that it fails for. -/
theorem mapM_eq_error_iff {f : α → Except ε β} {xs : List α} {e : ε} :
    xs.mapM f = .error e ↔
      ∃ before x after, xs = before ++ x :: after ∧ (∀ x' ∈ before, ∃ y, f x' = .ok y) ∧
        f x = .error e := by
  induction xs with
  | nil => simp [pure, Except.pure]
  | cons x rest ih =>
    rw [List.mapM_cons, bind_eq_error_iff]
    constructor
    · rintro (failed | ⟨y, first, failed⟩)
      · exact ⟨[], x, rest, rfl, nofun, failed⟩
      · rcases bind_eq_error_iff.1 failed with failed | ⟨ys, -, failed⟩
        · obtain ⟨before, x', after, rfl, all, failed⟩ := ih.1 failed
          exact ⟨x :: before, x', after, rfl, List.forall_mem_cons.2 ⟨⟨y, first⟩, all⟩, failed⟩
        · cases failed
    · rintro ⟨before, x', after, split, all, failed⟩
      cases before with
      | nil =>
        cases split
        exact Or.inl failed
      | cons first before =>
        cases split
        obtain ⟨⟨y, first⟩, all⟩ := List.forall_mem_cons.1 all
        exact Or.inr ⟨y, first, bind_eq_error_iff.2 (Or.inl (ih.2 ⟨before, x', after, rfl, all, failed⟩))⟩

/-- Members can be selected if the test can be made for each of them. -/
theorem exists_filterM {test : α → Except ε Bool} {xs : List α} (each : ∀ x ∈ xs, ∃ b, test x = .ok b) :
    ∃ ys, xs.filterM test = .ok ys := by
  have aux (done : List α) : ∃ ys, xs.filterAuxM test done = .ok ys := by
    induction xs generalizing done with
    | nil => exact ⟨done, rfl⟩
    | cons x rest ih =>
      obtain ⟨b, tested⟩ := each x List.mem_cons_self
      unfold List.filterAuxM
      rw [tested]
      exact ih (fun x member => each x (List.mem_cons_of_mem _ member)) _
  obtain ⟨ys, filtered⟩ := aux []
  unfold List.filterM
  rw [filtered]
  exact ⟨ys.reverse, rfl⟩

end LiveLint
