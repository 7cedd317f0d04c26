import LiveLint.Proofs.Scan.Offsets
import LiveLint.Proofs.Tree.Stored
import LiveLint.Scan.Outline
import Mathlib.Data.List.Sort
import Mathlib.Data.List.TakeWhile

/-!
# How drafts are nested

The order of drafts is total, so sorted drafts begin no earlier than those in front of them. A branch has below
it the forest of the drafts that follow it directly in that order and lie inside of it. A draft stands on top
of a forest unless one in front of it that is no error holds it.
-/

namespace LiveLint

namespace Forest

/-- What has no owner ranks by its kind. -/
theorem rankWithin_of_none {drafts : List Draft} {d : Draft} (free : drafts.find? (·.body == some d.id) = none)
    (steps : Nat) : rankWithin drafts steps d = 2 * priority d.kind := by
  cases steps with
  | zero => rfl
  | succ steps =>
    unfold rankWithin
    rw [free]

/-- What has an owner ranks by it. -/
theorem rank_of_some {drafts : List Draft} {d owner : Draft} (found : drafts.find? (·.body == some d.id) = some owner)
    (free : drafts.find? (·.body == some owner.id) = none) :
    rank drafts d = if owner.span == d.span then 2 * priority owner.kind + 1 else -2 := by
  unfold rank rankWithin
  rw [found]
  dsimp only
  rw [rankWithin_of_none free]

theorem comesFirst_iff {p q : Int × Draft} :
    comesFirst p q = true ↔ p.2.span.start.le q.2.span.start = true ∧ (p.2.span.start = q.2.span.start →
      q.2.span.stop.le p.2.span.stop = true ∧ (p.2.span.stop = q.2.span.stop → p.1 ≤ q.1)) := by
  unfold comesFirst
  simp only [bne_iff_ne, ne_eq]
  split
  · next apart => exact ⟨fun le => ⟨le, fun same => absurd same apart⟩, And.left⟩
  · next same =>
    have same := Decidable.not_not.1 same
    rw [same]
    split
    · next apart =>
      exact ⟨fun le => ⟨Position.le_refl _, fun _ => ⟨le, fun same' => absurd same' apart⟩⟩,
        fun le => (le.2 rfl).1⟩
    · next same' =>
      have same' := Decidable.not_not.1 same'
      rw [decide_eq_true_eq, same']
      exact ⟨fun le => ⟨Position.le_refl _, fun _ => ⟨Position.le_refl _, fun _ => le⟩⟩,
        fun le => (le.2 rfl).2 rfl⟩

theorem comesFirst_total (p q : Int × Draft) : (comesFirst p q || comesFirst q p) = true := by
  rw [Bool.or_eq_true, comesFirst_iff, comesFirst_iff]
  by_cases start : p.2.span.start = q.2.span.start
  · by_cases stop : p.2.span.stop = q.2.span.stop
    · rw [start, stop]
      rcases Int.le_total p.1 q.1 with le | le
      · exact Or.inl ⟨Position.le_refl _, fun _ => ⟨Position.le_refl _, fun _ => le⟩⟩
      · exact Or.inr ⟨Position.le_refl _, fun _ => ⟨Position.le_refl _, fun _ => le⟩⟩
    · rw [start]
      rcases Position.le_total q.2.span.stop p.2.span.stop with le | le
      · exact Or.inl ⟨Position.le_refl _, fun _ => ⟨le, fun same => absurd same stop⟩⟩
      · exact Or.inr ⟨Position.le_refl _, fun _ => ⟨le, fun same => absurd same.symm stop⟩⟩
  · rcases Position.le_total p.2.span.start q.2.span.start with le | le
    · exact Or.inl ⟨le, fun same => absurd same start⟩
    · exact Or.inr ⟨le, fun same => absurd same.symm start⟩

theorem comesFirst_trans (p q r : Int × Draft) (first : comesFirst p q = true)
    (second : comesFirst q r = true) : comesFirst p r = true := by
  rw [comesFirst_iff] at *
  refine ⟨Position.le_trans first.1 second.1, ?_⟩
  intro start
  -- What lies between two equal positions is equal to both.
  have middle : p.2.span.start = q.2.span.start := Position.le_antisymm first.1 (start ▸ second.1)
  obtain ⟨stop₁, rank₁⟩ := first.2 middle
  obtain ⟨stop₂, rank₂⟩ := second.2 (middle.symm.trans start)
  refine ⟨Position.le_trans stop₂ stop₁, ?_⟩
  intro stop
  have middle' : p.2.span.stop = q.2.span.stop := Position.le_antisymm (stop ▸ stop₂) stop₁
  exact Int.le_trans (rank₁ middle') (rank₂ (middle'.symm.trans stop))

variable {drafts : List Draft}

/-- A draft in front of another one among sorted drafts comes no later. -/
theorem pairwise_ordered (drafts : List Draft) :
    (ordered drafts).Pairwise fun x y => comesFirst (rank drafts x, x) (rank drafts y, y) = true := by
  have sorted := List.pairwise_mergeSort comesFirst_trans comesFirst_total
    (drafts.map fun d => (rank drafts d, d))
  unfold ordered
  rw [List.pairwise_map]
  refine sorted.imp_of_mem ?_
  intro x y xIn yIn first
  obtain ⟨d, -, rfl⟩ := List.mem_map.1 (List.mem_mergeSort.1 xIn)
  obtain ⟨e, -, rfl⟩ := List.mem_map.1 (List.mem_mergeSort.1 yIn)
  exact first

theorem perm_ordered (drafts : List Draft) : (ordered drafts).Perm drafts := by
  unfold ordered
  have sorted := (List.mergeSort_perm (drafts.map fun d => (rank drafts d, d)) comesFirst).map (·.2)
  rw [List.map_map] at sorted
  exact sorted.trans (by rw [show ((·.2) ∘ fun d => (rank drafts d, d)) = id from rfl, List.map_id])

/-- Of two drafts the one that comes strictly first stands in front. -/
theorem exists_between {x y : Draft} (member : x ∈ drafts) (member' : y ∈ drafts)
    (first : comesFirst (rank drafts y, y) (rank drafts x, x) = false) :
    ∃ front mid back, ordered drafts = front ++ x :: (mid ++ y :: back) := by
  obtain ⟨front, behind, split⟩ := List.append_of_mem ((perm_ordered drafts).mem_iff.2 member)
  have sorted := pairwise_ordered drafts
  have there := (perm_ordered drafts).mem_iff.2 member'
  rw [split] at sorted there
  rcases List.mem_append.1 there with before | after
  · have le := (List.pairwise_append.1 sorted).2.2 y before x (List.mem_cons_self ..)
    rw [first] at le
    cases le
  · rcases List.mem_cons.1 after with same | after
    · have le := comesFirst_total (rank drafts x, x) (rank drafts x, x)
      rw [same] at first
      rw [first, Bool.or_self] at le
      cases le
    · obtain ⟨mid, back, rfl⟩ := List.append_of_mem after
      exact ⟨front, mid, back, split⟩

theorem build_cons (d : Draft) (rest : List Draft) :
    build (d :: rest) =
      if d.isError then .mk d [] :: build rest
      else .mk d (build (rest.takeWhile (d.span.contains ·.span))) ::
        build (rest.dropWhile (d.span.contains ·.span)) := by
  rw [build]

/-- To take what passes one test from what passes a weaker one takes what passes the first. -/
theorem takeWhile_of_imp {α : Type} {p q : α → Bool} {front back : List α}
    (stronger : ∀ x, p x = true → q x = true) (stops : ∀ x ∈ back.head?, q x = false) :
    (front ++ back).takeWhile p = front.takeWhile p := by
  induction front with
  | nil =>
    cases back with
    | nil => rfl
    | cons x rest =>
      have fails : ¬p x = true := fun passes => by
        have stopped := stops x (by simp)
        rw [stronger x passes] at stopped
        cases stopped
      rw [List.nil_append, List.takeWhile_cons_of_neg fails, List.takeWhile_nil]
  | cons x rest ih =>
    rw [List.cons_append, List.takeWhile_cons, List.takeWhile_cons, ih]

/-- Below a branch stands the forest of the drafts that follow it directly and lie inside of it. -/
theorem exists_split_of_within {ds : List Draft} {b c : Branch} (member : b ∈ build ds)
    (within : c.Within b) :
    ∃ front rest, ds = front ++ c.draft :: rest ∧ (¬c.draft.isError = true →
      c.children = build (rest.takeWhile (c.draft.span.contains ·.span))) := by
  fun_induction build ds generalizing b with
  | case1 => cases member
  | case2 d rest error ih =>
    rcases List.mem_cons.1 member with rfl | later
    · cases within with
      | self => exact ⟨[], rest, rfl, fun readable => absurd error readable⟩
      | deeper child _ => cases child
    · obtain ⟨front, behind, split, children⟩ := ih later within
      exact ⟨d :: front, behind, by rw [split, List.cons_append], children⟩
  | case3 d rest error ih₁ ih₂ =>
    have parts := List.takeWhile_append_dropWhile (p := (d.span.contains ·.span)) (l := rest)
    rcases List.mem_cons.1 member with rfl | later
    · cases within with
      | self => exact ⟨[], rest, rfl, fun _ => rfl⟩
      | deeper child below =>
        obtain ⟨front, behind, split, children⟩ := ih₁ child below
        refine ⟨d :: front, behind ++ rest.dropWhile (d.span.contains ·.span), ?_, ?_⟩
        · calc d :: rest
              = d :: (rest.takeWhile (d.span.contains ·.span) ++
                  rest.dropWhile (d.span.contains ·.span)) := by rw [parts]
            _ = d :: (front ++ c.draft :: behind ++ rest.dropWhile (d.span.contains ·.span)) := by
                  rw [split]
            _ = _ := by simp
        · intro readable
          rw [children readable]
          refine congrArg build (takeWhile_of_imp (q := (d.span.contains ·.span)) ?_ ?_).symm
          · intro x inside
            have outer : d.span.contains c.draft.span = true := by
              have all : (rest.takeWhile (d.span.contains ·.span)).all (d.span.contains ·.span) = true :=
                List.all_takeWhile
              rw [List.all_eq_true] at all
              exact all c.draft (by rw [split]; simp)
            exact Span.contains_trans outer inside
          · intro x next
            have stops := List.head?_dropWhile_not (d.span.contains ·.span) rest
            rw [Option.mem_def.1 next] at stops
            simpa using stops
    · obtain ⟨front, behind, split, children⟩ := ih₂ later within
      refine ⟨d :: (rest.takeWhile (d.span.contains ·.span) ++ front), behind, ?_, children⟩
      calc d :: rest
          = d :: (rest.takeWhile (d.span.contains ·.span) ++
              rest.dropWhile (d.span.contains ·.span)) := by rw [parts]
        _ = d :: (rest.takeWhile (d.span.contains ·.span) ++ (front ++ c.draft :: behind)) := by
              rw [split]
        _ = _ := by simp

theorem draft_mem_of_within {b c : Branch} (member : b ∈ build drafts) (within : c.Within b) :
    c.draft ∈ drafts := by
  obtain ⟨_, _, split, _⟩ := exists_split_of_within member within
  exact split ▸ List.mem_append_right _ (List.mem_cons_self ..)

/-- To drop what passes a test stops at the latest in front of something that fails it. -/
theorem dropWhile_append_cons {α : Type} {p : α → Bool} (front : List α) {x : α} (fails : p x = false)
    (back : List α) : (front ++ x :: back).dropWhile p = front.dropWhile p ++ x :: back := by
  rw [List.dropWhile_append]
  split
  · next all =>
    rw [List.isEmpty_iff.1 all, List.dropWhile_cons_of_neg (by rw [fails]; exact Bool.false_ne_true),
      List.nil_append]
  · rfl

/-- A draft stands on top of a forest if nothing in front of it that is no error holds it. -/
theorem exists_mem_build_of_uncontained {front back : List Draft} {d : Draft}
    (free : ∀ x ∈ front, x.isError = true ∨ x.span.contains d.span = false) :
    ∃ b ∈ build (front ++ d :: back), b.draft = d := by
  induction length : front.length using Nat.strong_induction_on generalizing front with
  | _ n ih =>
    cases front with
    | nil =>
      rw [List.nil_append, build_cons]
      split
      · exact ⟨_, List.mem_cons_self .., rfl⟩
      · exact ⟨_, List.mem_cons_self .., rfl⟩
    | cons x rest =>
      have later : ∀ y ∈ rest, y.isError = true ∨ y.span.contains d.span = false :=
        fun y member => free y (List.mem_cons_of_mem _ member)
      rw [List.length_cons] at length
      rw [List.cons_append, build_cons]
      split
      · obtain ⟨b, member, same⟩ := ih rest.length (by omega) later rfl
        exact ⟨b, List.mem_cons_of_mem _ member, same⟩
      · next readable =>
        have outside := (free x (List.mem_cons_self ..)).resolve_left readable
        have shorter := (List.dropWhile_sublist (x.span.contains ·.span) (l := rest)).length_le
        rw [dropWhile_append_cons (p := (x.span.contains ·.span)) rest outside]
        obtain ⟨b, member, same⟩ := ih (rest.dropWhile (x.span.contains ·.span)).length (by omega)
          (fun y member => later y ((List.dropWhile_sublist _).subset member)) rfl
        exact ⟨b, List.mem_cons_of_mem _ member, same⟩

/-- Behind a draft that no other one outlasts nothing stands on top of the forest. -/
theorem draft_ne_of_outlasted {ds : List Draft} (nodup : ds.Nodup)
    (sorted : ds.Pairwise fun x y => x.span.start.le y.span.start = true) {front behind : List Draft}
    {x d : Draft} (split : ds = front ++ x :: behind) (member : d ∈ behind) (readable : ¬x.isError = true)
    (outlasts : ∀ y ∈ ds, y.span.stop.le x.span.stop = true) {b : Branch} (top : b ∈ build ds) :
    b.draft ≠ d := by
  fun_induction build ds generalizing front with
  | case1 => cases top
  | case2 y rest error ih =>
    cases front with
    | nil =>
      cases split
      exact absurd error readable
    | cons _ front =>
      rw [List.cons_append, List.cons.injEq] at split
      obtain ⟨rfl, rfl⟩ := split
      rcases List.mem_cons.1 top with rfl | later
      · rintro rfl
        exact (List.nodup_cons.1 nodup).1
          (List.mem_append_right _ (List.mem_cons_of_mem _ member))
      · exact ih (List.nodup_cons.1 nodup).2 (List.pairwise_cons.1 sorted).2 rfl
          (fun y member => outlasts y (List.mem_cons_of_mem _ member)) later
  | case3 y rest error ih₁ ih₂ =>
    have among : d ∈ rest := by
      cases front with
      | nil =>
        cases split
        exact member
      | cons _ front =>
        rw [List.cons_append, List.cons.injEq] at split
        exact split.2 ▸ List.mem_append_right _ (List.mem_cons_of_mem _ member)
    rcases List.mem_cons.1 top with rfl | later
    · rintro rfl
      exact (List.nodup_cons.1 nodup).1 among
    · by_cases holds : x.span.stop.le y.span.stop = true
      · -- It reaches as far as `x`, so it holds all the others.
        have inside : ∀ z ∈ rest, (y.span.contains ·.span) z = true := by
          intro z member
          exact Span.contains_iff.2 ⟨(List.pairwise_cons.1 sorted).1 z member,
            Position.le_trans (outlasts z (List.mem_cons_of_mem _ member)) holds⟩
        rw [List.dropWhile_eq_nil_iff.2 inside, build] at later
        cases later
      · have outside : (y.span.contains ·.span) x = false := by
          rw [Bool.eq_false_iff]
          exact fun contains => holds (Span.contains_iff.1 contains).2
        cases front with
        | nil =>
          cases split
          exact absurd (Position.le_refl _) holds
        | cons _ front =>
          rw [List.cons_append, List.cons.injEq] at split
          obtain ⟨rfl, rfl⟩ := split
          rw [dropWhile_append_cons (p := (y.span.contains ·.span)) front outside] at later ih₂
          have fewer : (front.dropWhile (y.span.contains ·.span) ++ x :: behind).Sublist
              (front ++ x :: behind) := (List.dropWhile_sublist _).append_right _
          exact ih₂ ((List.nodup_cons.1 nodup).2.sublist fewer)
            ((List.pairwise_cons.1 sorted).2.sublist fewer) rfl
            (fun z member => outlasts z (List.mem_cons_of_mem _ (fewer.subset member))) later

end Forest

end LiveLint
