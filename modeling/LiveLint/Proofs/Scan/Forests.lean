import LiveLint.Proofs.Scan.Nesting
import Mathlib.Data.List.Perm.Subperm

/-!
# Forests by one pass and by search

A forest is built by splitting off what each draft contains. The same forest comes from one pass over the sorted
drafts that keeps the drafts still open on a stack, and there the parent of a draft is found on the stack. A draft
that was taken from the stack is not missed: what took it begins no earlier and reaches further, so it holds
everything behind it that the other one holds. So the parent is the last draft in front that holds a draft.
-/

namespace LiveLint

mutual

/-- The drafts of a branch in walking order, each with its parent. -/
def Branch.parents (parent : Option Draft) : Branch → List (Draft × Option Draft)
  | .mk d cs => (d, parent) :: Branch.parentsAll (some d) cs

/-- The drafts of some branches in walking order, each with its parent. -/
def Branch.parentsAll (parent : Option Draft) : List Branch → List (Draft × Option Draft)
  | [] => []
  | b :: rest => b.parents parent ++ Branch.parentsAll parent rest

end

namespace Forest

open Branch

/-!
## One pass with a stack
-/

/-- Sorted drafts with their parents, given the drafts that are open, innermost first: what does not hold the next
draft is closed, and the innermost draft that is left is its parent. Drafts of errors are not opened. -/
def pass : List Draft → List Draft → List (Draft × Option Draft)
  | _, [] => []
  | opened, d :: rest =>
    let holders := opened.dropWhile (!·.span.contains d.span)
    (d, holders.head?) :: pass (if d.isError then holders else d :: holders) rest

theorem map_fst_pass (opened ds : List Draft) : (pass opened ds).map (·.1) = ds := by
  induction ds generalizing opened with
  | nil => rfl
  | cons d rest ih => exact congrArg (d :: ·) (ih _)

/-- A draft that does not hold the next one might as well be closed. -/
theorem pass_cons_of_outside {x : Draft} {ds : List Draft} (outside : ∀ e ∈ ds.head?, x.span.contains e.span = false)
    (opened : List Draft) : pass (x :: opened) ds = pass opened ds := by
  cases ds with
  | nil => rfl
  | cons e rest =>
    have closed : (x :: opened).dropWhile (!·.span.contains e.span) = opened.dropWhile (!·.span.contains e.span) :=
      List.dropWhile_cons_of_pos (by rw [outside e rfl]; rfl)
    unfold pass
    rw [closed]

/-- Nothing is closed for a draft that the innermost open draft holds. -/
theorem holders_eq {parent : Option Draft} {outer : List Draft} (top : parent = none → outer = []) {d : Draft}
    (held : ∀ q ∈ parent, q.span.contains d.span = true) :
    (parent.toList ++ outer).dropWhile (!·.span.contains d.span) = parent.toList ++ outer ∧
      (parent.toList ++ outer).head? = parent := by
  cases parent with
  | none =>
    rw [top rfl]
    exact ⟨rfl, rfl⟩
  | some q => exact ⟨List.dropWhile_cons_of_neg (by rw [held q rfl]; exact Bool.false_ne_true), rfl⟩

/-- While everything lies inside of the innermost open draft, or there is none, a pass builds the forest and leaves
the open drafts as they were. -/
theorem pass_append {parent : Option Draft} {outer : List Draft} (ds : List Draft) {rest : List Draft}
    (top : parent = none → outer = []) (within : ∀ d ∈ ds, ∀ q ∈ parent, q.span.contains d.span = true)
    (behind : ∀ e ∈ rest.head?, ∀ x ∈ ds, x.span.contains e.span = false) :
    pass (parent.toList ++ outer) (ds ++ rest) =
      parentsAll parent (build ds) ++ pass (parent.toList ++ outer) rest := by
  fun_induction build ds generalizing parent outer rest with
  | case1 => rfl
  | case2 d ds error ih =>
    obtain ⟨kept, first⟩ := holders_eq top (within d (List.mem_cons_self ..))
    have later := ih top (fun x member => within x (List.mem_cons_of_mem _ member))
      (fun e next x member => behind e next x (List.mem_cons_of_mem _ member))
    rw [List.cons_append, pass, kept, first, if_pos error, later]
    rfl
  | case3 d ds readable ih₁ ih₂ =>
    obtain ⟨kept, first⟩ := holders_eq top (within d (List.mem_cons_self ..))
    have parts := List.takeWhile_append_dropWhile (p := (d.span.contains ·.span)) (l := ds)
    have inside {x : Draft} (member : x ∈ ds.takeWhile (d.span.contains ·.span)) : d.span.contains x.span = true :=
      List.mem_takeWhile_imp (p := fun x : Draft => d.span.contains x.span) member
    have among {x : Draft} (member : x ∈ ds.dropWhile (d.span.contains ·.span)) : x ∈ d :: ds :=
      List.mem_cons_of_mem _ ((List.dropWhile_sublist _).subset member)
    -- What comes behind the drafts inside of this one begins outside of it.
    have outside : ∀ e ∈ (ds.dropWhile (d.span.contains ·.span) ++ rest).head?, d.span.contains e.span = false := by
      intro e next
      have stops := List.head?_dropWhile_not (d.span.contains ·.span) ds
      cases left : ds.dropWhile (d.span.contains ·.span) with
      | nil =>
        rw [left] at next
        exact behind e next d (List.mem_cons_self ..)
      | cons x others =>
        rw [left] at next stops
        cases next
        simpa using stops
    have front : pass (d :: (parent.toList ++ outer)) (ds ++ rest) =
        parentsAll (some d) (build (ds.takeWhile (d.span.contains ·.span))) ++
          pass (d :: (parent.toList ++ outer)) (ds.dropWhile (d.span.contains ·.span) ++ rest) := by
      conv => lhs; rw [← parts, List.append_assoc]
      refine @ih₁ (some d) (parent.toList ++ outer) _ (absurd · (Option.some_ne_none d)) ?_ fun e next x member => ?_
      · intro x member q same
        cases same
        exact inside member
      rw [Bool.eq_false_iff]
      intro held
      have far := Span.contains_trans (inside member) held
      rw [outside e next] at far
      cases far
    have back := ih₂ top (fun x member => within x (among member)) fun e next x member => behind e next x (among member)
    calc pass (parent.toList ++ outer) (d :: ds ++ rest)
        = (d, parent) :: pass (d :: (parent.toList ++ outer)) (ds ++ rest) := by
          rw [List.cons_append, pass, kept, first, if_neg readable]
      _ = (d, parent) :: (parentsAll (some d) (build (ds.takeWhile (d.span.contains ·.span))) ++
            pass (parent.toList ++ outer) (ds.dropWhile (d.span.contains ·.span) ++ rest)) := by
          rw [front, pass_cons_of_outside outside]
      _ = _ := by
          rw [back, parentsAll, parents, List.cons_append, List.cons_append, List.append_assoc]

/-- The forest of some drafts in walking order is what one pass makes of them. -/
theorem parentsAll_build (ds : List Draft) : parentsAll none (build ds) = pass [] ds := by
  have whole := @pass_append none [] ds [] (fun _ => rfl) (fun _ _ => nofun) nofun
  rw [List.append_nil, Option.toList_none, List.append_nil, pass, List.append_nil] at whole
  exact whole.symm

/-!
## The search for a parent
-/

/-- Drafts with the last one in front that holds them; what is in front is given from its end. -/
def searched : List Draft → List Draft → List (Draft × Option Draft)
  | _, [] => []
  | front, d :: rest => (d, front.find? (·.span.contains d.span)) :: searched (d :: front) rest

/-- What is closed for a draft holds nothing behind it that the draft itself does not hold. -/
theorem find?_dropWhile_of_outside {opened : List Draft} {d e : Draft}
    (earlier : ∀ x ∈ opened, x.span.start.le d.span.start = true) (later : d.span.start.le e.span.start = true)
    (outside : d.span.contains e.span = false) :
    (opened.dropWhile (!·.span.contains d.span)).find? (·.span.contains e.span) =
      opened.find? (·.span.contains e.span) := by
  induction opened with
  | nil => rfl
  | cons x rest ih =>
    by_cases held : x.span.contains d.span = true
    · rw [List.dropWhile_cons_of_neg (by rw [held]; exact Bool.false_ne_true)]
    · have closed : x.span.contains e.span = false := by
        rw [Bool.eq_false_iff]
        intro holds
        have begins := earlier x (List.mem_cons_self ..)
        have ends := (Span.contains_iff.1 holds).2
        -- The closed draft begins in front of the next one, so it ends in front of its end.
        have shorter : x.span.stop.le d.span.stop = true := by
          rcases Position.le_total x.span.stop d.span.stop with le | le
          · exact le
          · exact absurd (Span.contains_iff.2 ⟨begins, le⟩) held
        rw [Span.contains_iff.2 ⟨later, Position.le_trans ends shorter⟩] at outside
        cases outside
      have missed : ¬x.span.contains e.span = true := by
        rw [closed]
        exact Bool.false_ne_true
      rw [List.dropWhile_cons_of_pos (by simpa using held),
        List.find?_cons_of_neg (p := fun x : Draft => x.span.contains e.span) missed]
      exact ih fun y member => earlier y (List.mem_cons_of_mem _ member)

/-- A pass over sorted drafts without errors finds on its stack what a search of everything in front finds. -/
theorem pass_eq_searched {opened front ds : List Draft}
    (sorted : ds.Pairwise fun x y => x.span.start.le y.span.start = true)
    (earlier : ∀ x ∈ opened, ∀ e ∈ ds, x.span.start.le e.span.start = true)
    (readable : ∀ d ∈ ds, ¬d.isError = true)
    (same : ∀ e ∈ ds, opened.find? (·.span.contains e.span) = front.find? (·.span.contains e.span)) :
    pass opened ds = searched front ds := by
  induction ds generalizing opened front with
  | nil => rfl
  | cons d rest ih =>
    obtain ⟨first, sorted⟩ := List.pairwise_cons.1 sorted
    have parent : (opened.dropWhile (!·.span.contains d.span)).head? = front.find? (·.span.contains d.span) := by
      rw [← List.find?_eq_head?_dropWhile_not]
      exact same d (List.mem_cons_self ..)
    have others : pass (d :: opened.dropWhile (!·.span.contains d.span)) rest = searched (d :: front) rest := by
      refine ih sorted ?_ (fun x member => readable x (List.mem_cons_of_mem _ member)) ?_
      · intro x member e behind
        rcases List.mem_cons.1 member with rfl | member
        · exact first e behind
        · exact earlier x ((List.dropWhile_sublist _).subset member) e (List.mem_cons_of_mem _ behind)
      · intro e behind
        rw [List.find?_cons, List.find?_cons]
        split
        · rfl
        · next outside =>
          rw [find?_dropWhile_of_outside (fun x member => earlier x member d (List.mem_cons_self ..)) (first e behind)
            outside]
          exact same e (List.mem_cons_of_mem _ behind)
    rw [pass, searched, parent, if_neg (readable d (List.mem_cons_self ..)), others]

/-!
## Ranks
-/

/-- The rank of a draft, twice, as it comes from its owner: a draft without one ranks by its kind, a body of the span
of its owner directly behind that, and any other body in front of everything. The number counts the owners of one
span that are followed. -/
inductive Ranks (drafts : List Draft) : Nat → Draft → Int → Prop where
  | free {d : Draft} (none : ∀ o ∈ drafts, o.body ≠ some d.id) : Ranks drafts 0 d (2 * priority d.kind)
  | apart {d o : Draft} (owner : o ∈ drafts) (named : o.body = some d.id) (apart : o.span ≠ d.span) :
    Ranks drafts 0 d (-2)
  | behind {d o : Draft} {steps : Nat} {r : Int} (owner : o ∈ drafts) (named : o.body = some d.id)
    (same : o.span = d.span) (rank : Ranks drafts steps o r) : Ranks drafts (steps + 1) d (r + 1)

/-- Drafts with identifiers of their own, none of which reports an error, and each of which is the body of at most
one of them. -/
structure Owned (drafts : List Draft) : Prop where
  distinct : (drafts.map (·.id)).Nodup
  readable : ∀ d ∈ drafts, ¬d.isError = true
  single : ∀ o ∈ drafts, ∀ o' ∈ drafts, ∀ i, o.body = some i → o'.body = some i → o = o'

section Ranks

variable {drafts : List Draft} (owned : Owned drafts)

include owned

/-- The owners of a draft can be followed in one way only. -/
theorem Ranks.steps_eq {j k : Nat} {d : Draft} {r r' : Int} (first : Ranks drafts j d r)
    (second : Ranks drafts k d r') : j = k := by
  induction first generalizing k r' with
  | free none =>
    cases second with
    | free => rfl
    | apart => rfl
    | behind owner named => exact absurd named (none _ owner)
  | apart owner named apart =>
    cases second with
    | free => rfl
    | apart => rfl
    | behind owner' named' same =>
      cases owned.single _ owner _ owner' _ named named'
      exact absurd same apart
  | behind owner named same _ ih =>
    cases second with
    | free none => exact absurd named (none _ owner)
    | apart owner' named' apart =>
      cases owned.single _ owner _ owner' _ named named'
      exact absurd same apart
    | behind owner' named' _ rank =>
      cases owned.single _ owner _ owner' _ named named'
      rw [ih rank]

/-- The owners that are followed are different drafts. -/
theorem Ranks.exists_chain {k : Nat} {d : Draft} {r : Int} (rank : Ranks drafts k d r) :
    ∃ chain : List Draft, chain.length = k ∧ chain.Nodup ∧ chain ⊆ drafts ∧
      ∀ o ∈ chain, ∃ j r, j < k ∧ Ranks drafts j o r := by
  induction rank with
  | free => exact ⟨[], rfl, .nil, List.nil_subset _, nofun⟩
  | apart => exact ⟨[], rfl, .nil, List.nil_subset _, nofun⟩
  | @behind d o steps r owner _ _ rank ih =>
    obtain ⟨chain, length, nodup, among, below⟩ := ih
    refine ⟨o :: chain, by rw [List.length_cons, length], List.nodup_cons.2 ⟨?_, nodup⟩,
      List.cons_subset.2 ⟨owner, among⟩, ?_⟩
    · intro again
      obtain ⟨j, r', less, rank'⟩ := below o again
      have same := rank'.steps_eq owned rank
      omega
    · intro x member
      rcases List.mem_cons.1 member with rfl | member
      · exact ⟨steps, r, Nat.lt_succ_self _, rank⟩
      · obtain ⟨j, r', less, rank'⟩ := below x member
        exact ⟨j, r', Nat.lt_succ_of_lt less, rank'⟩

theorem find?_owner {d o : Draft} (owner : o ∈ drafts) (named : o.body = some d.id) :
    drafts.find? (·.body == some d.id) = some o := by
  cases found : drafts.find? (·.body == some d.id) with
  | none => exact absurd (beq_iff_eq.2 named) (List.find?_eq_none.1 found o owner)
  | some other =>
    have named' := List.find?_some found
    rw [owned.single other (List.mem_of_find?_eq_some found) o owner _ (beq_iff_eq.1 named') named]

/-- Following owners for long enough comes to the rank. -/
theorem Ranks.rankWithin_eq {k : Nat} {d : Draft} {r : Int} (rank : Ranks drafts k d r) {steps : Nat}
    (enough : k < steps) : rankWithin drafts steps d = r := by
  induction rank generalizing steps with
  | free none =>
    refine rankWithin_of_none (List.find?_eq_none.2 fun o owner named => ?_) steps
    exact none o owner (beq_iff_eq.1 named)
  | apart owner named apart =>
    obtain ⟨steps, rfl⟩ := Nat.exists_eq_add_of_lt enough
    rw [Nat.zero_add, rankWithin, find?_owner owned owner named]
    exact if_neg (by rwa [beq_iff_eq])
  | behind owner named same _ ih =>
    obtain ⟨more, rfl⟩ := Nat.exists_eq_add_of_lt enough
    rw [rankWithin, find?_owner owned owner named]
    dsimp only
    rw [if_pos (beq_iff_eq.2 same), ih (by omega)]

/-- The rank of a draft is what comes from its owners. -/
theorem Ranks.rank_eq {k : Nat} {d : Draft} {r : Int} (ranks : Ranks drafts k d r) : rank drafts d = r := by
  obtain ⟨chain, length, nodup, among, -⟩ := ranks.exists_chain owned
  have short := (List.subperm_of_subset nodup among).length_le
  exact ranks.rankWithin_eq owned (by omega)

end Ranks

/-!
## Nothing is lost and nothing is there twice
-/

theorem eq_of_searched {front₀ ds : List Draft} {front back : List (Draft × Option Draft)} {d : Draft}
    {parent : Option Draft} (split : searched front₀ ds = front ++ (d, parent) :: back) :
    parent = ((front.map (·.1)).reverse ++ front₀).find? (·.span.contains d.span) := by
  induction ds generalizing front₀ front with
  | nil =>
    rw [searched] at split
    cases front <;> cases split
  | cons e rest ih =>
    rw [searched] at split
    cases front with
    | nil =>
      cases split
      rfl
    | cons first front =>
      obtain ⟨rfl, later⟩ := List.cons.inj split
      rw [ih later, List.map_cons, List.reverse_cons, List.append_assoc]
      rfl

/-- Whether a draft comes no later than another: by start, then by the larger end, then by rank. -/
def Before (drafts : List Draft) (x y : Draft) : Prop :=
  x.span.start.le y.span.start = true ∧ (x.span.start = y.span.start →
    y.span.stop.le x.span.stop = true ∧ (x.span.stop = y.span.stop → rank drafts x ≤ rank drafts y))

/-- A forest that arranges some drafts. -/
structure Arranges (drafts : List Draft) (forest : List Branch) : Prop where
  /-- A walk meets the drafts, -/
  complete : ((parentsAll none forest).map (·.1)).Perm drafts
  /-- each once, -/
  once : ((parentsAll none forest).map (·.1)).Nodup
  /-- in their order, -/
  sorted : ((parentsAll none forest).map (·.1)).Pairwise (Before drafts)
  /-- which leaves drafts that are equal in it as they were. -/
  stable (x y : Draft) : List.Sublist [x, y] drafts → Before drafts x y →
    List.Sublist [x, y] ((parentsAll none forest).map (·.1))
  /-- The parent of a draft holds it, and nothing that is met in between does. -/
  child (front back : List (Draft × Option Draft)) (d parent : Draft) :
    parentsAll none forest = front ++ (d, some parent) :: back →
      parent.span.contains d.span = true ∧ ∃ before between, front.map (·.1) = before ++ parent :: between ∧
        ∀ x ∈ between, x.span.contains d.span = false
  /-- A draft is a root if and only if nothing that is met before holds it. -/
  root (front back : List (Draft × Option Draft)) (d : Draft) (parent : Option Draft) :
    parentsAll none forest = front ++ (d, parent) :: back →
      (parent = none ↔ ∀ x ∈ front.map (·.1), x.span.contains d.span = false)

/-- A function whose body has its span, with a loop, a number of the same span as the loop, and a call that begins in
the loop and ends behind it. -/
def crossing : List Draft :=
  [{ kind := .number, type := "number", span := ⟨⟨4, 1⟩, ⟨4, 2⟩⟩, id := 6 },
    { kind := .call, type := "call", span := ⟨⟨4, 0⟩, ⟨5, 2⟩⟩, id := 5 },
    { kind := .number, type := "number", span := ⟨⟨2, 2⟩, ⟨4, 3⟩⟩, id := 4 },
    { kind := .other, type := "block", span := ⟨⟨3, 4⟩, ⟨4, 3⟩⟩, id := 3 },
    { kind := .loop, type := "loop", span := ⟨⟨2, 2⟩, ⟨4, 3⟩⟩, id := 2, body := some 3 },
    { kind := .other, type := "block", span := ⟨⟨1, 0⟩, ⟨6, 1⟩⟩, id := 1 },
    { kind := .function, type := "function", span := ⟨⟨1, 0⟩, ⟨6, 1⟩⟩, id := 0, body := some 1 }]

end Forest

end LiveLint
