import LiveLint.Proofs.Scan.Drafts
import LiveLint.Proofs.Scan.Nesting
import LiveLint.Proofs.Scan.Outlines

/-!
# Owners and their bodies

A function or a loop is found with its body, but the two are separate drafts, and the body has to come to
stand directly below its owner. It does unless it was dropped, because it begins on a line with a bracket in no
pair, or something else that was kept comes between the two and reaches as far as the body.
-/

namespace LiveLint

namespace Outline

variable {profile : Profile} {text : List Char}

/-- Something that was kept and is no error stands between an owner and its body, in the order in which drafts
are nested, and reaches as far as the body. -/
def Severed (profile : Profile) (text : List Char) (owner body : Draft) : Prop :=
  ∃ front mid back, Forest.ordered (kept profile text) = front ++ owner :: (mid ++ body :: back) ∧
    ∃ x ∈ mid, ¬x.isError = true ∧ body.span.stop.le x.span.stop = true

/-- A draft that was found as a function or a loop with its body. -/
structure OwnerOf (profile : Profile) (text : List Char) (owner body : Draft) : Prop where
  owner_mem : owner ∈ drafts profile text
  body_mem : body ∈ drafts profile text
  named : owner.body = some body.id
  next : body.id = owner.id + 1
  owns : owner.toSketch.Owns body.toSketch
  ends : EndsLine profile text body.toSketch

/-- Functions and loops are found with a body. -/
theorem exists_ownerOf {d : Draft} (member : d ∈ drafts profile text)
    (kind : d.kind = .function ∨ d.kind = .loop) : ∃ body, OwnerOf profile text d body := by
  cases shaped_of_mem_drafts member with
  | owner b among named next owns ends => exact ⟨b, member, among, named, next, owns, ends⟩
  | error other _ _ =>
    rw [other] at kind
    rcases kind with kind | kind <;> cases kind
  | leaf leaf _ =>
    rcases kind with kind | kind
    all_goals
      rw [kind] at leaf
      cases leaf
  | body _ _ _ owns _ _ =>
    have other : d.kind = .other := owns.body_kind
    rw [other] at kind
    rcases kind with kind | kind <;> cases kind

namespace OwnerOf

variable {owner body : Draft}

theorem readable (of : OwnerOf profile text owner body) :
    ¬owner.isError = true ∧ ¬body.isError = true := by
  unfold Draft.isError
  have kind : owner.kind = .function ∨ owner.kind = .loop := of.owns.kind
  have body_kind : body.kind = .other := of.owns.body_kind
  rw [body_kind]
  rcases kind with kind | kind <;> rw [kind] <;> decide

/-- A body has one owner. -/
theorem unique {other : Draft} (of : OwnerOf profile text owner body) (member : other ∈ drafts profile text)
    (named : other.body = some body.id) : other = owner := by
  cases shaped_of_mem_drafts member with
  | owner b among named' next owns ends =>
    have same : b.id = body.id := Option.some.inj (named'.symm.trans named)
    refine eq_of_id member of.owner_mem ?_
    have := of.next
    omega
  | error _ _ none | leaf _ none | body _ _ _ _ _ none =>
    rw [none] at named
    cases named

/-- An owner is nobody's body. -/
theorem not_named {other : Draft} (of : OwnerOf profile text owner body) (member : other ∈ drafts profile text) :
    other.body ≠ some owner.id := by
  intro named
  cases shaped_of_mem_drafts member with
  | owner b among named' _ owns _ =>
    cases eq_of_id among of.owner_mem (Option.some.inj (named'.symm.trans named))
    have other : owner.kind = .other := owns.body_kind
    have kind : owner.kind = .function ∨ owner.kind = .loop := of.owns.kind
    rw [other] at kind
    rcases kind with kind | kind <;> cases kind
  | error _ _ none | leaf _ none | body _ _ _ _ _ none =>
    rw [none] at named
    cases named

theorem find?_owner_eq_none (of : OwnerOf profile text owner body) :
    (kept profile text).find? (·.body == some owner.id) = none := by
  rw [List.find?_eq_none]
  intro other member named
  exact of.not_named (mem_drafts_of_mem_kept member) (eq_of_beq named)

/-- An owner ranks by its kind. -/
theorem rank_eq (of : OwnerOf profile text owner body) :
    Forest.rank (kept profile text) owner = 2 * Forest.priority owner.kind :=
  Forest.rankWithin_of_none of.find?_owner_eq_none _

/-- A body ranks directly behind an owner of the same span, and before everything else otherwise. -/
theorem rank_body_eq (of : OwnerOf profile text owner body) (kept_owner : owner ∈ kept profile text) :
    Forest.rank (kept profile text) body =
      if owner.span == body.span then 2 * Forest.priority owner.kind + 1 else -2 := by
  have found : (kept profile text).find? (·.body == some body.id) = some owner := by
    cases first : (kept profile text).find? (·.body == some body.id) with
    | none =>
      rw [List.find?_eq_none] at first
      exact absurd (beq_iff_eq.2 of.named) (first owner kept_owner)
    | some other =>
      have named := List.find?_some first
      exact congrArg some
        (of.unique (mem_drafts_of_mem_kept (List.mem_of_find?_eq_some first)) (eq_of_beq named))
  exact Forest.rank_of_some found of.find?_owner_eq_none

/-- A body of one span with its owner ranks directly behind it. -/
theorem rank_lt (of : OwnerOf profile text owner body) (kept_owner : owner ∈ kept profile text)
    (same : owner.span = body.span) :
    Forest.rank (kept profile text) owner < Forest.rank (kept profile text) body := by
  rw [of.rank_eq, of.rank_body_eq kept_owner, if_pos (beq_iff_eq.2 same)]
  omega

/-- A body comes behind its owner. -/
theorem comesFirst_eq_false (of : OwnerOf profile text owner body) (kept_owner : owner ∈ kept profile text) :
    Forest.comesFirst (Forest.rank (kept profile text) body, body)
      (Forest.rank (kept profile text) owner, owner) = false := by
  rw [Bool.eq_false_iff]
  intro first
  obtain ⟨le, others⟩ := Forest.comesFirst_iff.1 first
  have start : body.span.start = owner.span.start := Position.le_antisymm le of.owns.start_le
  have stop : body.span.stop = owner.span.stop := of.owns.stop_eq.symm
  have order := (others start).2 stop
  have same : owner.span = body.span := by
    rw [show owner.span = ⟨owner.span.start, owner.span.stop⟩ from rfl, ← start, ← stop]
  have := of.rank_lt kept_owner same
  dsimp only at order
  omega

/-- No error in front of a body reaches further than the body. -/
theorem error_stop_le (of : OwnerOf profile text owner body) (kept_body : body ∈ kept profile text)
    {e : Draft} (kept_error : e ∈ kept profile text) (is_error : e.isError = true)
    (start : e.span.start.le body.span.start = true) : e.span.stop.le body.span.stop = true := by
  obtain ⟨line, sketch, why⟩ := broken_of_isError (mem_drafts_of_mem_kept kept_error) is_error
  have span : e.span = (Sketch.errorLine (Text.lines (Mask.mask profile text)) line).span :=
    congrArg Sketch.span sketch
  have on := on_of_mem_drafts of.body_mem
  have first := Position.line_le_of_le start
  rw [span] at first ⊢
  change line ≤ body.span.start.line at first
  have le := on.start_le_stop
  rw [Position.le_iff]
  by_cases below : line < body.span.stop.line
  · exact Or.inl below
  · -- The body is a part of the line of the error, and ends with it.
    have same : line = body.span.stop.line := by omega
    have clear := ((mem_kept_iff of.readable.2).1 kept_body).2
    rw [show body.span.start.line = line by omega] at clear
    have ends := of.ends (why.resolve_left clear).1
    refine Or.inr ⟨same, ?_⟩
    unfold Scan.Indent.EndsLine at ends
    rw [ends, ← same]
    exact Nat.le_refl _

end OwnerOf

/-- Kept drafts are different ones, and sorting keeps them. -/
theorem nodup_ordered (profile : Profile) (text : List Char) :
    (Forest.ordered (kept profile text)).Nodup := by
  have drafts := List.Nodup.of_map _ (nodup_drafts profile text)
  exact (Forest.perm_ordered _).nodup_iff.2 (drafts.filter _)

theorem mem_kept_of_mem_ordered {d : Draft} (member : d ∈ Forest.ordered (kept profile text)) :
    d ∈ kept profile text :=
  (Forest.perm_ordered _).mem_iff.1 member

/-- Sorted drafts begin no earlier than those in front of them. -/
theorem start_le_of_ordered (profile : Profile) (text : List Char) :
    (Forest.ordered (kept profile text)).Pairwise fun x y => x.span.start.le y.span.start = true :=
  (Forest.pairwise_ordered _).imp fun first => (Forest.comesFirst_iff.1 first).1

/-- A draft stands at one place only, so what follows it is known. -/
theorem rest_unique {d : Draft} {front front' rest rest' : List Draft}
    (split : Forest.ordered (kept profile text) = front ++ d :: rest)
    (split' : Forest.ordered (kept profile text) = front' ++ d :: rest') : rest = rest' := by
  have once := nodup_ordered profile text
  rw [split] at once split'
  have once := List.nodup_cons.1 (List.nodup_middle.1 once)
  rw [List.mem_append, not_or] at once
  exact ((List.append_cons_inj_of_notMem once.1.1 once.1.2).1 split').2.2

variable {owner body : Draft} {front rest : List Draft}

/-- A body that stands directly below its owner was kept, and nothing stands between the two that reaches as far
as it does. -/
theorem kept_of_child (of : OwnerOf profile text owner body)
    (split : Forest.ordered (kept profile text) = front ++ owner :: rest) {child : Branch}
    (member : child ∈ Forest.build (rest.takeWhile (owner.span.contains ·.span)))
    (named : owner.body = some child.draft.id) :
    body.span.start.line ∉ errorLines profile text ∧ ¬Severed profile text owner body := by
  have among : child.draft ∈ rest.takeWhile (owner.span.contains ·.span) :=
    Forest.draft_mem_of_within member (.self child)
  have ordered : child.draft ∈ Forest.ordered (kept profile text) := by
    rw [split]
    exact List.mem_append_right _ (List.mem_cons_of_mem _ ((List.takeWhile_sublist _).subset among))
  have kept := mem_kept_of_mem_ordered ordered
  have same : child.draft = body := eq_of_id (mem_drafts_of_mem_kept kept) of.body_mem
    (Option.some.inj (named.symm.trans of.named))
  refine ⟨((mem_kept_iff of.readable.2).1 (same ▸ kept)).2, ?_⟩
  rintro ⟨front', mid, back, split', x, between, readable, reaches⟩
  obtain rfl := rest_unique split split'
  have nodup := nodup_ordered profile text
  have sorted := start_le_of_ordered profile text
  rw [split] at nodup sorted
  have within : (mid ++ body :: back).Sublist (front ++ owner :: (mid ++ body :: back)) :=
    (List.sublist_cons_self ..).trans (List.sublist_append_right ..)
  have nodup := nodup.sublist within
  -- The body is held by its owner, so everything in front of it is.
  have taken : (mid ++ body :: back).takeWhile (owner.span.contains ·.span) =
      mid ++ (body :: back).takeWhile (owner.span.contains ·.span) := by
    rw [same, List.takeWhile_append] at among
    rw [List.takeWhile_append]
    split at among
    · next all => rw [if_pos all]
    · exact absurd (List.mem_cons_self ..) ((List.nodup_append.1 nodup).2.2 body
        ((List.takeWhile_sublist _).subset among) body · rfl)
  obtain ⟨before, after, rfl⟩ := List.append_of_mem between
  have holds : ∀ y ∈ (before ++ x :: after ++ body :: back).takeWhile (owner.span.contains ·.span),
      owner.span.contains y.span = true :=
    fun y member => List.mem_takeWhile_imp (p := fun y : Draft => owner.span.contains y.span) member
  have cut : (before ++ x :: after ++ body :: back).takeWhile (owner.span.contains ·.span) =
      before ++ x :: (after ++ (body :: back).takeWhile (owner.span.contains ·.span)) := by
    rw [taken, List.append_assoc, List.cons_append]
  refine Forest.draft_ne_of_outlasted (nodup.sublist (List.takeWhile_sublist _))
    (sorted.sublist ((List.takeWhile_sublist _).trans within)) cut (d := body) ?_ readable ?_ member same
  · have inside : (fun y : Draft => owner.span.contains y.span) body = true := holds body (same ▸ among)
    rw [List.takeWhile_cons_of_pos (p := fun y : Draft => owner.span.contains y.span) inside]
    exact List.mem_append_right _ (List.mem_cons_self ..)
  · intro y inside
    have stop := (Span.contains_iff.1 (holds y inside)).2
    rw [show owner.span.stop = body.span.stop from of.owns.stop_eq] at stop
    exact Position.le_trans stop reaches

/-- A body that was kept stands directly below its owner, unless something comes between the two that reaches as
far as it does. -/
theorem child_of_kept (of : OwnerOf profile text owner body)
    (split : Forest.ordered (kept profile text) = front ++ owner :: rest)
    (clear : body.span.start.line ∉ errorLines profile text) (joined : ¬Severed profile text owner body) :
    ∃ child ∈ Forest.build (rest.takeWhile (owner.span.contains ·.span)), owner.body = some child.draft.id := by
  have kept_owner : owner ∈ kept profile text := by
    refine mem_kept_of_mem_ordered ?_
    rw [split]
    exact List.mem_append_right _ (List.mem_cons_self ..)
  have kept_body : body ∈ kept profile text := (mem_kept_iff of.readable.2).2 ⟨of.body_mem, clear⟩
  obtain ⟨front', mid, back, split'⟩ :=
    Forest.exists_between kept_owner kept_body (of.comesFirst_eq_false kept_owner)
  obtain rfl := rest_unique split split'
  have sorted := start_le_of_ordered profile text
  rw [split] at sorted
  have behind := (List.pairwise_cons.1 (List.pairwise_append.1 sorted).2.1)
  have shorter : ∀ y ∈ mid, y.span.stop.le body.span.stop = true := by
    intro y between
    by_cases error : y.isError = true
    · refine of.error_stop_le kept_body ?_ error ((List.pairwise_append.1 behind.2).2.2 y between body
        (List.mem_cons_self ..))
      refine mem_kept_of_mem_ordered ?_
      rw [split]
      simp [between]
    · refine (Position.le_total _ _).resolve_right fun reaches => joined ?_
      exact ⟨front, mid, back, split, y, between, error, reaches⟩
  have inside : ∀ y ∈ mid ++ [body], owner.span.contains y.span = true := by
    intro y member
    have start := behind.1 y (by simp at member ⊢; tauto)
    refine Span.contains_iff.2 ⟨start, ?_⟩
    rw [show owner.span.stop = body.span.stop from of.owns.stop_eq]
    rcases List.mem_append.1 member with between | last
    · exact shorter y between
    · rw [List.mem_singleton.1 last]
      exact Position.le_refl _
  have free : ∀ y ∈ mid, y.isError = true ∨ y.span.contains body.span = false := by
    intro y between
    rw [Bool.eq_false_iff, or_iff_not_imp_left]
    intro readable contains
    exact joined ⟨front, mid, back, split, y, between, readable, (Span.contains_iff.1 contains).2⟩
  obtain ⟨child, member, same⟩ :
      ∃ child ∈ Forest.build (mid ++ body :: back.takeWhile (owner.span.contains ·.span)), child.draft = body :=
    Forest.exists_mem_build_of_uncontained free
  refine ⟨child, ?_, same ▸ of.named⟩
  have taken : (mid ++ body :: back).takeWhile (owner.span.contains ·.span) =
      mid ++ body :: back.takeWhile (owner.span.contains ·.span) := by
    have all : (mid ++ [body] ++ back).takeWhile (owner.span.contains ·.span) =
        mid ++ [body] ++ back.takeWhile (owner.span.contains ·.span) := List.takeWhile_append_of_pos inside
    rwa [List.append_assoc, List.append_assoc] at all
  rwa [taken]

/-- An owner has its body directly below it if the body does not begin on a line with a bracket in no pair and
nothing comes between the two that reaches as far as the body. -/
theorem OwnerOf.child_iff (of : OwnerOf profile text owner body)
    (split : Forest.ordered (kept profile text) = front ++ owner :: rest) :
    (∃ child ∈ Forest.build (rest.takeWhile (owner.span.contains ·.span)),
        owner.body = some child.draft.id) ↔
      body.span.start.line ∉ errorLines profile text ∧ ¬Severed profile text owner body :=
  ⟨fun ⟨_, member, named⟩ => kept_of_child of split member named,
    fun ⟨clear, joined⟩ => child_of_kept of split clear joined⟩

end Outline

end LiveLint
