import LiveLint.Text.Pattern

/-!
# Where matches lie

A pattern reads forward: whatever cursor it hands to its continuation stands no further left than the one
it was tried from, and the parts that it names on the way lie between the two.
-/

namespace LiveLint.Text.Pattern

/-- From one cursor, with some named parts, a pattern may go on at another, with more of them. -/
structure Forward (c : Cursor) (groups : Groups) (after : Cursor) (groups' : Groups) : Prop where
  pos : c.pos ≤ after.pos
  rest : after.rest <:+ c.rest
  parts : ∃ more, groups' = more ++ groups ∧
    ∀ part ∈ more, c.pos ≤ part.2.1 ∧ part.2.2 ≤ after.pos

theorem Forward.refl (c : Cursor) (groups : Groups) : Forward c groups c groups :=
  ⟨Nat.le_refl c.pos, List.suffix_refl _, [], rfl, nofun⟩

theorem Forward.of_le {c after : Cursor} (le : c.pos ≤ after.pos) (suffix : after.rest <:+ c.rest)
    (groups : Groups) : Forward c groups after groups :=
  ⟨le, suffix, [], rfl, nofun⟩

theorem Forward.trans {c₁ c₂ c₃ : Cursor} {g₁ g₂ g₃ : Groups} (first : Forward c₁ g₁ c₂ g₂)
    (second : Forward c₂ g₂ c₃ g₃) : Forward c₁ g₁ c₃ g₃ := by
  obtain ⟨le, suffix, more, rfl, within⟩ := first
  obtain ⟨le', suffix', more', rfl, within'⟩ := second
  refine ⟨Nat.le_trans le le', suffix'.trans suffix, more' ++ more, (List.append_assoc ..).symm, ?_⟩
  intro part member
  rcases List.mem_append.1 member with new | old
  · exact ⟨Nat.le_trans le (within' part new).1, (within' part new).2⟩
  · exact ⟨(within part old).1, Nat.le_trans (within part old).2 le'⟩

/-- What was read may be given a name. -/
theorem Forward.named {c after : Cursor} {groups groups' : Groups} (ahead : Forward c groups after groups')
    (slot : Slot) : Forward c groups after ((slot, c.pos, after.pos) :: groups') := by
  obtain ⟨le, suffix, more, rfl, within⟩ := ahead
  refine ⟨le, suffix, (slot, c.pos, after.pos) :: more, rfl, ?_⟩
  intro part member
  rcases List.mem_cons.1 member with rfl | old
  · exact ⟨Nat.le_refl c.pos, Nat.le_refl after.pos⟩
  · exact within part old

/-- A way of matching hands its continuation nothing but cursors further on. -/
def GoesForward {β : Type}
    (step : Cursor → Groups → (Cursor → Groups → Option β) → Option β) : Prop :=
  ∀ c groups k b, step c groups k = some b →
    ∃ after groups', k after groups' = some b ∧ Forward c groups after groups'

theorem takeRun_forward {β : Type} (accepts : Char → Bool) (k : Cursor → Option β) (cs : List Char)
    (pos : Nat) (before : Option Char) {b : β} (found : takeRun accepts k pos before cs = some b) :
    ∃ after, k after = some b ∧ pos ≤ after.pos ∧ after.rest <:+ cs := by
  induction cs generalizing pos before with
  | nil => exact ⟨_, found, Nat.le_refl pos, List.suffix_refl _⟩
  | cons x rest ih =>
    unfold takeRun at found
    split at found
    · rcases Option.or_eq_some_iff.1 found with longer | ⟨-, here⟩
      · obtain ⟨after, accepted, le, suffix⟩ := ih (pos + 1) (some x) longer
        exact ⟨after, accepted, Nat.le_of_succ_le le, suffix.trans (List.suffix_cons x rest)⟩
      · exact ⟨_, here, Nat.le_refl pos, List.suffix_refl _⟩
    · exact ⟨_, found, Nat.le_refl pos, List.suffix_refl _⟩

theorem takeMany_forward {β : Type}
    {step : Cursor → Groups → (Cursor → Groups → Option β) → Option β} (forward : GoesForward step)
    (k : Cursor → Groups → Option β) (fuel : Nat) (c : Cursor) (groups : Groups) {b : β}
    (found : takeMany step k fuel c groups = some b) :
    ∃ after groups', k after groups' = some b ∧ Forward c groups after groups' := by
  induction fuel generalizing c groups with
  | zero => exact ⟨c, groups, found, .refl c groups⟩
  | succ fuel ih =>
    unfold takeMany at found
    rcases Option.or_eq_some_iff.1 found with again | ⟨-, here⟩
    · obtain ⟨next, parts, more, ahead⟩ := forward _ _ _ _ again
      split at more
      · obtain ⟨after, groups', accepted, further⟩ := ih next parts more
        exact ⟨after, groups', accepted, ahead.trans further⟩
      · cases more
    · exact ⟨c, groups, here, .refl c groups⟩

/-- Every pattern reads forward. -/
theorem attempt_forward {β : Type} (p : Pattern) : GoesForward (attempt (β := β) p) := by
  induction p with
  | empty =>
    intro c groups k b found
    exact ⟨c, groups, found, .refl c groups⟩
  | one accepts =>
    intro c groups k b found
    unfold attempt at found
    split at found
    · cases found
    · next x rest there =>
      split at found
      · exact ⟨_, groups, found, .of_le (Nat.le_succ c.pos) (there ▸ List.suffix_cons x rest) groups⟩
      · cases found
  | run accepts =>
    intro c groups k b found
    obtain ⟨after, accepted, le, suffix⟩ := takeRun_forward accepts _ _ _ _ found
    exact ⟨after, groups, accepted, .of_le le suffix groups⟩
  | both first second ih₁ ih₂ =>
    intro c groups k b found
    obtain ⟨mid, parts, rest, ahead⟩ := ih₁ c groups _ b found
    obtain ⟨after, groups', accepted, further⟩ := ih₂ mid parts k b rest
    exact ⟨after, groups', accepted, ahead.trans further⟩
  | either first second ih₁ ih₂ =>
    intro c groups k b found
    rcases Option.or_eq_some_iff.1 found with left | ⟨-, right⟩
    · exact ih₁ c groups k b left
    · exact ih₂ c groups k b right
  | repeated body ih =>
    intro c groups k b found
    exact takeMany_forward ih k _ c groups found
  | group slot body ih =>
    intro c groups k b found
    obtain ⟨after, parts, accepted, ahead⟩ := ih c groups _ b found
    exact ⟨after, _, accepted, ahead.named slot⟩
  | ahead _ _ | edge | finish =>
    intro c groups k b found
    unfold attempt at found
    split at found
    · exact ⟨c, groups, found, .refl c groups⟩
    · cases found
  | notAhead _ | notBehind _ =>
    intro c groups k b found
    unfold attempt at found
    split at found
    · cases found
    · exact ⟨c, groups, found, .refl c groups⟩

/-- A match begins before it ends, and its named parts lie inside of it. -/
structure Hit.Ordered (hit : Hit) : Prop where
  start_le_stop : hit.start ≤ hit.stop
  start_le_part : ∀ slot part, hit.part? slot = some part → hit.start ≤ part.1
  part_le_stop : ∀ slot part, hit.part? slot = some part → part.2 ≤ hit.stop

theorem ordered_of_hitAt {p : Pattern} {c : Cursor} {hit : Hit} (found : hitAt p c = some hit) :
    hit.Ordered := by
  obtain ⟨after, groups, accepted, le, -, more, rfl, within⟩ := attempt_forward p c [] _ hit found
  cases accepted
  have part_within : ∀ slot part, Hit.part? ⟨c.pos, after.pos, more ++ []⟩ slot = some part →
      c.pos ≤ part.1 ∧ part.2 ≤ after.pos := by
    intro slot part named
    have named : (more ++ []).lookup slot = some part := named
    rw [List.append_nil] at named
    obtain ⟨before, behind, split, -⟩ := List.lookup_eq_some_iff.1 named
    refine within (slot, part) ?_
    rw [split]
    exact List.mem_append_right _ (List.mem_cons_self ..)
  exact ⟨le, fun slot part named => (part_within slot part named).1,
    fun slot part named => (part_within slot part named).2⟩

/-- Every match was found at some place of the text. -/
theorem exists_place_of_mem_hits {p : Pattern} {cs : List Char} {hit : Hit} (member : hit ∈ hits p cs) :
    ∃ front before rest, cs = front ++ rest ∧ hitAt p ⟨front.length, before, rest⟩ = some hit := by
  have from_place (front cs : List Char) (skip : Nat) (before : Option Char)
      (member : hit ∈ hitsFrom p skip front.length before cs) :
      ∃ front' before' rest, front ++ cs = front' ++ rest ∧ hitAt p ⟨front'.length, before', rest⟩ = some hit := by
    induction cs generalizing front skip before with
    | nil => cases member
    | cons c rest ih =>
      have again (skip : Nat) (later : hit ∈ hitsFrom p skip (front.length + 1) (some c) rest) :
          ∃ front' before' rest', front ++ c :: rest = front' ++ rest' ∧
            hitAt p ⟨front'.length, before', rest'⟩ = some hit := by
        have found := ih (front ++ [c]) skip (some c) (by rwa [List.length_append])
        rwa [List.append_assoc] at found
      cases skip with
      | succ skip => exact again skip member
      | zero =>
        unfold hitsFrom at member
        split at member
        · next first found =>
          rcases List.mem_cons.1 member with rfl | later
          · exact ⟨front, before, c :: rest, rfl, found⟩
          · exact again _ later
        · exact again 0 member
  exact from_place [] cs 0 none member

theorem exists_hitAt_of_mem_hits {p : Pattern} {cs : List Char} {hit : Hit} (member : hit ∈ hits p cs) :
    ∃ c, hitAt p c = some hit := by
  obtain ⟨front, before, rest, -, found⟩ := exists_place_of_mem_hits member
  exact ⟨_, found⟩

theorem ordered_of_mem_hits {p : Pattern} {cs : List Char} {hit : Hit} (member : hit ∈ hits p cs) :
    hit.Ordered := by
  obtain ⟨_, found⟩ := exists_hitAt_of_mem_hits member
  exact ordered_of_hitAt found

end LiveLint.Text.Pattern
