import LiveLint.Proofs.Scan.Shapes
import Mathlib.Data.List.Nodup

/-!
# Drafts and what they were found as

Drafts are numbered in the order of the findings, and an owner names the number of its body. So every draft
is an error, a leaf, an owner whose body is among the drafts, or the body of an owner among the drafts. Errors
lie on lines with a bracket in no pair, or on the line of a header without a body.
-/

namespace LiveLint

namespace Draft

/-- What a draft was found as, among all that were found. -/
inductive Shaped (error body : Sketch → Prop) (all : List Draft) (d : Draft) : Prop where
  | error (kind : d.kind = .error) (why : error d.toSketch) (no_body : d.body = none)
  | leaf (kind : d.kind.isLeaf = true) (no_body : d.body = none)
  | owner (b : Draft) (member : b ∈ all) (named : d.body = some b.id) (next : b.id = d.id + 1)
      (owns : d.toSketch.Owns b.toSketch) (is_body : body b.toSketch)
  | body (o : Draft) (member : o ∈ all) (named : o.body = some d.id) (owns : o.toSketch.Owns d.toSketch)
      (is_body : body d.toSketch) (no_body : d.body = none)

variable {error body : Sketch → Prop}

theorem Shaped.mono {all more : List Draft} {d : Draft} (shaped : d.Shaped error body all)
    (subset : ∀ x ∈ all, x ∈ more) : d.Shaped error body more := by
  cases shaped with
  | error kind why no_body => exact .error kind why no_body
  | leaf kind no_body => exact .leaf kind no_body
  | owner b member named next owns is_body => exact .owner b (subset b member) named next owns is_body
  | body o member named owns is_body no_body => exact .body o (subset o member) named owns is_body no_body

theorem shaped_of_mem_number {findings : List Finding} (shaped : ∀ f ∈ findings, f.Shaped error body)
    (n : Nat) {d : Draft} (member : d ∈ number n findings) :
    d.Shaped error body (number n findings) := by
  induction findings generalizing n with
  | nil => cases member
  | cons f rest ih =>
    have later := ih fun f member => shaped f (List.mem_cons_of_mem _ member)
    cases f with
    | plain sketch =>
      rcases List.mem_cons.1 member with rfl | member
      · cases shaped _ (List.mem_cons_self ..) with
        | error kind why => exact .error kind why rfl
        | leaf kind => exact .leaf kind rfl
      · exact (later _ member).mono fun _ => List.mem_cons_of_mem _
    | block owner block =>
      have second : (⟨block, n + 1, none⟩ : Draft) ∈ number n (.block owner block :: rest) :=
        List.mem_cons_of_mem _ (List.mem_cons_self ..)
      rcases List.mem_cons.1 member with rfl | member
      · cases shaped _ (List.mem_cons_self ..) with
        | block owns is_body => exact .owner _ second rfl rfl owns is_body
      · rcases List.mem_cons.1 member with rfl | member
        · cases shaped _ (List.mem_cons_self ..) with
          | block owns is_body => exact .body _ (List.mem_cons_self ..) rfl owns is_body rfl
        · exact (later _ member).mono fun _ among => List.mem_cons_of_mem _ (List.mem_cons_of_mem _ among)

/-- Drafts are numbered upwards. -/
theorem pairwise_number (n : Nat) (findings : List Finding) :
    (∀ d ∈ number n findings, n ≤ d.id) ∧ (number n findings).Pairwise (·.id < ·.id) := by
  induction findings generalizing n with
  | nil => exact ⟨nofun, .nil⟩
  | cons f rest ih =>
    cases f with
    | plain sketch =>
      obtain ⟨above, increasing⟩ := ih (n + 1)
      refine ⟨?_, .cons (fun d member => above d member) increasing⟩
      intro d member
      rcases List.mem_cons.1 member with rfl | member
      · exact Nat.le_refl n
      · exact Nat.le_of_succ_le (above d member)
    | block owner block =>
      obtain ⟨above, increasing⟩ := ih (n + 2)
      refine ⟨?_, .cons ?_ (.cons (fun d member => above d member) increasing)⟩
      · intro d member
        rcases List.mem_cons.1 member with rfl | member
        · exact Nat.le_refl n
        · rcases List.mem_cons.1 member with rfl | member
          · exact Nat.le_succ n
          · have le := above d member
            omega
      · intro d member
        rcases List.mem_cons.1 member with rfl | member
        · exact Nat.lt_succ_self n
        · exact Nat.lt_of_succ_lt (above d member)

end Draft

namespace Outline

variable {profile : Profile} {text : List Char}

/-- In a language with indented blocks, a line of the masked text has a function header without a body. -/
def Unfinished (profile : Profile) (text : List Char) (line : Nat) : Prop :=
  profile.blockStyle = .indent ∧
    let masked := Mask.mask profile text
    Scan.Indent.Unfinished { masked, lines := Text.lines masked, brackets := Brackets.pair masked } line

/-- What an error stands for: the text of a line with a bracket in no pair, or of a line with a function
header without a body. -/
def Broken (profile : Profile) (text : List Char) (e : Sketch) : Prop :=
  ∃ line, e = .errorLine (Text.lines (Mask.mask profile text)) line ∧
    (line ∈ errorLines profile text ∨ Unfinished profile text line)

/-- Among indented blocks, bodies end with the text of a line. -/
def EndsLine (profile : Profile) (text : List Char) (body : Sketch) : Prop :=
  profile.blockStyle = .indent →
    Scan.Indent.EndsLine (Text.lines (Mask.mask profile text)) body

theorem shaped_of_mem_drafts {d : Draft} (member : d ∈ drafts profile text) :
    d.Shaped (Broken profile text) (EndsLine profile text) (drafts profile text) := by
  unfold drafts at member ⊢
  dsimp only at member ⊢
  refine Draft.shaped_of_mem_number ?_ 0 member
  intro f found
  rcases List.mem_append.1 found with found | leaf
  · rcases List.mem_append.1 found with error | construct
    · obtain ⟨line, bad, rfl⟩ := List.mem_map.1 error
      exact .error rfl ⟨line, rfl, Or.inl bad⟩
    · split at construct
      · next style =>
        refine (Scan.Indent.shaped_of_mem_findings ⟨rfl, rfl⟩ construct).mono ?_ fun _ ends _ => ends
        rintro _ ⟨line, rfl, unfinished⟩
        exact ⟨line, rfl, Or.inr ⟨style, unfinished⟩⟩
      · next style =>
        have shaped : f.Shaped (fun _ => False) fun _ => True :=
          Scan.Brace.shaped_of_mem_findings ⟨rfl, rfl⟩ construct
        refine shaped.mono nofun ?_
        intro b _ other
        rw [style] at other
        cases other
  · exact Scan.Leaves.shaped_of_mem_findings leaf

theorem nodup_drafts (profile : Profile) (text : List Char) : ((drafts profile text).map (·.id)).Nodup :=
  List.pairwise_map.2 ((Draft.pairwise_number 0 _).2.imp Nat.ne_of_lt)

/-- Drafts with one number are one draft. -/
theorem eq_of_id {x y : Draft} (member : x ∈ drafts profile text) (member' : y ∈ drafts profile text)
    (same : x.id = y.id) : x = y :=
  List.inj_on_of_nodup_map (nodup_drafts profile text) member member' same

theorem mem_drafts_of_mem_kept {d : Draft} (member : d ∈ kept profile text) : d ∈ drafts profile text :=
  (List.mem_filter.1 member).1

/-- An error among the drafts covers a single line, the one that it was found on. -/
theorem broken_of_isError {d : Draft} (member : d ∈ drafts profile text) (is_error : d.isError = true) :
    Broken profile text d.toSketch := by
  have kind : d.kind = .error := beq_iff_eq.1 is_error
  cases shaped_of_mem_drafts member with
  | error _ why _ => exact why
  | leaf leaf _ =>
    rw [kind] at leaf
    cases leaf
  | owner _ _ _ _ owns _ =>
    have owner := owns.kind
    change d.kind = .function ∨ d.kind = .loop at owner
    rw [kind] at owner
    rcases owner with owner | owner <;> cases owner
  | body _ _ _ owns _ _ =>
    have body := owns.body_kind
    change d.kind = .other at body
    rw [kind] at body
    cases body

/-- A draft that is no error is kept if it starts outside of the lines with a bracket in no pair. -/
theorem mem_kept_iff {d : Draft} (readable : ¬d.isError = true) :
    d ∈ kept profile text ↔ d ∈ drafts profile text ∧ d.span.start.line ∉ errorLines profile text := by
  unfold kept
  rw [List.mem_filter, Bool.or_eq_true, Bool.not_eq_true', ← Bool.not_eq_true, List.contains_iff_mem]
  exact and_congr_right fun _ => or_iff_right readable

/-- What is kept and starts on a line of an error, but is no error, starts on the line of a header without a
body whose brackets are all in pairs. -/
theorem unfinished_of_covered {d e : Draft} (member : d ∈ kept profile text) (readable : ¬d.isError = true)
    (error : e ∈ kept profile text) (is_error : e.isError = true)
    (first : e.span.start.line ≤ d.span.start.line) (last : d.span.start.line ≤ e.span.stop.line) :
    Unfinished profile text d.span.start.line ∧ d.span.start.line ∉ errorLines profile text := by
  have clear := ((mem_kept_iff readable).1 member).2
  obtain ⟨line, span, why⟩ := broken_of_isError (mem_drafts_of_mem_kept error) is_error
  have same : d.span.start.line = line := by
    rw [span] at first last
    exact Nat.le_antisymm last first
  rw [same] at clear ⊢
  exact ⟨why.resolve_left clear, clear⟩

end Outline

end LiveLint
