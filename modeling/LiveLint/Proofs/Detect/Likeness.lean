import LiveLint.Parse.Parser
import LiveLint.Proofs.Detect.Relocation
import LiveLint.Proofs.Parse.Provenance
import LiveLint.Proofs.Scan.Outlines
import Std.Data.String.ToNat

/-!
# Roots at one index look alike

If no two branches that were read have one digest without being the same text, then all roots of an arena
at one index touch the same lines of text, whatever revisions they belong to, and everything below the
index lies on these lines.
-/

/-!
## What digests tell apart

The digest of a root is taken of a text that names the column the root starts at and the lines it
touches. That text determines both.
-/

namespace LiveLint

namespace RootSource

theorem not_mem_toString_nat (n : Nat) : ':' ∉ (toString n).toList := by
  intro member
  rw [Nat.toString_eq_repr, Nat.toList_repr] at member
  have digit := Nat.isDigit_of_mem_toDigits (by decide) (by decide) member
  revert digit
  decide

/-- The first occurrence of a separator takes a text apart in one way only. -/
theorem split_at_first {c : Char} {xs xs' ys ys' : List Char} (clean : c ∉ xs) (clean' : c ∉ xs')
    (same : xs ++ c :: ys = xs' ++ c :: ys') : xs = xs' ∧ ys = ys' := by
  induction xs generalizing xs' with
  | nil =>
    cases xs' with
    | nil => exact ⟨rfl, (List.cons.inj same).2⟩
    | cons x' rest' => exact absurd ((List.cons.inj same).1 ▸ List.mem_cons_self ..) clean'
  | cons x rest ih =>
    cases xs' with
    | nil => exact absurd ((List.cons.inj same).1 ▸ List.mem_cons_self ..) clean
    | cons x' rest' =>
      obtain ⟨rfl, tails⟩ := List.cons.inj same
      obtain ⟨rfl, ends⟩ := ih (fun member => clean (List.mem_cons_of_mem _ member))
        (fun member => clean' (List.mem_cons_of_mem _ member)) tails
      exact ⟨rfl, ends⟩

/-- What a digest is taken of determines the column and the source. -/
theorem digestInput_inj {col col' : Nat} {cs cs' : List Char}
    (same : digestInput col (String.ofList cs).toUTF8 = digestInput col' (String.ofList cs').toUTF8) :
    col = col' ∧ cs = cs' := by
  unfold digestInput at same
  rw [String.toUTF8_eq_toByteArray, String.toUTF8_eq_toByteArray, String.toUTF8_eq_toByteArray,
    String.toUTF8_eq_toByteArray, ← String.toByteArray_append, ← String.toByteArray_append,
    String.toByteArray_inj] at same
  have texts := congrArg String.toList same
  simp only [String.toList_append, String.toList_ofList, List.append_assoc] at texts
  obtain ⟨digits, sources⟩ :=
    split_at_first (not_mem_toString_nat col) (not_mem_toString_nat col') texts
  exact ⟨Nat.repr_injective (String.toList_inj.1 digits), sources⟩

end RootSource

namespace Outline

/-- A span that lies on the lines of a text touches as many of them as it is long. -/
theorem length_coveredLines {text : List Char} {span : Span} (on : span.On (Text.lines text).length) :
    (coveredLines text span).length = span.stop.line + 1 - span.start.line := by
  have last := on.stop_le
  have order := on.start_le_stop
  have first := on.one_le_start
  unfold coveredLines
  rw [List.length_take, List.length_drop]
  omega

theorem coveredLines_ne_nil {text : List Char} {span : Span}
    (on : span.On (Text.lines text).length) : coveredLines text span ≠ [] := by
  intro empty
  have order := on.start_le_stop
  have length := length_coveredLines on
  rw [empty, List.length_nil] at length
  omega

theorem newline_not_mem_coveredLines {text line : List Char} {span : Span}
    (member : line ∈ coveredLines text span) : '\n' ∉ line := by
  unfold coveredLines at member
  exact Text.newline_not_mem_lines (List.mem_of_mem_drop (List.mem_of_mem_take member))

/-- Joined by newlines, lines can be told apart again. -/
theorem coveredLines_of_snippet {text text' : List Char} {span span' : Span}
    (on : span.On (Text.lines text).length) (on' : span'.On (Text.lines text').length)
    (same : snippet text span = snippet text' span') :
    coveredLines text span = coveredLines text' span' := by
  unfold snippet at same
  rw [← List.splitOn_intercalate '\n' (fun _ member => newline_not_mem_coveredLines member)
      (coveredLines_ne_nil on),
    ← List.splitOn_intercalate '\n' (fun _ member => newline_not_mem_coveredLines member)
      (coveredLines_ne_nil on'), same]

end Outline

namespace RootSource

/-- Branches whose digests are taken of the same bytes start at the same column and touch the same
lines. -/
theorem branchInput_inj {text text' : List Char} {b b' : Branch}
    (on : b.draft.span.On (Text.lines text).length)
    (on' : b'.draft.span.On (Text.lines text').length)
    (same : branchInput text b = branchInput text' b') :
    b.draft.span.start.col = b'.draft.span.start.col ∧
      Outline.coveredLines text b.draft.span = Outline.coveredLines text' b'.draft.span := by
  obtain ⟨col, snippets⟩ := digestInput_inj same
  exact ⟨col, Outline.coveredLines_of_snippet on on' snippets⟩

end RootSource

/-! ## Roots at one index look alike -/

/-- No two of some messages have one digest. -/
def Digest.CollisionFree (messages : List ByteArray) : Prop :=
  ∀ m ∈ messages, ∀ n ∈ messages, Digest.sha1 m = Digest.sha1 n → m = n

/-- The messages whose digests are taken when revisions are read. -/
def hashedFor (revisions : List Revision) : List ByteArray :=
  revisions.flatMap fun r => r.branches.map (RootSource.branchInput r.text.toList)

/-- What a detector looks at in a tree that was made of a revision. -/
def Parser.subject (p : Parser) (x : Parsed) : Subject :=
  { tree := x.2, arena := p.arena x.2.arena }

theorem Parser.subject_profile (p : Parser) (x : Parsed) :
    (p.subject x).profile = Profile.find? x.2.language := by
  unfold subject
  dsimp only

theorem mem_hashedFor {revisions : List Revision} {r : Revision} {b : Branch} (member : r ∈ revisions)
    (branch : b ∈ r.branches) :
    RootSource.branchInput r.text.toList b ∈ hashedFor revisions :=
  List.mem_flatMap.2 ⟨r, member, List.mem_map.2 ⟨b, branch, rfl⟩⟩

/-- One message alone has no other one to collide with. -/
theorem Digest.CollisionFree.of_same {messages : List ByteArray} {only : ByteArray}
    (same : ∀ m ∈ messages, m = only) : CollisionFree messages :=
  fun m mIn n nIn _ => (same m mIn).trans (same n nIn).symm

theorem Digest.CollisionFree.mono {messages more : List ByteArray} (apart : CollisionFree more)
    (subset : ∀ m ∈ messages, m ∈ more) : CollisionFree messages :=
  fun m mIn n nIn => apart m (subset m mIn) n (subset n nIn)

/-- The branches of a revision lie on its lines, and hold what stands below them. -/
theorem Revision.on_of_mem_branches {r : Revision} {b : Branch} (member : b ∈ r.branches) :
    b.draft.span.On (Text.lines r.text.toList).length ∧ b.Nested := by
  unfold Revision.branches at member
  split at member
  · exact Outline.on_of_mem_branches member
  · cases member

/-- Branches with one digest start at one column and touch the same lines. -/
theorem same_lines_of_digest {revisions : List Revision}
    (apart : Digest.CollisionFree (hashedFor revisions)) {r r' : Revision} (member : r ∈ revisions)
    (member' : r' ∈ revisions) {b b' : Branch} (branch : b ∈ r.branches) (branch' : b' ∈ r'.branches)
    (same : Digest.sha1 (RootSource.branchInput r.text.toList b) =
      Digest.sha1 (RootSource.branchInput r'.text.toList b')) :
    b.draft.span.start.col = b'.draft.span.start.col ∧
      Outline.coveredLines r.text.toList b.draft.span =
        Outline.coveredLines r'.text.toList b'.draft.span :=
  RootSource.branchInput_inj (Revision.on_of_mem_branches branch).1
    (Revision.on_of_mem_branches branch').1
    (apart _ (mem_hashedFor member branch) _ (mem_hashedFor member' branch') same)

/-- Branches that touch the same lines touch equally many. -/
theorem same_height {r r' : Revision} {b b' : Branch} (branch : b ∈ r.branches)
    (branch' : b' ∈ r'.branches)
    (same : Outline.coveredLines r.text.toList b.draft.span =
      Outline.coveredLines r'.text.toList b'.draft.span) :
    b.draft.span.stop.line + 1 - b.draft.span.start.line =
      b'.draft.span.stop.line + 1 - b'.draft.span.start.line := by
  rw [← Outline.length_coveredLines (Revision.on_of_mem_branches branch).1, same,
    Outline.length_coveredLines (Revision.on_of_mem_branches branch').1]

namespace Parser

variable {p : Parser} {read : List Parsed}

/-- Roots of one arena at one index look alike, also if the arena has grown in between. -/
theorem Sound.alike (sound : p.Sound read) (apart : Digest.CollisionFree (hashedFor (read.map (·.1))))
    {x y : Parsed} (xIn : x ∈ read) (yIn : y ∈ read) (scanned : x.2.backend = .scanner)
    (scanned' : y.2.backend = .scanner) (arena : x.2.arena = y.2.arena)
    (language : x.2.language = y.2.language) {root root' : Root} (rootIn : root ∈ x.2.roots)
    (rootIn' : root' ∈ y.2.roots) (index : root.index = root'.index) {p' : Parser}
    (grown : (p.arena x.2.arena).Extends (p'.arena y.2.arena)) :
    (p.subject x).Alike (p'.subject y) root root' := by
  obtain ⟨b, branch, stands, before, -, z, zIn, b₀, origin⟩ := sound.root xIn scanned rootIn
  obtain ⟨b', branch', stands', -⟩ := sound.root yIn scanned' rootIn'
  have digest := sound.oneDigestEach x xIn y yIn scanned scanned' arena root rootIn root' rootIn' index
  have known {z : Parsed} (member : z ∈ read) : z.1 ∈ read.map (·.1) := List.mem_map.2 ⟨z, member, rfl⟩
  obtain ⟨-, lines⟩ := same_lines_of_digest apart (known xIn) (known yIn) branch branch'
    (stands.digest.symm.trans (digest.trans stands'.digest))
  obtain ⟨-, lines₀⟩ := same_lines_of_digest apart (known xIn) (known zIn) branch
    origin.branch (stands.digest.symm.trans origin.digest)
  obtain ⟨on, -⟩ := Revision.on_of_mem_branches branch
  obtain ⟨on', -⟩ := Revision.on_of_mem_branches branch'
  obtain ⟨on₀, nested⟩ := Revision.on_of_mem_branches origin.branch
  have height := same_height branch branch' lines
  have height₀ := same_height branch origin.branch lines₀
  refine ⟨?_, index.symm, ?_, ?_, ?_, ?_⟩
  · rw [subject_profile, subject_profile, language]
  · intro i le
    have inside := sound.index_lt xIn scanned rootIn
    exact grown.same i (Nat.lt_of_le_of_lt le inside)
  · exact stands.line ▸ on.one_le_start
  · exact stands'.line ▸ on'.one_le_start
  · obtain ⟨reached, subtree⟩ := Arena.subtree_of_holds origin.holds nested
    refine ⟨b.draft.span.stop.line + 1 - b.draft.span.start.line, reached, ?_, ?_⟩
    · have order := on₀.start_le_stop
      have same : ((b.draft.span.stop.line + 1 - b.draft.span.start.line : Nat) : Int) =
          (b₀.draft.span.stop.line : Int) + 1 - b₀.draft.span.start.line := by omega
      rw [same]
      exact subtree
    · have text : x.2.source = x.1.text := sound.source x xIn
      have text' : y.2.source = y.1.text := sound.source y yIn
      show ((y.2.source.toList.splitOn '\n').drop (root'.line - 1)).take _ =
        ((x.2.source.toList.splitOn '\n').drop (root.line - 1)).take _
      rw [text, text', stands.line, stands'.line]
      unfold Outline.coveredLines Text.lines at lines
      rw [lines, height]

end Parser

end LiveLint
