import LiveLint.Proofs.Scan.Bodies
import LiveLint.Proofs.Scan.Constructs

/-!
# Loops and the blocks below them

In a text with indented blocks in which every bracket is in a pair, a line with the header of a loop that ends
with a colon outside of brackets, and has a deeper line below it, is found as one loop. The loop ends with the
block below the line if no other colon outside of brackets comes first, and with its line if one does. If the
lines from the header to the end of the block have both brackets of a pair or none, then nothing that begins in the
block ends behind it.
-/

namespace LiveLint

namespace Draft

/-- What is found with a body is numbered with it. -/
theorem exists_of_mem_findings {n : Nat} {findings : List Finding} {o b : Sketch}
    (member : .block o b ∈ findings) :
    ∃ owner ∈ number n findings, ∃ body ∈ number n findings,
      owner.body = some body.id ∧ owner.toSketch = o ∧ body.toSketch = b := by
  induction findings generalizing n with
  | nil => cases member
  | cons f rest ih =>
    rcases List.mem_cons.1 member with rfl | later
    · refine ⟨⟨o, n, some (n + 1)⟩, List.mem_cons_self .., ⟨b, n + 1, none⟩, ?_, rfl, rfl, rfl⟩
      exact List.mem_cons_of_mem _ (List.mem_cons_self ..)
    · cases f with
      | plain sketch =>
        obtain ⟨owner, among, body, among', found⟩ := ih (n := n + 1) later
        exact ⟨owner, List.mem_cons_of_mem _ among, body, List.mem_cons_of_mem _ among', found⟩
      | block o' b' =>
        obtain ⟨owner, among, body, among', found⟩ := ih (n := n + 2) later
        exact ⟨owner, List.mem_cons_of_mem _ (List.mem_cons_of_mem _ among), body,
          List.mem_cons_of_mem _ (List.mem_cons_of_mem _ among'), found⟩

end Draft

namespace Outline

open Scan.Indent

/-- What the scanner computes from a text once. -/
def source (profile : Profile) (text : List Char) : Source :=
  let masked := Mask.mask profile text
  { masked, lines := Text.lines masked, brackets := Brackets.pair masked }

theorem ofText_source (profile : Profile) (text : List Char) : (source profile text).OfText := ⟨rfl, rfl⟩

/-- A text with indented blocks in which every bracket is in a pair. -/
structure Balanced (profile : Profile) (text : List Char) : Prop where
  style : profile.blockStyle = .indent
  paired : (Brackets.pair (Mask.mask profile text)).unpaired = []

variable {profile : Profile} {text : List Char}

theorem Balanced.errorLines_eq (balanced : Balanced profile text) : errorLines profile text = [] := by
  unfold errorLines Brackets.errorLines
  dsimp only
  rw [balanced.paired]
  rfl

/-- There are constructs and leaves, and nothing else. -/
theorem Balanced.drafts_eq (balanced : Balanced profile text) :
    drafts profile text = Draft.number 0 (findings profile (source profile text) ++
      Scan.Leaves.findings profile (source profile text).lines) := by
  have none_found : (Brackets.pair (Mask.mask profile text)).errorLines (Mask.mask profile text) = [] :=
    balanced.errorLines_eq
  unfold drafts
  dsimp only
  rw [balanced.style, none_found]
  rfl

/-- Everything is kept. -/
theorem Balanced.kept_eq (balanced : Balanced profile text) : kept profile text = drafts profile text := by
  unfold kept
  rw [balanced.errorLines_eq, List.filter_eq_self]
  intro d _
  exact Bool.or_true _

theorem eq_singleton_of_mem_of_length_le {α : Type} {xs : List α} (once : xs.length ≤ 1) {x : α}
    (member : x ∈ xs) : xs = [x] := by
  match xs with
  | [] => cases member
  | [z] => rw [List.mem_singleton.1 member]
  | _ :: _ :: _ => exact absurd once (by rw [List.length_cons, List.length_cons]; omega)

theorem eq_of_mem_of_length_le {α : Type} {xs : List α} (once : xs.length ≤ 1) {x y : α} (member : x ∈ xs)
    (member' : y ∈ xs) : x = y := by
  rw [eq_singleton_of_mem_of_length_le once member'] at member
  exact List.mem_singleton.1 member

/-- One header stands on a line at most. -/
theorem Balanced.eq_of_opens (balanced : Balanced profile text) {n : Nat} {d d' : Draft}
    (member : d ∈ drafts profile text) (member' : d' ∈ drafts profile text) (opens : d.opens n = true)
    (opens' : d'.opens n = true) : d = d' := by
  have leaves : ((Scan.Leaves.findings profile (source profile text).lines).flatMap
      Finding.sketches).countP (·.opens n) = 0 := by
    rw [List.countP_eq_zero]
    intro sketch member
    obtain ⟨f, found, member⟩ := List.mem_flatMap.1 member
    have shaped : f.Shaped (fun _ => False) fun _ => False := Scan.Leaves.shaped_of_mem_findings found
    cases shaped with
    | error _ why => exact why.elim
    | block _ is_body => exact is_body.elim
    | leaf leaf =>
      rw [List.mem_singleton.1 member, Sketch.opens_iff]
      rintro ⟨kind | kind, -⟩ <;> rw [kind] at leaf <;> cases leaf
  have once : (drafts profile text).countP (fun x : Draft => x.toSketch.opens n) ≤ 1 := by
    have count := List.countP_map (p := (·.opens n)) (f := (·.toSketch)) (l := drafts profile text)
    rw [balanced.drafts_eq, Draft.number_sketches, List.flatMap_append, List.countP_append, leaves,
      ← balanced.drafts_eq] at count
    exact count ▸ countP_opens_findings profile (source profile text) n
  rw [List.countP_eq_length_filter] at once
  have among : d ∈ (drafts profile text).filter fun x : Draft => x.toSketch.opens n :=
    List.mem_filter.2 ⟨member, opens⟩
  have among' : d' ∈ (drafts profile text).filter fun x : Draft => x.toSketch.opens n :=
    List.mem_filter.2 ⟨member', opens'⟩
  exact eq_of_mem_of_length_le once among among'

/-- A draft that names another one owns it. -/
theorem ownerOf_of_named {owner body : Draft} (member : owner ∈ drafts profile text)
    (among : body ∈ drafts profile text) (named : owner.body = some body.id) : OwnerOf profile text owner body := by
  have kind : owner.kind = .function ∨ owner.kind = .loop := by
    cases shaped_of_mem_drafts member with
    | owner b _ _ _ owns _ => exact owns.kind
    | error _ _ none | leaf _ none | body _ _ _ _ _ none =>
      rw [none] at named
      cases named
  obtain ⟨body', of⟩ := exists_ownerOf member kind
  obtain rfl : body' = body := eq_of_id of.body_mem among (Option.some.inj (of.named.symm.trans named))
  exact of

/-- Where a draft lies, with its body or its owner if it has one. -/
inductive LaidOut (profile : Profile) (text : List Char) (d : Draft) : Prop where
  | flat (alone : ∀ owner, ¬OwnerOf profile text owner d) (line : d.span.stop.line = d.span.start.line)
      (on : OnCode (source profile text).lines d.span)
  | between {pair : Nat × Nat} (alone : ∀ owner, ¬OwnerOf profile text owner d)
      (member : pair ∈ (source profile text).brackets.pairs)
      (span : d.span = .ofOffsets (source profile text).masked pair.1 (pair.2 + 1))
  | owner {before : List (List Char)} {line : List Char} {colon : Nat} {body : Draft}
      (of : OwnerOf profile text d body)
      (headed : Headed (source profile text) before line colon d.toSketch body.toSketch)
  | body {before : List (List Char)} {line : List Char} {colon : Nat} {owner : Draft}
      (of : OwnerOf profile text owner d)
      (headed : Headed (source profile text) before line colon owner.toSketch d.toSketch)

theorem Balanced.laidOut (balanced : Balanced profile text) {d : Draft} (member : d ∈ drafts profile text) :
    LaidOut profile text d := by
  have laid {f : Finding} (found : f ∈ findings profile (source profile text) ++
      Scan.Leaves.findings profile (source profile text).lines) :
      Laid (source profile text) f ∧ f.Shaped (fun _ => True) fun _ => True := by
    rcases List.mem_append.1 found with construct | leaf
    · have of := ofText_source profile text
      exact ⟨laid_of_mem_findings of construct,
        (shaped_of_mem_findings of construct).mono (fun _ _ => trivial) fun _ _ => trivial⟩
    · exact ⟨Scan.Leaves.laid_of_mem_findings leaf, Scan.Leaves.shaped_of_mem_findings leaf⟩
  have numbered := member
  rw [balanced.drafts_eq] at numbered
  rcases Draft.found_of_mem_number numbered with plain | ⟨b, among, named, found⟩ | ⟨o, among, named, found⟩
  · obtain ⟨place, shaped⟩ := laid plain
    have alone (owner : Draft) : ¬OwnerOf profile text owner d := by
      intro of
      have other : d.kind = .other := of.owns.body_kind
      cases shaped with
      | error kind _ =>
        rw [other] at kind
        cases kind
      | leaf leaf =>
        rw [other] at leaf
        cases leaf
    cases place with
    | flat line on => exact .flat alone line on
    | between member span => exact .between alone member span
  · cases (laid found).1 with
    | block headed => exact .owner (ownerOf_of_named member (balanced.drafts_eq ▸ among) named) headed
  · cases (laid found).1 with
    | block headed => exact .body (ownerOf_of_named (balanced.drafts_eq ▸ among) member named) headed

/-- A body is what is behind the colon of its owner. -/
theorem Balanced.headed (balanced : Balanced profile text) {owner body : Draft}
    (of : OwnerOf profile text owner body) :
    ∃ before line colon, Headed (source profile text) before line colon owner.toSketch body.toSketch := by
  cases balanced.laidOut of.body_mem with
  | flat alone _ _ | between alone _ _ => exact absurd of (alone owner)
  | owner of' _ =>
    have other : body.kind = .other := of.owns.body_kind
    have kind : body.kind = .function ∨ body.kind = .loop := of'.owns.kind
    rw [other] at kind
    rcases kind with kind | kind <;> cases kind
  | @body before line colon o of' headed =>
    obtain rfl := of'.unique of.owner_mem of.named
    exact ⟨before, line, colon, headed⟩

/-- Everything begins and ends with code. -/
theorem Balanced.onCode (balanced : Balanced profile text) {d : Draft} (member : d ∈ drafts profile text) :
    OnCode (source profile text).lines d.span := by
  cases balanced.laidOut member with
  | flat _ _ on => exact on
  | between _ paired span => exact span ▸ onCode_of_pair (ofText_source profile text) paired
  | owner _ headed => exact headed.onCode
  | body _ headed => exact headed.behind.onCode

/-!
## Lines that open a loop
-/

open Text Text.Pattern

/-- A line behind some others, in a text with paired brackets, has the header of a loop and ends with a colon
outside of brackets, and the next line with code is deeper. -/
structure Opening (profile : Profile) (text : List Char) (before : List (List Char)) (line : List Char) (hit : Hit)
    (head : List Char) (first : Nat) : Prop where
  balanced : Balanced profile text
  split : ∃ after, (source profile text).lines = before ++ line :: after
  header : hit? loopHeader line = some hit
  ends : trimRight line = head ++ [':']
  bare : ¬(source profile text).brackets.Around 0 (lineStart before + head.length)
  next : NextCode (source profile text).lines (before.length + 1) first
  deeper : ∀ below ∈ (source profile text).lines[first - 1]?, width line < width below

namespace Opening

variable {before : List (List Char)} {line : List Char} {hit : Hit} {head : List Char} {first : Nat}

/-- Only blanks stand behind the last colon of the line. -/
theorem exists_blanks (opening : Opening profile text before line hit head first) :
    ∃ blanks, line = head ++ ':' :: blanks ∧ ∀ c ∈ blanks, isBlank c = true := by
  obtain ⟨blanks, split, blank⟩ := exists_trimRight_append line
  rw [opening.ends, List.append_assoc, List.singleton_append] at split
  exact ⟨blanks, split, blank⟩

theorem colon (opening : Opening profile text before line hit head first) :
    (line)[head.length]? = some ':' := by
  obtain ⟨blanks, split, -⟩ := opening.exists_blanks
  rw [split, List.getElem?_append_right (Nat.le_refl _), Nat.sub_self, List.getElem?_cons_zero]

/-- An offset of the line has a place on it. -/
theorem place (opening : Opening profile text before line hit head first) {col : Nat} (le : col ≤ line.length) :
    Position.ofOffset (source profile text).masked (lineStart before + col) = ⟨before.length + 1, col⟩ := by
  obtain ⟨after, split⟩ := opening.split
  exact ofOffset_lineStart split le

/-- The line is found as a loop, behind a colon that stands no further right than its last one. -/
theorem found (opening : Opening profile text before line hit head first) :
    ∃ owner body colon, OwnerOf profile text owner body ∧ owner.kind = .loop ∧
      Headed (source profile text) before line colon owner.toSketch body.toSketch ∧
      Forward.EndsHeader (source profile text).masked (lineStart before + hit.stop) colon ∧
      colon ≤ lineStart before + head.length := by
  obtain ⟨after, split⟩ := opening.split
  have of := ofText_source profile text
  have inside := (List.getElem?_eq_some_iff.1 opening.colon).1
  have behind := stop_le_of_colon opening.header opening.colon
  -- The last colon ends the header unless another one does before.
  obtain ⟨colon, le, ends⟩ : ∃ colon, colon ≤ lineStart before + head.length ∧
      Forward.EndsHeader (source profile text).masked (lineStart before + hit.stop) colon := by
    refine Forward.exists_endsHeader (Nat.add_le_add_left behind _) ?_ ?_ ?_
    · exact (getElem?_lineStart split inside).trans opening.colon
    · rintro ⟨pair, member, -, around⟩
      exact opening.bare ⟨pair, member, Nat.zero_le _, around⟩
    · intro k from_hit lt newline
      have there := getElem?_lineStart split (show k - lineStart before < line.length by omega)
      rw [show lineStart before + (k - lineStart before) = k by omega] at there
      have among : line ∈ (source profile text).lines := by
        rw [split]
        exact List.mem_append_right _ (List.mem_cons_self ..)
      have free : '\n' ∉ line := newline_not_mem_lines among
      exact absurd (List.mem_of_getElem? (there.symm.trans newline)) free
  have seen := (Forward.headerColon?_eq_some_iff opening.balanced.paired).2 ends
  have header := (headerLine_of_loopHeader opening.header).1
  have on_line : (Position.ofOffset (source profile text).masked colon).line = before.length + 1 := by
    have from_hit := ends.le
    have inside : colon - lineStart before ≤ line.length := by omega
    have there := opening.place inside
    rw [show lineStart before + (colon - lineStart before) = colon by omega] at there
    rw [there]
  have next := opening.next
  rw [← on_line] at next
  obtain ⟨b, is_body⟩ := Option.ne_none_iff_exists'.1
    (body?_ne_none next opening.deeper)
  have is_found : (do
      let colon ← Forward.headerColon? (source profile text).masked (source profile text).brackets
        (lineStart before + hit.stop)
      body? (source profile text).lines (.ofOffset (source profile text).masked colon)
        (expandTabs (hit.text line .indent)).length) = some b := by
    rw [← header.width_eq]
    exact Option.bind_eq_some_iff.2 ⟨colon, seen, is_body⟩
  have among : Finding.block
      { kind := .loop, type := "loop",
        span := ⟨⟨before.length + 1, (hit.text line .indent).length⟩, b.span.stop⟩ } b ∈
      findings profile (source profile text) := by
    refine mem_findings_of_line split ?_
    unfold lineFindings
    rw [functionHeader_of_loopHeader opening.header, opening.header]
    unfold loopAt
    dsimp only
    rw [is_found]
    exact List.mem_singleton_self _
  obtain ⟨owner, member, body, member', named, is_owner, rfl⟩ :=
    Draft.exists_of_mem_findings (n := 0) (List.mem_append_left _ among)
  rw [← opening.balanced.drafts_eq] at member member'
  obtain ⟨colon', seen', headed⟩ := headed_of_headerBody of split header (Nat.le_refl _) (by omega) is_found
  obtain rfl : colon' = colon := Option.some.inj (seen'.symm.trans seen)
  refine ⟨owner, body, colon', ownerOf_of_named member member' named, ?_, headed _ (is_owner ▸ rfl), ends, le⟩
  rw [is_owner]

/-- If the last colon ends the header, the body is the block below the line. -/
theorem block_of_headed (opening : Opening profile text before line hit head first) {owner body : Sketch}
    (headed : Headed (source profile text) before line (lineStart before + head.length) owner body) :
    ∃ last, Block (source profile text).lines (width line) (before.length + 1) first last ∧
      body.span = ⟨⟨first, leadingBlanks (((source profile text).lines[first - 1]?).getD [])⟩,
        ⟨last, (trimRight (((source profile text).lines[last - 1]?).getD [])).length⟩⟩ := by
  obtain ⟨after, split⟩ := opening.split
  have inside := (List.getElem?_eq_some_iff.1 opening.colon).1
  have behind := headed.behind
  rw [opening.place (Nat.le_of_lt inside)] at behind
  cases behind with
  | @line text here code span =>
    obtain ⟨blanks, is_line, blank⟩ := opening.exists_blanks
    obtain rfl : line = text := Option.some.inj ((getElem?_line split).symm.trans here)
    obtain ⟨c, member, inky⟩ := code
    rw [is_line, show head.length + 1 = (head ++ [':']).length by simp,
      show head ++ ':' :: blanks = head ++ [':'] ++ blanks by simp, List.drop_left] at member
    rw [blank c member] at inky
    cases inky
  | @block first' last _ block span =>
    obtain rfl := block.begins.unique opening.next
    exact ⟨last, block, span⟩

/-- If another colon ends the header, the body is the rest of the line. -/
theorem line_of_headed (opening : Opening profile text before line hit head first) {owner body : Sketch}
    {colon : Nat} (lt : colon < lineStart before + head.length)
    (headed : Headed (source profile text) before line colon owner body) :
    body.span.start.line = before.length + 1 ∧ body.span.stop.line = before.length + 1 := by
  obtain ⟨after, split⟩ := opening.split
  have inside := (List.getElem?_eq_some_iff.1 opening.colon).1
  have le := headed.le_colon
  have behind := headed.behind
  rw [show colon = lineStart before + (colon - lineStart before) by omega,
    opening.place (by omega)] at behind
  cases behind with
  | line _ _ span =>
    rw [span]
    exact ⟨rfl, rfl⟩
  | block blank _ _ =>
    refine absurd ⟨':', ?_, by decide⟩ (blank line (getElem?_line split))
    refine List.mem_of_getElem? (i := head.length - (colon - lineStart before + 1)) ?_
    rw [List.getElem?_drop, show colon - lineStart before + 1 + (head.length - (colon - lineStart before + 1)) =
      head.length by omega]
    exact opening.colon

/-- A bracket that is opened on the line is closed on it. -/
theorem closes_of_opens (opening : Opening profile text before line hit head first) {pair : Nat × Nat}
    (member : pair ∈ (source profile text).brackets.pairs)
    (here : (Position.ofOffset (source profile text).masked pair.1).line = before.length + 1) :
    (Position.ofOffset (source profile text).masked pair.2).line ≤ before.length + 1 := by
  obtain ⟨after, split⟩ := opening.split
  obtain ⟨c, there, opener⟩ := (Brackets.matched_pair (source profile text).masked).opens pair member
  obtain ⟨below, among, at_col, -⟩ := code_at_ofOffset there (isBlank_of_isOpener opener)
  rw [here] at among
  obtain rfl : line = below := Option.some.inj ((getElem?_line split).symm.trans among)
  have within := lt_length_trimRight at_col (isBlank_of_isOpener opener)
  rw [opening.ends, List.length_append, List.length_singleton] at within
  have other : (Position.ofOffset (source profile text).masked pair.1).col ≠ head.length := by
    intro same
    rw [same, opening.colon] at at_col
    cases at_col
    exact absurd opener (by decide)
  have place := opening.place (Nat.le_of_lt (List.getElem?_eq_some_iff.1 opening.colon).1)
  have in_front : pair.1 < lineStart before + head.length := by
    by_contra behind
    have order := Position.ofOffset_mono (source profile text).masked (Nat.le_of_not_lt behind)
    rw [place, Position.le_iff] at order
    dsimp only at order
    omega
  have closed : pair.2 ≤ lineStart before + head.length :=
    Nat.le_of_not_lt fun around => opening.bare ⟨pair, member, Nat.zero_le _, in_front, around⟩
  have le := Position.line_ofOffset_mono (source profile text).masked closed
  rwa [place] at le

end Opening

/-!
## Blocks that close their brackets
-/

/-- The lines from one to another have both brackets of a pair or none. -/
def Enclosed (s : Source) (first last : Nat) : Prop :=
  ∀ pair ∈ s.brackets.pairs,
    (first ≤ (Position.ofOffset s.masked pair.1).line ∧ (Position.ofOffset s.masked pair.1).line ≤ last) ↔
      first ≤ (Position.ofOffset s.masked pair.2).line ∧ (Position.ofOffset s.masked pair.2).line ≤ last

/-- If a header goes on behind a line, a pair of brackets does. -/
theorem exists_pair_across {before : List (List Char)} {line : List Char} {colon m : Nat} {owner body : Sketch}
    (headed : Headed (source profile text) before line colon owner body) (first : before.length + 1 ≤ m)
    (across : m < (Position.ofOffset (source profile text).masked colon).line) :
    ∃ pair ∈ (source profile text).brackets.pairs,
      (Position.ofOffset (source profile text).masked pair.1).line ≤ m ∧
        m < (Position.ofOffset (source profile text).masked pair.2).line := by
  obtain ⟨after, split⟩ := headed.line
  have begins : (Position.ofOffset (source profile text).masked (lineStart before)).line = before.length + 1 :=
    congrArg Position.line (ofOffset_lineStart split (Nat.zero_le _))
  obtain ⟨k, from_line, lt, newline, here, next⟩ :=
    Position.exists_newline (source profile text).masked headed.le_colon (by omega) across
  obtain ⟨pair, member, -, opened, closed⟩ := headed.newlines k from_line lt newline
  refine ⟨pair, member, ?_, ?_⟩
  · exact here ▸ Position.line_ofOffset_mono _ (Nat.le_of_lt opened)
  · refine Nat.lt_of_lt_of_le ?_ (Position.line_ofOffset_mono _ (Nat.succ_le_of_lt closed))
    exact next.symm ▸ Nat.lt_succ_self m

/-- The place behind the closer of a pair is on the line of the closer. -/
theorem line_behind_pair {pair : Nat × Nat} (member : pair ∈ (source profile text).brackets.pairs) :
    (Position.ofOffset (source profile text).masked (pair.2 + 1)).line =
      (Position.ofOffset (source profile text).masked pair.2).line := by
  obtain ⟨c, there, closer⟩ := (Brackets.matched_pair (source profile text).masked).closes pair member
  obtain ⟨-, -, -, next⟩ := code_at_ofOffset there (isBlank_of_isCloser closer)
  rw [next]

/-- Two offsets on different lines stand in the order of their lines. -/
theorem lt_of_line_lt (cs : List Char) {i j : Nat}
    (lt : (Position.ofOffset cs i).line < (Position.ofOffset cs j).line) : i < j :=
  Nat.lt_of_not_le fun le => Nat.not_lt_of_le (Position.line_ofOffset_mono cs le) lt

/-- A line that opens a loop, which the scanner found with the block below the line as its body, and lines up to the
end of the block that have both brackets of a pair or none. -/
structure Nest (profile : Profile) (text : List Char) (before : List (List Char)) (line : List Char) (hit : Hit)
    (head : List Char) (first last : Nat) (owner body : Draft) : Prop where
  opening : Opening profile text before line hit head first
  of : OwnerOf profile text owner body
  loop : owner.kind = .loop
  headed : Headed (source profile text) before line (lineStart before + head.length) owner.toSketch body.toSketch
  block : Block (source profile text).lines (width line) (before.length + 1) first last
  span : body.span = ⟨⟨first, leadingBlanks (((source profile text).lines[first - 1]?).getD [])⟩,
    ⟨last, (trimRight (((source profile text).lines[last - 1]?).getD [])).length⟩⟩
  enclosed : Enclosed (source profile text) (before.length + 1) last

namespace Nest

variable {before before' : List (List Char)} {line line' : List Char} {hit : Hit} {head : List Char}
  {first last colon : Nat} {owner body d : Draft} {owner' body' : Sketch}

/-- No pair of brackets stands around the beginning of the line, and none around the end of the block. -/
theorem not_across (nest : Nest profile text before line hit head first last owner body) {m : Nat}
    (border : m = before.length ∨ m = last) {pair : Nat × Nat}
    (member : pair ∈ (source profile text).brackets.pairs)
    (opened : (Position.ofOffset (source profile text).masked pair.1).line ≤ m) :
    (Position.ofOffset (source profile text).masked pair.2).line ≤ m := by
  by_contra across
  have inside := (List.getElem?_eq_some_iff.1 nest.opening.colon).1
  have colon_line := congrArg Position.line (nest.opening.place (Nat.le_of_lt inside))
  dsimp only at colon_line
  have behind := nest.opening.next.behind
  have le := nest.block.le
  have both := nest.enclosed pair member
  -- The pair opens above the line and closes below the block, so it stands around the last colon of the line.
  refine nest.opening.bare ⟨pair, member, Nat.zero_le _, ?_, ?_⟩
  · refine lt_of_line_lt (source profile text).masked ?_
    rcases border with rfl | rfl <;> omega
  · refine lt_of_line_lt (source profile text).masked ?_
    rcases border with rfl | rfl <;> omega

theorem codeAt_line (headed : Headed (source profile text) before line colon owner' body') :
    CodeAt (source profile text).lines (before.length + 1) := by
  obtain ⟨after, split⟩ := headed.line
  exact ⟨line, getElem?_line split, headed.code⟩

/-- The colon of a header above the line stands above the line. -/
theorem colon_of_above (nest : Nest profile text before line hit head first last owner body)
    (headed : Headed (source profile text) before' line' colon owner' body')
    (above : before'.length + 1 < before.length + 1) :
    (Position.ofOffset (source profile text).masked colon).line ≤ before.length := by
  by_contra across
  obtain ⟨pair, member, opened, closed⟩ :=
    exists_pair_across headed (Nat.le_of_lt_succ above) (Nat.lt_of_not_le across)
  exact absurd (nest.not_across (Or.inl rfl) member opened) (Nat.not_le_of_lt closed)

/-- The body of a header above the line begins above the line, or with the loop. -/
theorem start_of_above (nest : Nest profile text before line hit head first last owner body)
    (headed : Headed (source profile text) before' line' colon owner' body')
    (above : before'.length + 1 < before.length + 1) :
    body'.span.start.line < before.length + 1 ∨ body'.span.start = owner.span.start := by
  have colon_line := nest.colon_of_above headed above
  cases headed.behind with
  | line _ _ span =>
    rw [span]
    exact Or.inl (Nat.lt_succ_of_le colon_line)
  | @block first' last' _ block span =>
    have le := block.begins.le_of_code (Nat.lt_succ_of_le colon_line) (codeAt_line nest.headed)
    rw [span]
    refine (Nat.lt_or_eq_of_le le).imp id fun same => ?_
    obtain ⟨after, split⟩ := nest.headed.line
    have here : (source profile text).lines[before.length + 1 - 1]? = some line := getElem?_line split
    rw [same, here, Option.getD_some, show owner.span = _ from nest.headed.span]

/-- The body of a header in the block ends no later than the block. -/
theorem stop_le_of_inside (nest : Nest profile text before line hit head first last owner body)
    (headed : Headed (source profile text) before' line' colon owner' body')
    (behind : before.length + 1 < before'.length + 1) (inside : before'.length + 1 ≤ last) :
    body'.span.stop.line ≤ last := by
  have colon_line : (Position.ofOffset (source profile text).masked colon).line ≤ last := by
    by_contra across
    obtain ⟨pair, member, opened, closed⟩ := exists_pair_across headed inside (Nat.lt_of_not_le across)
    exact absurd (nest.not_across (Or.inr rfl) member opened) (Nat.not_le_of_lt closed)
  cases headed.behind with
  | line _ _ span =>
    rw [span]
    exact colon_line
  | @block first' last' _ block span =>
    rw [span]
    by_contra beyond
    -- The next line with code behind the block is deeper than the header in it, and not deeper than the loop.
    obtain ⟨m, le, next⟩ := exists_nextCode (Nat.lt_of_not_le beyond) block.last_code
    obtain ⟨below, there, code⟩ := next.code
    have shallow := nest.block.ends m next below there
    have from_first := block.begins.le_of_code (Nat.lt_of_le_of_lt colon_line next.behind) next.code
    have deep := block.deeper m from_first le below there code
    obtain ⟨after', split'⟩ := headed.line
    have header := nest.block.deeper (before'.length + 1)
      (nest.block.begins.le_of_code behind (codeAt_line headed)) inside line' (getElem?_line split') headed.code
    omega

/-- No function or loop but this one begins on the line. -/
theorem owner_unique (nest : Nest profile text before line hit head first last owner body) {other : Draft}
    (member : other ∈ drafts profile text) (kind : other.kind = .function ∨ other.kind = .loop)
    (here : other.span.start.line = before.length + 1) : other = owner := by
  refine nest.opening.balanced.eq_of_opens member nest.of.owner_mem (Sketch.opens_iff.2 ⟨kind, here⟩) ?_
  refine Sketch.opens_iff.2 ⟨Or.inr nest.loop, ?_⟩
  rw [show owner.toSketch.span = _ from nest.headed.span]

/-- What belongs to a function or a loop that begins on the line is the body. -/
theorem eq_body_of_line (nest : Nest profile text before line hit head first last owner body) {other : Draft}
    (of : OwnerOf profile text other d) (here : other.span.start.line = before.length + 1) : d = body := by
  refine eq_of_id of.body_mem nest.of.body_mem (Option.some.inj ?_)
  rw [← of.named, ← nest.of.named, nest.owner_unique of.owner_mem of.owns.kind here]

/-- What begins in the block ends no later than the block. -/
theorem line_le_of_mem (nest : Nest profile text before line hit head first last owner body)
    (member : d ∈ drafts profile text) (behind : before.length + 1 < d.span.start.line)
    (inside : d.span.start.line ≤ last) : d.span.stop.line ≤ last := by
  cases nest.opening.balanced.laidOut member with
  | flat _ same _ => omega
  | @between pair _ paired span =>
    rw [span] at behind inside ⊢
    unfold Span.ofOffsets at behind inside ⊢
    have closed := ((nest.enclosed pair paired).1 ⟨Nat.le_of_lt behind, inside⟩).2
    exact (line_behind_pair paired).trans_le closed
  | @owner before' line' colon b of headed =>
    have span : d.span = _ := headed.span
    rw [span] at behind inside ⊢
    exact nest.stop_le_of_inside headed behind inside
  | @body before' line' colon o of headed =>
    have span : o.span = _ := headed.span
    have order := Position.line_le_of_le of.owns.start_le
    rw [show o.toSketch.span = _ from headed.span] at order
    dsimp only at order
    rcases Nat.lt_trichotomy (before'.length + 1) (before.length + 1) with above | same | below
    · rcases nest.start_of_above headed above with early | same
      · exact absurd behind (Nat.lt_asymm early)
      · rw [show d.span.start = _ from same, show owner.span = _ from nest.headed.span] at behind
        exact absurd behind (Nat.lt_irrefl _)
    · rw [nest.eq_body_of_line of (by rw [span]; exact same), nest.span]
    · exact nest.stop_le_of_inside headed below (Nat.le_trans order inside)

/-- The code of the last line of the block is the end of the body. -/
theorem stop_le_of_line_le (nest : Nest profile text before line hit head first last owner body) {p : Position}
    (on : ∃ below ∈ (source profile text).lines[p.line - 1]?, p.col ≤ (trimRight below).length)
    (le : p.line ≤ last) : p.le body.span.stop = true := by
  obtain ⟨below, there, within⟩ := on
  rw [nest.span, Position.le_iff]
  rcases Nat.eq_or_lt_of_le le with rfl | lt
  · refine Or.inr ⟨rfl, ?_⟩
    rw [there, Option.getD_some]
    exact within
  · exact Or.inl lt

/-- What begins in the block begins no earlier than the body. -/
theorem le_start_of_line_le (nest : Nest profile text before line hit head first last owner body) {p : Position}
    (on : ∃ below ∈ (source profile text).lines[p.line - 1]?, ∃ x, below[p.col]? = some x ∧ isBlank x = false)
    (behind : before.length + 1 < p.line) : body.span.start.le p = true := by
  obtain ⟨below, there, x, here, inky⟩ := on
  have from_first := nest.block.begins.le_of_code behind
    ⟨below, there, x, List.mem_of_getElem? here, inky⟩
  rw [nest.span, Position.le_iff]
  rcases Nat.eq_or_lt_of_le from_first with rfl | lt
  · refine Or.inr ⟨rfl, ?_⟩
    rw [there, Option.getD_some]
    exact leadingBlanks_le here inky
  · exact Or.inl lt

/-- The body holds what begins in the block. -/
theorem contains (nest : Nest profile text before line hit head first last owner body)
    (member : d ∈ drafts profile text) (behind : before.length + 1 < d.span.start.line)
    (inside : d.span.start.line ≤ last) : body.span.contains d.span = true := by
  have on := nest.opening.balanced.onCode member
  exact Span.contains_iff.2 ⟨nest.le_start_of_line_le on.starts behind,
    nest.stop_le_of_line_le on.stops (nest.line_le_of_mem member behind inside)⟩

/-- The span of the loop begins on the line and ends with the body. -/
theorem owner_span (nest : Nest profile text before line hit head first last owner body) :
    owner.span = ⟨⟨before.length + 1, leadingBlanks line⟩, body.span.stop⟩ :=
  nest.headed.span

/-- The body belongs to a header on another line, so it comes before everything else with its span. -/
theorem rank_body (nest : Nest profile text before line hit head first last owner body) :
    Forest.rank (kept profile text) body = -2 := by
  have kept_owner : owner ∈ kept profile text := nest.opening.balanced.kept_eq ▸ nest.of.owner_mem
  have apart : ¬owner.span = body.span := by
    rw [nest.owner_span, nest.span]
    intro same
    have := congrArg (·.start.line) same
    have := nest.opening.next.behind
    dsimp only at *
    omega
  rw [nest.of.rank_body_eq kept_owner, if_neg (by rwa [beq_iff_eq])]

end Nest

/-- What ranks before everything else is the body of an owner with another span. -/
theorem exists_owner_of_rank {d : Draft} (member : d ∈ kept profile text)
    (low : Forest.rank (kept profile text) d < 0) :
    ∃ owner, OwnerOf profile text owner d ∧ owner.span ≠ d.span := by
  have positive : ∀ kind, 0 ≤ Forest.priority kind := by
    intro kind
    cases kind <;> decide
  cases found : (kept profile text).find? (·.body == some d.id) with
  | none =>
    have := positive d.kind
    rw [Forest.rank, Forest.rankWithin_of_none found] at low
    omega
  | some owner =>
    have named := List.find?_some found
    have kept_owner := List.mem_of_find?_eq_some found
    have of := ownerOf_of_named (mem_drafts_of_mem_kept kept_owner) (mem_drafts_of_mem_kept member) (eq_of_beq named)
    refine ⟨owner, of, fun same => ?_⟩
    have := positive owner.kind
    rw [of.rank_body_eq kept_owner, if_pos (beq_iff_eq.2 same)] at low
    omega

namespace Nest

variable {before before' : List (List Char)} {line line' : List Char} {hit : Hit} {head : List Char}
  {first last colon : Nat} {owner body d : Draft} {owner' body' : Sketch}

/-- Nothing but the loop begins on the line and reaches as far as the body, unless it is in front of the loop. -/
theorem not_reaches_of_line (nest : Nest profile text before line hit head first last owner body)
    (member : d ∈ drafts profile text) (other : d ≠ owner) (other' : d ≠ body)
    (here : d.span.start.line = before.length + 1)
    (order : Forest.comesFirst (Forest.rank (kept profile text) owner, owner)
      (Forest.rank (kept profile text) d, d) = true) :
    ¬body.span.stop.le d.span.stop = true := by
  intro reaches
  have behind := nest.opening.next.behind
  have le := nest.block.le
  have stop := Position.line_le_of_le reaches
  rw [nest.span] at stop
  dsimp only at stop
  cases nest.opening.balanced.laidOut member with
  | flat _ same _ => omega
  | @between pair _ paired span =>
    rw [span] at here stop
    unfold Span.ofOffsets at here stop
    have closes := nest.opening.closes_of_opens paired here
    dsimp only at stop
    rw [line_behind_pair paired] at stop
    omega
  | owner of headed => exact other (nest.owner_unique member of.owns.kind here)
  | @body before' line' colon o of headed =>
    have begins : o.span = _ := headed.span
    have ahead := Position.line_le_of_le of.owns.start_le
    rw [show o.toSketch.span = _ from headed.span, show d.toSketch.span.start.line = _ from here] at ahead
    dsimp only at ahead
    rcases Nat.lt_or_eq_of_le ahead with above | same
    · rcases nest.start_of_above headed above with early | start
      · exact absurd here (Nat.ne_of_lt early)
      · -- It is a body that begins with the loop and ends with it, and such a body comes first.
        obtain ⟨-, longer⟩ := Forest.comesFirst_iff.1 order
        obtain ⟨shorter, ranks⟩ := longer start.symm
        rw [show owner.span.stop = body.span.stop from nest.of.owns.stop_eq] at shorter ranks
        have order := ranks (Position.le_antisymm reaches shorter)
        have apart : ¬o.span = d.span := by
          intro same
          have := congrArg (·.start.line) same
          rw [begins] at this
          dsimp only at this
          omega
        have kept_eq := nest.opening.balanced.kept_eq
        rw [nest.of.rank_eq, of.rank_body_eq (kept_eq ▸ of.owner_mem), if_neg (by rwa [beq_iff_eq]),
          nest.loop] at order
        exact absurd (show (2 : Int) ≤ -2 from order) (by decide)
    · exact other' (nest.eq_body_of_line of (by rw [begins]; exact same))

/-- Nothing that begins in the block comes in front of the body and reaches as far as it does. -/
theorem not_reaches_of_block (nest : Nest profile text before line hit head first last owner body)
    (member : d ∈ drafts profile text) (other : d ≠ body) (behind : before.length + 1 < d.span.start.line)
    (order : Forest.comesFirst (Forest.rank (kept profile text) d, d)
      (Forest.rank (kept profile text) body, body) = true) :
    ¬body.span.stop.le d.span.stop = true := by
  intro reaches
  have kept_eq := nest.opening.balanced.kept_eq
  obtain ⟨start, later⟩ := Forest.comesFirst_iff.1 order
  have from_body := Position.line_le_of_le start
  rw [nest.span] at from_body
  dsimp only at from_body
  obtain ⟨start', stop⟩ := Span.contains_iff.1
    (nest.contains member behind (Nat.le_trans from_body nest.block.le))
  have same_start : d.span.start = body.span.start := Position.le_antisymm start start'
  have same_stop : d.span.stop = body.span.stop := Position.le_antisymm stop reaches
  -- So it has the span of the body and comes first like it: it is the body of another header.
  have rank := (later same_start).2 same_stop
  rw [nest.rank_body] at rank
  obtain ⟨o, of, apart⟩ := exists_owner_of_rank (kept_eq ▸ member) (Int.lt_of_le_of_lt rank (show (-2 : Int) < 0 by decide))
  obtain ⟨before', line', colon, headed⟩ := nest.opening.balanced.headed of
  have begins : o.span = _ := headed.span
  have ahead := of.owns.start_le
  rw [show o.toSketch.span = _ from headed.span, show d.toSketch.span.start = _ from same_start, nest.span,
    Position.le_iff] at ahead
  dsimp only at ahead
  rcases Nat.lt_trichotomy (before'.length + 1) (before.length + 1) with above | same | below
  · rcases nest.start_of_above headed above with early | begins'
    · exact absurd behind (Nat.lt_asymm early)
    · rw [show d.span.start = _ from begins', nest.owner_span] at behind
      exact absurd behind (Nat.lt_irrefl _)
  · exact other (nest.eq_body_of_line of (by rw [begins]; exact same))
  · -- The other header stands where the body begins.
    have from_first := nest.block.begins.le_of_code below (codeAt_line headed)
    have same : first = before'.length + 1 := by omega
    obtain ⟨after, split⟩ := headed.line
    have here : (source profile text).lines[before'.length + 1 - 1]? = some line' := getElem?_line split
    refine apart ?_
    have stop_eq : o.span.stop = d.span.stop := of.owns.stop_eq
    have start_eq : o.span.start = d.span.start := by
      rw [same_start, nest.span, begins, same, here, Option.getD_some]
    rw [show o.span = ⟨o.span.start, o.span.stop⟩ from rfl, start_eq, stop_eq]

/-- Nothing comes between the loop and its body that reaches as far as the body. -/
theorem not_severed (nest : Nest profile text before line hit head first last owner body) :
    ¬Severed profile text owner body := by
  rintro ⟨front, mid, back, split, d, between, -, reaches⟩
  have sorted := Forest.pairwise_ordered (kept profile text)
  have nodup := nodup_ordered profile text
  rw [split] at sorted nodup
  have behind := List.pairwise_cons.1 (List.pairwise_append.1 sorted).2.1
  have member : d ∈ drafts profile text := by
    refine mem_drafts_of_mem_kept (mem_kept_of_mem_ordered ?_)
    rw [split]
    simp [between]
  have from_owner := behind.1 d (List.mem_append_left _ between)
  have to_body := (List.pairwise_append.1 behind.2).2.2 d between body (List.mem_cons_self ..)
  have distinct := List.nodup_cons.1 (List.nodup_append.1 nodup).2.1
  have other : d ≠ owner := by
    rintro rfl
    exact distinct.1 (List.mem_append_left _ between)
  have other' : d ≠ body := (List.nodup_append.1 distinct.2).2.2 d between body (List.mem_cons_self ..)
  have from_line := Position.line_le_of_le (Forest.comesFirst_iff.1 from_owner).1
  dsimp only at from_line
  rw [nest.owner_span] at from_line
  rcases Nat.eq_or_lt_of_le from_line with here | below
  · exact nest.not_reaches_of_line member other other' here.symm from_owner reaches
  · exact nest.not_reaches_of_block member other' below to_body reaches

/-- A loop in the block is among the drafts that follow the body directly and lie inside of it. -/
theorem mem_takeWhile (nest : Nest profile text before line hit head first last owner body)
    (member : d ∈ drafts profile text) (kind : d.kind = .loop) (from_first : first ≤ d.span.start.line)
    (inside : d.span.start.line ≤ last) {front rest : List Draft}
    (split : Forest.ordered (kept profile text) = front ++ body :: rest) :
    d ∈ rest.takeWhile (body.span.contains ·.span) := by
  have kept_eq := nest.opening.balanced.kept_eq
  have behind := Nat.lt_of_lt_of_le nest.opening.next.behind from_first
  have contains := nest.contains member behind inside
  have later : Forest.comesFirst (Forest.rank (kept profile text) d, d)
      (Forest.rank (kept profile text) body, body) = false := by
    rw [Bool.eq_false_iff]
    intro order
    obtain ⟨start, ranks⟩ := Forest.comesFirst_iff.1 order
    obtain ⟨start', stop⟩ := Span.contains_iff.1 contains
    obtain ⟨stop', rank⟩ := ranks (Position.le_antisymm start start')
    have rank := rank (Position.le_antisymm stop stop')
    obtain ⟨b, of⟩ := exists_ownerOf member (Or.inr kind)
    rw [nest.rank_body, of.rank_eq, kind] at rank
    exact absurd (show (2 : Int) ≤ -2 from rank) (by decide)
  obtain ⟨front', mid, back, split'⟩ :=
    Forest.exists_between (kept_eq ▸ nest.of.body_mem) (kept_eq ▸ member) later
  obtain rfl := rest_unique split split'
  have sorted := start_le_of_ordered profile text
  rw [split] at sorted
  have after_body := List.pairwise_cons.1 (List.pairwise_append.1 sorted).2.1
  have between : ∀ x ∈ mid, (body.span.contains ·.span) x = true := by
    intro x among
    have among' : x ∈ drafts profile text := by
      refine mem_drafts_of_mem_kept (mem_kept_of_mem_ordered ?_)
      rw [split]
      simp [among]
    have start := Position.line_le_of_le (after_body.1 x (List.mem_append_left _ among))
    have start' := Position.line_le_of_le
      ((List.pairwise_append.1 after_body.2).2.2 x among d (List.mem_cons_self ..))
    rw [nest.span] at start
    have below := nest.opening.next.behind
    dsimp only at start
    exact nest.contains among' (by omega) (by omega)
  rw [List.takeWhile_append_of_pos between,
    List.takeWhile_cons_of_pos (p := fun x : Draft => body.span.contains x.span) contains]
  exact List.mem_append_right _ (List.mem_cons_self ..)

end Nest

end Outline

end LiveLint
