import LiveLint.Proofs.Scan.LoopBlocks

/-!
# Where findings begin

Whatever is found and is no error begins no later than it ends. No two functions begin at one place: among indented
blocks a line has one header, and between curly brackets nothing stands between the beginning of a function and its
name that could be the bracket of its parameters. So what begins at one place has one parameter list, which belongs
to the function that claims it first.
-/

namespace LiveLint

/-!
## Spans run forward
-/

/-- A span begins no later than it ends. -/
def Span.Forward (s : Span) : Prop := s.start.le s.stop = true

theorem Span.forward_ofOffsets (cs : List Char) {i j : Nat} (le : i ≤ j) : (Span.ofOffsets cs i j).Forward :=
  Position.ofOffset_mono cs le

theorem Span.forward_of_line {line i j : Nat} (le : i ≤ j) : Span.Forward ⟨⟨line, i⟩, ⟨line, j⟩⟩ :=
  Position.le_iff.2 (Or.inr ⟨rfl, le⟩)

/-- Everything that was found together and is no error runs forward. -/
def Finding.Forward (f : Finding) : Prop := ∀ s ∈ f.sketches, s.kind ≠ .error → s.span.Forward

theorem Finding.forward_plain {s : Sketch} (forward : s.kind ≠ .error → s.span.Forward) :
    (Finding.plain s).Forward := by
  intro s' member
  rw [List.mem_singleton.1 member]
  exact forward

/-- An owner runs forward if its body does. -/
theorem Finding.forward_block {owner body : Sketch} (owns : owner.Owns body) (forward : body.span.Forward) :
    (Finding.block owner body).Forward := by
  intro s member _
  rcases List.mem_cons.1 member with rfl | member
  · unfold Span.Forward
    rw [owns.stop_eq]
    exact Position.le_trans owns.start_le forward
  · rw [List.mem_singleton.1 member]
    exact forward

namespace Scan

theorem Leaves.forward_of_mem_findings {profile : Profile} {lines : List (List Char)} {f : Finding}
    (member : f ∈ findings profile lines) : f.Forward := by
  cases found_of_mem_findings member with
  | leaf _ _ among span =>
    refine Finding.forward_plain fun _ => ?_
    rw [span]
    exact Span.forward_of_line (Text.Pattern.ordered_of_mem_hits among).start_le_stop

namespace Brace

variable {profile : Profile} {s : Source}

theorem forward_of_mem_functions (of : s.OfText) {f : Finding} (member : f ∈ functions profile s) : f.Forward := by
  obtain ⟨c, paren, close, brace, last, found, function, here⟩ := exists_of_mem_functions member
  obtain ⟨name, rfl⟩ := function.found_eq
  have in_order := function.in_order of
  rcases List.mem_cons.1 here with rfl | here
  · exact Finding.forward_block ⟨Or.inl rfl, rfl, Position.ofOffset_mono s.masked (by omega), rfl⟩
      (Span.forward_ofOffsets s.masked (by omega))
  · rw [List.mem_singleton.1 here]
    exact Finding.forward_plain fun _ => Span.forward_ofOffsets s.masked (by omega)

/-- A field begins with its line. -/
theorem forward_of_fieldAt? {line : Nat} {text : List Char} {f : Finding} (found : fieldAt? line text = some f) :
    f.Forward := by
  obtain ⟨hit, matched, rfl⟩ := Option.map_eq_some_iff.1 found
  obtain ⟨after, groups, -, same, -⟩ := Text.Pattern.attempt_takes field _ _ _ _ matched
  cases same
  exact Finding.forward_plain fun _ => Span.forward_of_line (Nat.zero_le _)

theorem forward_of_mem_findings (of : s.OfText) {f : Finding} (member : f ∈ findings profile s) : f.Forward := by
  unfold findings at member
  dsimp only at member
  simp only [List.mem_append] at member
  rcases member with (((function | loop) | declaration) | enumeration) | field
  · exact forward_of_mem_functions of function
  · obtain ⟨start, first, last, head, tail, rfl⟩ := exists_of_mem_loops of loop
    exact Finding.forward_block ⟨Or.inr rfl, rfl, Position.ofOffset_mono s.masked head, rfl⟩
      (Span.forward_ofOffsets s.masked tail)
  · obtain ⟨start, stop, le, rfl⟩ := exists_of_mem_declarations declaration
    exact Finding.forward_plain fun _ => Span.forward_ofOffsets s.masked le
  · obtain ⟨start, stop, le, rfl⟩ := exists_of_mem_enumerations of enumeration
    exact Finding.forward_plain fun _ => Span.forward_ofOffsets s.masked le
  · obtain ⟨line, text, -, found⟩ := exists_of_mem_fields of field
    exact forward_of_fieldAt? found

end Brace

namespace Indent

open Text

variable {profile : Profile} {s : Source}

theorem leadingBlanks_le_trimRight {text : List Char} (code : HasCode text) :
    leadingBlanks text ≤ (trimRight text).length := by
  obtain ⟨x, there, inky⟩ := code_at_leadingBlanks code
  exact Nat.le_of_lt (lt_length_trimRight there inky)

theorem BodyBehind.forward {lines : List (List Char)} {header : Nat} {colon : Position} {body : Sketch}
    (behind : BodyBehind lines header colon body) : body.span.Forward := by
  cases behind with
  | @line text here code span =>
    obtain ⟨x, there, inky⟩ := code_at_leadingBlanks code
    rw [List.getElem?_drop] at there
    rw [span]
    exact Span.forward_of_line (Nat.le_of_lt (lt_length_trimRight there inky))
  | @block first last blank block span =>
    obtain ⟨text, here, code⟩ := block.begins.code
    rw [span]
    rcases Nat.lt_or_eq_of_le block.le with lt | rfl
    · exact Position.le_iff.2 (Or.inl lt)
    · rw [Option.mem_def.1 here]
      exact Span.forward_of_line (leadingBlanks_le_trimRight code)

/-- What was found with a body runs forward. -/
theorem forward_of_block (of : s.OfText) {owner body : Sketch} (member : .block owner body ∈ findings profile s) :
    (Finding.block owner body).Forward := by
  cases laid_of_mem_findings of member with
  | block headed =>
    cases shaped_of_mem_findings of member with
    | block owns _ => exact Finding.forward_block owns headed.behind.forward

theorem forward_of_mem_findings (of : s.OfText) {f : Finding} (member : f ∈ findings profile s) : f.Forward := by
  obtain ⟨before, text, after, line, found⟩ := exists_line_of_mem_findings member
  unfold lineFindings at found
  split at found
  · unfold functionAt at found
    dsimp only at found
    split at found
    · cases found
    · next close closed =>
      split at found
      · rw [List.mem_singleton.1 found]
        exact Finding.forward_plain fun readable => absurd rfl readable
      · rcases List.mem_cons.1 found with rfl | parameters
        · exact forward_of_block of member
        · rw [List.mem_singleton.1 parameters]
          rw [of.brackets] at closed
          exact Finding.forward_plain fun _ => Span.forward_ofOffsets s.masked
            (Nat.le_succ_of_le (Nat.le_of_lt (Brackets.lt_of_closer? closed)))
  · split at found
    · unfold loopAt at found
      dsimp only at found
      split at found
      · cases found
      · rw [List.mem_singleton.1 found] at member ⊢
        exact forward_of_block of member
    · unfold constantAt at found
      split at found
      · split at found
        · rw [List.mem_singleton.1 found] at member ⊢
          refine Finding.forward_plain fun _ => ?_
          cases laid_of_mem_findings of member with
          | between paired span =>
            rw [of.brackets] at paired
            rw [span]
            exact Span.forward_ofOffsets s.masked
              (Nat.le_succ_of_le (Nat.le_of_lt (Brackets.lt_of_closer? (Brackets.closer?_eq_some_iff.2 paired))))
          | flat _ on =>
            obtain ⟨text', here, x, there, inky⟩ := on.starts
            have same : s.lines[before.length + 1 - 1]? = some text := by
              rw [of.lines]
              exact getElem?_line (of.lines ▸ line)
            obtain rfl : text = text' := Option.some.inj (same.symm.trans here)
            exact Span.forward_of_line (Nat.le_of_lt (lt_length_trimRight there inky))
        · cases found
      · cases found

end Indent

end Scan

/-!
## Names behind the beginning

What leads to the name of a function has no opening bracket. So the first bracket behind the beginning is the first
one behind the name.
-/

namespace Text.Pattern

/-- A pattern that names a part of what it takes, and takes no character of some kind in front of that part. -/
def Leads (x : Char) (slot : Slot) (p : Pattern) : Prop :=
  ∃ front body back, p = seq (front ++ .group slot body :: back) ∧ (∀ q ∈ front, q.lacks x = true) ∧
    slot ∉ (seq back).slots

theorem attempt_seq_cons {β : Type} (p : Pattern) (ps : List Pattern) (c : Cursor) (groups : Groups)
    (k : Cursor → Groups → Option β) :
    attempt (seq (p :: ps)) c groups k = attempt p c groups fun after groups => attempt (seq ps) after groups k := by
  cases ps with
  | nil => rfl
  | cons q ps => rfl

/-- The part is found, and what was taken in front of it is known. -/
theorem exists_part_of_attempt {x : Char} {slot : Slot} {body : Pattern} {front back : List Pattern}
    (free : ∀ q ∈ front, q.lacks x = true) (once : slot ∉ (seq back).slots) {c : Cursor} {groups : Groups}
    {start : Nat} {hit : Hit} (found : attempt (seq (front ++ .group slot body :: back)) c groups
      (fun after groups => some ⟨start, after.pos, groups⟩) = some hit) :
    ∃ taken rest stop, c.rest = taken ++ rest ∧ x ∉ taken ∧ hit.part? slot = some (c.pos + taken.length, stop) := by
  induction front generalizing c groups with
  | nil =>
    rw [List.nil_append, attempt_seq_cons, attempt] at found
    obtain ⟨after, groups', -, found, -⟩ := attempt_takes body _ _ _ _ found
    obtain ⟨behind, groups'', _, same, takes⟩ := attempt_takes (seq back) _ _ _ _ found
    cases same
    obtain ⟨more, rfl, named⟩ := takes.parts
    refine ⟨[], c.rest, after.pos, rfl, List.not_mem_nil, ?_⟩
    have others : more.lookup slot = none := by
      rw [List.lookup_eq_none_iff]
      intro part member
      rw [bne_iff_ne]
      exact fun same => once (same ▸ named part member)
    unfold Hit.part?
    rw [List.lookup_append, others, Option.none_or, List.lookup_cons_self]
    rfl
  | cons q front ih =>
    rw [List.cons_append, attempt_seq_cons] at found
    obtain ⟨after, groups', taken, found, takes⟩ := attempt_takes q _ _ _ _ found
    obtain ⟨taken', rest, stop, split, free', part⟩ := ih (fun q member => free q (List.mem_cons_of_mem _ member)) found
    refine ⟨taken ++ taken', rest, stop, ?_, ?_, ?_⟩
    · rw [takes.rest, split, List.append_assoc]
    · rw [List.mem_append, not_or]
      exact ⟨takes.free x (free q List.mem_cons_self), free'⟩
    · rw [part, takes.pos, List.length_append, Nat.add_assoc]

end Text.Pattern

namespace Forward

/-- A search steps over characters that it does not look for. -/
theorem find?_of_free {masked taken rest : List Char} {x : Char} {i : Nat} (here : masked.drop i = taken ++ rest)
    (free : x ∉ taken) : find? masked [x] (i + taken.length) = find? masked [x] i := by
  have steps (i : Nat) : findFrom? [x] i (taken ++ rest) = findFrom? [x] (i + taken.length) rest := by
    clear here
    induction taken generalizing i with
    | nil => rfl
    | cons c taken ih =>
      obtain ⟨other, free⟩ := not_or.1 (mt List.mem_cons.2 free)
      have fails : [x].isPrefixOf (c :: (taken ++ rest)) = false := by
        rw [List.isPrefixOf_cons_cons, beq_eq_false_iff_ne.2 other, Bool.false_and]
      rw [List.cons_append, findFrom?, fails, ih free, List.length_cons, Nat.add_right_comm, Nat.add_assoc]
      rfl
  unfold find?
  rw [here, steps, ← List.drop_drop, here, List.drop_left]

/-- What is found begins inside of the text. -/
theorem lt_length_of_find? {masked : List Char} {x : Char} {i j : Nat} (found : find? masked [x] i = some j) :
    i < masked.length := by
  refine Nat.lt_of_not_le fun beyond => ?_
  unfold find? at found
  rw [List.drop_eq_nil_of_le beyond] at found
  cases found

end Forward

/-- A place of a text is at one offset. -/
theorem Position.ofOffset_inj {cs : List Char} {i j : Nat} (inside : i ≤ cs.length) (inside' : j ≤ cs.length)
    (same : ofOffset cs i = ofOffset cs j) : i = j := by
  obtain ⟨before, text, after, col, split, le, rfl⟩ := Text.exists_place inside
  obtain ⟨before', text', after', col', split', le', rfl⟩ := Text.exists_place inside'
  rw [Text.ofOffset_lineStart split le, Text.ofOffset_lineStart split' le'] at same
  obtain ⟨lines, rfl⟩ := Position.mk.inj same
  obtain ⟨rfl, -⟩ := List.append_inj (split.symm.trans split') (Nat.succ.inj lines)
  rfl

/-- A text goes on with a line at the offset of the line. -/
theorem Text.exists_drop_lineStart {cs text : List Char} {before after : List (List Char)}
    (split : lines cs = before ++ text :: after) : ∃ behind, cs.drop (lineStart before) = text ++ behind := by
  induction before generalizing cs with
  | nil => exact exists_of_lines_eq_cons split
  | cons first others ih =>
    obtain ⟨behind, rfl, rest⟩ := lines_eq_cons (by simp) split
    obtain ⟨more, there⟩ := ih rest
    refine ⟨more, ?_⟩
    rw [lineStart_cons, drop_behind]
    exact there

namespace Scan.Brace

open Text Text.Pattern

variable {profile : Profile} {s : Source}

/-- The bracket of the parameters is the first one behind the beginning of a candidate. -/
def Candidate.Direct (masked : List Char) (c : Candidate) : Prop :=
  Forward.find? masked ['('] ((c.name.map (·.2)).getD c.start) = Forward.find? masked ['('] c.start

theorem keywordFunction_leads : Leads '(' .name keywordFunction :=
  ⟨[keyword "function", blanks, maybe (char '*'), blanks], _, [blanks, _, blanks, char '('], rfl, by decide, by decide⟩

theorem arrowFunction_leads : Leads '(' .name arrowFunction :=
  ⟨[], _, _, rfl, nofun, by decide⟩

theorem methodHeader_leads : Leads '(' .name methodHeader :=
  ⟨[blanks, _, maybe (char '*'), blanks], _, [blanks, _, blanks, char '(', _], rfl, by decide, by decide⟩

/-- A candidate was read at a place of a text that begins at an offset. -/
theorem direct_candidate {p : Text.Pattern} (leads : Leads '(' .name p) {masked text : List Char} {offset : Nat}
    {c : Cursor} {hit : Hit} (behind : List Char) (there : masked.drop (offset + c.pos) = c.rest ++ behind)
    (found : hitAt p c = some hit) : (candidate text offset hit).Direct masked := by
  obtain ⟨front, body, back, rfl, free, once⟩ := leads
  obtain ⟨taken, rest, stop, split, free', part⟩ := exists_part_of_attempt free once found
  have start : hit.start = c.pos := by
    obtain ⟨after, groups, -, same, -⟩ := attempt_takes _ _ _ _ _ found
    rw [← Option.some.inj same]
  unfold Candidate.Direct candidate
  rw [part, start]
  dsimp only
  split
  · rfl
  · rw [split, List.append_assoc] at there
    rw [Option.map_some, Option.getD_some, ← Nat.add_assoc]
    exact Forward.find?_of_free there free'

theorem direct_of_mem_candidates (of : s.OfText) {form : Form} {c : Candidate} (member : c ∈ candidates s form) :
    c.Direct s.masked := by
  have in_text {p : Text.Pattern} (leads : Leads '(' .name p)
      (member : c ∈ (hits p s.masked).map (candidate s.masked 0)) : c.Direct s.masked := by
    obtain ⟨hit, among, rfl⟩ := List.mem_map.1 member
    obtain ⟨front, before, rest, split, found⟩ := exists_place_of_mem_hits among
    refine direct_candidate leads [] ?_ found
    rw [List.append_nil, Nat.zero_add, split]
    exact List.drop_left
  cases form with
  | keyword => exact in_text keywordFunction_leads member
  | arrow => exact in_text arrowFunction_leads member
  | method =>
    obtain ⟨before, text, after, hit, split, found, rfl⟩ := exists_line_of_mem_lineCandidates member
    rw [of.lines] at split
    obtain ⟨behind, there⟩ := exists_drop_lineStart split
    rw [Nat.zero_add]
    exact direct_candidate methodHeader_leads (c := .start text) behind there found

end Scan.Brace

/-!
## No two functions begin at one place
-/

/-- Whether something is a function that begins at a place. -/
def Sketch.begins (p : Position) (s : Sketch) : Bool := s.kind == .function && s.span.start == p

theorem Sketch.begins_iff {p : Position} {s : Sketch} : s.begins p = true ↔ s.kind = .function ∧ s.span.start = p := by
  unfold begins
  rw [Bool.and_eq_true, beq_iff_eq, beq_iff_eq]

theorem countP_begins_eq_zero {p : Position} {found : List Finding}
    (other : ∀ f ∈ found, ∀ s ∈ f.sketches, s.kind ≠ .function) :
    (found.flatMap Finding.sketches).countP (·.begins p) = 0 := by
  rw [List.countP_eq_zero]
  intro s member begins
  obtain ⟨f, among, member⟩ := List.mem_flatMap.1 member
  exact other f among s member (Sketch.begins_iff.1 begins).1

namespace Scan

theorem Leaves.kind_ne_function {profile : Profile} {lines : List (List Char)} {f : Finding}
    (member : f ∈ findings profile lines) : ∀ s ∈ f.sketches, s.kind ≠ .function := by
  have shaped : f.Shaped (fun _ => False) fun _ => False := shaped_of_mem_findings member
  cases shaped with
  | error _ why => exact why.elim
  | block _ is_body => exact is_body.elim
  | leaf leaf =>
    intro s among function
    rw [← List.mem_singleton.1 among, function] at leaf
    cases leaf

theorem Indent.countP_begins_findings (profile : Profile) (s : Indent.Source) (p : Position) :
    ((Indent.findings profile s).flatMap Finding.sketches).countP (·.begins p) ≤ 1 := by
  refine Nat.le_trans (List.countP_mono_left fun sketch _ begins => ?_) (countP_opens_findings profile s p.line)
  obtain ⟨function, start⟩ := Sketch.begins_iff.1 begins
  exact Sketch.opens_iff.2 ⟨Or.inl function, congrArg Position.line start⟩

namespace Brace

variable {profile : Profile} {s : Source}

/-- The first bracket behind a place is at an offset. -/
def Claims (masked : List Char) (p : Position) (paren : Nat) : Prop :=
  ∃ i, Position.ofOffset masked i = p ∧ Forward.find? masked ['('] i = some paren

theorem Claims.unique {masked : List Char} {p : Position} {paren paren' : Nat} (claims : Claims masked p paren)
    (claims' : Claims masked p paren') : paren = paren' := by
  obtain ⟨i, here, found⟩ := claims
  obtain ⟨j, here', found'⟩ := claims'
  obtain rfl := Position.ofOffset_inj (Nat.le_of_lt (Forward.lt_length_of_find? found))
    (Nat.le_of_lt (Forward.lt_length_of_find? found')) (here.trans here'.symm)
  exact Option.some.inj (found.symm.trans found')

/-- What was found of a function begins once, where its candidate does. -/
theorem countP_begins_functionAt? {form : Form} {taken : List Nat} {c : Candidate} (ordered : c.Ordered)
    {paren : Nat} {found : List Finding} (some_found : functionAt? profile s form taken c = some (paren, found))
    (p : Position) : (found.flatMap Finding.sketches).countP (·.begins p) =
      if Position.ofOffset s.masked c.start = p then 1 else 0 := by
  obtain ⟨-, -, close, brace, last, function⟩ := exists_of_functionAt? ordered some_found
  obtain ⟨name, rfl⟩ := function.found_eq
  rw [List.flatMap_cons, Finding.sketches, List.cons_append, List.countP_cons, List.countP_eq_zero.2, Nat.zero_add]
  · exact if_congr (Sketch.begins_iff.trans (and_iff_right rfl)) rfl rfl
  · intro sketch member begins
    have kind := (Sketch.begins_iff.1 begins).1
    rcases List.mem_cons.1 member with rfl | member
    · cases kind
    · rw [List.mem_singleton.1 member] at kind
      cases kind

/-- At most one function begins at a place, and none if its parameter list has been claimed. -/
theorem countP_begins_functionsFrom {cs : List (Form × Candidate)}
    (fit : ∀ c ∈ cs, c.2.Ordered ∧ c.2.Direct s.masked) (taken : List Nat) (p : Position) :
    ((functionsFrom profile s taken cs).flatMap Finding.sketches).countP (·.begins p) ≤ 1 ∧
      ∀ paren ∈ taken, Claims s.masked p paren →
        ((functionsFrom profile s taken cs).flatMap Finding.sketches).countP (·.begins p) = 0 := by
  induction cs generalizing taken with
  | nil => exact ⟨Nat.zero_le 1, fun _ _ _ => rfl⟩
  | cons candidate rest ih =>
    obtain ⟨form, c⟩ := candidate
    obtain ⟨ordered, direct⟩ := fit (form, c) List.mem_cons_self
    have later := ih fun c member => fit c (List.mem_cons_of_mem _ member)
    unfold functionsFrom
    split
    · next paren found some_found =>
      obtain ⟨seen, free, -⟩ := exists_of_functionAt? ordered some_found
      have claims : Claims s.masked (.ofOffset s.masked c.start) paren := ⟨c.start, rfl, direct.symm.trans seen⟩
      obtain ⟨once, none_behind⟩ := later (paren :: taken)
      rw [List.flatMap_append, List.countP_append, countP_begins_functionAt? ordered some_found]
      by_cases here : Position.ofOffset s.masked c.start = p
      · subst here
        rw [if_pos rfl, none_behind paren List.mem_cons_self claims]
        refine ⟨Nat.le_refl 1, fun paren' member claims' => ?_⟩
        exact absurd (claims.unique claims' ▸ member) free
      · rw [if_neg here, Nat.zero_add]
        exact ⟨once, fun paren' member => none_behind paren' (List.mem_cons_of_mem paren member)⟩
    · exact later taken

/-- Nothing but functions is found as a function. -/
theorem kind_ne_function (of : s.OfText) {functions : List Finding} {f : Finding}
    (member : f ∈ loops s ++ (declarations s ++ (enumerations s ++ fields s functions))) :
    ∀ sketch ∈ f.sketches, sketch.kind ≠ .function := by
  have plain {sketch : Sketch} (other : sketch.kind ≠ .function) :
      ∀ sketch' ∈ (Finding.plain sketch).sketches, sketch'.kind ≠ .function := by
    intro sketch' among
    rw [List.mem_singleton.1 among]
    exact other
  simp only [List.mem_append] at member
  rcases member with loop | declaration | enumeration | field
  · obtain ⟨start, first, last, -, -, rfl⟩ := exists_of_mem_loops of loop
    intro sketch among
    rcases List.mem_cons.1 among with rfl | among
    · exact NodeKind.noConfusion
    · rw [List.mem_singleton.1 among]
      exact NodeKind.noConfusion
  · obtain ⟨start, stop, -, rfl⟩ := exists_of_mem_declarations declaration
    exact plain NodeKind.noConfusion
  · obtain ⟨start, stop, -, rfl⟩ := exists_of_mem_enumerations of enumeration
    exact plain NodeKind.noConfusion
  · obtain ⟨line, text, -, found⟩ := exists_of_mem_fields of field
    obtain ⟨hit, -, rfl⟩ := Option.map_eq_some_iff.1 found
    exact plain NodeKind.noConfusion

theorem countP_begins_findings (of : s.OfText) (p : Position) :
    ((findings profile s).flatMap Finding.sketches).countP (·.begins p) ≤ 1 := by
  have fit : ∀ c ∈ [Form.keyword, .arrow, .method].flatMap (fun form => (candidates s form).map (form, ·)),
      c.2.Ordered ∧ c.2.Direct s.masked := by
    intro c member
    obtain ⟨form, -, member⟩ := List.mem_flatMap.1 member
    obtain ⟨c, among, rfl⟩ := List.mem_map.1 member
    exact ⟨ordered_of_mem_candidates among, direct_of_mem_candidates of among⟩
  unfold findings
  dsimp only
  rw [List.append_assoc, List.append_assoc, List.append_assoc, List.flatMap_append, List.countP_append,
    @countP_begins_eq_zero p (loops s ++ _) fun f => kind_ne_function of, Nat.add_zero]
  exact (countP_begins_functionsFrom fit [] p).1

end Brace

end Scan

/-!
## Drafts
-/

namespace Outline

variable {profile : Profile} {text : List Char}

/-- Every draft that is no error runs forward. -/
theorem forward_of_mem_drafts {d : Draft} (member : d ∈ drafts profile text) (readable : ¬d.isError = true) :
    d.span.Forward := by
  have readable : d.kind ≠ .error := fun error => readable (beq_iff_eq.2 error)
  have among : d.toSketch ∈ (drafts profile text).map (·.toSketch) := List.mem_map_of_mem member
  unfold drafts at among
  dsimp only at among
  rw [Draft.number_sketches] at among
  obtain ⟨f, found, among⟩ := List.mem_flatMap.1 among
  rcases List.mem_append.1 found with found | leaf
  · rcases List.mem_append.1 found with error | construct
    · obtain ⟨line, -, rfl⟩ := List.mem_map.1 error
      rw [List.mem_singleton.1 among] at readable
      exact absurd rfl readable
    · split at construct
      · exact Scan.Indent.forward_of_mem_findings ⟨rfl, rfl⟩ construct _ among readable
      · exact Scan.Brace.forward_of_mem_findings ⟨rfl, rfl⟩ construct _ among readable
  · exact Scan.Leaves.forward_of_mem_findings leaf _ among readable

/-- Two functions that begin at one place are one draft. -/
theorem eq_of_begins {p : Position} {d d' : Draft} (member : d ∈ drafts profile text)
    (member' : d' ∈ drafts profile text) (begins : d.begins p = true) (begins' : d'.begins p = true) : d = d' := by
  have once : (drafts profile text).countP (fun x : Draft => x.toSketch.begins p) ≤ 1 := by
    rw [show (fun x : Draft => x.toSketch.begins p) = (·.begins p) ∘ (·.toSketch) from rfl, ← List.countP_map]
    unfold drafts
    dsimp only
    rw [Draft.number_sketches, List.flatMap_append, List.flatMap_append, List.countP_append, List.countP_append]
    have leaves := @countP_begins_eq_zero p (Scan.Leaves.findings profile (Text.lines (Mask.mask profile text)))
      fun f => Scan.Leaves.kind_ne_function
    rw [countP_begins_eq_zero, Nat.zero_add, leaves, Nat.add_zero]
    · split
      · exact Scan.Indent.countP_begins_findings ..
      · exact Scan.Brace.countP_begins_findings ⟨rfl, rfl⟩ p
    · intro f error sketch among
      obtain ⟨line, -, rfl⟩ := List.mem_map.1 error
      rw [List.mem_singleton.1 among]
      exact NodeKind.noConfusion
  rw [List.countP_eq_length_filter] at once
  exact eq_of_mem_of_length_le once (List.mem_filter.2 ⟨member, begins⟩) (List.mem_filter.2 ⟨member', begins'⟩)

end Outline

end LiveLint
