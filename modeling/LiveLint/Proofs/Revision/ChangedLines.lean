import LiveLint.Proofs.Revision.Partners
import LiveLint.Proofs.Revision.Tracking
import LiveLint.Proofs.Scan.Searches

/-!
# Changed lines of a revision

The tracker compares paragraphs, everything else counts lines between newlines. The changed ranges of a
revision account for its paragraphs whatever the texts are. They account for its lines where the two ways
of taking a text apart agree, and that is where newlines are the only line boundaries of both texts.
-/

namespace LiveLint

namespace Text

/-- Whether each line boundary of a text is a newline, alone or behind a carriage return. -/
def ruled : List Char → Bool
  | [] => true
  | '\r' :: '\n' :: rest => ruled rest
  | c :: rest => (c == '\n' || !isBreak c) && ruled rest

/-- A line without the carriage return at its end. -/
def dropReturn (line : List Char) : List Char :=
  if line.getLast? = some '\r' then line.dropLast else line

theorem dropReturn_of_not_mem {line : List Char} (free : '\r' ∉ line) : dropReturn line = line := by
  rw [dropReturn, if_neg]
  exact fun last => free (List.mem_of_getLast? last)

theorem dropReturn_append_return (line : List Char) : dropReturn (line ++ ['\r']) = line := by
  rw [dropReturn, if_pos List.getLast?_concat, List.dropLast_concat]

/-- Whatever stands in a line stands in the text. -/
theorem mem_of_mem_lines {c : Char} {line cs : List Char} (member : line ∈ lines cs)
    (inside : c ∈ line) : c ∈ cs := by
  induction cs generalizing line with
  | nil =>
    rw [lines, List.splitOn_nil, List.mem_singleton] at member
    rwa [member] at inside
  | cons first rest ih =>
    by_cases newline : first = '\n'
    · rw [newline, lines_newline_cons] at member
      rcases List.mem_cons.1 member with rfl | later
      · cases inside
      · exact List.mem_cons_of_mem _ (ih later inside)
    · rw [lines_cons_of_ne newline] at member
      cases pieces : lines rest with
      | nil =>
        rw [pieces] at member
        cases member
      | cons piece others =>
        rw [pieces, List.modifyHead_cons] at member
        rcases List.mem_cons.1 member with rfl | later
        · rcases List.mem_cons.1 inside with rfl | inside
          · exact List.mem_cons_self
          · exact List.mem_cons_of_mem _ (ih (pieces ▸ List.mem_cons_self) inside)
        · exact List.mem_cons_of_mem _ (ih (pieces ▸ List.mem_cons_of_mem _ later) inside)

theorem map_dropReturn_lines {cs : List Char} (free : '\r' ∉ cs) :
    (lines cs).map dropReturn = lines cs := by
  have same : ∀ line ∈ lines cs, dropReturn line = line := fun line member =>
    dropReturn_of_not_mem fun inside => free (mem_of_mem_lines member inside)
  exact (List.map_congr_left same).trans (List.map_id _)

theorem modifyHead_nil_append (pieces : List (List Char)) :
    pieces.modifyHead (([] : List Char).reverse ++ ·) = pieces := by
  cases pieces <;> simp

theorem modifyHead_append_reverse_cons (current : List Char) (c : Char) (pieces : List (List Char)) :
    pieces.modifyHead ((c :: current).reverse ++ ·) =
      (pieces.modifyHead (c :: ·)).modifyHead (current.reverse ++ ·) := by
  cases pieces <;> simp

/-- The paragraphs of a ruled text are its lines without their carriage returns, but for an empty line at
the end. -/
theorem paragraphsFrom_prefix_lines {current cs : List Char} (free : '\r' ∉ current)
    (uniform : ruled cs = true) :
    paragraphsFrom current cs <+:
      ((lines cs).modifyHead (current.reverse ++ ·)).map dropReturn := by
  have own {current : List Char} (free : '\r' ∉ current) :
      dropReturn current.reverse = current.reverse :=
    dropReturn_of_not_mem (by simpa using free)
  fun_induction paragraphsFrom current cs with
  | case1 current empty => exact List.nil_prefix
  | case2 current some =>
    have line : ((lines []).modifyHead (current.reverse ++ ·)).map dropReturn = [current.reverse] := by
      rw [lines, List.splitOn_nil, List.modifyHead_cons, List.append_nil, List.map_singleton, own free]
    exact line ▸ List.prefix_refl _
  | case3 current rest ih =>
    rw [lines_cons_of_ne (by decide), lines_newline_cons, List.modifyHead_cons, List.modifyHead_cons,
      List.map_cons, dropReturn_append_return]
    rw [ruled] at uniform
    have later := ih List.not_mem_nil uniform
    rw [modifyHead_nil_append] at later
    exact (List.cons_prefix_cons).2 ⟨rfl, later⟩
  | case4 current c rest other boundary ih =>
    simp only [ruled, boundary, Bool.not_true, Bool.or_false, Bool.and_eq_true, beq_iff_eq] at uniform
    rw [uniform.1, lines_newline_cons, List.modifyHead_cons, List.map_cons, List.append_nil, own free]
    have later := ih List.not_mem_nil uniform.2
    rw [modifyHead_nil_append] at later
    exact (List.cons_prefix_cons).2 ⟨rfl, later⟩
  | case5 current c rest other inside ih =>
    have newline : c ≠ '\n' := by
      rintro rfl
      exact inside rfl
    have carriage : '\r' ≠ c := by
      rintro rfl
      exact inside rfl
    have later : ruled rest = true := by
      simp only [ruled, inside, Bool.not_false, Bool.or_true, Bool.true_and] at uniform
      exact uniform
    have := ih (by simp [carriage, free]) later
    rwa [modifyHead_append_reverse_cons, ← lines_cons_of_ne newline] at this

/-- The paragraphs of a ruled text are its lines without their carriage returns, but for an empty line at
the end. -/
theorem paragraphs_prefix_lines {cs : List Char} (uniform : ruled cs = true) :
    paragraphs cs <+: (lines cs).map dropReturn := by
  have found := paragraphsFrom_prefix_lines List.not_mem_nil uniform
  rwa [modifyHead_nil_append] at found

/-- A ruled text has a paragraph for each newline, and one more if characters are left behind the last. -/
theorem length_paragraphsFrom {current cs : List Char} (uniform : ruled cs = true) :
    (paragraphsFrom current cs).length =
      cs.count '\n' +
        if cs.isEmpty then (if current.isEmpty then 0 else 1)
        else if cs.getLast? == some '\n' then 0 else 1 := by
  fun_induction paragraphsFrom current cs with
  | case1 current empty => simp [empty]
  | case2 current some => simp [some]
  | case3 current rest ih =>
    rw [ruled] at uniform
    rw [List.length_cons, ih uniform, List.count_cons_of_ne (by decide), List.count_cons_self]
    cases rest with
    | nil => rfl
    | cons c more =>
      simp only [List.isEmpty_cons, Bool.false_eq_true, if_false, List.getLast?_cons_cons]
      omega
  | case4 current c rest other boundary ih =>
    simp only [ruled, boundary, Bool.not_true, Bool.or_false, Bool.and_eq_true, beq_iff_eq] at uniform
    rw [uniform.1, List.length_cons, ih uniform.2, List.count_cons_self]
    cases rest with
    | nil => rfl
    | cons c more =>
      simp only [List.isEmpty_cons, Bool.false_eq_true, if_false, List.getLast?_cons_cons]
      omega
  | case5 current c rest other inside ih =>
    have newline : c ≠ '\n' := by
      rintro rfl
      exact inside rfl
    simp only [ruled, inside, Bool.not_false, Bool.or_true, Bool.true_and] at uniform
    rw [ih uniform, List.count_cons_of_ne newline]
    cases rest with
    | nil => simp [newline]
    | cons d more => simp only [List.isEmpty_cons, Bool.false_eq_true, if_false, List.getLast?_cons_cons]

end Text

/-- The lines of a ruled revision are counted as its paragraphs are. -/
theorem Revision.lineCount_eq {r : Revision} (uniform : Text.ruled r.text.toList = true) :
    r.lineCount = (Text.paragraphs r.text.toList).length := by
  rw [Text.paragraphs, Text.length_paragraphsFrom uniform]
  unfold lineCount
  cases r.text.toList with
  | nil => rfl
  | cons c rest => rfl

/-- Nodes that a revision does not touch hold no changed line. -/
theorem Revision.touches_of_covers {r : Revision} {changed : LineRange} (member : changed ∈ r.changed)
    {line : Nat} (covers : changed.Covers line) {first last : Int} (start : first ≤ line)
    (stop : line ≤ last) : r.touches first last = true := by
  refine List.any_eq_true.2 ⟨changed, member, ?_⟩
  obtain ⟨before, behind⟩ := covers
  rw [LineRange.overlaps, Bool.and_eq_true, decide_eq_true_iff, decide_eq_true_iff]
  omega

namespace Tracker

/-- A new revision that is recorded without ranges compares the paragraphs of its text with those of the
base. -/
theorem changed_record {t : Tracker} {file text language : String} {base : Revision}
    (found : t.base? file = some base) (new : (t.record file text none language).1 ≠ t) :
    (t.record file text none language).2.changed =
      Diff.changedRanges (some base.text.toList) text.toList := by
  rcases t.record_cases file text none language with ⟨latest, _, _, same⟩ | added
  · rw [same] at new
    exact absurd rfl new
  · rw [added]
    dsimp only [next]
    rw [found]
    rfl

/-- For every file and every two texts that are recorded one on the other without ranges, the changed
ranges lie among the paragraphs of the new text, and all other paragraphs have partners in the base that
are the same and in the same order. If newlines, alone or behind a carriage return, are the only line
boundaries of both texts, then this is so for the lines that are counted between newlines, up to carriage
returns at their ends, and without carriage returns it is so for the lines as they are. Whatever lines a
node spans, the revision touches it if one of them has changed. -/
theorem record_accounts (t : Tracker) (file text language : String) (base : Revision)
    (found : t.base? file = some base) (new : (t.record file text none language).1 ≠ t) :
    let r := (t.record file text none language).2
    let old := base.text.toList
    let cs := text.toList
    Diff.Accounts (Text.paragraphs old) (Text.paragraphs cs) (Text.paragraphs cs).length r.changed ∧
      (Text.ruled old = true → Text.ruled cs = true →
        Diff.Accounts ((Text.lines old).map Text.dropReturn) ((Text.lines cs).map Text.dropReturn)
          r.lineCount r.changed) ∧
      (Text.ruled old = true → '\r' ∉ old → Text.ruled cs = true → '\r' ∉ cs →
        Diff.Accounts (Text.lines old) (Text.lines cs) r.lineCount r.changed) ∧
      ∀ changed ∈ r.changed, ∀ line, changed.Covers line →
        ∀ first last : Int, first ≤ line → line ≤ last → r.touches first last = true := by
  intro r old cs
  have accounts : Diff.Accounts (Text.paragraphs old) (Text.paragraphs cs)
      (Text.paragraphs cs).length r.changed := by
    rw [t.changed_record found new]
    exact Diff.accounts_gaps (Text.paragraphs old) (Text.paragraphs cs)
  have lines (uniform : Text.ruled old = true) (uniform' : Text.ruled cs = true) :
      Diff.Accounts ((Text.lines old).map Text.dropReturn) ((Text.lines cs).map Text.dropReturn)
        r.lineCount r.changed := by
    have same : r.text.toList = cs := congrArg String.toList (t.text_record file text none language)
    rw [Revision.lineCount_eq (by rwa [same]), same]
    exact accounts.of_prefix (Text.paragraphs_prefix_lines uniform)
      (Text.paragraphs_prefix_lines uniform')
  refine ⟨accounts, lines, ?_, ?_⟩
  · intro uniform free uniform' free'
    rw [← Text.map_dropReturn_lines free, ← Text.map_dropReturn_lines free']
    exact lines uniform uniform'
  · intro changed member line covers first last start stop
    exact Revision.touches_of_covers member covers start stop

theorem record_accounts_line_replaced :
    let t := (({} : Tracker).record "a" "x\ny\n").1
    let r := (t.record "a" "x\nz\n").2
    (t.base? "a").map (·.text) = some "x\ny\n" ∧ (t.record "a" "x\nz\n").1 ≠ t ∧
      Diff.Accounts [['x'], ['y'], []] [['x'], ['z'], []] 2 r.changed := by
  have new : ((({} : Tracker).record "a" "x\ny\n").1.record "a" "x\nz\n").1 ≠
      (({} : Tracker).record "a" "x\ny\n").1 := by
    intro same
    have counted := congrArg Tracker.serial same
    revert counted
    decide
  refine ⟨by decide, new, ?_⟩
  exact (record_accounts _ "a" "x\nz\n" "" _ rfl new).2.2.1 (by decide) (by decide) (by decide)
    (by decide)

end Tracker

end LiveLint
