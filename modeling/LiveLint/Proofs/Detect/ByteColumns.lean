import LiveLint.Proofs.Detect.Relocation
import LiveLint.Proofs.Parse.Incremental
import LiveLint.Proofs.Parse.NativeRecords
import LiveLint.Proofs.Revision.Splices
import LiveLint.Proofs.Scan.Searches
import Mathlib.Data.List.Induction

/-!
# Columns in bytes and lines of characters

The points of a native node count columns in bytes, but the lines that the node is cut out of are lines of
characters. So the cut is in the wrong place by as many characters as the bytes before it on its line exceed the
characters there. The logical lines of the body of a function are those of its text wherever this is no harm:
where the first line has only ASCII before the body, and the last one has only ASCII up to its end or nothing
behind it.
-/

namespace LiveLint

namespace Text

/-! ## Lines of joined texts -/

def firstLine (cs : List Char) : List Char := (lines cs).headD []

def lastLine (cs : List Char) : List Char := (lines cs).getLastD []

theorem lines_ne_nil (cs : List Char) : lines cs ≠ [] := by
  intro none
  have count := length_lines cs
  rw [none] at count
  cases count

/-- Where two texts meet, the last line of the first and the first line of the second become one. -/
theorem lines_append (xs ys : List Char) :
    lines (xs ++ ys) = (lines xs).dropLast ++ (lastLine xs ++ firstLine ys) :: (lines ys).tail := by
  induction xs with
  | nil =>
    obtain ⟨line, rest, split⟩ := List.exists_cons_of_ne_nil (lines_ne_nil ys)
    have empty : lines [] = [[]] := rfl
    rw [List.nil_append, lastLine, firstLine, empty, split]
    rfl
  | cons c xs ih =>
    obtain ⟨line, rest, split⟩ := List.exists_cons_of_ne_nil (lines_ne_nil xs)
    by_cases newline : c = '\n'
    · have last : lastLine ('\n' :: xs) = lastLine xs := by
        rw [lastLine, lastLine, lines_newline_cons, split]
        rfl
      rw [newline, List.cons_append, lines_newline_cons, ih, last, lines_newline_cons,
        List.dropLast_cons_of_ne_nil (lines_ne_nil xs), List.cons_append]
    · rw [List.cons_append, lines_cons_of_ne newline, ih, lines_cons_of_ne newline]
      unfold lastLine
      rw [lines_cons_of_ne newline, split]
      cases rest with
      | nil => rfl
      | cons next rest => rfl

theorem lastLine_of_lines {cs last : List Char} (front : List (List Char)) (shape : lines cs = front ++ [last]) :
    lastLine cs = last := by
  rw [lastLine, shape, List.getLastD_concat]

/-- A text of one line goes on with the line before it. -/
theorem lastLine_append_of_single {ys line : List Char} (single : lines ys = [line]) (xs : List Char) :
    lastLine (xs ++ ys) = lastLine xs ++ line := by
  have first : firstLine ys = line := by
    rw [firstLine, single]
    rfl
  rw [lastLine, lines_append, single, List.tail_cons, List.getLastD_concat, first]

/-- A text of several lines ends with a line of its own. -/
theorem lastLine_append_of_several {ys line : List Char} {rest : List (List Char)}
    (several : lines ys = line :: rest) (some_more : rest ≠ []) (xs : List Char) :
    lastLine (xs ++ ys) = lastLine ys := by
  obtain ⟨next, more, rfl⟩ := List.exists_cons_of_ne_nil some_more
  unfold lastLine
  rw [lines_append, several, List.tail_cons]
  simp [List.getLastD_eq_getLast?, List.getLast?_cons]

/-! ## Columns in bytes -/

namespace Utf8

/-- A byte below 128 is all that its character has. -/
theorem eq_singleton_of_mem {c : Char} {b : UInt8} (member : b ∈ String.utf8EncodeChar c) (low : b.toNat < 128) :
    String.utf8EncodeChar c = [b] ∧ c.toNat = b.toNat := by
  have same : c.toNat = c.val.toNat := rfl
  unfold String.utf8EncodeChar at member ⊢
  dsimp only at member ⊢
  rw [same]
  generalize c.val.toNat = v at member
  split at member
  · next one =>
    rw [if_pos one]
    obtain rfl := List.mem_singleton.1 member
    rw [UInt8.toNat_ofNat']
    exact ⟨rfl, by omega⟩
  · exfalso
    split at member
    · simp only [List.mem_cons, List.not_mem_nil, or_false] at member
      rcases member with rfl | rfl <;> rw [UInt8.toNat_ofNat'] at low <;> omega
    · split at member
      · simp only [List.mem_cons, List.not_mem_nil, or_false] at member
        rcases member with rfl | rfl | rfl <;> rw [UInt8.toNat_ofNat'] at low <;> omega
      · simp only [List.mem_cons, List.not_mem_nil, or_false] at member
        rcases member with rfl | rfl | rfl | rfl <;> rw [UInt8.toNat_ofNat'] at low <;> omega

theorem length_utf8EncodeChar_pos (c : Char) : 0 < (String.utf8EncodeChar c).length := by
  rw [String.length_utf8EncodeChar]
  exact c.utf8Size_pos

/-- Only a newline has the byte of a newline. -/
theorem newline_not_mem {c : Char} (other : c ≠ '\n') : (10 : UInt8) ∉ String.utf8EncodeChar c := by
  intro member
  obtain ⟨-, number⟩ := eq_singleton_of_mem member (by decide)
  exact other (Char.toNat_inj.1 number)

theorem length_le_length_encode (cs : List Char) : cs.length ≤ (encode cs).length := by
  induction cs with
  | nil => exact Nat.le_refl _
  | cons c cs ih =>
    have pos := length_utf8EncodeChar_pos c
    rw [encode_cons, List.length_append, List.length_cons]
    omega

/-- Where all bytes are below 128 there is a character for each. -/
theorem length_encode_of_ascii {cs : List Char} (ascii : ∀ b ∈ encode cs, b.toNat < 128) :
    (encode cs).length = cs.length := by
  induction cs with
  | nil => rfl
  | cons c cs ih =>
    rw [encode_cons] at ascii ⊢
    obtain ⟨b, more, bytes⟩ := List.exists_cons_of_ne_nil (List.length_pos_iff.1 (length_utf8EncodeChar_pos c))
    have first : b ∈ String.utf8EncodeChar c := bytes ▸ List.mem_cons_self ..
    have alone := (eq_singleton_of_mem first (ascii b (List.mem_append_left _ first))).1
    rw [alone, List.singleton_append, List.length_cons, List.length_cons,
      ih fun b member => ascii b (List.mem_append_right _ member)]

end Utf8

end Text

theorem BytePoint.advance_of_not_mem (p : BytePoint) {bytes : List UInt8} (free : (10 : UInt8) ∉ bytes) :
    p.advance bytes = ⟨p.row, p.col + bytes.length⟩ := by
  induction bytes generalizing p with
  | nil => rfl
  | cons b rest ih =>
    obtain ⟨other, free⟩ := List.ne_and_not_mem_of_not_mem_cons free
    rw [advance, if_neg (by simpa using other.symm), ih _ free, List.length_cons]
    dsimp only
    congr 1
    omega

/-- The point behind a text is in the row of its last line, behind the bytes of that line. -/
theorem BytePoint.advance_encode (cs : List Char) :
    BytePoint.advance ⟨0, 0⟩ (Text.Utf8.encode cs) =
      ⟨cs.count '\n', (Text.Utf8.encode (Text.lastLine cs)).length⟩ := by
  induction cs using List.reverseRecOn with
  | nil => rfl
  | append_singleton cs c ih =>
    rw [Text.Utf8.encode_append, BytePoint.advance_append, ih, List.count_append]
    by_cases newline : c = '\n'
    · subst newline
      have last : Text.lastLine (cs ++ ['\n']) = [] := Text.lastLine_append_of_several rfl (List.cons_ne_nil _ _) cs
      rw [last]
      rfl
    · have single : Text.lines [c] = [[c]] := by
        rw [Text.lines_cons_of_ne newline]
        rfl
      have alone : Text.Utf8.encode [c] = String.utf8EncodeChar c := List.flatMap_singleton ..
      rw [Text.lastLine_append_of_single single, Text.Utf8.encode_append, alone,
        advance_of_not_mem _ (Text.Utf8.newline_not_mem newline), List.length_append,
        List.count_singleton, if_neg (by simpa using newline), Nat.add_zero]

namespace Text

/-- By how much a column in bytes exceeds the column in characters behind some text. -/
def surplus (cs : List Char) : Nat := (Utf8.encode cs).length - cs.length

/-- The lines of a part of a text, cut at columns in bytes where characters are counted: the first line loses too
much at its beginning, and the last one gets too much from behind the part. -/
def cutLines (before inside behind : List Char) : List (List Char) :=
  ((lines inside).dropLast ++
    [lastLine inside ++ (firstLine behind).take (surplus (lastLine (before ++ inside)))]).modifyHead
      (·.drop (surplus (lastLine before)))

theorem drop_column (line rest : List Char) :
    (line ++ rest).drop (Utf8.encode line).length = rest.drop (surplus line) := by
  rw [List.drop_append, List.drop_eq_nil_of_le (Utf8.length_le_length_encode line), List.nil_append, surplus]

theorem take_column (line rest : List Char) :
    (line ++ rest).take (Utf8.encode line).length = line ++ rest.take (surplus line) := by
  rw [List.take_append, List.take_of_length_le (Utf8.length_le_length_encode line), surplus]

/-- A part within one line is cut at both ends of it. -/
theorem cutLines_of_single {inside line : List Char} (single : lines inside = [line]) (before behind : List Char) :
    cutLines before inside behind =
      [(line ++ (firstLine behind).take (surplus (lastLine before ++ line))).drop (surplus (lastLine before))] := by
  unfold cutLines
  rw [single, lastLine_of_lines [] single, lastLine_append_of_single single]
  rfl

/-- A part of several lines is cut at the beginning of the first one and at the end of the last one. -/
theorem cutLines_of_several {inside line last : List Char} {middle : List (List Char)}
    (several : lines inside = line :: (middle ++ [last])) (before behind : List Char) :
    cutLines before inside behind =
      line.drop (surplus (lastLine before)) :: (middle ++ [last ++ (firstLine behind).take (surplus last)]) := by
  unfold cutLines
  rw [lastLine_append_of_several several (by simp), lastLine_of_lines (line :: middle) several, several,
    ← List.cons_append, List.dropLast_concat]
  rfl

/-- A part that is cut where columns in bytes are columns in characters keeps its lines. What is behind it on its
last line does no harm if there is nothing. -/
theorem cutLines_eq_lines {before inside behind : List Char} (first : surplus (lastLine before) = 0)
    (last : surplus (lastLine (before ++ inside)) = 0 ∨ firstLine behind = []) :
    cutLines before inside behind = lines inside := by
  have nothing : (firstLine behind).take (surplus (lastLine (before ++ inside))) = [] := by
    rcases last with none_more | empty
    · rw [none_more, List.take_zero]
    · rw [empty, List.take_nil]
  have own : (lines inside).dropLast ++ [lastLine inside] = lines inside := by
    rw [lastLine, List.getLastD_eq_getLast?, List.getLast?_eq_some_getLast (lines_ne_nil inside), Option.getD_some,
      List.dropLast_append_getLast]
  unfold cutLines
  rw [nothing, List.append_nil, own, first]
  cases lines inside with
  | nil => rfl
  | cons line rest => rfl

end Text

namespace LogicalLine

variable {profile : Option Profile} {item : Placed} {line : Int}

theorem clip_only (begins : item.startLine = line) (ends : item.endLine = line) (text : List Char) :
    clip item line text = (text.take item.node.endCol).drop item.node.startCol := by
  rw [clip, begins, ends, beq_self_eq_true, if_pos rfl, if_pos rfl]

theorem clip_first (begins : item.startLine = line) (goes_on : line < item.endLine) (text : List Char) :
    clip item line text = text.drop item.node.startCol := by
  have open_end : (line == item.endLine) = false := beq_eq_false_iff_ne.2 (by omega)
  rw [clip, begins, beq_self_eq_true, open_end, if_pos rfl, if_neg Bool.false_ne_true]

theorem clip_last (begun : item.startLine < line) (ends : item.endLine = line) (text : List Char) :
    clip item line text = text.take item.node.endCol := by
  have open_start : (line == item.startLine) = false := beq_eq_false_iff_ne.2 (by omega)
  rw [clip, ends, beq_self_eq_true, open_start, if_pos rfl, if_neg Bool.false_ne_true]

theorem clip_between (begun : item.startLine < line) (goes_on : line < item.endLine) (text : List Char) :
    clip item line text = text := by
  have open_start : (line == item.startLine) = false := beq_eq_false_iff_ne.2 (by omega)
  have open_end : (line == item.endLine) = false := beq_eq_false_iff_ne.2 (by omega)
  rw [clip, open_start, open_end, if_neg Bool.false_ne_true, if_neg Bool.false_ne_true]

/-- A line of a node counts as far as the node covers it. -/
theorem countFrom_cons (begun : item.startLine ≤ line) (covered : line ≤ item.endLine) (text : List Char)
    (rest : List (List Char)) : countFrom profile item line (text :: rest) =
      [clip item line text].countP (holds profile) + countFrom profile item (line + 1) rest := by
  rw [countFrom, if_neg (by omega), decide_eq_true begun, Bool.true_and, List.countP_singleton]

/-- Behind the first line of a node the lines count as they are, up to the last one, which is cut. -/
theorem countFrom_behind {middle : List (List Char)} {last : List Char} (rest : List (List Char))
    (begun : item.startLine < line) (stop : item.endLine = line + middle.length) :
    countFrom profile item line (middle ++ last :: rest) =
      (middle ++ [last.take item.node.endCol]).countP (holds profile) := by
  induction middle generalizing line with
  | nil =>
    rw [List.length_nil, Int.natCast_zero, Int.add_zero] at stop
    rw [List.nil_append, List.nil_append, countFrom_cons (by omega) (by omega), clip_last begun stop,
      countFrom_of_endLine_lt (by omega), Nat.add_zero]
  | cons text middle ih =>
    rw [List.length_cons, Int.natCast_succ] at stop
    rw [List.cons_append, List.cons_append, countFrom_cons (by omega) (by omega), clip_between begun (by omega),
      ih (by omega) (by omega), ← List.countP_append, List.singleton_append]

variable {before inside behind : List Char}

/-- A node with the points of a part of a text has the logical lines of that part, cut at columns in bytes. -/
theorem count_eq_cutLines (startLine : item.startLine = before.count '\n' + 1)
    (startCol : item.node.startCol = (Text.Utf8.encode (Text.lastLine before)).length)
    (endLine : item.endLine = (before ++ inside).count '\n' + 1)
    (endCol : item.node.endCol = (Text.Utf8.encode (Text.lastLine (before ++ inside))).length) :
    count profile (Text.lines (before ++ (inside ++ behind))) item =
      (Text.cutLines before inside behind).countP (holds profile) := by
  have above : ((Text.lines before).dropLast.length : Int) = before.count '\n' := by
    rw [List.length_dropLast, Text.length_lines]
    rfl
  have height : (inside.count '\n' : Int) + 1 = (Text.lines inside).length := by
    rw [Text.length_lines]
    rfl
  rw [List.count_append] at endLine
  obtain ⟨line, rest, split⟩ := List.exists_cons_of_ne_nil (Text.lines_ne_nil inside)
  have joined := Text.lines_append inside behind
  unfold count
  rw [Text.lines_append, countFrom_drop (Text.lines before).dropLast.length (by omega), List.drop_left, above]
  rcases List.eq_nil_or_concat rest with rfl | ⟨middle, last, rfl⟩
  · -- The part lies within one line.
    have here : Text.firstLine (inside ++ behind) = line ++ Text.firstLine behind := by
      rw [Text.firstLine, joined, split, Text.lastLine_of_lines [] split]
      rfl
    rw [split, List.length_singleton] at height
    rw [Text.lastLine_append_of_single split] at endCol
    rw [here, countFrom_cons (by omega) (by omega), clip_only (by omega) (by omega),
      countFrom_of_endLine_lt (by omega), endCol, startCol, ← List.append_assoc, Text.take_column, List.append_assoc,
      Text.drop_column, Text.cutLines_of_single split, Nat.add_zero]
  · rw [List.concat_eq_append] at split
    have own := Text.lastLine_of_lines (line :: middle) split
    rw [split, ← List.cons_append, List.dropLast_concat, own] at joined
    have first : Text.firstLine (inside ++ behind) = line := by
      rw [Text.firstLine, joined]
      rfl
    rw [split, List.length_cons, List.length_append, List.length_singleton] at height
    rw [Text.lastLine_append_of_several split (by simp), own] at endCol
    rw [first, joined, countFrom_cons (by omega) (by omega), clip_first (by omega) (by omega), startCol,
      Text.drop_column, List.cons_append, List.tail_cons, countFrom_behind _ (by omega) (by omega), endCol,
      Text.take_column, Text.cutLines_of_several split, ← List.countP_append, List.singleton_append]

end LogicalLine

/-! ## Offsets between characters -/

namespace Text

/-- A text ends with its last line. -/
theorem exists_eq_append_lastLine (cs : List Char) : ∃ front, cs = front ++ lastLine cs := by
  induction cs using List.reverseRecOn with
  | nil => exact ⟨[], rfl⟩
  | append_singleton cs c ih =>
    by_cases newline : c = '\n'
    · subst newline
      have last : lastLine (cs ++ ['\n']) = [] := lastLine_append_of_several rfl (List.cons_ne_nil _ _) cs
      exact ⟨cs ++ ['\n'], by rw [last, List.append_nil]⟩
    · have single : lines [c] = [[c]] := by
        rw [lines_cons_of_ne newline]
        rfl
      obtain ⟨front, split⟩ := ih
      refine ⟨front, ?_⟩
      rw [lastLine_append_of_single single, ← List.append_assoc, ← split]

namespace Utf8

/-- An offset lies between two characters if a byte next to it is below 128. -/
theorem exists_split_of_low {cs : List Char} {offset : Nat} (le : offset ≤ (encode cs).length)
    (low : ∀ b b', 0 < offset → (encode cs)[offset - 1]? = some b → (encode cs)[offset]? = some b' →
      b.toNat < 128 ∨ b'.toNat < 128) :
    ∃ before behind, cs = before ++ behind ∧ (encode before).length = offset := by
  induction cs generalizing offset with
  | nil => exact ⟨[], [], rfl, (Nat.le_zero.1 le).symm⟩
  | cons c cs ih =>
    rw [encode_cons] at le low
    rw [List.length_append] at le
    rcases Nat.eq_zero_or_pos offset with rfl | pos
    · exact ⟨[], c :: cs, rfl, rfl⟩
    · by_cases inside : offset < (String.utf8EncodeChar c).length
      · -- Both bytes belong to the character, which has more than one.
        exfalso
        have here : offset - 1 < (String.utf8EncodeChar c).length := by omega
        have next := low (String.utf8EncodeChar c)[offset - 1] (String.utf8EncodeChar c)[offset] pos
          (by rw [List.getElem?_append_left here, List.getElem?_eq_getElem])
          (by rw [List.getElem?_append_left inside, List.getElem?_eq_getElem])
        rcases next with low | low
        · have alone := (eq_singleton_of_mem (List.getElem_mem here) low).1
          rw [alone, List.length_singleton] at inside
          omega
        · have alone := (eq_singleton_of_mem (List.getElem_mem inside) low).1
          rw [alone, List.length_singleton] at inside
          omega
      · have later : ∀ b b', 0 < offset - (String.utf8EncodeChar c).length →
            (encode cs)[offset - (String.utf8EncodeChar c).length - 1]? = some b →
            (encode cs)[offset - (String.utf8EncodeChar c).length]? = some b' → b.toNat < 128 ∨ b'.toNat < 128 := by
          intro b b' pos' there there'
          refine low b b' pos ?_ ?_
          · rw [List.getElem?_append_right (by omega), ← there]
            congr 1
            omega
          · rw [List.getElem?_append_right (by omega), there']
        obtain ⟨before, behind, rfl, length⟩ := ih (by omega) later
        refine ⟨c :: before, behind, rfl, ?_⟩
        rw [encode_cons, List.length_append, length]
        omega

/-- The earlier one of two offsets between characters has less in front of it. -/
theorem exists_append_of_le {before behind front back : List Char} (same : before ++ behind = front ++ back)
    (le : (encode before).length ≤ (encode front).length) :
    ∃ inside, front = before ++ inside ∧ behind = inside ++ back := by
  rcases List.append_eq_append_iff.1 same with ⟨inside, front_eq, behind_eq⟩ | ⟨more, before_eq, back_eq⟩
  · exact ⟨inside, front_eq, behind_eq⟩
  · have empty : more = [] := by
      have chars := length_le_length_encode more
      rw [before_eq, encode_append, List.length_append] at le
      exact List.eq_nil_of_length_eq_zero (by omega)
    subst empty
    rw [List.append_nil] at before_eq
    exact ⟨[], by rw [List.append_nil, before_eq], back_eq.symm⟩

end Utf8

end Text

/-- Between an offset and the beginning of its line there are only bytes below 128. -/
def AsciiBefore (bytes : List UInt8) (offset : Nat) : Prop :=
  ∀ i b, offset - (BytePoint.ofOffset bytes offset).col ≤ i → i < offset → bytes[i]? = some b → b.toNat < 128

def EndsLine (bytes : List UInt8) (offset : Nat) : Prop := ∀ b, bytes[offset]? = some b → b = 10

theorem AsciiBefore.low {bytes : List UInt8} {offset : Nat} (ascii : AsciiBefore bytes offset)
    (le : offset ≤ bytes.length) {b : UInt8} (pos : 0 < offset) (before : bytes[offset - 1]? = some b) :
    b.toNat < 128 := by
  obtain ⟨-, line, ⟨above, first, -⟩, col⟩ := BytePoint.at_ofOffset le
  by_cases start : line = offset
  · rw [start] at first
    rcases first with zero | newline
    · omega
    · rw [before] at newline
      cases newline
      decide
  · exact ascii (offset - 1) b (by omega) (by omega) before

/-- The point behind the beginning of a text is where its last line has got to. -/
theorem BytePoint.ofOffset_encode (before behind : List Char) :
    BytePoint.ofOffset (Text.Utf8.encode (before ++ behind)) (Text.Utf8.encode before).length =
      ⟨before.count '\n', (Text.Utf8.encode (Text.lastLine before)).length⟩ := by
  rw [BytePoint.ofOffset, Text.Utf8.encode_append, List.take_left, advance_encode]

theorem AsciiBefore.surplus_eq {before behind : List Char}
    (ascii : AsciiBefore (Text.Utf8.encode (before ++ behind)) (Text.Utf8.encode before).length) :
    Text.surplus (Text.lastLine before) = 0 := by
  obtain ⟨front, split⟩ := Text.exists_eq_append_lastLine before
  have bytes : Text.Utf8.encode before = Text.Utf8.encode front ++ Text.Utf8.encode (Text.lastLine before) := by
    rw [← Text.Utf8.encode_append, ← split]
  unfold AsciiBefore at ascii
  rw [BytePoint.ofOffset_encode, Text.Utf8.encode_append] at ascii
  have low : ∀ b ∈ Text.Utf8.encode (Text.lastLine before), b.toNat < 128 := by
    intro b member
    obtain ⟨k, less, here⟩ := List.mem_iff_getElem.1 member
    have length := congrArg List.length bytes
    rw [List.length_append] at length
    refine ascii ((Text.Utf8.encode front).length + k) b (by dsimp only; omega) (by omega) ?_
    rw [List.getElem?_append_left (by omega), bytes, List.getElem?_append_right (Nat.le_add_right _ _),
      Nat.add_sub_cancel_left, List.getElem?_eq_getElem less, here]
  rw [Text.surplus, Text.Utf8.length_encode_of_ascii low, Nat.sub_self]

theorem EndsLine.firstLine_eq {before behind : List Char}
    (ends : EndsLine (Text.Utf8.encode (before ++ behind)) (Text.Utf8.encode before).length) :
    Text.firstLine behind = [] := by
  cases behind with
  | nil => rfl
  | cons c rest =>
    obtain ⟨b, more, bytes⟩ := List.exists_cons_of_ne_nil
      (List.length_pos_iff.1 (Text.Utf8.length_utf8EncodeChar_pos c))
    have newline : b = 10 := by
      refine ends b ?_
      rw [Text.Utf8.encode_append, List.getElem?_append_right (Nat.le_refl _), Nat.sub_self, Text.Utf8.encode_cons,
        bytes]
      rfl
    have is_newline : c = '\n' := by
      by_contra other
      refine Text.Utf8.newline_not_mem other ?_
      rw [bytes, newline]
      exact List.mem_cons_self ..
    rw [is_newline, Text.firstLine, Text.lines_newline_cons]
    rfl

/-! ## Texts of native nodes -/

namespace Text.Utf8

theorem toList_loop (bytes : ByteArray) (i : Nat) (acc : List UInt8) :
    ByteArray.toList.loop bytes i acc = acc.reverse ++ bytes.data.toList.drop i := by
  fun_induction ByteArray.toList.loop bytes i acc with
  | case1 i acc less ih =>
    have here : i < bytes.data.toList.length := less
    have got : bytes.get! i = bytes.data.toList[i] := by
      change bytes.data[i]! = _
      rw [getElem!_pos bytes.data i less, Array.getElem_toList]
    rw [ih, List.drop_eq_getElem_cons here, got, List.reverse_cons, List.append_assoc]
    rfl
  | case2 i acc more =>
    have none : bytes.data.toList.length ≤ i := Nat.le_of_not_lt more
    rw [List.drop_eq_nil_of_le none, List.append_nil]

/-- The bytes of a text between two offsets. -/
theorem toList_extract (s : String) (start stop : Nat) :
    (s.toUTF8.extract start stop).toList = ((encode s.toList).take stop).drop start := by
  have bytes : s.toUTF8 = (encode s.toList).toByteArray := by
    have spelled : (String.ofList s.toList).toByteArray = s.toList.utf8Encode := String.toByteArray_ofList
    rw [String.ofList_toList] at spelled
    exact spelled
  rw [ByteArray.toList, toList_loop, List.reverse_nil, List.nil_append, List.drop_zero, ByteArray.data_extract, bytes,
    List.data_toByteArray, Array.toList_extract, List.extract_eq_take_drop]
  rw [List.drop_take]

end Text.Utf8

def NativePoint.ofOffset (bytes : List UInt8) (offset : Nat) : NativePoint :=
  ⟨(BytePoint.ofOffset bytes offset).row, (BytePoint.ofOffset bytes offset).col⟩

namespace NativeNode

/-- The offsets of a native node lie in a text, and its points are those of the offsets. -/
structure Agrees (n : NativeNode) (bytes : List UInt8) : Prop where
  start_le : n.startByte ≤ n.endByte
  end_le : n.endByte ≤ bytes.length
  startPoint : n.startPoint = .ofOffset bytes n.startByte
  endPoint : n.endPoint = .ofOffset bytes n.endByte

/-- A native node before which there is only ASCII on its first line, and up to the end of which there is only
ASCII on its last line or behind which there is nothing. -/
structure Clear (n : NativeNode) (bytes : List UInt8) : Prop where
  start : AsciiBefore bytes n.startByte
  stop : AsciiBefore bytes n.endByte ∨ EndsLine bytes n.endByte

/-- A placed node has the type and the points of a native one. -/
structure ShownBy (n : NativeNode) (item : Placed) : Prop where
  type : item.node.type = n.type
  startLine : item.startLine = n.startPoint.row + 1
  startCol : item.node.startCol = n.startPoint.col
  endLine : item.endLine = n.endPoint.row + 1
  endCol : item.node.endCol = n.endPoint.col

theorem shownBy_of_recorded {profile : Profile} {code : ByteArray} {row : Int} {a : Arena} {n : NativeNode} {v : Visit}
    (recorded : Normalize.Recorded profile code row a n v.index) {root : Root} (line : (root.line : Int) = row + 1)
    {item : Placed} (placed : a.place? root v = some item) : n.ShownBy item := by
  obtain ⟨parent, children, body, found⟩ := recorded
  unfold Arena.place? at placed
  rw [found] at placed
  cases placed
  refine ⟨rfl, ?_, rfl, ?_, rfl⟩
  · dsimp only [Normalize.record]
    omega
  · dsimp only [Normalize.record]
    omega

variable {n : NativeNode} {item : Placed} {s : String} {before inside behind : List Char}

/-- The text of a native node is what lies between its offsets. -/
theorem text_eq (split : s.toList = before ++ (inside ++ behind))
    (start : n.startByte = (Text.Utf8.encode before).length)
    (stop : n.endByte = (Text.Utf8.encode (before ++ inside)).length) :
    Normalize.text s.toUTF8 n = String.ofList inside := by
  rw [Normalize.text, Text.Utf8.toList_extract, split, start, stop, ← List.append_assoc,
    Text.Utf8.encode_append (before ++ inside), List.take_left, Text.Utf8.encode_append before, List.drop_left,
    Text.Utf8.lenient_encode]

/-- A native node has the logical lines of its part of the text, cut at columns in bytes. -/
theorem count_eq_cutLines (profile : Option Profile) (agrees : n.Agrees (Text.Utf8.encode s.toList))
    (shown : n.ShownBy item) (split : s.toList = before ++ (inside ++ behind))
    (start : n.startByte = (Text.Utf8.encode before).length)
    (stop : n.endByte = (Text.Utf8.encode (before ++ inside)).length) :
    LogicalLine.count profile (Text.lines s.toList) item =
      (Text.cutLines before inside behind).countP (LogicalLine.holds profile) := by
  have first : n.startPoint = ⟨before.count '\n', (Text.Utf8.encode (Text.lastLine before)).length⟩ := by
    rw [agrees.startPoint, NativePoint.ofOffset, start, split, BytePoint.ofOffset_encode]
  have last : n.endPoint =
      ⟨(before ++ inside).count '\n', (Text.Utf8.encode (Text.lastLine (before ++ inside))).length⟩ := by
    rw [agrees.endPoint, NativePoint.ofOffset, stop, split, ← List.append_assoc, BytePoint.ofOffset_encode]
  rw [split]
  apply LogicalLine.count_eq_cutLines
  · rw [shown.startLine, first]
  · rw [shown.startCol, first]
  · rw [shown.endLine, last]
  · rw [shown.endCol, last]

/-- A native node that is clear lies between characters. -/
theorem exists_split_of_clear (agrees : n.Agrees (Text.Utf8.encode s.toList))
    (clear : n.Clear (Text.Utf8.encode s.toList)) :
    ∃ before inside behind, s.toList = before ++ (inside ++ behind) ∧
      n.startByte = (Text.Utf8.encode before).length ∧
      n.endByte = (Text.Utf8.encode (before ++ inside)).length := by
  obtain ⟨before, rest, split, start⟩ :=
    Text.Utf8.exists_split_of_low (Nat.le_trans agrees.start_le agrees.end_le) fun b b' pos there _ =>
      Or.inl (clear.start.low (Nat.le_trans agrees.start_le agrees.end_le) pos there)
  obtain ⟨front, behind, split', stop⟩ :=
    Text.Utf8.exists_split_of_low agrees.end_le fun b b' pos there there' => by
      rcases clear.stop with ascii | ends
      · exact Or.inl (ascii.low agrees.end_le pos there)
      · rw [ends b' there']
        exact Or.inr (by decide)
  have le : (Text.Utf8.encode before).length ≤ (Text.Utf8.encode front).length := by
    rw [start, stop]
    exact agrees.start_le
  obtain ⟨inside, rfl, rfl⟩ := Text.Utf8.exists_append_of_le (split.symm.trans split') le
  exact ⟨before, inside, behind, split, start.symm, stop.symm⟩

/-- A native node that is clear has the logical lines of its text. -/
theorem count_of_clear (profile : Option Profile) (agrees : n.Agrees (Text.Utf8.encode s.toList))
    (shown : n.ShownBy item) (clear : n.Clear (Text.Utf8.encode s.toList)) :
    LogicalLine.count profile (Text.lines s.toList) item =
      (Text.lines (Normalize.text s.toUTF8 n).toList).countP (LogicalLine.holds profile) := by
  obtain ⟨before, inside, behind, split, start, stop⟩ := exists_split_of_clear agrees clear
  have ascii := clear.start
  have ends := clear.stop
  rw [start, split] at ascii
  rw [stop, split, ← List.append_assoc] at ends
  rw [count_eq_cutLines profile agrees shown split start stop, text_eq split start stop, String.toList_ofList,
    Text.cutLines_eq_lines ascii.surplus_eq (ends.imp AsciiBefore.surplus_eq EndsLine.firstLine_eq)]

end NativeNode

/-! ## Bodies of functions in native trees -/

namespace Parser

variable {p : Parser} {r : Revision} {profile : Profile}

/-- A native parser that has the grammar and answers with a tree is taken at its word. -/
theorem askNative_tree (installed : p.hasGrammar profile = true) (base : Option Tree) (root : NativeNode)
    (copies : Bool) :
    (p.askNative r profile base (.tree root copies)).2 =
      .ok { root, grammar := profile.grammar, text := r.text, copies } := by
  have supports : p.grammars.supports profile.grammar = true := installed
  have parsed : (p.grammars.parse r.text profile.grammar (.tree root copies)).2 =
      .ok (some { root, grammar := profile.grammar, text := r.text, copies }) := by
    unfold Grammars.parse
    rw [if_pos supports]
    rfl
  have reparsed (old : NativeTree) (edit : Option ByteEdit) :
      (p.grammars.reparse r.text profile.grammar old edit (.tree root copies)).2 =
        .ok (some { root, grammar := profile.grammar, text := r.text, copies }) := by
    unfold Grammars.reparse
    split
    · split
      · rfl
      · exact parsed
    · exact parsed
  unfold askNative
  cases base.filter (·.backend == .native) |>.bind (·.native) with
  | none =>
    dsimp only
    rw [parsed]
  | some old =>
    dsimp only
    rw [reparsed]

/-- The roots of a native tree are placed in an arena that the parser has. -/
theorem exists_build_of_native (language : Profile.find? r.language = some profile)
    (installed : p.hasGrammar profile = true) {previous : Option Tree}
    (known : ∀ tree, previous = some tree → tree.arena < p.arenas.size) (root : NativeNode) (copies : Bool)
    (crash : Option String) :
    let out := p.parse r previous (.tree root copies) crash
    let tree : NativeTree := { root, grammar := profile.grammar, text := r.text, copies }
    ∃ pool a, out.tree.roots = (RootSource.build r (RootSource.native profile tree) pool a).2 ∧
      out.arena = (RootSource.build r (RootSource.native profile tree) pool a).1 ∧
      out.tree.source = r.text := by
  intro out tree
  have answer : (p.askNative r profile (previous.filter (isBaseOf · r profile)) (.tree root copies)).2 = .ok tree :=
    askNative_tree installed _ root copies
  have known_base : ∀ tree, previous.filter (isBaseOf · r profile) = some tree → tree.arena < p.arenas.size :=
    fun tree found => known tree (Option.filter_eq_some_iff.1 found).1
  have lt := (startArena_spec known_base).2.2.2.1
  have out_eq : out = p.parse r previous (.tree root copies) crash := rfl
  unfold parse at out_eq
  rw [language] at out_eq
  dsimp only at out_eq
  rw [if_pos installed] at out_eq
  generalize p.askNative r profile (previous.filter (isBaseOf · r profile)) (.tree root copies) = asked at answer out_eq
  obtain ⟨calls, answered⟩ := asked
  cases answer
  dsimp only at out_eq
  rw [out_eq]
  refine ⟨_, _, rfl, ?_, rfl⟩
  exact arena_setArena_self lt _

end Parser

namespace NativeNode

theorem within_of_topLevel {n root : NativeNode} (top : n ∈ root.topLevel) : n.Within root := by
  unfold topLevel at top
  split at top
  · rw [List.mem_singleton.1 top]
    exact .self root
  · exact .deeper (List.mem_filter.1 top).1 (.self n)

theorem Within.trans {l m n : NativeNode} (first : l.Within m) (second : m.Within n) : l.Within n := by
  induction second with
  | self => exact first
  | deeper child _ ih => exact .deeper child ih

/-- A placed node and its body are a native node and one of its children, which has the type and the bytes of the
first child that fills the field of bodies. -/
structure BodyShownBy (n m : NativeNode) (item body : Placed) : Prop where
  item : n.ShownBy item
  child : m ∈ n.children
  field : ∃ named, n.childOf? "body" = some named ∧ m.same named = true
  body : m.ShownBy body

/-- What is traced to a native node is shown by it, with its body. -/
theorem exists_bodyShownBy {profile : Profile} {code : ByteArray} {row : Int} {a : Arena} {top : NativeNode}
    {root : Root} (line : (root.line : Int) = row + 1) {skipErrors : Bool} {item body : Placed}
    (met : item ∈ a.walkRoot root skipErrors) (traced : Normalize.Traced profile code row a top item.index)
    (found : a.bodyOf? item = some body) :
    ∃ n m : NativeNode, n.Within top ∧ n.BodyShownBy m item body := by
  obtain ⟨n, parent, children, index, within, stored, bodied⟩ := traced
  obtain ⟨v, -, placed⟩ := List.mem_filterMap.1 met
  obtain ⟨here, -, rfl, node⟩ := Arena.place?_eq placed
  rw [here] at stored
  obtain ⟨i, in_body, placed'⟩ := Option.bind_eq_some_iff.1 found
  have own : item.node = Normalize.record profile code row parent n children index :=
    Option.some.inj (node.symm.trans stored)
  obtain ⟨m, child, named, field, same, recorded⟩ := bodied i (by rwa [own] at in_body)
  exact ⟨n, m, within, shownBy_of_recorded ⟨parent, children, index, stored⟩ line placed, child,
    ⟨named, field, same⟩, shownBy_of_recorded recorded line placed'⟩

end NativeNode

/-- Whatever was parsed before: where the native parser has the grammar of a language and answers with a tree whose
points are those of its offsets, every body below a root that is built for the tree is shown by a native node of the
tree, a child of the one that shows what it is the body of. If that node is clear of other characters, then the
body has as many logical lines as the text of the node. If it lies between characters, then it has the logical lines
of its part of the text, cut at columns in bytes. -/
theorem ParseLog.body_lines_counted (grammars : Grammars) (maxNodes : Int) (calls : List ParseCall) (c : ParseCall)
    {profile : Profile} (language : Profile.find? c.revision.language = some profile)
    (installed : ((start grammars maxNodes).run calls).parser.hasGrammar profile = true)
    {root : NativeNode} {copies : Bool} (reply : c.reply = .tree root copies)
    (agrees : ∀ n : NativeNode, n.Within root → n.Agrees (Text.Utf8.encode c.revision.text.toList)) :
    let out := ((start grammars maxNodes).run calls).answer c
    let s : Subject := { tree := out.tree, arena := out.arena }
    ∀ top ∈ out.tree.roots, top.reused = false →
    ∀ skipErrors, ∀ item ∈ s.arena.walkRoot top skipErrors, ∀ body, s.arena.bodyOf? item = some body →
    ∃ n m : NativeNode, n.Within root ∧ n.BodyShownBy m item body ∧
      (m.Clear (Text.Utf8.encode c.revision.text.toList) →
        LogicalLine.count s.profile s.lines body =
          (Text.lines (Normalize.text c.revision.text.toUTF8 m).toList).countP (LogicalLine.holds s.profile)) ∧
      ∀ before inside behind, c.revision.text.toList = before ++ (inside ++ behind) →
        m.startByte = (Text.Utf8.encode before).length → m.endByte = (Text.Utf8.encode (before ++ inside)).length →
        LogicalLine.count s.profile s.lines body =
          (Text.cutLines before inside behind).countP (LogicalLine.holds s.profile) := by
  intro out s top member fresh skipErrors item met body found
  have sound : ((start grammars maxNodes).run calls).Sound := (sound_start grammars maxNodes).run calls
  have parsed : ((start grammars maxNodes).run calls).parser.parse c.revision
      (((start grammars maxNodes).run calls).previous? c) (.tree root copies) c.crash = out := by
    rw [← reply]
    rfl
  clear_value out
  obtain ⟨pool, a, roots, arena, source⟩ := Parser.exists_build_of_native language installed
    (fun tree named => sound.arena_lt tree (mem_of_previous? named)) root copies c.crash
  rw [parsed] at roots arena source
  have lines : s.lines = Text.lines c.revision.text.toList := by
    change Text.lines out.tree.source.toList = _
    rw [source]
  rw [roots] at member
  have of_native := RootSource.ofNative_native profile
    { root, grammar := profile.grammar, text := c.revision.text, copies }
  obtain ⟨n₀, in_root, line, traced⟩ := RootSource.exists_traced_of_build c.revision of_native pool a member fresh
  rw [← arena] at traced
  have below_root := NativeNode.within_of_topLevel in_root
  have first : (top.line : Int) = n₀.startPoint.row + 1 := by
    have point := (agrees n₀ below_root).startPoint
    rw [line, point, NativePoint.ofOffset]
    rfl
  obtain ⟨n, m, within, shown⟩ := NativeNode.exists_bodyShownBy first met (traced skipErrors item met) found
  have below := within.trans below_root
  have agrees := agrees m (below.child shown.child)
  rw [lines]
  refine ⟨n, m, below, shown, fun clear => ?_, fun before inside behind split start stop => ?_⟩
  · exact NativeNode.count_of_clear _ agrees shown.body clear
  · exact NativeNode.count_eq_cutLines _ agrees shown.body split start stop

/-- A function with one accented letter in its body. -/
def ParseLog.accented : NativeNode :=
  .mk "module" true 0 12 ⟨0, 0⟩ ⟨1, 3⟩ none false [function]
where
  function : NativeNode := .mk "function_definition" true 0 12 ⟨0, 0⟩ ⟨1, 3⟩ none false [block]
  block : NativeNode := .mk "block" true 10 12 ⟨1, 1⟩ ⟨1, 3⟩ (some "body") false []

/-- A call that reads it, with a native parser for the language. -/
def ParseLog.readsAccented : ParseCall where
  revision := ⟨"a", "python", 1, "def f():\n \u00e9", [], 0, none, 1⟩
  reply := .tree accented true

theorem ParseLog.eq_of_within_accented {n : NativeNode} (within : n.Within accented) :
    n = accented ∨ n = accented.function ∨ n = accented.block := by
  rcases within with _ | ⟨child, within⟩
  · exact Or.inl rfl
  · rw [List.mem_singleton.1 child] at within
    rcases within with _ | ⟨child, within⟩
    · exact Or.inr (Or.inl rfl)
    · rw [List.mem_singleton.1 child] at within
      rcases within with _ | ⟨child, within⟩
      · exact Or.inr (Or.inr rfl)
      · cases child

/-- The body of the function has one logical line, although its letter has two bytes. -/
theorem ParseLog.body_lines_counted_accented :
    let out := ((start { installed := [("python", .named)] } 200000).run []).answer readsAccented
    let s : Subject := { tree := out.tree, arena := out.arena }
    ∃ top ∈ out.tree.roots, ∃ item ∈ s.arena.walkRoot top, ∃ body, s.arena.bodyOf? item = some body ∧
      LogicalLine.count s.profile s.lines body = 1 := by
  intro out s
  obtain ⟨top, member, fresh, item, met, has_body⟩ : ∃ top ∈ out.tree.roots, top.reused = false ∧
      ∃ item ∈ s.arena.walkRoot top, (s.arena.bodyOf? item).isSome = true := by
    decide +kernel
  obtain ⟨body, found⟩ := Option.isSome_iff_exists.1 has_body
  refine ⟨top, member, item, met, body, found, ?_⟩
  have agrees : ∀ n : NativeNode, n.Within accented →
      n.Agrees (Text.Utf8.encode readsAccented.revision.text.toList) := by
    intro n within
    rcases eq_of_within_accented within with rfl | rfl | rfl <;> constructor <;> decide +kernel
  obtain ⟨n, m, within, shown, counted, -⟩ := body_lines_counted { installed := [("python", .named)] } 200000 []
    readsAccented Profile.find?_python (by decide +kernel) rfl agrees top member fresh true item met body found
  have block : m = accented.block := by
    obtain ⟨named, field, -⟩ := shown.field
    rcases eq_of_within_accented within with rfl | rfl | rfl
    · cases field
    · exact List.mem_singleton.1 shown.child
    · cases shown.child
  subst block
  have clear : accented.block.Clear (Text.Utf8.encode readsAccented.revision.text.toList) := by
    have column : (BytePoint.ofOffset (Text.Utf8.encode readsAccented.revision.text.toList)
        accented.block.startByte).col = 1 := by decide +kernel
    have blank : (Text.Utf8.encode readsAccented.revision.text.toList)[9]? = some 32 := by decide +kernel
    have stop : (Text.Utf8.encode readsAccented.revision.text.toList)[accented.block.endByte]? = none := by
      decide +kernel
    refine ⟨fun i b first less here => ?_, Or.inr fun b here => ?_⟩
    · have last : i = 9 := by
        rw [column] at first
        change 9 ≤ i at first
        change i < 10 at less
        omega
      rw [last, blank] at here
      cases here
      decide
    · rw [stop] at here
      cases here
  rw [counted clear]
  decide +kernel

end LiveLint
