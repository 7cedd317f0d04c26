import LiveLint.Revision.Tracker

/-!
# What a byte edit does

An edit replaces the bytes between two offsets of an old text. The edit that is found between two
texts turns the bytes of the one into those of the other, and there is none exactly if the texts are
the same. It replaces no byte at either end that the texts have in common, and its points say where its
offsets lie. All this is a matter of bytes, so that it holds of texts with lone surrogates too.
-/

namespace LiveLint

/-- Different texts have different bytes. -/
theorem Text.Utf8.encode_inj {cs ds : List Char} : encode cs = encode ds ↔ cs = ds := by
  constructor
  · intro same
    have bytes : cs.utf8Encode = ds.utf8Encode := congrArg List.toByteArray same
    rw [← String.toByteArray_ofList, ← String.toByteArray_ofList, String.toByteArray_inj] at bytes
    exact String.ofList_injective bytes
  · rintro rfl
    rfl

namespace ByteEdit

/-- The old bytes with those between the two old offsets replaced by the new ones between the two new
offsets. -/
def splice (e : ByteEdit) (old new : List UInt8) : List UInt8 :=
  old.take e.startByte ++ (new.take e.newEndByte).drop e.startByte ++ old.drop e.oldEndByte

/-- The offsets of an edit lie in the texts, and the replacement turns the old bytes into the new. -/
structure Turns (e : ByteEdit) (old new : List UInt8) : Prop where
  start_le_oldEnd : e.startByte ≤ e.oldEndByte
  oldEnd_le : e.oldEndByte ≤ old.length
  start_le_newEnd : e.startByte ≤ e.newEndByte
  newEnd_le : e.newEndByte ≤ new.length
  spliced : e.splice old new = new

/-- What two lists begin with in common is no longer than either. -/
theorem common_le (xs ys : List UInt8) :
    common xs ys ≤ xs.length ∧ common xs ys ≤ ys.length := by
  fun_induction common xs ys with
  | case1 x xs y ys same ih =>
    simp only [List.length_cons]
    omega
  | case2 => simp
  | case3 => simp

/-- Two lists agree as far as they begin in common. -/
theorem take_common (xs ys : List UInt8) : xs.take (common xs ys) = ys.take (common xs ys) := by
  fun_induction common xs ys with
  | case1 x xs y ys same ih =>
    rw [List.take_succ_cons, List.take_succ_cons, ih, eq_of_beq same]
  | case2 => rfl
  | case3 => rfl

/-- Two lists agree at their ends as far as their reversals begin in common. -/
theorem drop_common_reverse (xs ys : List UInt8) :
    xs.drop (xs.length - common xs.reverse ys.reverse) =
      ys.drop (ys.length - common xs.reverse ys.reverse) := by
  have ends := congrArg List.reverse (take_common xs.reverse ys.reverse)
  simpa only [List.take_reverse, List.reverse_reverse] using ends

theorem between?_eq_none_iff {old new : List UInt8} : between? old new = none ↔ old = new := by
  unfold between?
  by_cases same : old = new
  · simp [same]
  · simp [same]

/-- The edit found between some bytes turns the old ones into the new. -/
theorem turns_of_between? {old new : List UInt8} {e : ByteEdit} (found : between? old new = some e) :
    e.Turns old new := by
  unfold between? at found
  split at found
  · cases found
  · dsimp only at found
    generalize headSize : common old new = head at found
    generalize tailSize : common (old.drop head).reverse (new.drop head).reverse = tail at found
    cases found
    have head_le := common_le old new
    have tail_le := common_le (old.drop head).reverse (new.drop head).reverse
    simp only [List.length_reverse, List.length_drop] at tail_le
    rw [headSize] at head_le
    rw [tailSize] at tail_le
    have heads : old.take head = new.take head := headSize ▸ take_common old new
    have tails : old.drop (old.length - tail) = new.drop (new.length - tail) := by
      have ends := drop_common_reverse (old.drop head) (new.drop head)
      rw [tailSize, List.drop_drop, List.drop_drop, List.length_drop, List.length_drop] at ends
      have oldEnd : head + (old.length - head - tail) = old.length - tail := by omega
      have newEnd : head + (new.length - head - tail) = new.length - tail := by omega
      rwa [oldEnd, newEnd] at ends
    constructor
    case start_le_oldEnd => dsimp only; omega
    case oldEnd_le => exact Nat.sub_le _ _
    case start_le_newEnd => dsimp only; omega
    case newEnd_le => exact Nat.sub_le _ _
    case spliced =>
      have begins : new.take head = (new.take (new.length - tail)).take head := by
        rw [List.take_take, Nat.min_eq_left (by omega)]
      unfold splice
      calc old.take head ++ (new.take (new.length - tail)).drop head ++ old.drop (old.length - tail)
          = (new.take (new.length - tail)).take head ++ (new.take (new.length - tail)).drop head ++
              new.drop (new.length - tail) := by rw [heads, tails, ← begins]
        _ = new := by rw [List.take_append_drop, List.take_append_drop]

/-- There is no edit between two texts exactly if they are the same. -/
theorem betweenTexts?_eq_none_iff {old new : List Char} : betweenTexts? old new = none ↔ old = new :=
  between?_eq_none_iff.trans Text.Utf8.encode_inj

/-- The edit found between two texts turns the bytes of the old one into those of the new. -/
theorem turns_of_betweenTexts? {old new : List Char} {e : ByteEdit}
    (found : betweenTexts? old new = some e) :
    e.Turns (Text.Utf8.encode old) (Text.Utf8.encode new) :=
  turns_of_between? found

end ByteEdit

/-! ## Code points -/

namespace Text

/-- A number that a text may hold in place of a character. Those of surrogates are no characters, and a text can
hold them all the same. -/
abbrev CodePoint := Fin 0x110000

def CodePoint.ofChar (c : Char) : CodePoint :=
  ⟨c.toNat, by have := c.valid; unfold UInt32.isValidChar Nat.isValidChar at this; change c.val.toNat < _; omega⟩

namespace Utf8

def encodePoint (v : Nat) : List UInt8 :=
  if v ≤ 0x7F then [.ofNat v]
  else if v ≤ 0x7FF then [.ofNat (v / 64 % 32 + 192), .ofNat (v % 64 + 128)]
  else if v ≤ 0xFFFF then [.ofNat (v / 4096 % 16 + 224), .ofNat (v / 64 % 64 + 128), .ofNat (v % 64 + 128)]
  else
    [.ofNat (v / 262144 % 8 + 240), .ofNat (v / 4096 % 64 + 128), .ofNat (v / 64 % 64 + 128),
      .ofNat (v % 64 + 128)]

def encodePoints (vs : List CodePoint) : List UInt8 := vs.flatMap (encodePoint ·.val)

/-- Characters have the bytes of their numbers. -/
theorem encodePoints_map_ofChar (cs : List Char) : encodePoints (cs.map .ofChar) = encode cs := by
  unfold encodePoints encode
  rw [List.flatMap_map]
  rfl

/-- Reads the number that some bytes begin with, and says how many bytes it takes. -/
def readPoint : List UInt8 → Nat × Nat
  | a :: rest =>
    let tail (i : Nat) : Nat := (rest[i]?.getD 0).toNat % 64
    if a.toNat < 0x80 then (a.toNat, 1)
    else if a.toNat < 0xE0 then (a.toNat % 32 * 64 + tail 0, 2)
    else if a.toNat < 0xF0 then (a.toNat % 16 * 4096 + tail 0 * 64 + tail 1, 3)
    else (a.toNat % 8 * 262144 + tail 0 * 4096 + tail 1 * 64 + tail 2, 4)
  | [] => (0, 0)

/-- What is read is what was encoded. -/
theorem readPoint_encodePoint (v : CodePoint) (rest : List UInt8) :
    readPoint (encodePoint v.val ++ rest) = (v.val, (encodePoint v.val).length) := by
  obtain ⟨v, less⟩ := v
  dsimp only
  unfold encodePoint
  split
  case isTrue one =>
    simp only [List.cons_append, readPoint, UInt8.toNat_ofNat']
    rw [if_pos (by omega), Nat.mod_eq_of_lt (by omega)]
    rfl
  case isFalse =>
    split
    case isTrue two =>
      simp only [List.cons_append, readPoint, UInt8.toNat_ofNat', List.getElem?_cons_zero, Option.getD_some]
      rw [if_neg (by omega), if_pos (by omega)]
      exact Prod.ext (by dsimp only; omega) rfl
    case isFalse =>
      split
      case isTrue three =>
        simp only [List.cons_append, readPoint, UInt8.toNat_ofNat', List.getElem?_cons_zero,
          List.getElem?_cons_succ, Option.getD_some]
        rw [if_neg (by omega), if_neg (by omega), if_pos (by omega)]
        exact Prod.ext (by dsimp only; omega) rfl
      case isFalse four =>
        simp only [List.cons_append, readPoint, UInt8.toNat_ofNat', List.getElem?_cons_zero,
          List.getElem?_cons_succ, Option.getD_some]
        rw [if_neg (by omega), if_neg (by omega), if_neg (by omega)]
        exact Prod.ext (by dsimp only; omega) rfl

theorem length_encodePoint_pos (v : Nat) : 0 < (encodePoint v).length := by
  unfold encodePoint
  repeat' split
  all_goals exact Nat.zero_lt_succ _

/-- Different code points have different bytes. -/
theorem encodePoints_inj {vs ws : List CodePoint} : encodePoints vs = encodePoints ws ↔ vs = ws := by
  refine ⟨fun same => ?_, fun same => same ▸ rfl⟩
  induction vs generalizing ws with
  | nil =>
    cases ws with
    | nil => rfl
    | cons w ws =>
      have lengths := congrArg List.length same
      have pos := length_encodePoint_pos w.val
      simp only [encodePoints, List.flatMap_nil, List.length_nil, List.flatMap_cons, List.length_append] at lengths
      omega
  | cons v vs ih =>
    cases ws with
    | nil =>
      have lengths := congrArg List.length same
      have pos := length_encodePoint_pos v.val
      simp only [encodePoints, List.flatMap_nil, List.length_nil, List.flatMap_cons, List.length_append] at lengths
      omega
    | cons w ws =>
      have read := congrArg readPoint same
      simp only [encodePoints, List.flatMap_cons, readPoint_encodePoint, Prod.mk.injEq] at read
      obtain rfl : v = w := Fin.ext read.1
      rw [ih (List.append_cancel_left same)]

end Utf8

end Text

/-! ## Points -/

/-- A line of some bytes begins at a place and holds all bytes up to an offset. -/
structure LineUpTo (bytes : List UInt8) (offset line : Nat) : Prop where
  le : line ≤ offset
  first : line = 0 ∨ bytes[line - 1]? = some 10
  inside : ∀ i, line ≤ i → i < offset → bytes[i]? ≠ some 10

namespace BytePoint

/-- A point says where an offset lies: its row is the number of newlines before the offset, and its column is how
far the offset lies behind the beginning of its line. -/
structure At (bytes : List UInt8) (offset : Nat) (p : BytePoint) : Prop where
  row : p.row = (bytes.take offset).count 10
  col : ∃ line, LineUpTo bytes offset line ∧ p.col = offset - line

theorem advance_append (p : BytePoint) (xs ys : List UInt8) :
    p.advance (xs ++ ys) = (p.advance xs).advance ys := by
  fun_induction advance p xs with
  | case1 => rfl
  | case2 p b rest newline ih => rw [List.cons_append, advance, if_pos newline, ih]
  | case3 p b rest inside ih => rw [List.cons_append, advance, if_neg inside, ih]

/-- The point of an offset is found one byte after the other. -/
theorem ofOffset_succ {bytes : List UInt8} {offset : Nat} {b : UInt8} (here : bytes[offset]? = some b) :
    ofOffset bytes (offset + 1) =
      if b == 10 then ⟨(ofOffset bytes offset).row + 1, 0⟩
      else ⟨(ofOffset bytes offset).row, (ofOffset bytes offset).col + 1⟩ := by
  unfold ofOffset
  rw [List.take_add_one, here, Option.toList_some, advance_append]
  rfl

/-- The point of every offset says where it lies. -/
theorem at_ofOffset {bytes : List UInt8} {offset : Nat} (le : offset ≤ bytes.length) :
    (ofOffset bytes offset).At bytes offset := by
  induction offset with
  | zero => exact ⟨rfl, 0, ⟨Nat.le_refl 0, Or.inl rfl, fun _ _ less => absurd less (Nat.not_lt_zero _)⟩, rfl⟩
  | succ offset ih =>
    obtain ⟨row, line, ⟨before, first, inside⟩, col⟩ := ih (Nat.le_of_succ_le le)
    have here : bytes[offset]? = some bytes[offset] := List.getElem?_eq_getElem le
    generalize bytes[offset] = b at here
    have counted : (bytes.take (offset + 1)).count 10 = (bytes.take offset).count 10 + [b].count 10 := by
      rw [List.take_add_one, here, Option.toList_some, List.count_append]
    rw [ofOffset_succ here]
    split
    · next newline =>
      rw [beq_iff_eq] at newline
      subst newline
      refine ⟨?_, offset + 1, ⟨Nat.le_refl _, Or.inr here, fun i above below => by omega⟩, (Nat.sub_self _).symm⟩
      rw [counted, ← row]
      rfl
    · next other =>
      rw [beq_iff_eq] at other
      refine ⟨?_, line, ⟨Nat.le_succ_of_le before, first, fun i above below => ?_⟩, ?_⟩
      · rw [counted, ← row, List.count_eq_zero.2 (by simpa using Ne.symm other)]
        rfl
      · rcases Nat.lt_succ_iff_lt_or_eq.1 below with earlier | rfl
        · exact inside i above earlier
        · rw [here]
          exact fun newline => other (Option.some.inj newline)
      · dsimp only
        omega

/-- Texts with the same beginning have the same points there. -/
theorem ofOffset_congr {bytes bytes' : List UInt8} {offset : Nat} (same : bytes.take offset = bytes'.take offset) :
    ofOffset bytes offset = ofOffset bytes' offset := by
  unfold ofOffset
  rw [same]

end BytePoint

/-! ## What is found between two texts -/

namespace ByteEdit

/-- An edit that turns some bytes into others is as small as it can be, and its points say where its offsets lie
in the bytes they belong to. -/
structure Coalesces (e : ByteEdit) (old new : List UInt8) : Prop extends e.Turns old new where
  first_differs : e.startByte < e.oldEndByte → e.startByte < e.newEndByte →
    old[e.startByte]? ≠ new[e.startByte]?
  last_differs : e.startByte < e.oldEndByte → e.startByte < e.newEndByte →
    old[e.oldEndByte - 1]? ≠ new[e.newEndByte - 1]?
  start_in_old : e.startPoint.At old e.startByte
  start_in_new : e.startPoint.At new e.startByte
  oldEnd_in_old : e.oldEndPoint.At old e.oldEndByte
  newEnd_in_new : e.newEndPoint.At new e.newEndByte

/-- The answer to how some bytes differ from others: nothing if the texts they come from are the same, and
otherwise an edit. -/
def Tells (found : Option ByteEdit) (same : Prop) (old new : List UInt8) : Prop :=
  match found with
  | none => same
  | some e => ¬same ∧ e.Coalesces old new

/-- What two lists begin with in common ends where they differ. -/
theorem getElem?_common_ne {xs ys : List UInt8} (less : common xs ys < xs.length) (less' : common xs ys < ys.length) :
    xs[common xs ys]? ≠ ys[common xs ys]? := by
  fun_induction common xs ys with
  | case1 x xs y ys same ih =>
    rw [List.getElem?_cons_succ, List.getElem?_cons_succ]
    exact ih (Nat.lt_of_succ_lt_succ less) (Nat.lt_of_succ_lt_succ less')
  | case2 x xs y ys differ =>
    rw [List.getElem?_cons_zero, List.getElem?_cons_zero]
    intro same
    exact differ (beq_iff_eq.2 (Option.some.inj same))
  | case3 xs ys empty =>
    cases xs with
    | nil => cases less
    | cons x xs =>
      cases ys with
      | nil => cases less'
      | cons y ys => exact absurd rfl (empty x xs y ys rfl)

/-- The edit found between some bytes replaces none that both have at the same end, and says where it begins and
ends. -/
theorem coalesces_of_between? {old new : List UInt8} {e : ByteEdit} (found : between? old new = some e) :
    e.Coalesces old new := by
  have turns := turns_of_between? found
  have start := take_common old new
  have heads := @getElem?_common_ne old new
  have tails := @getElem?_common_ne (old.drop (common old new)).reverse (new.drop (common old new)).reverse
  unfold between? at found
  split at found
  · cases found
  · dsimp only at found
    generalize common old new = head at found start heads tails
    generalize common (old.drop head).reverse (new.drop head).reverse = tail at found tails
    cases found
    have ⟨start_le, oldEnd_le, start_le', newEnd_le, _⟩ := turns
    dsimp only at start_le oldEnd_le start_le' newEnd_le
    refine ⟨turns, ?first_differs, ?last_differs, ?start_in_old, ?start_in_new, ?oldEnd_in_old, ?newEnd_in_new⟩
    case first_differs =>
      intro less less'
      dsimp only at less less'
      exact heads (by omega) (by omega)
    case last_differs =>
      intro less less'
      dsimp only at less less' ⊢
      simp only [List.length_reverse, List.length_drop] at tails
      have differ := tails (by omega) (by omega)
      rw [List.getElem?_reverse (by rw [List.length_drop]; omega), List.getElem?_drop, List.length_drop,
        List.getElem?_reverse (by rw [List.length_drop]; omega), List.getElem?_drop, List.length_drop] at differ
      have last : head + (old.length - head - 1 - tail) = old.length - tail - 1 := by omega
      have last' : head + (new.length - head - 1 - tail) = new.length - tail - 1 := by omega
      rwa [last, last'] at differ
    case start_in_old =>
      exact BytePoint.ofOffset_congr start ▸ BytePoint.at_ofOffset (Nat.le_trans start_le oldEnd_le)
    case start_in_new => exact BytePoint.at_ofOffset (Nat.le_trans start_le' newEnd_le)
    case oldEnd_in_old => exact BytePoint.at_ofOffset oldEnd_le
    case newEnd_in_new => exact BytePoint.at_ofOffset newEnd_le

theorem tells_between? {old new : List UInt8} {same : Prop} (iff : old = new ↔ same) :
    Tells (between? old new) same old new := by
  unfold Tells
  split
  · next found => exact iff.1 (between?_eq_none_iff.1 found)
  · next e found =>
    refine ⟨fun equal => ?_, coalesces_of_between? found⟩
    rw [between?_eq_none_iff.2 (iff.2 equal)] at found
    cases found

/-- For every two texts there is an edit unless they are the same, and then its offsets lie in the texts, putting
the new bytes between its offsets in place of the old ones turns the old text into the new, the replaced bytes
have neither the first nor the last in common with those that replace them, and its points are the rows and
columns of its offsets, where the one of the start is the same in both texts. Characters are encoded as their
code points, and the same is true of texts with code points that are no characters. -/
theorem betweenTexts?_tells (old new : List Char) (old' new' : List Text.CodePoint) :
    Tells (betweenTexts? old new) (old = new) (Text.Utf8.encode old) (Text.Utf8.encode new) ∧
      Text.Utf8.encode old = Text.Utf8.encodePoints (old.map .ofChar) ∧
      Tells (between? (Text.Utf8.encodePoints old') (Text.Utf8.encodePoints new')) (old' = new')
        (Text.Utf8.encodePoints old') (Text.Utf8.encodePoints new') :=
  ⟨tells_between? Text.Utf8.encode_inj, (Text.Utf8.encodePoints_map_ofChar old).symm,
    tells_between? Text.Utf8.encodePoints_inj⟩

end ByteEdit

end LiveLint
