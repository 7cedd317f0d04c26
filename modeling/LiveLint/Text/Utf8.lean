/-!
# Reading UTF-8

Bytes are read one character at a time. Where they are not UTF-8, a fault says what is wrong and
how many bytes belong to it; lenient reading replaces each fault by U+FFFD.
-/

namespace LiveLint.Text.Utf8

inductive Reason where
  | start | continuation | truncated
  deriving DecidableEq, Repr

def Reason.message : Reason → String
  | .start => "invalid start byte"
  | .continuation => "invalid continuation byte"
  | .truncated => "unexpected end of data"

/-- One step of reading: a character with the number of bytes after the first that it takes, or a
fault with the number of bytes after the first that belong to it. -/
inductive Step where
  | char (c : Char) (more : Nat)
  | fault (reason : Reason) (more : Nat)
  deriving Repr

private def isTail (b : Nat) : Bool := 0x80 ≤ b && b < 0xC0

private def secondFits (first second : Nat) : Bool :=
  isTail second && (first != 0xE0 || 0xA0 ≤ second) && (first != 0xED || second < 0xA0) &&
    (first != 0xF0 || 0x90 ≤ second) && (first != 0xF4 || second < 0x90)

/-- Reads what begins with a byte and goes on with further bytes. -/
def step (first : UInt8) (rest : List UInt8) : Step :=
  let a := first.toNat
  if a < 0x80 then .char (Char.ofNat a) 0
  else if a < 0xC2 || 0xF5 ≤ a then .fault .start 0
  else
    let length := if a < 0xE0 then 2 else if a < 0xF0 then 3 else 4
    let tail := (rest.take (length - 1)).map (·.toNat)
    match tail with
    | [] => .fault .truncated 0
    | b :: more =>
      if !secondFits a b then .fault .continuation 0
      else
        let good := more.takeWhile isTail
        if good.length < more.length then .fault .continuation (1 + good.length)
        else if tail.length + 1 < length then .fault .truncated tail.length
        else
          let leading := if length == 2 then a % 0x20 else if length == 3 then a % 0x10 else a % 0x08
          .char (Char.ofNat (tail.foldl (fun n t => n * 64 + t % 64) leading)) (length - 1)

/-- Reads all bytes, replacing what is not UTF-8. The next `skip` bytes are already read. -/
def lenientFrom : Nat → List UInt8 → List Char
  | _, [] => []
  | skip + 1, _ :: rest => lenientFrom skip rest
  | 0, b :: rest =>
    match step b rest with
    | .char c more => c :: lenientFrom more rest
    | .fault _ more => '\uFFFD' :: lenientFrom more rest

def lenient (bytes : List UInt8) : String := String.ofList (lenientFrom 0 bytes)

/-- The first fault of a text: its offset, its last offset, its first byte and the reason. -/
structure Fault where
  first : Nat
  last : Nat
  byte : UInt8
  reason : Reason
  deriving Repr

def strictFrom : Nat → Nat → List UInt8 → Except Fault (List Char)
  | _, _, [] => .ok []
  | skip + 1, i, _ :: rest => strictFrom skip (i + 1) rest
  | 0, i, b :: rest =>
    match step b rest with
    | .char c more => (strictFrom more (i + 1) rest).map (c :: ·)
    | .fault reason more => .error ⟨i, i + more, b, reason⟩

def strict (bytes : List UInt8) : Except Fault String := (strictFrom 0 0 bytes).map String.ofList

def encode (cs : List Char) : List UInt8 := cs.flatMap String.utf8EncodeChar

/-! ## Reading what was written -/

/-- A first byte with as many further bytes as it announces is read as one character. -/
private theorem step_of_tails {a b : UInt8} {more rest : List UInt8} (length leading : Nat)
    (multi : 0xC2 ≤ a.toNat ∧ a.toNat < 0xF5)
    (announced : (if a.toNat < 0xE0 then 2 else if a.toNat < 0xF0 then 3 else 4) = length)
    (size : more.length + 2 = length) (fits : secondFits a.toNat b.toNat = true)
    (tails : ∀ t ∈ more, isTail t.toNat = true)
    (lead : (if length == 2 then a.toNat % 0x20 else if length == 3 then a.toNat % 0x10 else a.toNat % 0x08) =
      leading) :
    step a (b :: more ++ rest) =
      .char (Char.ofNat ((b :: more).foldl (fun n t => n * 64 + t.toNat % 64) leading)) (length - 1) := by
  have own : (b :: more ++ rest).take (length - 1) = b :: more :=
    List.take_left' (by rw [← size, List.length_cons]; rfl)
  have good : (more.map (·.toNat)).takeWhile isTail = more.map (·.toNat) := by
    have all : ∀ t ∈ more.map (·.toNat), isTail t = true := by simpa using tails
    rw [← List.append_nil (List.map _ more), List.takeWhile_append_of_pos all, List.takeWhile_nil]
  have low : (decide (a.toNat < 0xC2) || decide (0xF5 ≤ a.toNat)) = false := by
    rw [Bool.or_eq_false_iff, decide_eq_false_iff_not, decide_eq_false_iff_not]
    omega
  unfold step
  dsimp only
  rw [announced, own, if_neg (by omega), low, if_neg Bool.false_ne_true, List.map_cons]
  dsimp only
  rw [fits, Bool.not_true, if_neg Bool.false_ne_true, good, if_neg (Nat.lt_irrefl _),
    if_neg (by rw [List.length_cons, List.length_map]; omega), lead, ← List.map_cons, List.foldl_map]

private theorem toNat_ofNat_of_lt {n : Nat} (less : n < 256) : (UInt8.ofNat n).toNat = n := by
  rw [UInt8.toNat_ofNat', Nat.mod_eq_of_lt less]

private theorem isTail_ofNat (n : Nat) : isTail (UInt8.ofNat (n % 64 + 128)).toNat = true := by
  rw [toNat_ofNat_of_lt (by omega), isTail, Bool.and_eq_true, decide_eq_true_iff, decide_eq_true_iff]
  omega

/-- The bytes of a character are read as that character. -/
theorem step_utf8EncodeChar (c : Char) (rest : List UInt8) :
    ∃ b more, String.utf8EncodeChar c = b :: more ∧ step b (more ++ rest) = .char c more.length := by
  have valid : c.val.toNat < 0xD800 ∨ 0xDFFF < c.val.toNat ∧ c.val.toNat < 0x110000 := c.valid
  have back : Char.ofNat c.val.toNat = c := Char.ofNat_toNat c
  unfold String.utf8EncodeChar
  dsimp only
  generalize c.val.toNat = v at valid back
  split
  case isTrue one =>
    refine ⟨_, [], rfl, ?_⟩
    unfold step
    dsimp only
    rw [toNat_ofNat_of_lt (by omega), if_pos (by omega), back]
    rfl
  case isFalse =>
    split
    case isTrue two =>
      have first : (UInt8.ofNat (v / 64 % 32 + 192)).toNat = v / 64 + 192 := by
        rw [toNat_ofNat_of_lt (by omega)]
        omega
      refine ⟨_, _, rfl, ?_⟩
      refine (step_of_tails 2 (v / 64) ?_ ?_ rfl ?_ (List.forall_mem_nil _) ?_).trans ?_
      · omega
      · rw [if_pos (by omega)]
      · simp only [secondFits, isTail_ofNat, Bool.true_and, Bool.and_eq_true, Bool.or_eq_true, bne_iff_ne]
        omega
      · simp only [BEq.rfl, if_true]
        omega
      · rw [← back]
        simp only [List.foldl_cons, List.foldl_nil, toNat_ofNat_of_lt (show v % 64 + 128 < 256 by omega)]
        congr 2
        omega
    case isFalse =>
      split
      case isTrue three =>
        have first : (UInt8.ofNat (v / 4096 % 16 + 224)).toNat = v / 4096 + 224 := by
          rw [toNat_ofNat_of_lt (by omega)]
          omega
        have second : (UInt8.ofNat (v / 64 % 64 + 128)).toNat = v / 64 % 64 + 128 := toNat_ofNat_of_lt (by omega)
        have third : (UInt8.ofNat (v % 64 + 128)).toNat = v % 64 + 128 := toNat_ofNat_of_lt (by omega)
        refine ⟨_, _, rfl, ?_⟩
        refine (step_of_tails 3 (v / 4096) ?_ ?_ rfl ?_ ?_ ?_).trans ?_
        · omega
        · rw [if_neg (by omega), if_pos (by omega)]
        · simp only [secondFits, isTail_ofNat, Bool.true_and, Bool.and_eq_true, Bool.or_eq_true, bne_iff_ne,
            decide_eq_true_iff]
          omega
        · exact List.forall_mem_singleton.2 (isTail_ofNat v)
        · rw [if_neg (by decide), if_pos (by decide)]
          omega
        · rw [← back]
          simp only [List.foldl_cons, List.foldl_nil, second, third]
          congr 2
          omega
      case isFalse four =>
        have first : (UInt8.ofNat (v / 262144 % 8 + 240)).toNat = v / 262144 + 240 := by
          rw [toNat_ofNat_of_lt (by omega)]
          omega
        have second : (UInt8.ofNat (v / 4096 % 64 + 128)).toNat = v / 4096 % 64 + 128 :=
          toNat_ofNat_of_lt (by omega)
        have third : (UInt8.ofNat (v / 64 % 64 + 128)).toNat = v / 64 % 64 + 128 := toNat_ofNat_of_lt (by omega)
        have fourth : (UInt8.ofNat (v % 64 + 128)).toNat = v % 64 + 128 := toNat_ofNat_of_lt (by omega)
        refine ⟨_, _, rfl, ?_⟩
        refine (step_of_tails 4 (v / 262144) ?_ ?_ rfl ?_ ?_ ?_).trans ?_
        · omega
        · rw [if_neg (by omega), if_neg (by omega)]
        · simp only [secondFits, isTail_ofNat, Bool.true_and, Bool.and_eq_true, Bool.or_eq_true, bne_iff_ne,
            decide_eq_true_iff]
          omega
        · exact List.forall_mem_cons.2 ⟨isTail_ofNat _, List.forall_mem_singleton.2 (isTail_ofNat v)⟩
        · rw [if_neg (by decide), if_neg (by decide)]
          omega
        · rw [← back]
          simp only [List.foldl_cons, List.foldl_nil, second, third, fourth]
          congr 2
          omega

theorem encode_cons (c : Char) (cs : List Char) : encode (c :: cs) = String.utf8EncodeChar c ++ encode cs :=
  List.flatMap_cons

theorem encode_append (cs ds : List Char) : encode (cs ++ ds) = encode cs ++ encode ds := List.flatMap_append

theorem lenientFrom_append (xs ys : List UInt8) : lenientFrom xs.length (xs ++ ys) = lenientFrom 0 ys := by
  induction xs with
  | nil => rfl
  | cons x xs ih => exact ih

/-- Reading the bytes of a text gives the text. -/
theorem lenient_encode (cs : List Char) : lenient (encode cs) = String.ofList cs := by
  refine congrArg String.ofList ?_
  induction cs with
  | nil => rfl
  | cons c cs ih =>
    obtain ⟨b, more, bytes, read⟩ := step_utf8EncodeChar c (encode cs)
    rw [encode_cons, bytes, List.cons_append, lenientFrom, read]
    dsimp only
    rw [lenientFrom_append, ih]

end LiveLint.Text.Utf8
