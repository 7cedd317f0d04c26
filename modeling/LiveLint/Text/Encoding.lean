import LiveLint.Text.Quoted
import LiveLint.Text.Utf8

/-!
# Encodings

Bytes that hold a text may come in units of one, two or four bytes, and larger units in either
order. The first bytes tell which: by a mark, or by where the zero bytes of the first characters are
if these are ASCII.
-/

namespace LiveLint.Text

inductive Encoding where
  | utf8
  /-- Units of two bytes, the lower one first or last. -/
  | utf16 (lowFirst : Bool)
  /-- Units of four bytes, the lowest one first or last. -/
  | utf32 (lowFirst : Bool)
  deriving DecidableEq, Repr

/-- Why bytes are no text: the encoding, the first and the last of the bytes that are to blame, the
value of the first one, and the reason. -/
structure DecodingFault where
  encoding : Encoding
  first : Nat
  last : Nat
  byte : UInt8
  reason : String
  deriving Repr

def DecodingFault.message (f : DecodingFault) : String :=
  let place :=
    if f.first == f.last then
      "byte 0x" ++ String.ofList (hex 2 f.byte.toNat) ++ " in position " ++ toString f.first
    else "bytes in position " ++ toString f.first ++ "-" ++ toString f.last
  "'" ++ label f.encoding ++ "' codec can't decode " ++ place ++ ": " ++ f.reason
where
  /-- The name of an encoding. -/
  label : Encoding → String
    | .utf8 => "utf-8"
    | .utf16 true => "utf-16-le"
    | .utf16 false => "utf-16-be"
    | .utf32 true => "utf-32-le"
    | .utf32 false => "utf-32-be"

namespace Encoding

/-- The encoding that the first bytes tell, and the number of bytes of their mark. -/
def detect : List UInt8 → Encoding × Nat
  | 0x00 :: 0x00 :: 0xFE :: 0xFF :: _ => (.utf32 false, 4)
  | 0xFF :: 0xFE :: 0x00 :: 0x00 :: _ => (.utf32 true, 4)
  | 0xFE :: 0xFF :: _ => (.utf16 false, 2)
  | 0xFF :: 0xFE :: _ => (.utf16 true, 2)
  | 0xEF :: 0xBB :: 0xBF :: _ => (.utf8, 3)
  | a :: b :: c :: d :: _ =>
    if a == 0 then (if b == 0 then .utf32 false else .utf16 false, 0)
    else if b == 0 then (if c == 0 && d == 0 then .utf32 true else .utf16 true, 0)
    else (.utf8, 0)
  | [a, b] => (if a == 0 then .utf16 false else if b == 0 then .utf16 true else .utf8, 0)
  | _ => (.utf8, 0)

def unit (lowFirst : Bool) (bytes : List UInt8) : Nat :=
  (if lowFirst then bytes.reverse else bytes).foldl (fun n b => n * 256 + b.toNat) 0

def isHigh (n : Nat) : Bool := 0xD800 ≤ n && n < 0xDC00

def isLow (n : Nat) : Bool := 0xDC00 ≤ n && n < 0xE000

/-- A unit as a character; half of a pair becomes U+FFFD. -/
def charOf (n : Nat) : Char := if isHigh n || isLow n then '\uFFFD' else Char.ofNat n

def pairChar (high low : Nat) : Char :=
  Char.ofNat (0x10000 + (high - 0xD800) * 0x400 + (low - 0xDC00))

/-- A fault of bytes that are too few for a unit. -/
def truncated (encoding : Encoding) (i count : Nat) (byte : UInt8) : DecodingFault :=
  ⟨encoding, i, i + count - 1, byte, "truncated data"⟩

/-- Reads units of two bytes from an offset on. -/
def decode16 (lowFirst : Bool) : Nat → List UInt8 → Except DecodingFault (List Char)
  | _, [] => .ok []
  | i, [a] => .error (truncated (.utf16 lowFirst) i 1 a)
  | i, a :: b :: c :: d :: rest =>
    let high := unit lowFirst [a, b]
    let low := unit lowFirst [c, d]
    if isHigh high && isLow low then
      (decode16 lowFirst (i + 4) rest).map (pairChar high low :: ·)
    else (decode16 lowFirst (i + 2) (c :: d :: rest)).map (charOf high :: ·)
  | i, a :: b :: rest => (decode16 lowFirst (i + 2) rest).map (charOf (unit lowFirst [a, b]) :: ·)
termination_by _ bytes => bytes.length

/-- Reads units of four bytes from an offset on. -/
def decode32 (lowFirst : Bool) : Nat → List UInt8 → Except DecodingFault (List Char)
  | i, a :: b :: c :: d :: rest =>
    let n := unit lowFirst [a, b, c, d]
    if n < 0x110000 then (decode32 lowFirst (i + 4) rest).map (charOf n :: ·)
    else .error ⟨.utf32 lowFirst, i, i + 3, a, "code point not in range(0x110000)"⟩
  | _, [] => .ok []
  | i, a :: rest => .error (truncated (.utf32 lowFirst) i (rest.length + 1) a)

/-- Reads the bytes behind a mark of some length. Offsets count the mark, except for UTF-8. -/
def decode (encoding : Encoding) (mark : Nat) (bytes : List UInt8) :
    Except DecodingFault (List Char) :=
  match encoding with
  | .utf8 =>
    (Utf8.strictFrom 0 0 bytes).mapError fun f => ⟨.utf8, f.first, f.last, f.byte, f.reason.message⟩
  | .utf16 lowFirst => decode16 lowFirst mark bytes
  | .utf32 lowFirst => decode32 lowFirst mark bytes

def read (bytes : List UInt8) : Except DecodingFault (List Char) :=
  let (encoding, mark) := detect bytes
  decode encoding mark (bytes.drop mark)

end Encoding

end LiveLint.Text
