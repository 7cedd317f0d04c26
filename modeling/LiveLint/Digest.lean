/-!
# Digests

Secure hash functions with 64-byte blocks. They share the padding, which is a one bit, zeros, and the
length in bits as a big-endian 64-bit number.
-/

namespace LiveLint.Digest

/-- Zero bytes that fill the last block up to its length field. -/
def zeroCount (size : Nat) : Nat := (119 - size % 64) % 64

/-- The message with its padding; the size is a multiple of 64. -/
def pad (message : ByteArray) : ByteArray := Id.run do
  let bits := message.size * 8
  let mut out := message.push 0x80
  for _ in List.range (zeroCount message.size) do
    out := out.push 0
  for i in List.range 8 do
    out := out.push (UInt8.ofNat (bits >>> (8 * (7 - i))))
  return out

def wordAt (bytes : ByteArray) (offset : Nat) : UInt32 :=
  let byte := fun i => (bytes.data.getD (offset + i) 0).toUInt32
  (byte 0 <<< 24) ||| (byte 1 <<< 16) ||| (byte 2 <<< 8) ||| byte 3

def rotateLeft (x n : UInt32) : UInt32 := (x <<< n) ||| (x >>> (32 - n))

def rotateRight (x n : UInt32) : UInt32 := (x >>> n) ||| (x <<< (32 - n))

private def hexDigit (n : Nat) : Char := if n < 10 then Char.ofNat (48 + n) else Char.ofNat (87 + n)

def wordHex (w : UInt32) : List Char :=
  (List.range 8).map fun i => hexDigit ((w.toNat >>> (4 * (7 - i))) % 16)

def hex (words : List UInt32) : String := String.ofList (words.flatMap wordHex)

end LiveLint.Digest

/-!
## SHA-1

The digest of a message as forty hexadecimal digits.
-/

namespace LiveLint.Digest.Sha1

structure State where
  a : UInt32
  b : UInt32
  c : UInt32
  d : UInt32
  e : UInt32

def initial : State := ⟨0x67452301, 0xEFCDAB89, 0x98BADCFE, 0x10325476, 0xC3D2E1F0⟩

/-- The eighty words of the schedule of the block at an offset. -/
def schedule (bytes : ByteArray) (offset : Nat) : Array UInt32 :=
  let first := (Array.range 16).map fun i => wordAt bytes (offset + 4 * i)
  (List.range 64).foldl (fun w _ =>
    let word := fun back => w.getD (w.size - back) 0
    w.push (rotateLeft (word 3 ^^^ word 8 ^^^ word 14 ^^^ word 16) 1)) first

/-- The mixing function and the constant of a round. -/
def round (i : Nat) (b c d : UInt32) : UInt32 × UInt32 :=
  if i < 20 then ((b &&& c) ||| ((~~~b) &&& d), 0x5A827999)
  else if i < 40 then (b ^^^ c ^^^ d, 0x6ED9EBA1)
  else if i < 60 then ((b &&& c) ||| (b &&& d) ||| (c &&& d), 0x8F1BBCDC)
  else (b ^^^ c ^^^ d, 0xCA62C1D6)

/-- The chaining value after the block at an offset. -/
def compress (bytes : ByteArray) (s : State) (offset : Nat) : State :=
  let w := schedule bytes offset
  let t := (List.range 80).foldl (fun (t : State) i =>
    let (f, k) := round i t.b t.c t.d
    ⟨rotateLeft t.a 5 + f + t.e + k + w.getD i 0, t.a, rotateLeft t.b 30, t.c, t.d⟩) s
  ⟨s.a + t.a, s.b + t.b, s.c + t.c, s.d + t.d, s.e + t.e⟩

end Sha1

/-- The SHA-1 digest of a message in hexadecimal. -/
def sha1 (message : ByteArray) : String :=
  let bytes := pad message
  let s := (List.range (bytes.size / 64)).foldl
    (fun s i => Sha1.compress bytes s (64 * i)) Sha1.initial
  hex [s.a, s.b, s.c, s.d, s.e]

end LiveLint.Digest

/-!
## SHA-256

The digest of a message as sixty-four hexadecimal digits.
-/

namespace LiveLint.Digest.Sha256

def constants : Array UInt32 := #[
  0x428a2f98, 0x71374491, 0xb5c0fbcf, 0xe9b5dba5, 0x3956c25b, 0x59f111f1, 0x923f82a4, 0xab1c5ed5,
  0xd807aa98, 0x12835b01, 0x243185be, 0x550c7dc3, 0x72be5d74, 0x80deb1fe, 0x9bdc06a7, 0xc19bf174,
  0xe49b69c1, 0xefbe4786, 0x0fc19dc6, 0x240ca1cc, 0x2de92c6f, 0x4a7484aa, 0x5cb0a9dc, 0x76f988da,
  0x983e5152, 0xa831c66d, 0xb00327c8, 0xbf597fc7, 0xc6e00bf3, 0xd5a79147, 0x06ca6351, 0x14292967,
  0x27b70a85, 0x2e1b2138, 0x4d2c6dfc, 0x53380d13, 0x650a7354, 0x766a0abb, 0x81c2c92e, 0x92722c85,
  0xa2bfe8a1, 0xa81a664b, 0xc24b8b70, 0xc76c51a3, 0xd192e819, 0xd6990624, 0xf40e3585, 0x106aa070,
  0x19a4c116, 0x1e376c08, 0x2748774c, 0x34b0bcb5, 0x391c0cb3, 0x4ed8aa4a, 0x5b9cca4f, 0x682e6ff3,
  0x748f82ee, 0x78a5636f, 0x84c87814, 0x8cc70208, 0x90befffa, 0xa4506ceb, 0xbef9a3f7, 0xc67178f2]

structure State where
  a : UInt32
  b : UInt32
  c : UInt32
  d : UInt32
  e : UInt32
  f : UInt32
  g : UInt32
  h : UInt32

def initial : State :=
  ⟨0x6a09e667, 0xbb67ae85, 0x3c6ef372, 0xa54ff53a, 0x510e527f, 0x9b05688c, 0x1f83d9ab, 0x5be0cd19⟩

/-- The sixty-four words of the schedule of the block at an offset. -/
def schedule (bytes : ByteArray) (offset : Nat) : Array UInt32 :=
  let first := (Array.range 16).map fun i => wordAt bytes (offset + 4 * i)
  (List.range 48).foldl (fun w _ =>
    let word := fun back => w.getD (w.size - back) 0
    let x := word 15
    let y := word 2
    let s0 := rotateRight x 7 ^^^ rotateRight x 18 ^^^ (x >>> 3)
    let s1 := rotateRight y 17 ^^^ rotateRight y 19 ^^^ (y >>> 10)
    w.push (word 16 + s0 + word 7 + s1)) first

def step (w : Array UInt32) (t : State) (i : Nat) : State :=
  let s1 := rotateRight t.e 6 ^^^ rotateRight t.e 11 ^^^ rotateRight t.e 25
  let choose := (t.e &&& t.f) ^^^ ((~~~t.e) &&& t.g)
  let x := t.h + s1 + choose + constants.getD i 0 + w.getD i 0
  let s0 := rotateRight t.a 2 ^^^ rotateRight t.a 13 ^^^ rotateRight t.a 22
  let majority := (t.a &&& t.b) ^^^ (t.a &&& t.c) ^^^ (t.b &&& t.c)
  ⟨x + s0 + majority, t.a, t.b, t.c, t.d + x, t.e, t.f, t.g⟩

/-- The chaining value after the block at an offset. -/
def compress (bytes : ByteArray) (s : State) (offset : Nat) : State :=
  let w := schedule bytes offset
  let t := (List.range 64).foldl (step w) s
  ⟨s.a + t.a, s.b + t.b, s.c + t.c, s.d + t.d, s.e + t.e, s.f + t.f, s.g + t.g, s.h + t.h⟩

end Sha256

/-- The SHA-256 digest of a message in hexadecimal. -/
def sha256 (message : ByteArray) : String :=
  let bytes := pad message
  let s := (List.range (bytes.size / 64)).foldl
    (fun s i => Sha256.compress bytes s (64 * i)) Sha256.initial
  hex [s.a, s.b, s.c, s.d, s.e, s.f, s.g, s.h]

end LiveLint.Digest
