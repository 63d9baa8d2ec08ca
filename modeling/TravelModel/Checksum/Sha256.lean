/-!
# TravelModel — SHA-256

The digest of a byte sequence: the padded message is folded block by block
into a state of eight words.
-/

namespace TravelModel.Sha256

/-- The constants of the sixty-four rounds. -/
def roundConstants : Array UInt32 :=
  #[0x428a2f98, 0x71374491, 0xb5c0fbcf, 0xe9b5dba5, 0x3956c25b, 0x59f111f1, 0x923f82a4, 0xab1c5ed5,
    0xd807aa98, 0x12835b01, 0x243185be, 0x550c7dc3, 0x72be5d74, 0x80deb1fe, 0x9bdc06a7, 0xc19bf174,
    0xe49b69c1, 0xefbe4786, 0x0fc19dc6, 0x240ca1cc, 0x2de92c6f, 0x4a7484aa, 0x5cb0a9dc, 0x76f988da,
    0x983e5152, 0xa831c66d, 0xb00327c8, 0xbf597fc7, 0xc6e00bf3, 0xd5a79147, 0x06ca6351, 0x14292967,
    0x27b70a85, 0x2e1b2138, 0x4d2c6dfc, 0x53380d13, 0x650a7354, 0x766a0abb, 0x81c2c92e, 0x92722c85,
    0xa2bfe8a1, 0xa81a664b, 0xc24b8b70, 0xc76c51a3, 0xd192e819, 0xd6990624, 0xf40e3585, 0x106aa070,
    0x19a4c116, 0x1e376c08, 0x2748774c, 0x34b0bcb5, 0x391c0cb3, 0x4ed8aa4a, 0x5b9cca4f, 0x682e6ff3,
    0x748f82ee, 0x78a5636f, 0x84c87814, 0x8cc70208, 0x90befffa, 0xa4506ceb, 0xbef9a3f7, 0xc67178f2]

/-- The eight words of the state. -/
structure State where
  a : UInt32
  b : UInt32
  c : UInt32
  d : UInt32
  e : UInt32
  f : UInt32
  g : UInt32
  h : UInt32

/-- The state a digest starts from. -/
def State.initial : State :=
  { a := 0x6a09e667, b := 0xbb67ae85, c := 0x3c6ef372, d := 0xa54ff53a,
    e := 0x510e527f, f := 0x9b05688c, g := 0x1f83d9ab, h := 0x5be0cd19 }

/-- Rotation to the right. -/
def rotr (x : UInt32) (n : UInt32) : UInt32 :=
  (x >>> n) ||| (x <<< (32 - n))

/-- The word of four bytes at a position, most significant byte first. -/
def wordAt (bytes : ByteArray) (i : Nat) : UInt32 :=
  let byte (k : Nat) : UInt32 := if h : i + k < bytes.size then bytes[i + k].toUInt32 else 0
  (byte 0 <<< 24) ||| (byte 1 <<< 16) ||| (byte 2 <<< 8) ||| byte 3

/-- The next word of the message schedule. -/
def nextWord (w : Array UInt32) : UInt32 :=
  let i := w.size
  let back (k : Nat) : UInt32 := (w[i - k]?).getD 0
  let x := back 15
  let y := back 2
  let s0 := rotr x 7 ^^^ rotr x 18 ^^^ (x >>> 3)
  let s1 := rotr y 17 ^^^ rotr y 19 ^^^ (y >>> 10)
  back 16 + s0 + back 7 + s1

/-- The message schedule of the block at a position. -/
def schedule (bytes : ByteArray) (start : Nat) : Array UInt32 :=
  let first := (Array.range 16).map fun i => wordAt bytes (start + 4 * i)
  (List.range 48).foldl (fun w _ => w.push (nextWord w)) first

/-- One round. -/
def round (s : State) (k w : UInt32) : State :=
  let s1 := rotr s.e 6 ^^^ rotr s.e 11 ^^^ rotr s.e 25
  let ch := (s.e &&& s.f) ^^^ ((~~~ s.e) &&& s.g)
  let t1 := s.h + s1 + ch + k + w
  let s0 := rotr s.a 2 ^^^ rotr s.a 13 ^^^ rotr s.a 22
  let maj := (s.a &&& s.b) ^^^ (s.a &&& s.c) ^^^ (s.b &&& s.c)
  { a := t1 + (s0 + maj), b := s.a, c := s.b, d := s.c,
    e := s.d + t1, f := s.e, g := s.f, h := s.g }

/-- Folds the block at a position into the state. -/
def compress (s : State) (bytes : ByteArray) (start : Nat) : State :=
  let w := schedule bytes start
  let t := (List.range 64).foldl
    (fun t i => round t ((roundConstants[i]?).getD 0) ((w[i]?).getD 0)) s
  { a := s.a + t.a, b := s.b + t.b, c := s.c + t.c, d := s.d + t.d,
    e := s.e + t.e, f := s.f + t.f, g := s.g + t.g, h := s.h + t.h }

/-- The bytes of a number, most significant first. -/
def bigEndian (n : Nat) (width : Nat) : ByteArray :=
  ⟨((List.range width).map fun i => (n / Nat.pow 256 (width - 1 - i) % 256).toUInt8).toArray⟩

/-- The message with a one bit, zeros and its length in bits. -/
def pad (bytes : ByteArray) : ByteArray :=
  let zeros := (119 - bytes.size % 64) % 64
  let tail : ByteArray := ⟨(0x80 :: List.replicate zeros 0).toArray⟩
  bytes ++ tail ++ bigEndian (bytes.size * 8) 8

/-- The state after all blocks. -/
def finalState (bytes : ByteArray) : State :=
  let message := pad bytes
  (List.range (message.size / 64)).foldl (fun s i => compress s message (64 * i)) .initial

/-- Eight hexadecimal digits of a word. -/
def hexWord (w : UInt32) : String :=
  String.ofList <| (List.range 8).map fun i =>
    (Nat.toDigits 16 (w.toNat / Nat.pow 16 (7 - i) % 16)).headD '0'

/-- The digest in hexadecimal. -/
def hexDigest (bytes : ByteArray) : String :=
  let s := finalState bytes
  "".intercalate ([s.a, s.b, s.c, s.d, s.e, s.f, s.g, s.h].map hexWord)

end TravelModel.Sha256
