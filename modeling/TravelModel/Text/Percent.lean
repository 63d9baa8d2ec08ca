/-!
# TravelModel — percent encoding

A byte is written as a percent sign and two hexadecimal digits. Which ASCII
characters are written that way depends on the place; characters beyond
ASCII always are, byte by byte.
-/

namespace TravelModel.Percent

/-- An upper-case hexadecimal digit. -/
def hexDigit (n : Nat) : Char :=
  if n < 10 then Char.ofNat (48 + n) else Char.ofNat (55 + n)

/-- The value of a hexadecimal digit. -/
def hexValue? (c : Char) : Option Nat :=
  let n := c.toNat
  if 48 ≤ n ∧ n ≤ 57 then some (n - 48)
  else if 65 ≤ n ∧ n ≤ 70 then some (n - 55)
  else if 97 ≤ n ∧ n ≤ 102 then some (n - 87)
  else none

/-- A byte as a percent sign and two digits. -/
def encodeByte (b : UInt8) : List Char :=
  ['%', hexDigit (b.toNat / 16), hexDigit (b.toNat % 16)]

/-- Encodes a character that is in the set or beyond ASCII. -/
def encodeChar (set : Char → Bool) (c : Char) : List Char :=
  if c.toNat ≥ 128 || set c then (String.utf8EncodeChar c).flatMap encodeByte else [c]

/-- Encodes the characters of a text that are in the set or beyond ASCII. -/
def encode (set : Char → Bool) (cs : List Char) : String :=
  String.ofList (cs.flatMap (encodeChar set))

/-- Control characters. -/
def controls (c : Char) : Bool :=
  c.toNat < 32 || c.toNat = 127

/-- Reads percent signs with two digits as bytes; all else stays. -/
def decodeBytes : List UInt8 → List UInt8
  | 37 :: h :: l :: rest =>
    match hexValue? (Char.ofNat h.toNat), hexValue? (Char.ofNat l.toNat) with
    | some a, some b => UInt8.ofNat (16 * a + b) :: decodeBytes rest
    | _, _ => 37 :: decodeBytes (h :: l :: rest)
  | b :: rest => b :: decodeBytes rest
  | [] => []

/-- The bytes of a text with percent signs read. -/
def decode (s : String) : ByteArray :=
  ⟨(decodeBytes s.toUTF8.toList).toArray⟩

/-- The text whose bytes a text encodes, if they are one. -/
def decodeText? (s : String) : Option String :=
  String.fromUTF8? (decode s)

end TravelModel.Percent
