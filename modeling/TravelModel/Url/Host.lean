import TravelModel.Text.Percent
import TravelModel.Text.Punycode
import TravelModel.Text.Split
import TravelModel.Url.Basic

/-!
# TravelModel — hosts of locations

Reads a host: an address of version 6 in brackets, an address of version 4
if the last label is a number, and otherwise a domain name in lower case.
-/

namespace TravelModel.UrlHost

/-- The value of a digit in a base of at most sixteen. -/
def digitIn? (base : Nat) (c : Char) : Option Nat :=
  (Percent.hexValue? c).filter (· < base)

/-- The value of a list of digits. -/
def numberIn? (base : Nat) (cs : List Char) : Option Nat :=
  cs.foldlM (fun n c => (digitIn? base c).map (base * n + ·)) 0

/-- A part of an address: decimal, octal after `0`, hexadecimal after `0x`. -/
def ipv4Number? : List Char → Option Nat
  | [] => none
  | '0' :: 'x' :: rest => numberIn? 16 rest
  | '0' :: 'X' :: rest => numberIn? 16 rest
  | '0' :: c :: rest => numberIn? 8 (c :: rest)
  | cs => numberIn? 10 cs

/-- The parts of a name between points, without an empty one at the end. -/
def ipv4Parts (name : List Char) : List (List Char) :=
  let parts := Text.splitChars '.' name
  if parts.getLast? = some [] then parts.dropLast else parts

/-- Whether the last part of a name is a number. -/
def endsInNumber (name : List Char) : Bool :=
  match (ipv4Parts name).getLast? with
  | some last => (!last.isEmpty && last.all Char.isDigit) || (ipv4Number? last).isSome
  | none => false

/-- Reads an address of up to four parts; the last fills what is left. -/
def parseIpv4 (name : List Char) : Except UrlError UrlHost :=
  match (ipv4Parts name).mapM ipv4Number? with
  | none => .error .invalidIpv4
  | some numbers =>
    match numbers.reverse with
    | [] => .error .invalidIpv4
    | last :: before =>
      if numbers.length > 4 || last ≥ Nat.pow 256 (4 - before.length) || before.any (· > 255) then
        .error .invalidIpv4
      else
        let high := before.reverse.zipIdx.map fun (n, i) => n * Nat.pow 256 (3 - i)
        .ok (.ipv4 (high.foldl (· + ·) last))

/-- A group of one to four hexadecimal digits. -/
def ipv6Group? (cs : List Char) : Option Nat :=
  if cs.isEmpty || cs.length > 4 then none else numberIn? 16 cs

/-- A decimal part of an address inside an address; no leading zeros. -/
def embeddedByte? (cs : List Char) : Option Nat :=
  match cs with
  | [] => none
  | '0' :: _ :: _ => none
  | _ => (numberIn? 10 cs).filter (· < 256)

/-- The groups of a text between colons; the last may be an address of
version 4, which counts for two. -/
def ipv6Groups? : List (List Char) → Option (List Nat)
  | [] => some []
  | [last] =>
    if last.contains '.' then
      match (Text.splitChars '.' last).mapM embeddedByte? with
      | some [a, b, c, d] => some [256 * a + b, 256 * c + d]
      | _ => none
    else (ipv6Group? last).map ([·])
  | g :: rest => do
    let n ← ipv6Group? g
    let more ← ipv6Groups? rest
    return n :: more

/-- Groups that stand on one side of a gap. -/
def ipv6Side? (cs : List Char) : Option (List Nat) :=
  if cs.isEmpty then some [] else ipv6Groups? (Text.splitChars ':' cs)

/-- Splits characters at the first double colon. -/
def splitGap : List Char → Option (List Char × List Char)
  | ':' :: ':' :: rest => some ([], rest)
  | c :: rest => (splitGap rest).map fun p => (c :: p.1, p.2)
  | [] => none

/-- Reads an address of version 6. -/
def parseIpv6 (cs : List Char) : Except UrlError UrlHost :=
  let groups :=
    match splitGap cs with
    | some (left, right) => do
      if left.contains '.' then none
      let l ← ipv6Side? left
      let r ← ipv6Side? right
      if l.length + r.length ≤ 7 then
        some (l ++ List.replicate (8 - l.length - r.length) 0 ++ r)
      else none
    | none => (ipv6Side? cs).filter (·.length = 8)
  match groups with
  | some gs => .ok (.ipv6 gs)
  | none => .error .invalidIpv6

/-- Characters no domain name has. -/
def forbiddenInDomain (c : Char) : Bool :=
  c.toNat ≤ 32 || c.toNat = 127 || "#/:<>?@[\\]^|%".toList.contains c

/-- Characters no host outside the special schemes has. -/
def forbiddenInHost (c : Char) : Bool :=
  [0, 9, 10, 13, 32].contains c.toNat || "#/:<>?@[\\]^|".toList.contains c

/-- Runs of capital letters of the Latin, Greek and Cyrillic alphabets: the first, the
last, the step from one to the next, and how far the small letters are. -/
def capitalRuns : List (Nat × Nat × Nat × Nat) :=
  [ (0xC0, 0xD6, 1, 32), (0xD8, 0xDE, 1, 32), (0x100, 0x12E, 2, 1), (0x134, 0x136, 2, 1),
    (0x139, 0x13D, 2, 1), (0x141, 0x147, 2, 1), (0x14A, 0x176, 2, 1), (0x179, 0x17D, 2, 1),
    (0x370, 0x372, 2, 1), (0x388, 0x38A, 1, 37), (0x38E, 0x38F, 1, 63), (0x391, 0x3A1, 1, 32),
    (0x3A3, 0x3AB, 1, 32), (0x3D8, 0x3EE, 2, 1), (0x400, 0x40F, 1, 80), (0x410, 0x42F, 1, 32),
    (0x460, 0x480, 2, 1), (0x48A, 0x4BE, 2, 1), (0x4C1, 0x4CD, 2, 1), (0x4D0, 0x52E, 2, 1) ]

/-- Characters of these alphabets that stand for others, each with those. -/
def variants : List (List Char) :=
  Text.splitChars ' ' <| String.toList <|
    "ªa ²2 ³3 \u00b5μ ¹1 ºo ¼1⁄4 ½1⁄2 ¾3⁄4 İi\u0307 Ĳij ĳij Ŀl· ŀl· ŉʼn Ÿÿ ſs \u0374ʹ " ++
      "Ͷͷ \u037e; Ϳϳ Άά \u0387· Όό Ϗϗ ϐβ ϑθ ϒυ ϓύ ϔϋ ϕφ ϖπ ϰκ ϱρ ϲσ ϴθ ϵε Ϸϸ Ϲσ Ϻϻ Ͻͻ " ++
      "Ͼͼ Ͽͽ Ӏӏ 。. ．. ｡."

/-- Whether a character of these alphabets is a control, no character, or stands for
a blank. -/
def isDisallowed (n : Nat) : Bool :=
  (0x80 ≤ n && n ≤ 0xA0) || (0x380 ≤ n && n ≤ 0x385) ||
    [0xA8, 0xAF, 0xB4, 0xB8, 0x378, 0x379, 0x37A, 0x38B, 0x38D, 0x3A2].contains n

/-- What a character of a domain name stands for. Characters of other alphabets stand
for themselves. -/
def mapChar? (c : Char) : Option (List Char) :=
  let n := c.toNat
  if n < 128 then some [c.toLower]
  else if isDisallowed n then none
  else if n = 0xAD then some []
  else
    match capitalRuns.find? fun r => r.1 ≤ n && n ≤ r.2.1 && (n - r.1) % r.2.2.1 = 0 with
    | some r => some [Char.ofNat (n + r.2.2.2)]
    | none => some (((variants.find? (·.head? = some c)).map List.tail).getD [c])

/-- Whether a label is no code, or the code of characters beyond ASCII that stand for
themselves. -/
def isDecodable : List Char → Bool
  | 'x' :: 'n' :: '-' :: '-' :: code =>
    (Punycode.decode? code).any fun cs =>
      cs.any (128 ≤ ·.toNat) && cs.all fun c => mapChar? c = some [c]
  | _ => true

/-- The ASCII form of a domain name, in lower case. Characters are not composed. -/
def domainToAscii (name : List Char) : Except UrlError (List Char) :=
  match name.mapM mapChar? with
  | none => .error .invalidDomain
  | some mapped =>
    let labels := Text.splitChars '.' mapped.flatten
    if mapped.flatten.any forbiddenInDomain || !labels.all isDecodable then .error .invalidDomain
    else .ok (List.intercalate ['.'] (labels.map Punycode.toAscii))

/-- Reads an address in brackets. -/
def parseBracketed (cs : List Char) : Except UrlError UrlHost :=
  if cs.getLast? = some ']' then parseIpv6 (cs.drop 1).dropLast else .error .invalidIpv6

/-- Reads a host of a special scheme. -/
def parse (cs : List Char) : Except UrlError UrlHost :=
  if cs.head? = some '[' then parseBracketed cs
  else
    match Percent.decodeText? (String.ofList cs) with
    | none => .error .invalidDomain
    | some name => do
      let name ← domainToAscii name.toList
      if name.isEmpty then .error .emptyHost
      else if endsInNumber name then parseIpv4 name
      else .ok (.domain (String.ofList name))

/-- Reads a host of any other scheme; an empty one is none. -/
def parsePlain (cs : List Char) : Except UrlError (Option UrlHost) :=
  if cs.head? = some '[' then (parseBracketed cs).map some
  else if cs.any forbiddenInHost then .error .invalidDomainCharacter
  else if cs.isEmpty then .ok none
  else .ok (some (.domain (Percent.encode Percent.controls cs)))

end TravelModel.UrlHost
