import TravelModel.Json.Token

/-!
# TravelModel — TOML texts

Texts in quotes, of one line or of several, with escapes or taken literally,
and the spaces, comments and line ends between other things.
-/

namespace TravelModel.Toml

/-- A blank within a line. -/
def isBlank (c : Char) : Bool :=
  c = ' ' || c = '\t'

/-- Drops blanks. -/
def blanks (cs : List Char) : List Char :=
  cs.dropWhile isBlank

/-- A character of a comment. -/
def isCommentChar (c : Char) : Bool :=
  c = '\t' || 0x20 ≤ c.toNat

/-- The rest of a line may hold blanks and a comment only. -/
def endLine? (cs : List Char) : Option (List Char) :=
  let cs :=
    match blanks cs with
    | '#' :: rest => rest.dropWhile isCommentChar
    | rest => rest
  match cs with
  | [] => some []
  | '\n' :: rest => some rest
  | '\r' :: '\n' :: rest => some rest
  | _ => none

/-- Drops blanks, line ends and comments. -/
def skipGap : Bool → List Char → Option (List Char)
  | _, [] => some []
  | _, '\n' :: rest => skipGap false rest
  | _, '\r' :: '\n' :: rest => skipGap false rest
  | true, c :: rest => if isCommentChar c then skipGap true rest else none
  | false, c :: rest =>
    if c = '#' then skipGap true rest
    else if isBlank c then skipGap false rest
    else some (c :: rest)

/-! ## Texts -/

/-- A character that stands for itself in a text with escapes. -/
def isPlainChar (c : Char) : Bool :=
  c = '\t' || (0x20 ≤ c.toNat && c.toNat ≠ 0x22 && c.toNat ≠ 0x5C && c.toNat ≠ 0x7F)

/-- A character of a literal text. -/
def isLiteralChar (c : Char) : Bool :=
  c = '\t' || (0x20 ≤ c.toNat && c.toNat ≠ 0x27 && c.toNat ≠ 0x7F)

/-- The character of a code in hexadecimal digits. -/
def codeChar? (digits : List Char) : Option Char := do
  let values ← digits.mapM Json.hexValue?
  let n := values.foldl (fun n d => n * 16 + d) 0
  if n.isValidChar then some (Char.ofNat n) else none

/-- What a letter after a backslash stands for. -/
def escaped? : Char → Option Char
  | 'b' => some '\x08'
  | 't' => some '\t'
  | 'n' => some '\n'
  | 'f' => some '\x0c'
  | 'r' => some '\r'
  | '\x22' => some '\x22'
  | '\x5c' => some '\x5c'
  | _ => none

/-- Whether a line ends here, blanks aside. -/
def endsLine (cs : List Char) : Bool :=
  match blanks cs with
  | '\n' :: _ => true
  | '\r' :: '\n' :: _ => true
  | _ => false

/-- Reads a text with escapes of one line, after its opening quote. -/
def basicText? (acc : List Char) : List Char → Option (String × List Char)
  | '\x22' :: rest => some (String.ofList acc.reverse, rest)
  | '\x5c' :: 'u' :: a :: b :: c :: d :: rest => do
    basicText? ((← codeChar? [a, b, c, d]) :: acc) rest
  | '\x5c' :: 'U' :: a :: b :: c :: d :: e :: f :: g :: h :: rest => do
    basicText? ((← codeChar? [a, b, c, d, e, f, g, h]) :: acc) rest
  | '\x5c' :: c :: rest => do basicText? ((← escaped? c) :: acc) rest
  | c :: rest => if isPlainChar c then basicText? (c :: acc) rest else none
  | [] => none

/-- Reads a text with escapes of several lines, after its opening quotes. A
backslash at the end of a line drops all blanks and line ends that follow. -/
def basicLines? (trimming : Bool) (acc : List Char) : List Char → Option (String × List Char)
  | '\x22' :: '\x22' :: '\x22' :: '\x22' :: '\x22' :: rest =>
    some (String.ofList ('\x22' :: '\x22' :: acc).reverse, rest)
  | '\x22' :: '\x22' :: '\x22' :: '\x22' :: rest =>
    some (String.ofList ('\x22' :: acc).reverse, rest)
  | '\x22' :: '\x22' :: '\x22' :: rest => some (String.ofList acc.reverse, rest)
  | '\x22' :: rest => basicLines? false ('\x22' :: acc) rest
  | '\r' :: '\n' :: rest => basicLines? trimming (if trimming then acc else '\n' :: acc) rest
  | '\n' :: rest => basicLines? trimming (if trimming then acc else '\n' :: acc) rest
  | '\x5c' :: 'u' :: a :: b :: c :: d :: rest => do
    basicLines? false ((← codeChar? [a, b, c, d]) :: acc) rest
  | '\x5c' :: 'U' :: a :: b :: c :: d :: e :: f :: g :: h :: rest => do
    basicLines? false ((← codeChar? [a, b, c, d, e, f, g, h]) :: acc) rest
  | '\x5c' :: c :: rest =>
    if endsLine (c :: rest) then basicLines? true acc (c :: rest)
    else do basicLines? false ((← escaped? c) :: acc) rest
  | c :: rest =>
    if trimming && isBlank c then basicLines? true acc rest
    else if isPlainChar c then basicLines? false (c :: acc) rest
    else none
  | [] => none

/-- Reads a literal text of one line, after its opening quote. -/
def literalText? (acc : List Char) : List Char → Option (String × List Char)
  | '\x27' :: rest => some (String.ofList acc.reverse, rest)
  | c :: rest => if isLiteralChar c then literalText? (c :: acc) rest else none
  | [] => none

/-- Reads a literal text of several lines, after its opening quotes. -/
def literalLines? (acc : List Char) : List Char → Option (String × List Char)
  | '\x27' :: '\x27' :: '\x27' :: '\x27' :: '\x27' :: rest =>
    some (String.ofList ('\x27' :: '\x27' :: acc).reverse, rest)
  | '\x27' :: '\x27' :: '\x27' :: '\x27' :: rest =>
    some (String.ofList ('\x27' :: acc).reverse, rest)
  | '\x27' :: '\x27' :: '\x27' :: rest => some (String.ofList acc.reverse, rest)
  | '\x27' :: rest => literalLines? ('\x27' :: acc) rest
  | '\r' :: '\n' :: rest => literalLines? ('\n' :: acc) rest
  | '\n' :: rest => literalLines? ('\n' :: acc) rest
  | c :: rest => if isLiteralChar c then literalLines? (c :: acc) rest else none
  | [] => none

/-- Drops the line end right after opening quotes. -/
def firstLine : List Char → List Char
  | '\r' :: '\n' :: rest => rest
  | '\n' :: rest => rest
  | cs => cs

/-- Reads a text in quotes of any kind; `none` if there is none. -/
def quoted? : List Char → Option (String × List Char)
  | '\x22' :: '\x22' :: '\x22' :: rest => basicLines? false [] (firstLine rest)
  | '\x22' :: rest => basicText? [] rest
  | '\x27' :: '\x27' :: '\x27' :: rest => literalLines? [] (firstLine rest)
  | '\x27' :: rest => literalText? [] rest
  | _ => none

/-! ## Keys -/

/-- A character of a key without quotes. -/
def isKeyChar (c : Char) : Bool :=
  c.isAlphanum || c = '_' || c = '-'

/-- Reads one part of a key. -/
def keyPart? : List Char → Option (String × List Char)
  | '\x22' :: rest => basicText? [] rest
  | '\x27' :: rest => literalText? [] rest
  | cs =>
    let name := cs.takeWhile isKeyChar
    if name.isEmpty then none else some (String.ofList name, cs.dropWhile isKeyChar)

/-- Reads a key of parts joined by points, with blanks around each. -/
def keyPath? : Nat → List Char → Option (List String × List Char)
  | 0, _ => none
  | budget + 1, cs => do
    let (part, rest) ← keyPart? (blanks cs)
    match blanks rest with
    | '.' :: more =>
      let (parts, rest) ← keyPath? budget more
      return (part :: parts, rest)
    | rest => return ([part], rest)

end TravelModel.Toml
