import TravelModel.Text.Blank
import TravelModel.Url.Host

/-!
# TravelModel — reading locations

Reads the text of a location, alone or relative to another. Blanks around
the text and line breaks within it are dropped, a path is walked so that `.`
and `..` disappear, and each part is percent-encoded by its own set.
-/

namespace TravelModel.Url

/-! ## Encode sets -/

/-- Characters encoded in fragments. -/
def fragmentSet (c : Char) : Bool :=
  Percent.controls c || [' ', '\x22', '<', '>', '\x60'].contains c

/-- Characters encoded in paths. -/
def pathSet (c : Char) : Bool :=
  fragmentSet c || ['#', '?', '\x7b', '\x7d'].contains c

/-- Characters encoded in user names and passwords. -/
def userInfoSet (c : Char) : Bool :=
  pathSet c || ['/', ':', ';', '=', '@', '[', '\\', ']', '^', '|'].contains c

/-- Characters encoded in queries. -/
def querySet (special : Bool) (c : Char) : Bool :=
  Percent.controls c || [' ', '\x22', '#', '<', '>'].contains c || (special && c = '\x27')

/-! ## Schemes -/

/-- The usual ports of the special schemes. -/
def defaultPort? : String → Option Nat
  | "http" | "ws" => some 80
  | "https" | "wss" => some 443
  | "ftp" => some 21
  | _ => none

/-- Whether a scheme has hosts and paths of the usual form. -/
def isSpecial (scheme : String) : Bool :=
  scheme = "file" || (defaultPort? scheme).isSome

/-- A character of a scheme. -/
def isSchemeChar (c : Char) : Bool :=
  c.isAlphanum || c = '+' || c = '-' || c = '.'

/-- Splits a text into its scheme, in lower case, and what follows. -/
def splitScheme? (cs : List Char) : Option (String × List Char) :=
  match cs with
  | [] => none
  | c :: _ =>
    if c.isAlpha then
      match cs.dropWhile isSchemeChar with
      | ':' :: rest => some (String.ofList ((cs.takeWhile isSchemeChar).map Char.toLower), rest)
      | _ => none
    else none

/-! ## Paths -/

/-- Whether a text is a drive letter with a colon or a bar. -/
def isDriveLetter : List Char → Bool
  | [c, d] => c.isAlpha && (d = ':' || d = '|')
  | _ => false

/-- Whether a text starts with a segment that is a drive letter. -/
def startsWithDrive : List Char → Bool
  | [c, d] => isDriveLetter [c, d]
  | c :: d :: e :: _ => isDriveLetter [c, d] && ['/', '\\', '?', '#'].contains e
  | _ => false

/-- Whether a segment is a drive letter in normal form. -/
def isNormalDrive (s : String) : Bool :=
  isDriveLetter s.toList && s.toList.getLast? = some ':'

/-- A segment that stays where it is. -/
def isSingleDot (cs : List Char) : Bool :=
  [".", "%2e", "%2E"].contains (String.ofList cs)

/-- A segment that goes one level up. -/
def isDoubleDot (cs : List Char) : Bool :=
  ["..", "%2e%2e", "%2e%2E", "%2E%2e", "%2E%2E", "%2e.", "%2E.", ".%2e", ".%2E"].contains
    (String.ofList cs)

/-- One level up; a drive letter at the top stays. -/
def parentOf (file : Bool) : List String → List String
  | [] => []
  | s :: rest => if file && isNormalDrive s && rest.all (· = "") then s :: rest else rest

/-- The written form of a segment. -/
def segmentText (file : Bool) (cs : List Char) : String :=
  if file && isDriveLetter cs then String.ofList (cs.take 1 ++ [':'])
  else Percent.encode pathSet cs

/-- Walks segments below the levels gone down so far, the deepest first. -/
def walkPath (file : Bool) : List (List Char) → List String → List String
  | [], levels => levels.reverse ++ [""]
  | [last], levels =>
    if isDoubleDot last then (parentOf file levels).reverse ++ [""]
    else if isSingleDot last then levels.reverse ++ [""]
    else levels.reverse ++ [segmentText file last]
  | s :: rest, levels =>
    if isDoubleDot s then walkPath file rest (parentOf file levels)
    else if isSingleDot s then walkPath file rest levels
    else walkPath file rest (segmentText file s :: levels)

/-- Drops the empty segments a file path starts with. -/
def dropEmptyStart : List String → List String
  | "" :: s :: rest => dropEmptyStart (s :: rest)
  | segments => segments

/-- A backslash parts segments as a slash does in special schemes. -/
def unifySlashes (special : Bool) (cs : List Char) : List Char :=
  if special then cs.map fun c => if c = '\\' then '/' else c else cs

/-- Whether a character ends the path. -/
def endsPath (c : Char) : Bool :=
  c = '?' || c = '#'

/-- Reads a path below some levels, the deepest first, and gives the rest. -/
def readPath (scheme : String) (levels : List String) (cs : List Char) :
    List String × List Char :=
  let body := unifySlashes (isSpecial scheme) (cs.takeWhile (!endsPath ·))
  let segments := walkPath (scheme = "file") (Text.splitChars '/' body) levels
  (if scheme = "file" then dropEmptyStart segments else segments, cs.dropWhile (!endsPath ·))

/-- Reads query and fragment. -/
def readTail (scheme : String) : List Char → Option String × Option String
  | '?' :: rest =>
    let query := Percent.encode (querySet (isSpecial scheme)) (rest.takeWhile (· ≠ '#'))
    match rest.dropWhile (· ≠ '#') with
    | _ :: fragment => (some query, some (Percent.encode fragmentSet fragment))
    | [] => (some query, none)
  | '#' :: fragment => (none, some (Percent.encode fragmentSet fragment))
  | _ => (none, none)

/-- A location from its parts and the text after the path. -/
def build (scheme : String) (authority : Option UrlAuthority) (path : UrlPath)
    (rest : List Char) : Url :=
  let tail := readTail scheme rest
  { scheme, authority, path, query := tail.1, fragment := tail.2 }

/-! ## Authorities -/

/-- Whether a character ends the authority. -/
def endsAuthority (special : Bool) (c : Char) : Bool :=
  c = '/' || c = '?' || c = '#' || (special && c = '\\')

/-- Splits characters at the last `@`. -/
def splitUserInfo (cs : List Char) : Option (List Char × List Char) :=
  if cs.contains '@' then
    let after := (cs.reverse.takeWhile (· ≠ '@')).reverse
    some (cs.take (cs.length - after.length - 1), after)
  else none

/-- The written form of user name and password, with the closing `@`. -/
def userInfoText (cs : List Char) : String :=
  let user := Percent.encode userInfoSet (cs.takeWhile (· ≠ ':'))
  let password := Percent.encode userInfoSet ((cs.dropWhile (· ≠ ':')).drop 1)
  let text := user ++ (if password = "" then "" else ":" ++ password)
  if text = "" then "" else text ++ "@"

/-- Splits host and port at the first colon outside brackets. -/
def splitPort : Bool → List Char → List Char × Option (List Char)
  | _, [] => ([], none)
  | inside, c :: rest =>
    if c = ':' && !inside then ([], some rest)
    else
      let inside := if c = '[' then true else if c = ']' then false else inside
      let p := splitPort inside rest
      (c :: p.1, p.2)

/-- Reads a port; the usual one of the scheme is left out. -/
def readPort (scheme : String) : Option (List Char) → Except UrlError (Option Nat)
  | none => .ok none
  | some [] => .ok none
  | some cs =>
    match UrlHost.numberIn? 10 cs with
    | some n =>
      if n > 65535 then .error .invalidPort
      else .ok (if defaultPort? scheme = some n then none else some n)
    | none => .error .invalidPort

/-- Reads the host of a scheme other than `file`. -/
def readHost (scheme : String) (cs : List Char) : Except UrlError (Option UrlHost) :=
  if isSpecial scheme then
    if cs.isEmpty then .error .emptyHost else (UrlHost.parse cs).map some
  else UrlHost.parsePlain cs

/-- Reads what follows two slashes. -/
def readAuthority (scheme : String) (cs : List Char) : Except UrlError Url := do
  let special := isSpecial scheme
  let text := cs.takeWhile (!endsAuthority special ·)
  let rest := cs.dropWhile (!endsAuthority special ·)
  let (user, hostPort) := (splitUserInfo text).getD ([], text)
  if user.isEmpty && text.head? = some '@' && hostPort.isEmpty && !rest.isEmpty then
    .error .emptyHost
  let userInfo := userInfoText user
  let (hostText, portText) := splitPort false hostPort
  let host ← readHost scheme hostText
  if host.isNone && portText.isSome then .error .emptyHost
  let port ← readPort scheme portText
  if host.isNone && userInfo ≠ "" then .error .emptyHost
  let authority := some { userInfo, host, port : UrlAuthority }
  if !special && (rest.isEmpty || rest.head?.any endsPath) then
    return build scheme authority (.rooted []) rest
  let (segments, rest) := readPath scheme [] (rest.drop (if rest.head?.any endsPath then 0 else 1))
  return build scheme authority (.rooted segments) rest

/-! ## Files -/

/-- The authority of a file without a host. -/
def fileAuthority (host : Option UrlHost) : Option UrlAuthority :=
  some { userInfo := "", host, port := none }

/-- The levels of a path above its last segment, the deepest first. -/
def levels (u : Url) : List String :=
  match u.path with
  | .rooted segments =>
    let up := segments.dropLast.reverse
    if up.isEmpty && u.scheme = "file" && segments.head?.any isNormalDrive then segments else up
  | .plain _ => []

/-- Reads a file location with a host. -/
def readFileHost (cs : List Char) : Except UrlError Url := do
  let ends (c : Char) : Bool := c = '/' || c = '\\' || c = '?' || c = '#'
  let text := cs.takeWhile (!ends ·)
  let drive := isDriveLetter text
  let host ←
    if text.isEmpty || drive then pure none
    else
      match ← UrlHost.parse text with
      | .domain "localhost" => pure none
      | h => pure (some h)
  let (segments, rest) := readPath "file" [] (if drive then cs else cs.dropWhile (!ends ·))
  let host := if segments.any isNormalDrive then none else host
  return build "file" (fileAuthority host) (.rooted segments) rest

/-- Keeps all but the fragment of a base. -/
def withoutFragment (base : Url) : Url :=
  { base with fragment := none }

/-- Reads what follows the scheme of a file, relative to a base that is a file. -/
def readFile (base : Option Url) (cs : List Char) : Except UrlError Url :=
  let slash (c : Char) : Bool := c = '/' || c = '\\'
  match cs, base with
  | c :: d :: rest, _ =>
    if slash c && slash d then readFileHost rest
    else if slash c then .ok (rootedFile (d :: rest))
    else .ok (relativeFile (c :: d :: rest))
  | [c], _ => .ok (if slash c then rootedFile [] else relativeFile [c])
  | [], some b => .ok b.withoutFragment
  | [], none => .ok (relativeFile [])
where
  /-- A path from the root. -/
  rootedFile (rest : List Char) : Url :=
    let (levels, host) :=
      match base with
      | some b =>
        if startsWithDrive rest then ([], none)
        else
          match b.segments? with
          | some (s :: _) => if isNormalDrive s then ([s], none) else ([], b.host?)
          | _ => ([], b.host?)
      | none => ([], none)
    let (segments, rest) := readPath "file" levels rest
    build "file" (fileAuthority host) (.rooted segments) rest
  /-- A path below that of the base. -/
  relativeFile (cs : List Char) : Url :=
    match base with
    | some b =>
      if cs.head?.any endsPath then
        let tail := readTail "file" cs
        { b with query := if cs.head? = some '#' then b.query else tail.1, fragment := tail.2 }
      else if startsWithDrive cs then
        let (segments, rest) := readPath "file" [] cs
        build "file" (fileAuthority none) (.rooted segments) rest
      else
        let (segments, rest) := readPath "file" b.levels cs
        build "file" b.authority (.rooted segments) rest
    | none =>
      let (segments, rest) := readPath "file" [] cs
      build "file" (fileAuthority none) (.rooted segments) rest

/-! ## Relative locations -/

/-- Reads a text relative to a base that is not a file. -/
def readRelative (base : Url) (cs : List Char) : Except UrlError Url :=
  let slash (c : Char) : Bool := c = '/' || c = '\\'
  match cs with
  | [] => .ok base.withoutFragment
  | c :: rest =>
    if endsPath c then
      let tail := readTail base.scheme cs
      .ok { base with query := if c = '#' then base.query else tail.1, fragment := tail.2 }
    else if slash c then
      if rest.head?.any slash then
        let after := if cs.take 2 = ['/', '/'] then cs.drop 2 else cs.dropWhile slash
        readAuthority base.scheme after
      else
        let (segments, rest) := readPath base.scheme [] rest
        .ok (build base.scheme base.authority (.rooted segments) rest)
    else
      let (segments, rest) := readPath base.scheme base.levels cs
      .ok (build base.scheme base.authority (.rooted segments) rest)

/-- Reads what follows a scheme that is not special. -/
def readPlain (scheme : String) (cs : List Char) : Except UrlError Url :=
  match cs with
  | '/' :: '/' :: rest => readAuthority scheme rest
  | '/' :: rest =>
    let (segments, rest) := readPath scheme [] rest
    .ok (build scheme none (.rooted segments) rest)
  | _ =>
    let path := Percent.encode Percent.controls (cs.takeWhile (!endsPath ·))
    .ok (build scheme none (.plain path) (cs.dropWhile (!endsPath ·)))

/-- Drops what does not count in the text of a location. -/
def clean (s : String) : List Char :=
  (Text.trimBoth (fun c => c.toNat ≤ 32) s.toList).filter
    fun c => !(c = '\t' || c = '\n' || c = '\r')

/-- Reads a location, relative to a base if there is one. -/
def parseWith (base : Option Url) (s : String) : Except UrlError Url :=
  let cs := clean s
  let slash (c : Char) : Bool := c = '/' || c = '\\'
  match splitScheme? cs with
  | some (scheme, rest) =>
    if scheme = "file" then readFile (base.filter (·.scheme = "file")) rest
    else if isSpecial scheme then
      match base with
      | some b =>
        if (rest.takeWhile slash).length < 2 && b.scheme = scheme then readRelative b rest
        else readAuthority scheme (rest.dropWhile slash)
      | none => readAuthority scheme (rest.dropWhile slash)
    else readPlain scheme rest
  | none =>
    match base with
    | none => .error .relativeWithoutBase
    | some b =>
      if cs.head? = some '#' then
        .ok { b with fragment := (readTail b.scheme cs).2 }
      else if b.isPlain then .error .relativeToPlain
      else if b.scheme = "file" then readFile (some b) cs
      else readRelative b cs

/-- Reads a location. -/
def parse (s : String) : Except UrlError Url :=
  parseWith none s

/-- Reads a location relative to this one. -/
def join (base : Url) (s : String) : Except UrlError Url :=
  parseWith (some base) s

end TravelModel.Url
