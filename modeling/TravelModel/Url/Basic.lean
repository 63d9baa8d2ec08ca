/-!
# TravelModel — locations

A location is a URL: scheme, authority, path, query and fragment. A path is
a list of segments below the root, or a plain text that has no hierarchy.
Locations are kept in normal form, so equal texts are equal locations.
-/

namespace TravelModel

/-- The host of a location. -/
inductive UrlHost where
  | domain (name : String)
  | ipv4 (address : Nat)
  | ipv6 (groups : List Nat)
deriving DecidableEq, Repr, Inhabited

/-- What stands between two slashes and the path. -/
structure UrlAuthority where
  /-- User name and password as written, with the closing `@`. -/
  userInfo : String
  host : Option UrlHost
  port : Option Nat
deriving DecidableEq, Repr, Inhabited

/-- The path of a location. -/
inductive UrlPath where
  | plain (text : String)
  | rooted (segments : List String)
deriving DecidableEq, Repr, Inhabited

/-- A location. -/
structure Url where
  scheme : String
  authority : Option UrlAuthority
  path : UrlPath
  query : Option String
  fragment : Option String
deriving DecidableEq, Repr, Inhabited

/-- Why a text is no location. -/
inductive UrlError where
  | emptyHost
  | invalidDomain
  | invalidPort
  | invalidIpv4
  | invalidIpv6
  | invalidDomainCharacter
  | relativeWithoutBase
  | relativeToPlain
deriving DecidableEq, Repr, Inhabited

/-- The wording of an error. -/
def UrlError.message : UrlError → String
  | emptyHost => "empty host"
  | invalidDomain => "invalid international domain name"
  | invalidPort => "invalid port number"
  | invalidIpv4 => "invalid IPv4 address"
  | invalidIpv6 => "invalid IPv6 address"
  | invalidDomainCharacter => "invalid domain character"
  | relativeWithoutBase => "relative URL without a base"
  | relativeToPlain => "relative URL with a cannot-be-a-base base"

namespace UrlHost

/-- A number in hexadecimal. -/
def hexText (n : Nat) : String :=
  String.ofList (Nat.toDigits 16 n)

/-- The length of the run of zeros at the start of a list. -/
def zeroRun (groups : List Nat) : Nat :=
  (groups.takeWhile (· = 0)).length

/-- Where the first longest run of at least two zeros starts, and its length. -/
def longestZeros (groups : List Nat) : Option (Nat × Nat) :=
  let runs := (List.range groups.length).map fun i => (i, zeroRun (groups.drop i))
  runs.foldl
    (fun best r =>
      if r.2 < 2 then best
      else
        match best with
        | some b => if b.2 < r.2 then some r else some b
        | none => some r)
    none

/-- The groups of an address, with the longest run of zeros left out. -/
def ipv6Text (groups : List Nat) : String :=
  match longestZeros groups with
  | some (start, len) =>
    ":".intercalate ((groups.take start).map hexText) ++ "::" ++
      ":".intercalate ((groups.drop (start + len)).map hexText)
  | none => ":".intercalate (groups.map hexText)

/-- The four bytes of an address. -/
def ipv4Text (a : Nat) : String :=
  ".".intercalate ([a / Nat.pow 2 24, a / Nat.pow 2 16 % 256, a / 256 % 256, a % 256].map toString)

/-- How a host is written. -/
def text : UrlHost → String
  | domain name => name
  | ipv4 a => ipv4Text a
  | ipv6 gs => "[" ++ ipv6Text gs ++ "]"

end UrlHost

/-- How a host that may be empty is written. -/
def UrlAuthority.hostText (a : UrlAuthority) : String :=
  (a.host.map UrlHost.text).getD ""

/-- How an authority is written. -/
def UrlAuthority.text (a : UrlAuthority) : String :=
  a.userInfo ++ a.hostText ++ ((a.port.map fun p => ":" ++ toString p).getD "")

/-- How a path is written. -/
def UrlPath.text : UrlPath → String
  | plain t => t
  | rooted segments => String.join (segments.map ("/" ++ ·))

namespace Url

/-- What stands before a path that would otherwise look like an authority. -/
def pathGuard (u : Url) : String :=
  match u.authority, u.path with
  | none, .rooted ("" :: _ :: _) => "/."
  | _, _ => ""

/-- The text of a location. -/
def text (u : Url) : String :=
  u.scheme ++ ":" ++ ((u.authority.map fun a => "//" ++ a.text).getD "") ++ u.pathGuard ++
    u.path.text ++ ((u.query.map ("?" ++ ·)).getD "") ++ ((u.fragment.map ("#" ++ ·)).getD "")

/-- The host of a location. -/
def host? (u : Url) : Option UrlHost :=
  u.authority.bind UrlAuthority.host

/-- The port of a location. -/
def port? (u : Url) : Option Nat :=
  u.authority.bind UrlAuthority.port

/-- The segments of the path; a plain or empty path has none. -/
def segments? (u : Url) : Option (List String) :=
  match u.path with
  | .rooted (s :: rest) => some (s :: rest)
  | _ => none

/-- The last segment of the path. -/
def lastSegment? (u : Url) : Option String :=
  u.segments?.bind List.getLast?

/-- Whether nothing can be relative to a location. -/
def isPlain (u : Url) : Bool :=
  match u.path with
  | .plain _ => true
  | .rooted _ => false

end Url

end TravelModel
