import VolatilityDesk.Text.Quoted
import VolatilityDesk.Text.Segments
/-!
# Addresses of requests

An address has a scheme, an authority, a path, a query and a fragment. Paths and queries are
written with escapes for the characters that may not stand in them; escapes that are there already
are kept. An address without a scheme is relative: its path is appended to the path of a base.

Very long texts and texts with control characters are no addresses, and a relative address may be
too long only together with its base, or with its escapes.
-/

namespace VolatilityDesk

/-- An address in its parts. -/
structure Url where
  scheme : Option String := none
  authority : Option String := none
  path : String := ""
  query : Option String := none
  fragment : Option String := none
  deriving DecidableEq, Repr

/-- Why a text is no address. -/
inductive UrlFault where
  | tooLong
  /-- A control character, and the place where it stands. -/
  | control (c : Char) (place : Nat)
  /-- A part is too long that a relative address makes up with its base. -/
  | partTooLong (name : String)
  deriving DecidableEq, Repr

/-- What is said about the fault. -/
def UrlFault.message : UrlFault → String
  | tooLong => "URL too long"
  | control c place =>
    "Invalid non-printable ASCII character in URL, " ++ Text.quoted (String.singleton c)
      ++ s!" at position {place}."
  | partTooLong name => s!"URL component '{name}' too long"

namespace Url

/-- The most characters of an address, and of a part of it. -/
def maxLength : Nat := 65536

/-- A control character. -/
def isControl (c : Char) : Bool := c < ' ' || c == '\x7f'

/-- What keeps a text from being an address, if anything does. -/
def fault? (text : String) : Option UrlFault :=
  if maxLength < text.length then some .tooLong
  else match text.toList.find? isControl with
    | some c => some (.control c (text.toList.idxOf c))
    | none => none

/-- Characters that a scheme is made of. -/
def isSchemeChar (c : Char) : Bool := c.isAlphanum || c == '+' || c == '.' || c == '-'

/-- A scheme and its colon at the front. -/
def splitScheme (s : List Char) : Option (List Char) × List Char :=
  let name := s.takeWhile isSchemeChar
  match name, s.dropWhile isSchemeChar with
  | c :: _, ':' :: rest => if c.isAlpha then (some name, rest) else (none, s)
  | [], ':' :: rest => (none, rest)
  | _, _ => (none, s)

/-- What stands behind a mark, and the text before it. -/
def splitBehind (mark : Char) (s : List Char) : List Char × Option (List Char) :=
  match s.dropWhile (· ≠ mark) with
  | _ :: rest => (s.takeWhile (· ≠ mark), some rest)
  | [] => (s, none)

/-- Goes through the segments: one dot stays where it is, two dots go back. The segments passed are
kept in reverse. -/
def walk (passed : List (List Char)) : List (List Char) → List (List Char)
  | [] => passed.reverse
  | s :: rest =>
    if s = ['.'] then walk passed rest
    else if s = ['.', '.'] then walk (if passed = [[]] then passed else passed.drop 1) rest
    else walk (s :: passed) rest

/-- The path without segments of dots. -/
def withoutDots (path : List Char) : List Char :=
  let parts := Text.segments '/' path
  if parts.contains ['.'] ∨ parts.contains ['.', '.'] then
    List.intercalate ['/'] (walk [] parts)
  else path

/-- The hexadecimal digit of a number below sixteen. -/
def hexDigit (n : Nat) : Char := if n < 10 then Char.ofNat (0x30 + n) else Char.ofNat (0x37 + n)

/-- The bytes of a character, each as an escape. -/
def escapeChar (c : Char) : List Char :=
  (String.singleton c).toUTF8.toList.flatMap fun byte =>
    ['%', hexDigit (byte.toNat / 16), hexDigit (byte.toNat % 16)]

/-- Escapes the characters outside the visible plain ones, and some of these. -/
def escape (unsafeOnes : List Char) (s : List Char) : List Char :=
  s.flatMap fun c => if ' ' < c ∧ c ≤ '~' ∧ !unsafeOnes.contains c then [c] else escapeChar c

/-- Escapes what a path cannot hold. -/
def escapePath (s : List Char) : List Char :=
  escape ['"', '#', '<', '>', '?', '\x60', '\x7b', '\x7d'] s

/-- Escapes what a query cannot hold. -/
def escapeQuery (s : List Char) : List Char := escape ['"', '#', '<', '>'] s

/-- Escapes what a fragment cannot hold. -/
def escapeFragment (s : List Char) : List Char := escape ['"', '<', '>', '\x60'] s

/-- The number behind a host, with its colon, that a scheme implies. -/
def impliedNumber (scheme : Option String) : Option String :=
  match scheme with
  | some "http" => some ":80"
  | some "https" => some ":443"
  | _ => none

/-- The authority with its host in lower case and without the number that the scheme implies. -/
def normalAuthority (scheme : Option String) (s : List Char) : String :=
  let account := (s.reverse.dropWhile (· ≠ '@')).reverse
  let host := String.ofList ((s.drop account.length).map Char.toLower)
  let host := match impliedNumber scheme with
    | some number =>
      if host.endsWith number then (host.dropEnd number.length).toString else host
    | none => host
  String.ofList account ++ host

/-- Reads an address. -/
def parse (text : String) : Url :=
  let (scheme, rest) := splitScheme text.toList
  let scheme := scheme.map fun s => String.ofList (s.map Char.toLower)
  let (rest, fragment) := splitBehind '#' rest
  let (rest, query) := splitBehind '?' rest
  let (authority, path) := match rest with
    | '/' :: '/' :: more => (some (more.takeWhile (· ≠ '/')), more.dropWhile (· ≠ '/'))
    | _ => (none, rest)
  let path := if scheme.isSome ∨ authority.isSome then withoutDots path else path
  { scheme := scheme
    authority := authority.map (normalAuthority scheme)
    path := String.ofList (escapePath path)
    query := query.map fun q => String.ofList (escapeQuery q)
    fragment := fragment.map fun f => String.ofList (escapeFragment f) }

/-- The path, a slash if there is none, and the query. -/
def target (u : Url) : String :=
  (if u.path.isEmpty then "/" else u.path) ++ ((u.query.map ("?" ++ ·)).getD "")

/-- The address has a scheme and names a host. -/
def isAbsolute (u : Url) : Bool := u.scheme.isSome && (u.authority.getD "") != ""

/-- The parts put together. -/
def text (u : Url) : String :=
  ((u.scheme.map (· ++ ":")).getD "") ++ ((u.authority.map ("//" ++ ·)).getD "") ++ u.path
    ++ ((u.query.map ("?" ++ ·)).getD "") ++ ((u.fragment.map ("#" ++ ·)).getD "")

/-- The same place with another path and query. -/
def withTarget (u : Url) (target : String) : Url :=
  let (path, query) := splitBehind '?' target.toList
  let path := if u.scheme.isSome ∨ u.authority.isSome then withoutDots path else path
  { u with
    path := String.ofList (escapePath path)
    query := query.map fun q => String.ofList (escapeQuery q) }

/-- The path of a base ends with a slash. -/
def asBase (u : Url) : Url :=
  if u.target.endsWith "/" then u.withTarget u.target else u.withTarget (u.target ++ "/")

/-- The path and the query of a relative address behind those of a base. -/
def targetBehind (base u : Url) : String :=
  base.target ++ String.ofList (u.target.toList.dropWhile (· = '/'))

/-- The address of a request: an absolute one as it is, a relative one behind a base. -/
def resolve (base address : String) : Url :=
  let u := parse address
  if u.isAbsolute then u
  else
    let base := (parse base).asBase
    base.withTarget (base.targetBehind u)

/-- What keeps a request from having an address behind a base, if anything does. -/
def resolveFault? (base address : String) : Option UrlFault :=
  let u := parse address
  let (path, query) := splitBehind '?' ((parse base).asBase.targetBehind u).toList
  match fault? address with
  | some fault => some fault
  | none =>
    if u.isAbsolute then none
    else if maxLength < path.length then some (.partTooLong "path")
    else if maxLength < (query.getD []).length then some (.partTooLong "query")
    else none

end Url

end VolatilityDesk
