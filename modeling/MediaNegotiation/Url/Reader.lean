import MediaNegotiation.Text.Case
import MediaNegotiation.Text.Cut
import MediaNegotiation.Text.Numeral
import MediaNegotiation.Url.Basic

/-!
# Reading URLs

An absolute URL is read from a text. How it is read depends on its scheme: a web URL always has an
authority and a resolved path, a file URL has a path of its own on some host, and any other URL has
an authority when two slashes say so. The package `url` reads them in this way.

Results:
* `read_eq_error`: a text without a scheme is no absolute URL.
-/

namespace MediaNegotiation.Url

/-! ## Schemes -/

/-- How the URLs of a scheme are read. -/
inductive SchemeKind
  /-- A web scheme; its authorities have the number `usual` when none is written. -/
  | web (usual : Nat)
  | file
  | other
  deriving DecidableEq, Repr

/-- The web schemes with their usual numbers. -/
def webSchemes : List (List Char × Nat) :=
  [("http".toList, 80), ("https".toList, 443), ("ws".toList, 80), ("wss".toList, 443),
    ("ftp".toList, 21)]

/-- The kind of a scheme. -/
def SchemeKind.of (scheme : List Char) : SchemeKind :=
  if scheme = "file".toList then .file
  else match webSchemes.lookup scheme with
    | some usual => .web usual
    | none => .other

/-- Whether a character may follow the first letter of a scheme. -/
def isSchemeChar (c : Char) : Bool := c.isAlphanum || c == '+' || c == '-' || c == '.'

/-- Divides a text into its scheme, in lowercase, and what follows the colon. -/
def cutScheme (s : List Char) : Except UrlFault (List Char × List Char) :=
  match Text.cutAt ':' s with
  | some (first :: more, rest) =>
    if first.isAlpha && more.all isSchemeChar then .ok (Text.asciiLower (first :: more), rest)
    else .error .relativeWithoutBase
  | _ => .error .relativeWithoutBase

/-! ## Authorities -/

/-- The user part, which ends with the last at sign, and the rest of an authority. -/
def cutUser (s : List Char) : Option (List Char) × List Char :=
  let place := (s.reverse.takeWhile (· != '@')).reverse
  if place.length = s.length then (none, s)
  else (some (s.take (s.length - place.length - 1)), place)

/-- The written form of a user part. A password that is empty is left out, and so is a user part
that has neither a name nor a password. -/
def writeUser (s : List Char) : List Char :=
  let (name, password) := (Text.cutAt ':' s).getD (s, [])
  let shown := encode userReserved name ++
    if password.isEmpty then [] else ':' :: encode userReserved password
  if shown.isEmpty then [] else shown ++ ['@']

/-- The length of a host, which ends at the first colon outside brackets. -/
def hostLength (inside : Bool) : List Char → Nat
  | [] => 0
  | c :: rest =>
    if c = ':' ∧ !inside then 0
    else hostLength (if c = '[' then true else if c = ']' then false else inside) rest + 1

/-- Reads the number behind a host; an empty one and the usual one are not written. -/
def readNumber (usual : Option Nat) (digits : List Char) : Except UrlFault (Option Nat) :=
  match digits with
  | [] => .ok none
  | _ =>
    if digits.all Char.isDigit then
      match Numeral.readNatural 65535 digits with
      | .ok n => .ok (if usual = some n then none else some n)
      | .error _ => .error .invalidNumber
    else .error .invalidNumber

/-- Reads the authority of a web URL. -/
def readAuthority (usual : Nat) (s : List Char) : Except UrlFault Authority := do
  let (user, place) := cutUser s
  let length := hostLength false place
  if length = 0 then .error .emptyHost
  else
    let host ← readHost (place.take length)
    let number ← readNumber (some usual) (place.drop (length + 1))
    return ⟨writeUser (user.getD []), host, number⟩

/-- Reads the authority of a URL of another scheme. A backslash ends the number and begins the path;
it is returned with the text behind it. The URL may have no host, but then it has neither a user nor
a number, and an at sign alone is a fault when the URL goes on, as `continues` says. -/
def readKeptAuthority (continues : Bool) (s : List Char) :
    Except UrlFault (Authority × List Char) := do
  let (user, place) := cutUser s
  if user = some [] ∧ place = [] ∧ continues then .error .emptyHost
  else
    let length := hostLength false place
    let host ← readKeptHost (place.take length)
    let behind := place.drop length
    if host = .nameless then
      if !behind.isEmpty || !(writeUser (user.getD [])).isEmpty then .error .emptyHost
      else return (.ofHost host, [])
    else
      let digits := (behind.drop 1).takeWhile (· != '\\')
      let number ← readNumber none digits
      return (⟨writeUser (user.getD []), host, number⟩, behind.drop (digits.length + 1))

/-! ## Places -/

/-- The characters that separate the segments of a web URL or a file URL. -/
def slashes : List Char := ['/', '\\']

/-- Whether a character separates the segments of a web URL or a file URL. -/
def isSlash (c : Char) : Bool := slashes.contains c

/-- Reads what stands between the scheme and the query of a web URL. -/
def readWebPlace (usual : Nat) (s : List Char) : Except UrlFault (Option Authority × Path) := do
  let s := s.dropWhile isSlash
  let authority ← readAuthority usual (s.takeWhile (!isSlash ·))
  let path := (s.dropWhile (!isSlash ·)).drop 1
  return (some authority, .segments (readSegments false slashes path))

/-- A file on no particular host. -/
def ownFile (s : List Char) : Option Authority × Path :=
  (some (.ofHost .nameless), .segments (dropEmpty (readSegments true slashes s)))

/-- A file on a host. A path that begins with a drive makes the host irrelevant. -/
def hostedFile (host : Host) (s : List Char) : Option Authority × Path :=
  let segments := readSegments true slashes s
  let host := if segments.head?.any isDrive then .nameless else host
  (some (.ofHost host), .segments (dropEmpty segments))

/-- Reads what stands between the scheme and the query of a file URL. Behind a host that is empty or
`localhost` the path is read with its first slash, so that a drive there is not its first segment
and stays as it is written. -/
def readFilePlace (s : List Char) : Except UrlFault (Option Authority × Path) :=
  match s with
  | a :: b :: rest =>
    if isSlash a && isSlash b then
      let host := rest.takeWhile (!isSlash ·)
      let path := rest.dropWhile (!isSlash ·)
      if isDrive host then .ok (ownFile rest)
      else if host.isEmpty then .ok (ownFile path)
      else
        match readHost host with
        | .error fault => .error fault
        | .ok host =>
          if host = .name "localhost".toList then .ok (ownFile path)
          else .ok (hostedFile host (path.drop 1))
    else if isSlash a then .ok (ownFile (b :: rest))
    else .ok (ownFile s)
  | [a] => .ok (ownFile (if isSlash a then [] else s))
  | [] => .ok (ownFile [])

/-- Reads what stands between the scheme and the query of a URL of another scheme; `marked` says
whether a query or a fragment follows. -/
def readOtherPlace (marked : Bool) (s : List Char) :
    Except UrlFault (Option Authority × Path) :=
  match s with
  | '/' :: '/' :: rest => do
    let path := rest.dropWhile (· != '/')
    let (authority, front) ← readKeptAuthority (marked || !path.isEmpty) (rest.takeWhile (· != '/'))
    let segments :=
      match front ++ path with
      | [] => []
      | '/' :: path => readSegments false ['/'] path
      | path => readSegments false ['/'] path
    return (some authority, .segments segments)
  | '/' :: rest => .ok (none, .segments (readSegments false ['/'] rest))
  | _ => .ok (none, .opaqueText (encode [] s))

/-! ## Reading -/

/-- Removes the spaces and control characters around a text and the line breaks and tabs within. -/
def strip (s : List Char) : List Char :=
  let edge := fun c : Char => c.toNat ≤ 0x20
  let inner := ((s.dropWhile edge).reverse.dropWhile edge).reverse
  inner.filter fun c => c != '\t' && c != '\n' && c != '\r'

/-- The text in front of a mark, and the text behind it if the mark is there. -/
def cutPart (mark : Char) (s : List Char) : List Char × Option (List Char) :=
  match Text.cutAt mark s with
  | some (front, part) => (front, some part)
  | none => (s, none)

/-- Reads an absolute URL. -/
def read (s : List Char) : Except UrlFault Url := do
  let (scheme, rest) ← cutScheme (strip s)
  let (rest, fragment) := cutPart '#' rest
  let (place, query) := cutPart '?' rest
  let kind := SchemeKind.of scheme
  let (authority, path) ← match kind with
    | .web usual => readWebPlace usual place
    | .file => readFilePlace place
    | .other => readOtherPlace (query.isSome || fragment.isSome) place
  let reserved := if kind = .other then queryReserved else '\'' :: queryReserved
  return {
    scheme, authority, path
    query := query.map (encode reserved)
    fragment := fragment.map (encode fragmentReserved) }

/-- A text without a scheme is no absolute URL. -/
theorem read_eq_error {s : List Char} (h : ':' ∉ strip s) :
    read s = .error .relativeWithoutBase := by
  have hc : Text.cutAt ':' (strip s) = none := Text.cutAt_eq_none_iff.2 h
  simp [read, cutScheme, hc, bind, Except.bind]

end MediaNegotiation.Url
