import MediaNegotiation.Url.Host
import MediaNegotiation.Url.Path

/-!
# URLs

The parts of an absolute URL and its written form.

The URL of an extension map is read and written by the package `url`, on which `sdp` rests; neither
is part of the program. The modules on URLs and on host names follow its documented behaviour so
that extension maps can be read. No result about engines or descriptions looks into them.

Results:
* `toText_opaque`: a URL without an authority and with a path that is kept shows its parts one
  behind the other.
-/

namespace MediaNegotiation

namespace Url

/-- Who serves a URL. -/
structure Authority where
  /-- The name and the password of a user as they are written, with the sign behind them. -/
  user : List Char
  host : Host
  /-- The number that is written behind the host. -/
  number : Option Nat
  deriving DecidableEq, Repr

/-- The authority of a host alone. -/
def Authority.ofHost (host : Host) : Authority := ⟨[], host, none⟩

/-- The written form of an authority. -/
def Authority.toText (a : Authority) : List Char :=
  a.user ++ a.host.toText ++
    match a.number with
    | some n => ':' :: Nat.toDigits 10 n
    | none => []

end Url

/-- An absolute URL. The parts are held as they are written, percent encodings included. -/
structure Url where
  scheme : List Char
  authority : Option Url.Authority
  path : Url.Path
  query : Option (List Char)
  fragment : Option (List Char)
  deriving DecidableEq, Repr

namespace Url

/-- The written form of what stands between the scheme and the query. Without an authority a path
may not begin with two slashes, so a dot is written between them. -/
def placeText : Option Authority → Path → List Char
  | some authority, path => '/' :: '/' :: authority.toText ++ path.toText
  | none, .segments ([] :: next :: rest) =>
    '/' :: '.' :: (Path.segments ([] :: next :: rest)).toText
  | none, path => path.toText

/-- A part of a URL behind its mark, if it is there. -/
def markedText (mark : Char) : Option (List Char) → List Char
  | none => []
  | some text => mark :: text

/-- The written form of a URL. -/
def toText (u : Url) : String :=
  String.ofList
    (u.scheme ++ ':' :: placeText u.authority u.path ++ markedText '?' u.query ++
      markedText '#' u.fragment)

theorem toText_opaque {scheme text : List Char} :
    toText ⟨scheme, none, .opaqueText text, none, none⟩ =
      String.ofList (scheme ++ ':' :: text) := by
  simp [toText, placeText, Path.toText, markedText]

end Url

end MediaNegotiation
