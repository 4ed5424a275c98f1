/-!
# Session descriptions

The part of a session description that describes media: one entry for each media section, with the
formats and the attributes in the order in which they stand there.

Session descriptions are read by the package `sdp`, which the program calls and does not contain.
The modules on lines, readers, format facts and extension maps follow its documented behaviour, so
that the program runs from the text of a description to its answer. Results about engines are
results about any description and do not rest on them, with one exception: that an id which is read
from an extension map is at least 1 (`Sdp.id_readExtMap`).
-/

namespace MediaNegotiation.Sdp

/-- An attribute: a key, or a key with a value. -/
structure Attribute where
  key : String
  value : Option String := none
  deriving DecidableEq, Repr

/-- The text of an attribute, which is `key` or `key:value`. -/
def Attribute.text (a : Attribute) : String :=
  match a.value with
  | none => a.key
  | some value => a.key ++ ":" ++ value

/-- One media section. -/
structure Media where
  name : String
  formats : List String := []
  attributes : List Attribute := []
  deriving DecidableEq, Repr

/-- The media sections of a session description, in order. -/
abbrev Session := List Media

end MediaNegotiation.Sdp
