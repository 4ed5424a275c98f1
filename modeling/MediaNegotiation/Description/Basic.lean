import MediaNegotiation.Codec

/-!
# Remote descriptions

What negotiation needs to know of a peer's session description: its media sections in order, each
with the codecs and the header extensions that the peer offers. Definitions cite what they model in
the module `remote_description`.
-/

namespace MediaNegotiation

/-- One media section of a remote description (`RemoteMediaSection`, lines 19–26). -/
structure RemoteSection where
  /-- The media name as the peer writes it, such as `audio` or `application`. -/
  media : String
  /-- The codecs in the peer's order of preference, with the peer's payload types. -/
  codecs : List Codec := []
  /-- The header extensions as pairs of URI and id, in the order of their declaration. -/
  extensions : List (String × Int) := []
  deriving DecidableEq, Repr

/-- The media sections of a remote description, in order (`RemoteDescription`, lines 30–32). -/
abbrev RemoteDescription := List RemoteSection

end MediaNegotiation
