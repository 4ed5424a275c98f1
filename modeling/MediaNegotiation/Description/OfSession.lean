import MediaNegotiation.Description.Basic
import MediaNegotiation.Error
import MediaNegotiation.MediaKind
import MediaNegotiation.Sdp.ExtMap
import MediaNegotiation.Sdp.FormatFacts
import MediaNegotiation.Sdp.Reader

/-!
# Descriptions of sessions

How a session description becomes a remote description. The codecs of a media section are read for
audio and video only, its header extensions always. The first item that cannot be read decides the
error: sections come in order, and in a section formats come before header extensions. Definitions
cite what they model in the module `remote_description`, by name and lines.

The session description itself, what its attributes say about a payload type and the text of a
header extension are read by `Sdp.Session.read`, `Sdp.Media.factsFor` and `Sdp.readExtMap`, which
follow the package `sdp`. Results about sections take these as they are, and use of them no more
than that an id which is read is at least 1.

Results:
* `media_ofMedia`: a section keeps its media name.
-/

namespace MediaNegotiation

namespace RemoteSection

/-- The codec of a payload type, from what the attributes of its media section say about it
(`codecs_from_media_description`, lines 98–115). -/
def codecOf (media : String) (payloadType : UInt8) (facts : Sdp.FormatFacts) : Codec where
  mime := media ++ "/" ++ facts.name
  clockRate := facts.clockRate
  channels := (Numeral.readUInt16 facts.encoding.toList).toOption.getD 0
  fmtp := facts.fmtp
  feedback := facts.feedback.map Feedback.ofText
  payloadType
  statsId := .given ""

/-- Reads the codecs for the formats of a media section (`codecs_from_media_description`,
lines 76–119). The static payload type 0 may be listed without an attribute that mentions it, and is
passed over then. -/
def codecsOf (m : Sdp.Media) : List String → Except Error (List Codec)
  | [] => .ok []
  | format :: rest =>
    match Numeral.readUInt8 format.toList with
    | .error fault => .error (.numeral fault)
    | .ok payloadType =>
      match m.factsFor payloadType with
      | some facts => (codecsOf m rest).map (codecOf m.name payloadType facts :: ·)
      | none =>
        if payloadType = 0 then codecsOf m rest else .error (.sdp .payloadTypeNotFound)

/-- Reads the header extensions among the attributes of a media section
(`rtp_extensions_from_media_description`, lines 121–137). The branch for an extension map without a
URI (line 131) is left out, since every map that `Sdp.readExtMap` reads has one. -/
def extensionsOf : List Sdp.Attribute → Except Error (List (String × Int))
  | [] => .ok []
  | a :: rest =>
    if a.key = Sdp.extMapKey then
      match Sdp.readExtMap a.text with
      | .error fault => .error (.sdp fault)
      | .ok x => (extensionsOf rest).map (x :: ·)
    else extensionsOf rest

/-- Reads a media section (`try_from`, lines 60–73). -/
def ofMedia (m : Sdp.Media) : Except Error RemoteSection :=
  let codecs := if (MediaKind.ofText? m.name).isSome then codecsOf m m.formats else .ok []
  match codecs with
  | .error err => .error err
  | .ok codecs =>
    (extensionsOf m.attributes).map fun extensions => { media := m.name, codecs, extensions }

/-- A section keeps its media name. -/
theorem media_ofMedia {m : Sdp.Media} {r : RemoteSection} (h : ofMedia m = .ok r) :
    r.media = m.name := by
  unfold ofMedia at h
  dsimp only at h
  split at h
  · simp at h
  · cases he : extensionsOf m.attributes with
    | error err => rw [he] at h; simp [Except.map] at h
    | ok xs => rw [he] at h; simp only [Except.map, Except.ok.injEq] at h; rw [← h]

end RemoteSection

namespace RemoteDescription

/-- Reads the media sections of a session in order (`try_from`, lines 46–54). -/
def ofSession : Sdp.Session → Except Error RemoteDescription
  | [] => .ok []
  | m :: rest =>
    match RemoteSection.ofMedia m with
    | .error err => .error err
    | .ok r => (ofSession rest).map (r :: ·)

/-- Reads the text of a session description (`unmarshal`, lines 36–40). -/
def ofText (text : String) : Except Error RemoteDescription :=
  match Sdp.Session.read text with
  | .error fault => .error (.sdp fault)
  | .ok session => ofSession session

end RemoteDescription

end MediaNegotiation
