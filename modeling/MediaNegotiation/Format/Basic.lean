import MediaNegotiation.Codec
import MediaNegotiation.Format.Parameters
import MediaNegotiation.Text.Hex

/-!
# Media formats

A media format is what a codec entry says about the payload beyond its payload type. Three families
of video formats have a rule of their own for when two formats are compatible; all other formats
share one rule, which looks at the parameters that both sides give. Definitions cite what they model
by name and lines, in the module `fmtp` or in its module of the family that is named.

Results:
* `parameters_read`: the parameters of a format that is read are those of its line.
-/

namespace MediaNegotiation

/-- A media format by family. -/
inductive Format
  | h264 (parameters : Parameters)
  | vp9 (parameters : Parameters)
  | av1 (parameters : Parameters)
  | generic (mime : String) (clockRate : UInt32) (channels : UInt16) (parameters : Parameters)
  deriving DecidableEq

namespace Format

/-! ## MIME types -/

/-- The MIME type that selects the rule of H.264 (`MIME_TYPE` of `h264`, line 6). -/
def h264Mime : String := "video/h264"

/-- The MIME type that selects the rule of VP9 (`MIME_TYPE` of `vp9`, line 3). -/
def vp9Mime : String := "video/vp9"

/-- The MIME type that selects the rule of AV1 (`MIME_TYPE` of `av1`, line 3). -/
def av1Mime : String := "video/av1"

/-! ## Reading -/

/-- Reads the format of a MIME type, a clock rate, a channel count and a parameter line (`parse`,
lines 62–80). -/
def read (mime : String) (clockRate : UInt32) (channels : UInt16) (line : String) : Format :=
  let parameters := Parameters.ofLine line
  if Text.sameSpelling mime h264Mime then .h264 parameters
  else if Text.sameSpelling mime vp9Mime then .vp9 parameters
  else if Text.sameSpelling mime av1Mime then .av1 parameters
  else .generic mime clockRate channels parameters

/-- The format of a codec. -/
def ofCodec (c : Codec) : Format := read c.mime c.clockRate c.channels c.fmtp

/-- The MIME type of a format (`mime_type`, line 22). The three families with a rule of their own
give the name of the rule, in lowercase, and not the spelling that they were read with. -/
def mime : Format → String
  | .h264 _ => h264Mime
  | .vp9 _ => vp9Mime
  | .av1 _ => av1Mime
  | .generic mime _ _ _ => mime

/-- The parameters of a format. -/
def parameters : Format → Parameters
  | .h264 p | .vp9 p | .av1 p | .generic _ _ _ p => p

/-- The value of a parameter, whose key is looked up as it is given (`parameter`, line 30). -/
def parameter? (f : Format) (key : String) : Option String := f.parameters[key]?

/-- The parameters of a format that is read are those of its line. -/
@[simp] theorem parameters_read (mime : String) (clockRate : UInt32) (channels : UInt16)
    (line : String) : (read mime clockRate channels line).parameters = Parameters.ofLine line := by
  unfold read
  dsimp only
  split
  · rfl
  · split
    · rfl
    · split <;> rfl

/-! ## Compatibility -/

/-- The value of a parameter that stands for zero when it is absent. -/
def orZero (p : Parameters) (key : String) : String := p.getD key "0"

/-- The profile and its constraints, which are the first two bytes of a profile level id
(`profile_level_id_matches` of `h264`, lines 9–20). The level in the third byte may differ between
the sides. -/
def profile? (p : Parameters) : Option (UInt8 × UInt8) :=
  match p["profile-level-id"]? with
  | none => none
  | some id =>
    match Text.hexBytes? id.toList with
    | some (profile :: constraints :: _) => some (profile, constraints)
    | _ => none

/-- Whether two parameter lists of H.264 agree in packetization mode and in profile (`match_fmtp` of
`h264`, lines 47–64). Without a readable profile a list agrees with none. -/
def h264Agree (p q : Parameters) : Bool :=
  orZero p "packetization-mode" == orZero q "packetization-mode"
    && (profile? p).isSome && profile? p == profile? q

/-- Whether every parameter given on both sides has the same spelling there (`fmtp_consist` of
`generic`, lines 8–13). -/
def sharedAgree (p q : Parameters) : Bool :=
  p.toList.all fun entry =>
    match q[entry.1]? with
    | some value => Text.sameSpelling entry.2 value
    | none => true

/-- Whether two formats can be used together (`match_fmtp`, line 26). -/
def compatible : Format → Format → Bool
  | .h264 p, .h264 q => h264Agree p q
  | .vp9 p, .vp9 q => orZero p "profile-id" == orZero q "profile-id"
  | .av1 p, .av1 q => orZero p "profile" == orZero q "profile"
  | .generic m r c p, .generic n s d q =>
    Text.sameSpelling m n && clockRatesAgree r s && channelsAgree c d && sharedAgree p q
  | _, _ => false

end Format

end MediaNegotiation
