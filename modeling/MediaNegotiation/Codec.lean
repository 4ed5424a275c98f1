import MediaNegotiation.Feedback
import MediaNegotiation.Text.Case

/-!
# Codecs

A codec entry of an engine or of a remote media section, and when two entries describe the same
codec. Definitions cite what they model by name and lines, in the module `rtp_codec` unless another
one is named.

Results:
* `sameFormat_symm`, `sameFormat_refl`: sharing a format is reflexive and symmetric. It is not
  transitive, because a clock rate of zero agrees with every other.
* `channelsAgree_trans`: agreement of channel counts is transitive.
-/

namespace MediaNegotiation

/-! ## MIME types

The names of the codecs, as `media_engine` spells them (lines 31–64). -/

namespace Mime

def h264 : String := "video/H264"
def h265 : String := "video/H265"
def opus : String := "audio/opus"
def vp8 : String := "video/VP8"
def vp9 : String := "video/VP9"
def av1 : String := "video/AV1"
def g722 : String := "audio/G722"
def pcmu : String := "audio/PCMU"
def pcma : String := "audio/PCMA"
def telephoneEvent : String := "audio/telephone-event"

/-- The type of the codecs that retransmit the packets of another codec. -/
def rtx : String := "video/rtx"

/-- The type of flexible forward error correction, in lowercase. -/
def flexFec : String := "video/flexfec"

end Mime

/-! ## Clock rates and channels -/

/-- Whether two clock rates agree; a rate of zero is unset and agrees with every other
(`clock_rate_equal` of `fmtp`, lines 83–85). -/
def clockRatesAgree (a b : UInt32) : Bool := a == 0 || b == 0 || a == b

/-- The number of channels a count stands for; zero is unset and stands for one (`channels_equal` of
`fmtp`, lines 89–90). -/
def effectiveChannels (n : UInt16) : UInt16 := if n = 0 then 1 else n

/-- Whether two channel counts stand for the same number of channels (`channels_equal` of `fmtp`,
lines 88–92). -/
def channelsAgree (a b : UInt16) : Bool := effectiveChannels a == effectiveChannels b

/-! ## Entries -/

/-- The name under which statistics report a codec (`next_stats_id` of `media_engine`,
lines 71–81). -/
inductive StatsId
  /-- A name that came with the codec. -/
  | given (text : String)
  /-- A name that was drawn when the codec was registered; no serial number is drawn twice. -/
  | issued (serial : Nat)
  deriving DecidableEq, Repr

/-- A codec with the payload type it is bound to (`RTCRtpCodecParameters`, lines 139–143). -/
structure Codec where
  mime : String
  clockRate : UInt32
  channels : UInt16
  /-- The format parameters as written in a session description. -/
  fmtp : String
  feedback : List Feedback
  payloadType : UInt8
  statsId : StatsId
  deriving DecidableEq, Repr

namespace Codec

/-- Whether two codecs agree in MIME type, clock rate and channels (`codec_parameters_fuzzy_search`,
lines 193–205). -/
def sameFormat (a b : Codec) : Bool :=
  Text.sameSpelling a.mime b.mime && clockRatesAgree a.clockRate b.clockRate
    && channelsAgree a.channels b.channels

/-- Whether two entries describe the same codec: payload type and format agree (`same_codec`,
lines 148–158). -/
def sameCodec (a b : Codec) : Bool := a.payloadType == b.payloadType && sameFormat a b

/-- The first codec of a list that is bound to a payload type (`add_codec` of `media_engine`,
line 318). -/
def find? (codecs : List Codec) (payloadType : UInt8) : Option Codec :=
  codecs.find? (·.payloadType == payloadType)

end Codec

/-! ## Agreement -/

@[simp] theorem clockRatesAgree_refl (a : UInt32) : clockRatesAgree a a = true := by
  simp [clockRatesAgree]

theorem clockRatesAgree_symm (a b : UInt32) : clockRatesAgree a b = clockRatesAgree b a := by
  simp only [clockRatesAgree]
  rw [Bool.or_comm (a == 0) (b == 0), Bool.beq_comm (a := a) (b := b)]

@[simp] theorem channelsAgree_refl (a : UInt16) : channelsAgree a a = true := by
  simp [channelsAgree]

theorem channelsAgree_symm (a b : UInt16) : channelsAgree a b = channelsAgree b a :=
  Bool.beq_comm

theorem channelsAgree_trans {a b c : UInt16} (hab : channelsAgree a b = true)
    (hbc : channelsAgree b c = true) : channelsAgree a c = true := by
  simp only [channelsAgree, beq_iff_eq] at *
  exact hab.trans hbc

namespace Codec

@[simp] theorem sameFormat_refl (a : Codec) : sameFormat a a = true := by
  simp [sameFormat]

theorem sameFormat_symm (a b : Codec) : sameFormat a b = sameFormat b a := by
  simp only [sameFormat]
  rw [Text.sameSpelling_symm, clockRatesAgree_symm, channelsAgree_symm]

end Codec

end MediaNegotiation
