import MediaNegotiation.Engine.Registration

/-!
# Default codecs

The codecs that an engine supports when its owner does not choose them one by one. Every video codec
is followed by the codec that retransmits it. They are those of `register_default_codecs` in
`media_engine` (lines 198–310).
-/

namespace MediaNegotiation

namespace Defaults

/-- An audio codec (`register_default_codecs`, lines 206–219). -/
def audio (mime : String) (clockRate : UInt32) (channels : UInt16) (fmtp : String)
    (payloadType : UInt8) : MediaKind × Codec :=
  (.audio, { mime, clockRate, channels, fmtp, feedback := [], payloadType, statsId := .given "" })

/-- The feedback that every video codec is used with (lines 222–227). -/
def videoFeedback : List Feedback :=
  [⟨"goog-remb", ""⟩, ⟨"ccm", "fir"⟩, ⟨"nack", ""⟩, ⟨"nack", "pli"⟩]

/-- A video codec and its retransmission codec (lines 279–306). -/
def video (mime fmtp : String) (payloadType rtxType : UInt8) : List (MediaKind × Codec) :=
  let entry (mime fmtp : String) (feedback : List Feedback) (payloadType : UInt8) : Codec :=
    { mime, clockRate := 90000, channels := 0, fmtp, feedback, payloadType, statsId := .given "" }
  [(.video, entry mime fmtp videoFeedback payloadType),
    (.video, entry Mime.rtx ("apt=" ++ toString payloadType) [] rtxType)]

/-- The parameter line of an H.264 codec (lines 232–277). -/
def h264Line (packetizationMode profileLevelId : String) : String :=
  "level-asymmetry-allowed=1;packetization-mode=" ++ packetizationMode ++ ";profile-level-id=" ++
    profileLevelId

/-- The default codecs in the order of their registration (lines 200–205 and 230–278). -/
def codecs : List (MediaKind × Codec) :=
  [audio Mime.opus 48000 2 "minptime=10;useinbandfec=1" 111,
    audio Mime.g722 8000 0 "" 9,
    audio Mime.pcmu 8000 0 "" 0,
    audio Mime.pcma 8000 0 "" 8]
  ++ video Mime.vp8 "" 96 97
  ++ video Mime.h264 (h264Line "1" "42001f") 102 103
  ++ video Mime.h264 (h264Line "0" "42001f") 104 105
  ++ video Mime.h264 (h264Line "1" "42e01f") 106 107
  ++ video Mime.h264 (h264Line "0" "42e01f") 108 109
  ++ video Mime.h264 (h264Line "1" "4d001f") 127 125
  ++ video Mime.h264 (h264Line "0" "4d001f") 39 40
  ++ video Mime.h265 "" 116 117
  ++ video Mime.av1 "" 45 46
  ++ video Mime.vp9 "profile-id=0" 98 99
  ++ video Mime.vp9 "profile-id=2" 100 101
  ++ video Mime.h264 (h264Line "1" "64001f") 112 113

end Defaults

/-- Registers the default codecs under stats ids from a serial number on (`register_default_codecs`,
lines 198–310). The codecs before a conflict stay registered. -/
def Engine.registerDefaults (e : Engine) (serial : Nat) : Engine × Except Error Unit :=
  e.registerCodecs serial Defaults.codecs

end MediaNegotiation
