import MediaNegotiation.Codec
import MediaNegotiation.Error

/-!
# Payloads

The MIME type of a codec decides how its frames are laid out in packets. For three of the families
frames are cut here: Opus sends a frame whole, the G.7xx family cuts it into pieces, and VP8 puts a
header with a running picture id before each piece.

The family is chosen by `payloader_kind` of `rtp_codec`, which definitions cite by lines. The
cutting itself is not part of the program: the package `rtp` does it, and its documented framing is
followed here so that a chosen payloader can be run. The results on families do not depend on it.

Results:
* `flatten_pieces`: the pieces of a frame, put together, are the frame.
-/

namespace MediaNegotiation

/-- How the frames of a codec are laid out in packets (`PayloaderKind`, lines 60–68). -/
inductive PayloadFamily
  | h264
  | vp8
  | vp9
  | av1
  | opus
  /-- G.722, PCMU, PCMA and telephone events share one framing. -/
  | g7xx
  deriving DecidableEq, Repr

/-- The family of a MIME type (`payloader_kind`, lines 72–95). -/
def PayloadFamily.ofMime (mime : String) : Except Error PayloadFamily :=
  let is := Text.sameSpelling mime
  if is Mime.h264 then .ok .h264
  else if is Mime.vp8 then .ok .vp8
  else if is Mime.vp9 then .ok .vp9
  else if is Mime.av1 then .ok .av1
  else if is Mime.opus then .ok .opus
  else if is Mime.g722 || is Mime.pcmu || is Mime.pcma || is Mime.telephoneEvent then .ok .g7xx
  else .error .noPayloader

/-! ## Cutting frames -/

/-- The consecutive pieces of a frame with `size` bytes each, the last one with what remains. -/
def pieces (size : Nat) (frame : List UInt8) : List (List UInt8) :=
  (List.range ((frame.length + size - 1) / size)).map fun i => (frame.drop (i * size)).take size

/-- What turns the frames of one stream into packets. -/
inductive Payloader
  /-- The picture id of the next frame has 15 bits. -/
  | vp8 (pictureId : Nat)
  | opus
  | g7xx
  deriving DecidableEq, Repr

namespace Payloader

/-- The payloader with which a stream of a family starts (`payloader_for_codec`, lines 98–116). -/
def start? : PayloadFamily → Option Payloader
  | .vp8 => some (.vp8 0)
  | .opus => some .opus
  | .g7xx => some .g7xx
  | .h264 | .vp9 | .av1 => none

/-- The header before a piece of a VP8 frame; the first piece carries a mark, and a picture id from
128 on takes two bytes. -/
def vp8Header (pictureId : Nat) (isFirst : Bool) : List UInt8 :=
  let mark : UInt8 := if isFirst then 0x90 else 0x80
  if pictureId < 128 then [mark, 0x80, UInt8.ofNat pictureId]
  else [mark, 0x80, UInt8.ofNat (0x80 + pictureId / 256 % 128), UInt8.ofNat (pictureId % 256)]

/-- The packets of one frame of VP8. Without room for a single byte behind the header there are
none. -/
def vp8Packets (pictureId mtu : Nat) (frame : List UInt8) : List (List UInt8) :=
  let room := mtu - (vp8Header pictureId true).length
  if room = 0 then []
  else (pieces room frame).zipIdx.map fun piece => vp8Header pictureId (piece.2 == 0) ++ piece.1

/-- Cuts a frame into packets of at most `mtu` bytes. A frame of VP8 that gives packets uses up its
picture id. -/
def packets (p : Payloader) (mtu : Nat) (frame : List UInt8) : Payloader × List (List UInt8) :=
  if frame.isEmpty || mtu == 0 then (p, [])
  else match p with
    | .opus => (.opus, [frame])
    | .g7xx => (.g7xx, pieces mtu frame)
    | .vp8 id =>
      match vp8Packets id mtu frame with
      | [] => (.vp8 id, [])
      | cut => (.vp8 ((id + 1) % 0x8000), cut)

/-- Cuts the frames of a stream in order. -/
def stream (p : Payloader) (mtu : Nat) : List (List UInt8) → List (List (List UInt8))
  | [] => []
  | frame :: rest =>
    let (next, cut) := p.packets mtu frame
    cut :: next.stream mtu rest

end Payloader

/-! ## Laws -/

theorem flatten_range_pieces (size count : Nat) (frame : List UInt8) :
    ((List.range count).map fun i => (frame.drop (i * size)).take size).flatten =
      frame.take (count * size) := by
  induction count with
  | zero => simp
  | succ n ih =>
    rw [List.range_succ, List.map_append, List.flatten_append, ih, Nat.succ_mul, List.take_add]
    simp

/-- The pieces of a frame, put together, are the frame. -/
theorem flatten_pieces {size : Nat} (h : 0 < size) (frame : List UInt8) :
    (pieces size frame).flatten = frame := by
  rw [pieces, flatten_range_pieces]
  apply List.take_of_length_le
  have := Nat.div_add_mod (frame.length + size - 1) size
  have := Nat.mod_lt (frame.length + size - 1) h
  rw [Nat.mul_comm]
  omega

end MediaNegotiation
