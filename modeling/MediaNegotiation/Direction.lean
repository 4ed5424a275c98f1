import MediaNegotiation.Text.Case

/-!
# Transceiver directions

Which way media flows on a transceiver, and how the directions of two sides combine. Definitions
cite what they model in the module `rtp_transceiver_direction`, by name and lines.

Results:
* `ofText_text`: the text of a direction is read back as that direction.
* `reverse_reverse`: reversing twice gives the direction back.
* `intersect_comm`: intersection does not depend on the order of the sides.
-/

namespace MediaNegotiation

/-- Which way media flows (`RTCRtpTransceiverDirection`, lines 6–21). -/
inductive Direction
  | unspecified
  | sendrecv
  | sendonly
  | recvonly
  | inactive
  deriving DecidableEq, Repr

namespace Direction

/-- The text of a direction (`fmt`, lines 41–50). -/
def text : Direction → String
  | .unspecified => "Unspecified"
  | .sendrecv => "sendrecv"
  | .sendonly => "sendonly"
  | .recvonly => "recvonly"
  | .inactive => "inactive"

/-- Reads a direction in any ASCII case; every other text leaves it unspecified (`from`,
lines 29–37). -/
def ofText (s : String) : Direction :=
  if Text.sameAscii s "sendrecv" then .sendrecv
  else if Text.sameAscii s "sendonly" then .sendonly
  else if Text.sameAscii s "recvonly" then .recvonly
  else if Text.sameAscii s "inactive" then .inactive
  else .unspecified

/-- Whether media is sent (`has_send`, lines 79–81). -/
def sends : Direction → Bool
  | .sendrecv | .sendonly => true
  | _ => false

/-- Whether media is received (`has_recv`, lines 83–85). -/
def receives : Direction → Bool
  | .sendrecv | .recvonly => true
  | _ => false

/-- The direction with the given flows (`from_send_recv`, lines 70–77). -/
def ofFlows (sends receives : Bool) : Direction :=
  match sends, receives with
  | true, true => .sendrecv
  | true, false => .sendonly
  | false, true => .recvonly
  | false, false => .inactive

/-- The direction seen from the other side (`reverse`, lines 55–61). -/
def reverse : Direction → Direction
  | .sendonly => .recvonly
  | .recvonly => .sendonly
  | d => d

/-- The flows that both directions have (`intersect`, lines 63–68). -/
def intersect (a b : Direction) : Direction :=
  ofFlows (a.sends && b.sends) (a.receives && b.receives)

/-- Whether media flows one way only (`is_header_extension_direction`, lines 88–90). -/
def isOneWay : Direction → Bool
  | .sendonly | .recvonly => true
  | _ => false

/-- Whether some direction occurs in both lists (`have_rtp_transceiver_direction_intersection`,
lines 94–99). -/
def overlap (allowed wanted : List Direction) : Bool := allowed.any wanted.contains

theorem ofText_text (d : Direction) : ofText d.text = d := by
  cases d <;> decide +kernel

@[simp] theorem reverse_reverse (d : Direction) : d.reverse.reverse = d := by
  cases d <;> rfl

theorem intersect_comm (a b : Direction) : a.intersect b = b.intersect a := by
  cases a <;> cases b <;> rfl

end Direction

end MediaNegotiation
