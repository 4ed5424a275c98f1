import MediaNegotiation.Text.Blank
import MediaNegotiation.Text.Cut

/-!
# Feedback mechanisms

The RTCP feedback a codec is used with, such as `nack pli` or `goog-remb`. Definitions cite what
they model by name and lines, in the module `rtp_transceiver` unless another one is named.

Results:
* `shared_sublist`: what two sides share is part of the local list, in its order.
* `mem_shared`: a mechanism is shared exactly when both sides declare it.
-/

namespace MediaNegotiation

/-- A feedback mechanism; the meaning of the parameter depends on the type (`RTCPFeedback`,
lines 29–37). -/
structure Feedback where
  type : String
  parameter : String
  deriving DecidableEq, Repr

namespace Feedback

/-- Reads the value of a feedback attribute: a type, and behind its first space the parameter
(`from`, lines 50–55). -/
def ofText (raw : String) : Feedback :=
  let value := Text.trim raw.toList
  match Text.cutAt ' ' value with
  | some (type, parameter) => ⟨String.ofList type, String.ofList (Text.trim parameter)⟩
  | none => ⟨String.ofList value, ""⟩

/-- The mechanisms that both sides declare, in local order (`rtcp_feedback_intersection` of
`rtp_codec`, lines 231–240). -/
def shared (locals remotes : List Feedback) : List Feedback :=
  locals.filter fun f => remotes.contains f

theorem shared_sublist (locals remotes : List Feedback) :
    (shared locals remotes).Sublist locals :=
  List.filter_sublist

theorem mem_shared {f : Feedback} {locals remotes : List Feedback} :
    f ∈ shared locals remotes ↔ f ∈ locals ∧ f ∈ remotes := by
  simp [shared]

end Feedback

end MediaNegotiation
