import MediaNegotiation.Text.Numeral
import MediaNegotiation.Url.Fault

/-!
# Faults of session descriptions

Why a session description, or an attribute of one, cannot be read, in the words of the package
`sdp`.
-/

namespace MediaNegotiation.Sdp

/-- Why a session description cannot be read. -/
inductive Fault
  /-- A line of an unexpected type or shape. -/
  | malformed (text : String)
  /-- A field whose value is not one of those allowed. -/
  | invalidValue (field : String)
  | numeral (fault : NumeralFault)
  | extMap (text : String)
  | url (fault : UrlFault)
  /-- A format that no attribute of its media section mentions. -/
  | payloadTypeNotFound
  deriving DecidableEq, Repr

/-- The wording of a fault. -/
def Fault.message : Fault → String
  | .malformed text => "SdpInvalidSyntax: " ++ text
  | .invalidValue field => "SdpInvalidValue: " ++ field
  | .numeral fault => "parse int: " ++ fault.message
  | .extMap text => "parse extmap: " ++ text
  | .url fault => "parse url: " ++ fault.message
  | .payloadTypeNotFound => "payload type not found"

end MediaNegotiation.Sdp
