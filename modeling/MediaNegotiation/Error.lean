import MediaNegotiation.Sdp.Fault

/-!
# Errors

The causes for which an operation fails, their wording, and how the errors of several steps become
one. Definitions cite what they model in the module `error`, by name and lines.

Results:
* `joinErrors_eq_ok_iff`: a list of errors is a success exactly when it is empty.
-/

namespace MediaNegotiation

/-- Why an operation fails (`Error`, lines 9–41). -/
inductive Error
  /-- A media kind other than audio and video. -/
  | unknownKind
  | codecNotFound
  /-- A payload type that is bound to a different codec. -/
  | codecConflict
  | noPayloader
  /-- A header extension restricted to something other than one-way directions. -/
  | invalidExtensionDirection
  | numeral (fault : NumeralFault)
  | sdp (fault : Sdp.Fault)
  /-- Several errors reported together, or a message of its own. -/
  | joined (text : String)
  deriving DecidableEq, Repr

/-- The wording of an error. -/
def Error.message : Error → String
  | .unknownKind => "unknown"
  | .codecNotFound => "codec not found"
  | .codecConflict => "codec already registered with a different identity for this payload type"
  | .noPayloader => "the requested codec does not have a payloader"
  | .invalidExtensionDirection =>
    "a header extension must be registered as 'recvonly', 'sendonly' or both"
  | .numeral fault => "parse int: " ++ fault.message
  | .sdp fault => fault.message
  | .joined text => text

/-- The messages of several errors, one on each line (`flatten_errs`, lines 48–49). -/
def joinMessages (errors : List Error) : String := "\n".intercalate (errors.map Error.message)

/-- The result of a run that met the given errors: success if there are none, and otherwise one
error that reports them all (`flatten_errs`, lines 44–51). -/
def joinErrors : List Error → Except Error Unit
  | [] => .ok ()
  | errors => .error (.joined (joinMessages errors))

theorem joinErrors_eq_ok_iff {errors : List Error} : joinErrors errors = .ok () ↔ errors = [] := by
  cases errors <;> simp [joinErrors]

end MediaNegotiation
