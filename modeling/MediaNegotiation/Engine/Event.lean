import MediaNegotiation.MediaKind

/-!
# Log events

What an engine reports about its decisions, with the severity and the wording of each report. The
reports are those of `media_engine` (lines 573–578, 594–599, 652–668, 705, 711, 739–746 and 809) and
of `api` (line 28).
-/

namespace MediaNegotiation

/-- How closely a remote codec matches a registered one: in format and parameters, or in format
alone (`CodecMatch` of `rtp_codec`, lines 172–177). -/
inductive Tier
  | loose
  | exact
  deriving DecidableEq, Repr

/-- The weaker of two tiers (line 593). -/
def Tier.weaker : Tier → Tier → Tier
  | .exact, .exact => .exact
  | _, _ => .loose

/-- How severe a report is. -/
inductive Severity
  | warning
  | debug
  | trace
  deriving DecidableEq, Repr

/-- A decision that an engine reports. -/
inductive Event
  /-- A media section is neither audio nor video. -/
  | sectionSkipped (media : String)
  /-- A kind is negotiated for the first time. -/
  | kindNegotiating (kind : MediaKind)
  /-- A codec names an associated payload type that has not been matched. -/
  | aptUnmatched (mime : String) (payloadType apt : UInt8)
  /-- A codec has been compared with the registered ones. -/
  | codecMatched (mime : String) (payloadType : UInt8) (tier : Option Tier)
  /-- The codecs of one tier are taken over from a section. -/
  | tierTaken (count : Nat) (tier : Tier) (kind : MediaKind)
  /-- No codec of a section matched. -/
  | nothingMatched (kind : MediaKind)
  /-- A header extension is bound to an id. -/
  | extensionBound (uri : String) (id : Int) (kind : MediaKind)
  /-- A URI that is bound already is offered under another id. -/
  | uriHeld (uri : String) (bound offered : Int)
  /-- An id that is bound already is offered for another URI. -/
  | idHeld (id : Int) (uri holder : String)
  /-- No id is left to propose for an extension. -/
  | idsExhausted (uri : String)
  /-- A session negotiates on the configured engine itself. -/
  | templateShared
  deriving DecidableEq, Repr

namespace Event

/-- The severity of an event. -/
def severity : Event → Severity
  | .uriHeld .. | .idHeld .. | .idsExhausted _ => .warning
  | .kindNegotiating _ | .tierTaken .. | .nothingMatched _ | .extensionBound .. => .debug
  | .sectionSkipped _ | .aptUnmatched .. | .codecMatched .. | .templateShared => .trace

/-- The word for a tier, or for the lack of one, in the report on a codec. -/
def tierWord : Option Tier → String
  | none => "None"
  | some .loose => "Partial"
  | some .exact => "Exact"

/-- The wording of an event. -/
def message : Event → String
  | .sectionSkipped media => "skipping " ++ media ++ " media section"
  | .kindNegotiating kind => "negotiating " ++ kind.text ++ " codecs"
  | .aptUnmatched mime payloadType apt =>
    "ignoring " ++ mime ++ " " ++ toString payloadType ++ ": apt=" ++ toString apt ++
      " matched nothing"
  | .codecMatched mime payloadType tier =>
    mime ++ " " ++ toString payloadType ++ " matched " ++ tierWord tier
  | .tierTaken count tier kind =>
    toString count ++ (match tier with | .exact => " exact " | .loose => " partial ") ++
      kind.text ++ " codec matches"
  | .nothingMatched kind => "no " ++ kind.text ++ " codec matched"
  | .extensionBound uri id kind =>
    "negotiated header extension " ++ uri ++ " as " ++ toString id ++ " for " ++ kind.text
  | .uriHeld uri bound offered =>
    "Invalid ext id mapping in update_header_extension. " ++ uri ++ " was negotiated as " ++
      toString bound ++ ", but was " ++ toString offered ++ " in call"
  | .idHeld id uri holder =>
    "Assigning " ++ toString id ++ " to " ++ uri ++
      " would override previous assignment to " ++ holder ++ ", no action taken"
  | .idsExhausted uri => "No available RTP extension ID for " ++ uri
  | .templateShared => "sharing the configured media engine"

end Event

end MediaNegotiation
