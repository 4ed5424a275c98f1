import MediaNegotiation.Codec
import MediaNegotiation.HeaderExtension

/-!
# Media engines

An engine holds the codecs and header extensions that its owner registered, and beside them what
negotiation with a peer has fixed. The two parts change through different operations: registration
never touches what is negotiated, apart from opening the table of bindings, and negotiation never
touches what is registered.

Definitions cite what they model by name and lines, in the module `media_engine` unless another one
is named.
-/

namespace MediaNegotiation

/-- What negotiation with a peer has fixed (`NegotiationState`, lines 110–120). The flag and the
list of a kind are one option here, since the list stays empty until the flag is set. -/
structure Negotiated where
  /-- The negotiated codecs of each kind; none until the kind has been negotiated. -/
  codecs : PerKind (Option (List Codec)) := .both none
  /-- The bound header extensions; none until an extension has been registered. -/
  bindings : Option BindingTable := none
  deriving DecidableEq

namespace Negotiated

/-- Whether a kind has been negotiated (`is_negotiated`, lines 123–128). -/
def hasKind (s : Negotiated) (kind : MediaKind) : Bool := (s.codecs.get kind).isSome

/-- The negotiated codecs of a kind, of which there are none before it has been negotiated
(lines 115–116). -/
def codecsOf (s : Negotiated) (kind : MediaKind) : List Codec := (s.codecs.get kind).getD []

end Negotiated

/-- A media engine (`MediaEngine`, lines 174–181). -/
structure Engine where
  /-- The registered codecs of each kind, in order of preference. -/
  registered : PerKind (List Codec) := .both []
  /-- The registered header extensions, in the order of their first registration. -/
  extensions : List HeaderExtension := []
  /-- Whether later media sections of a kind may add codecs to those negotiated. -/
  multi : Bool := false
  negotiated : Negotiated := {}
  deriving DecidableEq

/-- A copy of an engine with everything registered and nothing negotiated (`clone_to`,
lines 444–461). -/
def Engine.copy (e : Engine) : Engine :=
  { e with negotiated.codecs := .both none
           negotiated.bindings := if e.extensions.isEmpty then none else some ∅ }

end MediaNegotiation
