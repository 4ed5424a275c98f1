import MediaNegotiation.Engine.Basic
import MediaNegotiation.Engine.Event
import MediaNegotiation.Stats
import MediaNegotiation.Text.Search

/-!
# Views of an engine

What an engine answers about its codecs and header extensions. Each kind is answered from what has
been negotiated once it has been, and from what is registered before that. For a kind that has not
been negotiated the ids of header extensions are only proposed, and proposing records nothing.
Definitions cite what they model by name and lines, in the module `media_engine` unless another one
is named.

Results:
* `codecs_of_negotiated`, `codecs_of_not_negotiated`: which list a kind is answered from.
* `freeId?_eq_some`: a proposed id lies between 1 and 14 and is neither bound nor proposed already.
-/

namespace MediaNegotiation

/-- What a transceiver uses: its header extensions as pairs of URI and id, and its codecs
(`RTCRtpParameters` of `rtp_codec`, lines 164–167). -/
structure RtpParameters where
  extensions : List (String × Int)
  codecs : List Codec
  deriving DecidableEq, Repr

/-- A list of codecs in which a payload type may be looked up (`codec_by_payload`, line 482). -/
structure Candidate where
  kind : MediaKind
  codecs : List Codec
  /-- Whether the list takes part in the look-up. -/
  enabled : Bool
  deriving DecidableEq, Repr

/-! ## Proposals -/

/-- The ids to offer for extensions, and the extensions for which none is left
(`get_rtp_parameters_by_kind`, lines 794–795). -/
structure Proposal where
  table : BindingTable := ∅
  unserved : List String := []

/-- The lowest id of one-byte headers that is neither bound nor proposed; 15 is reserved
(`get_rtp_parameters_by_kind`, lines 799–802). -/
def freeId? (bound proposed : BindingTable) : Option Int :=
  ((List.range' 1 14).map Int.ofNat).find? fun id => !bound.contains id && !proposed.contains id

/-- Adds an extension to a proposal: under the id it is bound to, or else under a free one
(`get_rtp_parameters_by_kind`, lines 798–810). -/
def Proposal.add (bound : BindingTable) (p : Proposal) (x : HeaderExtension) : Proposal :=
  let id? := match bound.binding? x.uri with
    | some (id, _) => some id
    | none => freeId? bound p.table
  match id? with
  | some id => { p with table := p.table.insert id x }
  | none => { p with unserved := p.unserved ++ [x.uri] }

namespace Engine

/-- The proposal for all registered extensions, in the order of their registration
(`get_rtp_parameters_by_kind`, lines 794–811). -/
def proposal (e : Engine) : Proposal :=
  e.extensions.foldl (Proposal.add (e.negotiated.bindings.getD ∅)) {}

/-! ## Codecs -/

/-- The codecs of a kind: the negotiated ones once it has been negotiated (`codecs_by_kind`,
lines 463–474). -/
def codecs (e : Engine) (kind : MediaKind) : List Codec :=
  (e.negotiated.codecs.get kind).getD (e.registered.get kind)

/-- The lists in which a payload type may be looked up, in their order (`codec_by_payload`,
lines 482–495). Negotiated codecs come first, so that the peer's choice wins over what is
registered, and take part once their kind has been negotiated; the registered codecs of a kind take
part until then. -/
def candidates (e : Engine) : List Candidate := [
  ⟨.video, e.negotiated.codecsOf .video, e.negotiated.hasKind .video⟩,
  ⟨.audio, e.negotiated.codecsOf .audio, e.negotiated.hasKind .audio⟩,
  ⟨.video, e.registered.get .video, !e.negotiated.hasKind .video⟩,
  ⟨.audio, e.registered.get .audio, !e.negotiated.hasKind .audio⟩]

/-- The codec bound to a payload type, with its kind (`codec_by_payload`, lines 476–507). -/
def codecByPayloadType (e : Engine) (payloadType : UInt8) : Except Error (MediaKind × Codec) :=
  let found := (e.candidates.filter (·.enabled)).findSome? fun candidate =>
    (Codec.find? candidate.codecs payloadType).map fun c => (candidate.kind, c)
  match found with
  | some answer => .ok answer
  | none => .error .codecNotFound

/-- Whether a retransmission codec is in use for a kind (`is_rtx_enabled`, lines 858–867). -/
def rtxEnabled (e : Engine) (kind : MediaKind) : Bool :=
  (e.codecs kind).any fun c => Text.sameSpelling c.mime Mime.rtx

/-- Whether a codec of forward error correction is in use for a kind (`is_fec_enabled`,
lines 870–879). -/
def fecEnabled (e : Engine) (kind : MediaKind) : Bool :=
  (e.codecs kind).any fun c => Text.occursIn Mime.flexFec.toList (Text.lower c.mime.toList)

/-! ## Header extensions -/

/-- The id and the kinds under which a URI has been negotiated (`get_header_extension_id`,
lines 423–440). Id 0 stands for a URI that has not. -/
def extensionId (e : Engine) (uri : String) : Int × PerKind Bool :=
  match e.negotiated.bindings.bind (·.binding? uri) with
  | some (id, x) => (id, x.kinds)
  | none => (0, .both false)

/-- The header extensions for a kind and direction: the bound ones, or the proposal before the kind
has been negotiated (`get_rtp_parameters_by_kind`, lines 780–823). -/
def extensionsFor (e : Engine) (kind : MediaKind) (wanted : List Direction) :
    List (String × Int) :=
  if e.negotiated.hasKind kind then
    match e.negotiated.bindings with
    | some t => t.serving kind wanted
    | none => []
  else e.proposal.table.serving kind wanted

/-- What asking for the parameters of a kind reports: the extensions without an id, before the kind
has been negotiated (`get_rtp_parameters_by_kind`, line 809). -/
def parametersLog (e : Engine) (kind : MediaKind) : List Event :=
  if e.negotiated.hasKind kind then [] else e.proposal.unserved.map .idsExhausted

/-! ## Parameters and statistics -/

/-- The codecs and header extensions for transceivers of a kind and direction
(`get_rtp_parameters_by_kind`, lines 772–829). -/
def parameters (e : Engine) (kind : MediaKind) (wanted : List Direction) : RtpParameters where
  extensions := e.extensionsFor kind wanted
  codecs := e.codecs kind

/-- The codec of a payload type with the extensions that are bound for its kind
(`get_rtp_parameters_by_payload_type`, lines 833–855). -/
def parametersByPayloadType (e : Engine) (payloadType : UInt8) : Except Error RtpParameters :=
  match e.codecByPayloadType payloadType with
  | .error err => .error err
  | .ok (kind, c) =>
    let bound := (e.negotiated.bindings.getD ∅).toList.filter (·.2.kinds.get kind)
    .ok { extensions := bound.map fun b => (b.2.uri, b.1), codecs := [c] }

/-- Adds reports on the codecs in use to a snapshot, video before audio (`collect_stats`,
lines 521–531). -/
def collectStats (e : Engine) (s : StatsSnapshot) : StatsSnapshot :=
  (s.addCodecs (e.codecs .video)).addCodecs (e.codecs .audio)

/-! ## Laws -/

theorem codecs_of_negotiated {e : Engine} {kind : MediaKind} {cs : List Codec}
    (h : e.negotiated.codecs.get kind = some cs) : e.codecs kind = cs := by
  simp [codecs, h]

theorem codecs_of_not_negotiated {e : Engine} {kind : MediaKind}
    (h : e.negotiated.hasKind kind = false) : e.codecs kind = e.registered.get kind := by
  simp only [Negotiated.hasKind, Option.isSome_eq_false_iff, Option.isNone_iff_eq_none] at h
  simp [codecs, h]

end Engine

/-- A proposed id lies between 1 and 14 and is neither bound nor proposed already. -/
theorem freeId?_eq_some {bound proposed : BindingTable} {id : Int}
    (h : freeId? bound proposed = some id) :
    1 ≤ id ∧ id ≤ 14 ∧ id ∉ bound ∧ id ∉ proposed := by
  have hm := List.mem_of_find?_eq_some h
  have hp := List.find?_some h
  simp only [List.mem_map, List.mem_range'_1] at hm
  obtain ⟨n, hn, rfl⟩ := hm
  simp only [Bool.and_eq_true, Bool.not_eq_true', ← Bool.not_eq_true,
    Std.ExtTreeMap.contains_iff_mem] at hp
  simp only [Int.ofNat_eq_natCast] at *
  exact ⟨by omega, by omega, hp.1, hp.2⟩

end MediaNegotiation
