import MediaNegotiation.Engine.Event
import MediaNegotiation.Format.Basic

/-!
# Matching codecs

How a codec of a remote media section is matched with the registered ones. A codec that names an
associated payload type, as retransmission codecs do, is matched after the codec it belongs to and
no better than that one.

Definitions cite what they model by name and lines, in the module `media_engine` unless another one
is named.

Results:
* `search_isSome_iff`: a codec finds a partner exactly when some registered codec has its format.
* `statsId_entryFor`: the entry that results stands for the registered codec it was made from.
-/

namespace MediaNegotiation

/-! ## Matches found so far -/

/-- A match within a section: the peer's payload type and the entry to take over (lines 731–732). -/
structure Match where
  remoteType : UInt8
  entry : Codec
  deriving DecidableEq, Repr

/-- The matches of a section, by tier and in the peer's order (lines 723–724). -/
structure Found where
  exact : List Match := []
  loose : List Match := []
  deriving DecidableEq, Repr

namespace Found

/-- Adds a match of a tier (lines 730–734). -/
def add (found : Found) (m : Match) : Tier → Found
  | .exact => { found with exact := found.exact ++ [m] }
  | .loose => { found with loose := found.loose ++ [m] }

/-- The local payload type and the tier of the match for a remote payload type; exact matches come
first (`match_remote_codec`, lines 561–570). -/
def locate? (found : Found) (remoteType : UInt8) : Option (UInt8 × Tier) :=
  match found.exact.find? (·.remoteType == remoteType) with
  | some m => some (m.entry.payloadType, .exact)
  | none =>
    (found.loose.find? (·.remoteType == remoteType)).map fun m => (m.entry.payloadType, .loose)

/-- The matches to take over: the exact ones if there are any, and otherwise the loose ones
(`update_from_remote_description`, lines 737–748). -/
def best? (found : Found) : Option (Tier × List Match) :=
  if !found.exact.isEmpty then some (.exact, found.exact)
  else if !found.loose.isEmpty then some (.loose, found.loose)
  else none

end Found

/-! ## Matching one codec -/

/-- The registered codec that fits a wanted one best: the first whose format parameters are
compatible too, and otherwise the first with the same format (`codec_parameters_fuzzy_search` of
`rtp_codec`, lines 182–228). -/
def search (registered : List Codec) (wanted : Codec) : Option (Codec × Tier) :=
  let format := Format.ofCodec wanted
  match registered.find? fun c => c.sameFormat wanted && format.compatible (.ofCodec c) with
  | some c => some (c, .exact)
  | none => (registered.find? (·.sameFormat wanted)).map fun c => (c, .loose)

/-- The entry for a wanted codec that matches a registered one: the peer's capability, with the
feedback of both sides, under the payload type and stats id of the registered codec
(`match_remote_codec`, lines 605–619). -/
def entryFor (wanted registered : Codec) : Codec :=
  { wanted with
      feedback := Feedback.shared registered.feedback wanted.feedback
      payloadType := registered.payloadType
      statsId := registered.statsId }

/-- The entry for a wanted codec and its tier, which is never better than `bound`
(`match_remote_codec`, lines 591–619). -/
def matchWithin (registered : List Codec) (wanted : Codec) (bound : Tier) :
    Option (Codec × Tier) :=
  (search registered wanted).map fun (c, tier) => (entryFor wanted c, tier.weaker bound)

/-- The payload type that a codec names as associated, if it names one (`match_remote_codec`,
lines 551–559). -/
def associated (c : Codec) : Except NumeralFault (Option UInt8) :=
  match (Format.ofCodec c).parameter? "apt" with
  | none => .ok none
  | some apt => (Numeral.readUInt8 apt.toList).map some

/-- What matching a codec gives: an entry with its tier, if any, unless the codec is malformed. -/
structure MatchOutcome where
  result : Except NumeralFault (Option (Codec × Tier))
  log : List Event

/-- Matches a codec of a remote section (`match_remote_codec`, lines 539–620). A codec that belongs
to another one is pointed at the local payload type of that one before it is compared, and is
ignored when that one has not been matched. -/
def matchCodec (registered : List Codec) (found : Found) (remote : Codec) : MatchOutcome :=
  let compare (wanted : Codec) (bound : Tier) : MatchOutcome :=
    let entry := matchWithin registered wanted bound
    { result := .ok entry
      log := [.codecMatched remote.mime remote.payloadType (entry.map (·.2))] }
  match associated remote with
  | .error fault => { result := .error fault, log := [] }
  | .ok none => compare remote .exact
  | .ok (some apt) =>
    match found.locate? apt with
    | none => { result := .ok none, log := [.aptUnmatched remote.mime remote.payloadType apt] }
    | some (localType, tier) =>
      compare { remote with fmtp := Parameters.retargetApt remote.fmtp localType } tier

/-! ## Matching a section -/

/-- What matching the codecs of a section gives: the matches up to the end or up to the first
malformed codec. -/
structure SectionMatches where
  found : Found
  fault : Option NumeralFault := none
  log : List Event := []

/-- Matches the codecs of a section in order, beginning with the matches found before
(`update_from_remote_description`, lines 723–735). -/
def matchCodecs (registered : List Codec) (found : Found) : List Codec → SectionMatches
  | [] => { found }
  | remote :: rest =>
    let step := matchCodec registered found remote
    match step.result with
    | .error fault => { found, fault := some fault, log := step.log }
    | .ok none =>
      let after := matchCodecs registered found rest
      { after with log := step.log ++ after.log }
    | .ok (some (entry, tier)) =>
      let after := matchCodecs registered (found.add ⟨remote.payloadType, entry⟩ tier) rest
      { after with log := step.log ++ after.log }

/-! ## Laws -/

theorem statsId_entryFor (wanted registered : Codec) :
    (entryFor wanted registered).statsId = registered.statsId ∧
      (entryFor wanted registered).payloadType = registered.payloadType :=
  ⟨rfl, rfl⟩

/-- A codec finds a partner exactly when some registered codec has its format. -/
theorem search_isSome_iff {registered : List Codec} {wanted : Codec} :
    (search registered wanted).isSome ↔ ∃ c ∈ registered, c.sameFormat wanted = true := by
  unfold search
  dsimp only
  split
  · rename_i c h
    have hm := List.mem_of_find?_eq_some h
    have hs := List.find?_some h
    simp only [Bool.and_eq_true] at hs
    simpa using ⟨c, hm, hs.1⟩
  · simp

end MediaNegotiation
