import MediaNegotiation.Engine.Views
import MediaNegotiation.Proofs.Negotiation.Grounding

/-!
# Looking codecs up by payload type

A payload type is looked up in the codecs that an engine shows for each kind, in those of one kind
first and then in those of the other. In each of them a payload type stands for one codec at most.
The order of the kinds matters only where both use the payload type. What has been negotiated comes
before what has not, and otherwise video comes before audio.

Results:
* `Grounded.codecs`: the codecs of a kind have different payload types.
* `codecs_of_enabled`, `candidates_enabled_eq`: the lists that take part in the look-up are those
  that are shown for the kinds.
* `codecByPayloadType_eq`: how they are searched.
* `codecByPayloadType_agrees`: what is found for a payload type, in terms of the codecs of the
  kinds.
-/

namespace MediaNegotiation

/-- The other kind. -/
def MediaKind.other : MediaKind → MediaKind
  | .audio => .video
  | .video => .audio

theorem MediaKind.other_ne (kind : MediaKind) : kind.other ≠ kind := by
  cases kind <;> simp [other]

/-- What holds of a kind and of the other one holds of all kinds. -/
theorem MediaKind.forall_iff (kind : MediaKind) {P : MediaKind → Prop} :
    (∀ l, P l) ↔ P kind ∧ P kind.other := by
  refine ⟨fun h => ⟨h _, h _⟩, fun ⟨hkind, hother⟩ l => ?_⟩
  cases kind <;> cases l <;> assumption

namespace Engine

variable {e : Engine} {payloadType : UInt8}

/-! ## Codecs of a kind -/

/-- The codecs of a kind have different payload types, and each has its payload type and its id from
a registered codec. -/
theorem Grounded.codecs (h : e.Grounded) (kind : MediaKind) :
    ((e.codecs kind).map (·.payloadType)).Nodup ∧
      ∀ c ∈ e.codecs kind, ∃ r ∈ e.registered.get kind,
        c.payloadType = r.payloadType ∧ c.statsId = r.statsId := by
  cases hk : e.negotiated.hasKind kind with
  | true =>
    rw [codecs_of_negotiated (e.negotiated.get_of_hasKind kind hk)]
    refine ⟨h.negotiated kind, ?_⟩
    intro c hc
    obtain ⟨r, hr, hstands⟩ := h.partner kind c hc
    exact ⟨r, hr, hstands.payloadType, hstands.statsId⟩
  | false =>
    rw [codecs_of_not_negotiated hk]
    exact ⟨h.registered kind, fun c hc => ⟨c, hc, rfl, rfl⟩⟩

/-- The codec of a kind that is found for a payload type is the only one with it. -/
theorem Grounded.find?_eq_some_iff (h : e.Grounded) {kind : MediaKind} {c : Codec} :
    Codec.find? (e.codecs kind) payloadType = some c ↔
      (e.codecs kind).filter (·.payloadType == payloadType) = [c] :=
  find?_eq_some_iff_of_nodup_keys (h.codecs kind).1

/-- Whether a kind uses a payload type. -/
def Uses (e : Engine) (kind : MediaKind) (payloadType : UInt8) : Prop :=
  payloadType ∈ (e.codecs kind).map (·.payloadType)

theorem find?_eq_none_iff {kind : MediaKind} :
    Codec.find? (e.codecs kind) payloadType = none ↔ ¬ e.Uses kind payloadType := by
  simp [Codec.find?, Uses]

theorem uses_of_filter {kind : MediaKind} {c : Codec}
    (h : (e.codecs kind).filter (·.payloadType == payloadType) = [c]) :
    e.Uses kind payloadType := by
  have hc : c ∈ (e.codecs kind).filter (·.payloadType == payloadType) := by simp [h]
  obtain ⟨hmem, htype⟩ := List.mem_filter.1 hc
  exact List.mem_map.2 ⟨c, hmem, by simpa using htype⟩

/-! ## Both kinds -/

/-- The kind that is looked at first: video, unless audio has been negotiated and video has not. -/
def firstKind (e : Engine) : MediaKind :=
  if e.negotiated.hasKind .audio = true ∧ e.negotiated.hasKind .video = false then .audio
  else .video

/-- A candidate that takes part in the look-up is what the engine shows for its kind. -/
theorem codecs_of_enabled {candidate : Candidate} (h : candidate ∈ e.candidates)
    (henabled : candidate.enabled = true) : candidate.codecs = e.codecs candidate.kind := by
  have hnegotiated : ∀ kind, e.negotiated.hasKind kind = true →
      e.negotiated.codecsOf kind = e.codecs kind := fun kind hk =>
    (codecs_of_negotiated (e.negotiated.get_of_hasKind kind hk)).symm
  have hregistered : ∀ kind, (!e.negotiated.hasKind kind) = true →
      e.registered.get kind = e.codecs kind := fun kind hk =>
    (codecs_of_not_negotiated (by simpa using hk)).symm
  simp only [candidates, List.mem_cons, List.not_mem_nil, or_false] at h
  rcases h with rfl | rfl | rfl | rfl
  · exact hnegotiated .video henabled
  · exact hnegotiated .audio henabled
  · exact hregistered .video henabled
  · exact hregistered .audio henabled

/-- One candidate of each kind takes part in the look-up, that of the first kind in front. -/
theorem kinds_of_enabled (e : Engine) :
    (e.candidates.filter (·.enabled)).map (·.kind) = [e.firstKind, e.firstKind.other] := by
  cases ha : e.negotiated.hasKind .audio <;> cases hv : e.negotiated.hasKind .video <;>
    simp [candidates, firstKind, MediaKind.other, ha, hv]

/-- A payload type is looked up in what is shown for each kind, beginning with the first one. -/
theorem candidates_enabled_eq (e : Engine) :
    e.candidates.filter (·.enabled) =
      [e.firstKind, e.firstKind.other].map fun kind => ⟨kind, e.codecs kind, true⟩ := by
  have hview : ∀ candidate ∈ e.candidates.filter (·.enabled),
      (⟨candidate.kind, e.codecs candidate.kind, true⟩ : Candidate) = candidate := by
    intro candidate hmem
    obtain ⟨hcandidate, henabled⟩ := List.mem_filter.1 hmem
    rw [← codecs_of_enabled hcandidate henabled, ← henabled]
  calc e.candidates.filter (·.enabled)
      = (e.candidates.filter (·.enabled)).map id := (List.map_id _).symm
    _ = (e.candidates.filter (·.enabled)).map fun candidate =>
          ⟨candidate.kind, e.codecs candidate.kind, true⟩ :=
        List.map_congr_left fun candidate hmem => (hview candidate hmem).symm
    _ = ((e.candidates.filter (·.enabled)).map (·.kind)).map fun kind =>
          ⟨kind, e.codecs kind, true⟩ := by rw [List.map_map]; rfl
    _ = _ := by rw [kinds_of_enabled]

theorem codecByPayloadType_eq (e : Engine) (payloadType : UInt8) :
    e.codecByPayloadType payloadType =
      match Codec.find? (e.codecs e.firstKind) payloadType,
          Codec.find? (e.codecs e.firstKind.other) payloadType with
      | some c, _ => .ok (e.firstKind, c)
      | none, some c => .ok (e.firstKind.other, c)
      | none, none => .error .codecNotFound := by
  rw [codecByPayloadType, candidates_enabled_eq]
  cases hfirst : Codec.find? (e.codecs e.firstKind) payloadType <;>
    cases hother : Codec.find? (e.codecs e.firstKind.other) payloadType <;>
      simp [List.findSome?, hfirst, hother]

/-- No codec is found for a payload type exactly when no kind uses it. -/
theorem codecByPayloadType_eq_error_iff :
    e.codecByPayloadType payloadType = .error .codecNotFound ↔
      ∀ kind, ¬ e.Uses kind payloadType := by
  rw [e.firstKind.forall_iff, ← find?_eq_none_iff, ← find?_eq_none_iff, codecByPayloadType_eq]
  cases Codec.find? (e.codecs e.firstKind) payloadType <;>
    cases Codec.find? (e.codecs e.firstKind.other) payloadType <;> simp

/-- A codec is found for each payload type that some kind uses. -/
theorem codecByPayloadType_of_uses {kind : MediaKind} (h : e.Uses kind payloadType) :
    ∃ answer, e.codecByPayloadType payloadType = .ok answer := by
  have hfound : e.codecByPayloadType payloadType ≠ .error .codecNotFound :=
    fun hnone => codecByPayloadType_eq_error_iff.1 hnone kind h
  unfold codecByPayloadType at hfound ⊢
  dsimp only at hfound ⊢
  split
  · exact ⟨_, rfl⟩
  · rename_i hnone
    rw [hnone] at hfound
    exact absurd rfl hfound

/-- A codec of the first kind is found whenever it has the payload type. -/
theorem codecByPayloadType_first_iff {c : Codec} :
    e.codecByPayloadType payloadType = .ok (e.firstKind, c) ↔
      Codec.find? (e.codecs e.firstKind) payloadType = some c := by
  rw [codecByPayloadType_eq]
  cases Codec.find? (e.codecs e.firstKind) payloadType <;>
    cases Codec.find? (e.codecs e.firstKind.other) payloadType <;>
      simp [e.firstKind.other_ne]

/-- A codec of the other kind is found if the first kind does not use the payload type. -/
theorem codecByPayloadType_other_iff {c : Codec} :
    e.codecByPayloadType payloadType = .ok (e.firstKind.other, c) ↔
      Codec.find? (e.codecs e.firstKind.other) payloadType = some c ∧
        ¬ e.Uses e.firstKind payloadType := by
  rw [codecByPayloadType_eq, ← find?_eq_none_iff]
  cases Codec.find? (e.codecs e.firstKind) payloadType <;>
    cases Codec.find? (e.codecs e.firstKind.other) payloadType <;>
      simp [e.firstKind.other_ne.symm]

end Engine

/-- **Payload types.** In a reachable engine no codec is found for a payload type exactly when
neither kind uses it, and otherwise one is. A codec is found under a kind exactly when it is the
only one of this kind with the payload type and, in case both kinds use it, the kind is video,
unless audio has been negotiated and video has not. -/
theorem codecByPayloadType_agrees {e : Engine} (he : e.Reachable) (payloadType : UInt8) :
    (e.codecByPayloadType payloadType = .error .codecNotFound ↔
        ∀ kind, payloadType ∉ (e.codecs kind).map (·.payloadType)) ∧
      (∀ kind, payloadType ∈ (e.codecs kind).map (·.payloadType) →
        ∃ answer, e.codecByPayloadType payloadType = .ok answer) ∧
      ∀ kind c, e.codecByPayloadType payloadType = .ok (kind, c) ↔
        (e.codecs kind).filter (·.payloadType == payloadType) = [c] ∧
          ((∀ l, payloadType ∈ (e.codecs l).map (·.payloadType)) →
            kind = if e.negotiated.hasKind .audio = true ∧ e.negotiated.hasKind .video = false
              then .audio else .video) := by
  have hground : e.Grounded := kept_grounded.reachable grounded_new he
  refine ⟨Engine.codecByPayloadType_eq_error_iff, fun _ => Engine.codecByPayloadType_of_uses,
    fun kind c => ?_⟩
  show _ ↔ _ ∧ ((∀ l, e.Uses l payloadType) → kind = e.firstKind)
  revert kind
  rw [e.firstKind.forall_iff]
  constructor
  · rw [Engine.codecByPayloadType_first_iff, hground.find?_eq_some_iff]
    simp
  · rw [Engine.codecByPayloadType_other_iff, hground.find?_eq_some_iff, e.firstKind.forall_iff]
    refine and_congr_right fun hfilter => ⟨fun hfirst huses => absurd huses.1 hfirst, ?_⟩
    exact fun hboth hfirst =>
      e.firstKind.other_ne (hboth ⟨hfirst, Engine.uses_of_filter hfilter⟩)

namespace SharedPayloadType

/-- The codec of a kind that both kinds register under one payload type. -/
def codec (mime : String) (clockRate : UInt32) (id : StatsId) : Codec :=
  ⟨mime, clockRate, 0, "", [], 96, id⟩

/-- An engine that has negotiated audio alone. -/
def engine : Engine := (Bench.run {} [
  .registerCodec .video (codec Mime.vp8 90000 (.given "")),
  .registerCodec .audio (codec Mime.g722 8000 (.given "")),
  .update [{ media := "audio", codecs := [codec "AUDIO/g722" 8000 (.given "")] }]]).engine

end SharedPayloadType

/-- A negotiated audio codec is found in front of a video codec that is only registered. -/
theorem codecByPayloadType_agrees_of_shared :
    (∀ l, (96 : UInt8) ∈ (SharedPayloadType.engine.codecs l).map (·.payloadType)) ∧
      SharedPayloadType.engine.codecByPayloadType 96 =
        .ok (.audio, SharedPayloadType.codec "AUDIO/g722" 8000 (.issued 1)) := by
  have hreachable : SharedPayloadType.engine.Reachable := ⟨0, _, rfl⟩
  refine ⟨fun l => by cases l <;> decide +kernel, ?_⟩
  refine ((codecByPayloadType_agrees hreachable 96).2.2 _ _).2 ⟨?_, fun _ => ?_⟩
  · decide +kernel
  · decide +kernel

end MediaNegotiation
