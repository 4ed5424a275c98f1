import MediaNegotiation.Proofs.DistinctKeys
import MediaNegotiation.Proofs.Negotiation.Change
import MediaNegotiation.Proofs.Reachability

/-!
# Negotiated codecs stand for registered ones

Whatever a peer offers, each codec that an engine negotiates stands for one codec that its owner
registered. The peer decides on the spelling and the parameters, the registration on the payload
type, the name in the statistics and the feedback there can be.

Results:
* `Change.grounded`: a single change of negotiation keeps engines grounded.
* `kept_grounded`: so does every operation.
* `grounded_run`: payload types are distinct after every sequence of operations, and every
  negotiated codec stands for exactly one registered codec of its kind.
-/

namespace MediaNegotiation

/-! ## The invariant -/

/-- A negotiated codec stands for a registered one: it is bound to the same payload type, is
reported under the same name, agrees with it in format and has part of its feedback in the same
order. -/
structure Codec.StandsFor (c registered : Codec) : Prop where
  payloadType : c.payloadType = registered.payloadType
  statsId : c.statsId = registered.statsId
  mime : Text.sameSpelling c.mime registered.mime = true
  clockRate : clockRatesAgree c.clockRate registered.clockRate = true
  channels : channelsAgree c.channels registered.channels = true
  feedback : c.feedback.Sublist registered.feedback

/-- Payload types are distinct among the registered and among the negotiated codecs of a kind, and
every negotiated codec stands for a registered one. -/
structure Engine.Grounded (e : Engine) : Prop where
  registered : ∀ kind, ((e.registered.get kind).map (·.payloadType)).Nodup
  negotiated : ∀ kind, ((e.negotiated.codecsOf kind).map (·.payloadType)).Nodup
  partner : ∀ kind, ∀ c ∈ e.negotiated.codecsOf kind,
    ∃ r ∈ e.registered.get kind, c.StandsFor r

/-- An entry made from registered codecs stands for one of them. -/
theorem MadeFrom.standsFor {registered : List Codec} {wanted entry : Codec}
    (h : MadeFrom registered wanted entry) : ∃ r ∈ registered, entry.StandsFor r := by
  obtain ⟨r, hr, hformat, rfl⟩ := h
  rw [Codec.sameFormat_symm] at hformat
  simp only [Codec.sameFormat, Bool.and_eq_true] at hformat
  obtain ⟨⟨hmime, hrate⟩, hchannels⟩ := hformat
  exact ⟨r, hr, rfl, rfl, hmime, hrate, hchannels, Feedback.shared_sublist _ _⟩

/-! ## Negotiation -/

theorem nodup_append_of_free {codecs : List Codec} {c : Codec}
    (hd : (codecs.map (·.payloadType)).Nodup) (hfree : Codec.find? codecs c.payloadType = none) :
    ((codecs ++ [c]).map (·.payloadType)).Nodup :=
  payloadTypes_addCodec hd (by rw [addCodec, hfree])

/-- A single change keeps an engine grounded. -/
theorem Change.grounded {e : Engine} {s t : Negotiated} (h : Change e s t)
    (hs : Engine.Grounded { e with negotiated := s }) :
    Engine.Grounded { e with negotiated := t } := by
  obtain ⟨hreg, hneg, hpartner⟩ := hs
  cases h with
  | opened fresh =>
    refine ⟨hreg, fun l => ?_, fun l c hc => ?_⟩
    · dsimp only
      rw [Negotiated.codecsOf_withCodecs]
      split
      · exact List.nodup_nil
      · exact hneg l
    · dsimp only at hc
      rw [Negotiated.codecsOf_withCodecs] at hc
      split at hc
      · simp at hc
      · exact hpartner l c hc
  | @taken kind codecs wanted entry held made free =>
    have hcodecs : s.codecsOf kind = codecs := by simp [Negotiated.codecsOf, held]
    refine ⟨hreg, fun l => ?_, fun l c hc => ?_⟩
    · dsimp only
      rw [Negotiated.codecsOf_withCodecs]
      split
      · exact nodup_append_of_free (hcodecs ▸ hneg kind) free
      · exact hneg l
    · dsimp only at hc ⊢
      rw [Negotiated.codecsOf_withCodecs] at hc
      split at hc
      · rename_i hl
        subst hl
        rcases List.mem_append.1 hc with hc | hc
        · exact hpartner l c (hcodecs ▸ hc)
        · rw [List.mem_singleton.1 hc]
          exact made.standsFor
      · exact hpartner l c hc
  | enabled => exact ⟨hreg, hneg, hpartner⟩
  | bound => exact ⟨hreg, hneg, hpartner⟩

/-! ## Registration -/

theorem addCodec_keeps_mem {codecs result : List Codec} {c r : Codec}
    (h : addCodec codecs c = .ok result) (hr : r ∈ codecs) : r ∈ result := by
  rcases addCodec_eq_ok h with ⟨rfl, -⟩ | ⟨rfl, -⟩
  · exact hr
  · exact List.mem_append_left _ hr

theorem Engine.grounded_registerCodec {e : Engine} (kind : MediaKind) (c : Codec) (id : StatsId)
    (he : e.Grounded) : (e.registerCodec kind c id).1.Grounded := by
  obtain ⟨hreg, hneg, hpartner⟩ := he
  unfold Engine.registerCodec
  cases hadd : addCodec (e.registered.get kind) { c with statsId := id } with
  | error err => exact ⟨hreg, hneg, hpartner⟩
  | ok codecs =>
    refine ⟨fun l => ?_, hneg, fun l n hn => ?_⟩
    · dsimp only
      rw [PerKind.get_set]
      split
      · exact payloadTypes_addCodec (hreg kind) hadd
      · exact hreg l
    · obtain ⟨r, hr, hstands⟩ := hpartner l n hn
      refine ⟨r, ?_, hstands⟩
      dsimp only
      rw [PerKind.get_set]
      split
      · rename_i hl
        subst hl
        exact addCodec_keeps_mem hadd hr
      · exact hr

theorem Engine.grounded_registerFeedback {e : Engine} (kind : MediaKind) (f : Feedback)
    (he : e.Grounded) : (e.registerFeedback kind f).Grounded := by
  obtain ⟨hreg, hneg, hpartner⟩ := he
  unfold Engine.registerFeedback
  refine ⟨fun l => ?_, hneg, fun l n hn => ?_⟩
  · dsimp only
    rw [PerKind.get_modify]
    split
    · rw [List.map_map]
      exact hreg kind
    · exact hreg l
  · obtain ⟨r, hr, hstands⟩ := hpartner l n hn
    dsimp only
    rw [PerKind.get_modify]
    split
    · rename_i hl
      subst hl
      -- feedback is only ever appended, so what was part of it stays part of it
      exact ⟨{ r with feedback := r.feedback ++ [f] }, List.mem_map.2 ⟨r, hr, rfl⟩,
        { hstands with feedback := hstands.feedback.trans (List.sublist_append_left _ _) }⟩
    · exact ⟨r, hr, hstands⟩

/-- Every operation keeps engines grounded. -/
theorem kept_grounded : Engine.Kept Engine.Grounded where
  registerCodec kind c id he := Engine.grounded_registerCodec kind c id he
  registerExtension uri kind directions he := by
    obtain ⟨hreg, hneg, hpartner⟩ := he
    unfold Engine.registerExtension
    dsimp only
    split <;> exact ⟨hreg, hneg, hpartner⟩
  registerFeedback kind f he := Engine.grounded_registerFeedback kind f he
  setMulti _ he := ⟨he.registered, he.negotiated, he.partner⟩
  update d he := Engine.update_keeps he Change.grounded d

theorem grounded_new : Engine.Grounded {} where
  registered kind := by cases kind <;> exact List.nodup_nil
  negotiated kind := by cases kind <;> exact List.nodup_nil
  partner kind c hc := by cases kind <;> simp [Negotiated.codecsOf, PerKind.get, PerKind.both] at hc

/-! ## The property -/

/-- **Grounding.** After any sequence of operations on a new engine, failing ones included, payload
types are distinct among the registered and among the negotiated codecs of each kind, a kind that
has not been negotiated has no negotiated codecs, and every negotiated codec shares its payload type
with exactly one registered codec of its kind, for which it stands. -/
theorem grounded_run (serial : Nat) (commands : List Command) (kind : MediaKind) :
    let e := (Bench.run { serial } commands).engine
    ((e.registered.get kind).map (·.payloadType)).Nodup ∧
      ((e.negotiated.codecsOf kind).map (·.payloadType)).Nodup ∧
      (e.negotiated.hasKind kind = false → e.negotiated.codecsOf kind = []) ∧
      ∀ c ∈ e.negotiated.codecsOf kind, ∃ r,
        (e.registered.get kind).filter (·.payloadType == c.payloadType) = [r] ∧
          c.StandsFor r := by
  intro e
  have hground : e.Grounded := kept_grounded.run (b := { serial }) grounded_new commands
  refine ⟨hground.registered kind, hground.negotiated kind, ?_, ?_⟩
  · intro hnone
    rw [Negotiated.hasKind, Option.isSome_eq_false_iff, Option.isNone_iff_eq_none] at hnone
    rw [Negotiated.codecsOf, hnone]
    rfl
  · intro c hc
    obtain ⟨r, hr, hstands⟩ := hground.partner kind c hc
    refine ⟨r, ?_, hstands⟩
    rw [hstands.payloadType]
    exact filter_of_nodup_keys (hground.registered kind) hr

end MediaNegotiation
