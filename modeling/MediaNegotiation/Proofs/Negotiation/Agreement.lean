import MediaNegotiation.Proofs.Extensions.Offers
import MediaNegotiation.Proofs.Negotiation.Answering

/-!
# Offer and answer

Two engines that have not negotiated yet agree after one round: the first offers what it answers for
a kind, the second applies the offer and answers with what it answers for the kind from then on, and
the first applies that. If the second has found a codec, the first finds one too, and both bind the
same header extensions to the same ids.

Results:
* `Prepared.answers`: an engine that takes a codec over from an offer answers it.
* `Prepared.accepts`: the engine that has made the offer can apply the answer.
* `agreement`: the two engines agree.
-/

namespace MediaNegotiation

/-! ## Offers and answers -/

/-- The media section in which an engine offers what it answers for a kind. -/
def Engine.offer (e : Engine) (media : String) (kind : MediaKind) (wanted : List Direction) :
    RemoteSection where
  media := media
  codecs := (e.parameters kind wanted).codecs
  extensions := (e.parameters kind wanted).extensions

/-- An engine answers what another one offers for a kind: all its codecs can be read, the first of
them belongs to no other one and has the format of an offered one, and it repeats only header
extensions that are offered. -/
structure Engine.Answers (answering offering : Engine) (kind : MediaKind)
    (wanted : List Direction) : Prop where
  sound : answering.BindingsSound
  readable : ∀ c ∈ answering.codecs kind, ∃ named, associated c = .ok named
  leads : ∃ c more, answering.codecs kind = c :: more ∧ associated c = .ok none ∧
    ∃ offered ∈ offering.codecs kind, offered.sameFormat c = true
  extensions : ∀ offer ∈ answering.extensionsFor kind wanted,
    offer ∈ offering.extensionsFor kind wanted

section

variable {offering answering e : Engine} {kind : MediaKind} {media : String}
  {wanted : List Direction}

/-- A prepared engine that takes a codec over from an offer answers it. -/
theorem Engine.Prepared.answers (he : e.Prepared) (hoffering : offering.BindingsSound)
    (h : MediaKind.ofText? media = some kind)
    (hr : ¬ (offering.offer media kind wanted).Malformed)
    (hcodecs : (e.update [offering.offer media kind wanted]).1.negotiated.codecsOf kind ≠ []) :
    (e.update [offering.offer media kind wanted]).1.Answers offering kind wanted := by
  have hfresh := he.untouched.fresh kind
  obtain ⟨⟨tier, chosen⟩, hbest⟩ : ∃ best, (matchCodecs (e.registered.get kind) {}
      (offering.codecs kind)).found.best? = some best := by
    rw [← Option.ne_none_iff_exists']
    exact fun hnone => hcodecs
      (update_fresh_unmatched (r := offering.offer media kind wanted) h hfresh hnone)
  have hlater :=
    update_fresh_matched (r := offering.offer media kind wanted) h hfresh hr hbest
  have htaken : (e.update [offering.offer media kind wanted]).1.codecs kind =
      (commit [] chosen).1 := by
    refine Engine.codecs_of_negotiated ?_
    rw [hlater, codecs_bindOffered]
    exact e.negotiated.get_withCodecs_same kind _
  refine ⟨kept_bindingsSound.update _ he.bindingsSound, ?_, ?_, ?_⟩
  · rw [htaken]
    exact fun c hc => readable_of_mem_commit hbest hc
  · rw [htaken]
    exact commit_leads hbest
  · rintro ⟨uri, id⟩ hmem
    exact ((mem_extensionsFor_of_untouched he.untouched (Engine.nodup_uris_extensionsFor hoffering)
      (offering.nodup_ids_extensionsFor kind wanted) hlater).1 hmem).1

/-- An engine that has made an offer can apply the answer to it, takes a codec over from it, and
serves the same header extensions afterwards. -/
theorem Engine.Prepared.accepts (he : e.Prepared) (h : MediaKind.ofText? media = some kind)
    (hanswers : answering.Answers e kind wanted) :
    ¬ (answering.offer media kind wanted).Malformed ∧
      (e.update [answering.offer media kind wanted]).1.negotiated.codecsOf kind ≠ [] ∧
      (e.update [answering.offer media kind wanted]).1.extensionsFor kind wanted =
        answering.extensionsFor kind wanted := by
  have hfresh := he.untouched.fresh kind
  have hr : ¬ (answering.offer media kind wanted).Malformed := by
    rintro ⟨c, hc, fault, hfault⟩
    obtain ⟨named, hnamed⟩ := hanswers.readable c hc
    rw [hnamed] at hfault
    simp at hfault
  obtain ⟨⟨tier, chosen⟩, hbest⟩ : ∃ best, (matchCodecs (e.registered.get kind) {}
      (answering.codecs kind)).found.best? = some best := by
    obtain ⟨c, more, hcodecs, halone, offered, hoffered, hformat⟩ := hanswers.leads
    rw [Engine.codecs_of_not_negotiated hfresh] at hoffered
    rw [hcodecs, ← Option.isSome_iff_exists]
    exact best?_isSome_of_leading halone ⟨offered, hoffered, hformat⟩
  have hlater :=
    update_fresh_matched (r := answering.offer media kind wanted) h hfresh hr hbest
  refine ⟨hr, ?_, ?_⟩
  · rw [hlater, codecsOf_bindOffered, Negotiated.codecsOf_withCodecs, if_pos rfl]
    obtain ⟨c, more, hcommit, -⟩ := commit_leads hbest
    rw [hcommit]
    exact List.cons_ne_nil c more
  · -- the answer has no extension that was not offered, so all of it is bound
    refine eq_of_mem_iff (Engine.pairwise_extensionsFor _ kind wanted)
      (answering.pairwise_extensionsFor kind wanted) ?_
    rintro ⟨uri, id⟩
    rw [mem_extensionsFor_of_untouched he.untouched
      (Engine.nodup_uris_extensionsFor hanswers.sound)
      (answering.nodup_ids_extensionsFor kind wanted) hlater]
    exact ⟨And.left, fun hmem => ⟨hmem, Engine.serves_of_mem_extensionsFor
      he.bindingsSound.toDescribed hfresh (hanswers.extensions _ hmem)⟩⟩

end

/-! ## One round -/

/-- **Agreement.** Let the second of two prepared engines apply what the first offers for a kind. If
that is not refused on a number and leaves the second engine with a codec of the kind, then the
first engine applies what the second offers for the kind in turn: this is not refused on a number
either, it leaves the first engine with a codec of the kind, and from then on both engines answer
with the same header extensions under the same ids. -/
theorem agreement {first second : Engine} (hfirst : first.Prepared) (hsecond : second.Prepared)
    {kind : MediaKind} {offerMedia answerMedia : String}
    (hoffer : MediaKind.ofText? offerMedia = some kind)
    (hanswer : MediaKind.ofText? answerMedia = some kind) (wanted : List Direction) :
    let answering := (second.update [first.offer offerMedia kind wanted]).1
    let agreed := (first.update [answering.offer answerMedia kind wanted]).1
    (∀ fault, (second.update [first.offer offerMedia kind wanted]).2 ≠ .error (.numeral fault)) →
    answering.negotiated.codecsOf kind ≠ [] →
      (∀ fault,
        (first.update [answering.offer answerMedia kind wanted]).2 ≠ .error (.numeral fault)) ∧
      agreed.negotiated.codecsOf kind ≠ [] ∧
      agreed.extensionsFor kind wanted = answering.extensionsFor kind wanted := by
  intro answering agreed hread hcodecs
  have hr : ¬ (first.offer offerMedia kind wanted).Malformed := by
    intro hmalformed
    obtain ⟨fault, hfault⟩ :=
      (update_fresh_numeral_iff (r := first.offer offerMedia kind wanted) hoffer
        (hsecond.untouched.fresh kind)).2 hmalformed
    exact hread fault hfault
  have hanswers := hsecond.answers hfirst.bindingsSound hoffer hr hcodecs
  obtain ⟨hr', htaken, hextensions⟩ := hfirst.accepts hanswer hanswers
  refine ⟨fun fault hfault => hr' ?_, htaken, hextensions⟩
  exact (update_fresh_numeral_iff (r := answering.offer answerMedia kind wanted) hanswer
    (hfirst.untouched.fresh kind)).1 ⟨fault, hfault⟩

namespace Round

/-- A video codec and the retransmission codec that belongs to it. -/
def codecs (payloadType rtxType : UInt8) : List Command := [
  .registerCodec .video ⟨Mime.vp8, 90000, 0, "", [], payloadType, .given ""⟩,
  .registerCodec .video
    ⟨Mime.rtx, 90000, 0, String.ofList (Parameters.aptSegment payloadType), [], rtxType, .given ""⟩]

/-- An engine that has registered two header extensions. -/
def first : Engine :=
  (Bench.run {} (codecs 96 97 ++
    [.registerExtension "urn:level" .video [],
      .registerExtension "urn:mid" .video [.sendonly]])).engine

/-- An engine that has registered one of them and uses other payload types. -/
def second : Engine :=
  (Bench.run {} (codecs 120 121 ++ [.registerExtension "urn:mid" .video []])).engine

/-- The second engine after it has applied the offer of the first. -/
def answering : Engine :=
  (second.update [first.offer "video" .video [.recvonly, .sendonly]]).1

end Round

/-- Two engines with different payload types agree on the header extension that both know, under
the id that the first has proposed. -/
theorem agreement_of_two :
    let agreed :=
      (Round.first.update [Round.answering.offer "video" .video [.recvonly, .sendonly]]).1
    agreed.negotiated.codecsOf .video ≠ [] ∧
      agreed.extensionsFor .video [.recvonly, .sendonly] = [("urn:mid", 2)] := by
  intro agreed
  have hread : ∀ fault, (Round.second.update [Round.first.offer "video" .video
      [.recvonly, .sendonly]]).2 ≠ .error (.numeral fault) := by
    intro fault hfault
    have hnone : (applySections Round.second Round.second.negotiated
        [Round.first.offer "video" .video [.recvonly, .sendonly]]).fault = none := by
      decide +kernel
    rw [update_eq_numeral_iff, hnone] at hfault
    simp at hfault
  have hround := @agreement Round.first Round.second ⟨0, _, by decide, rfl⟩ ⟨0, _, by decide, rfl⟩
    .video "video" "video" (MediaKind.ofText?_text .video) (MediaKind.ofText?_text .video)
    [.recvonly, .sendonly] hread (by decide +kernel)
  refine ⟨hround.2.1, hround.2.2.trans ?_⟩
  decide +kernel

end MediaNegotiation
