import MediaNegotiation.Engine.History
import MediaNegotiation.Proofs.Negotiation.Section
import MediaNegotiation.Proofs.Negotiation.Spelling

/-!
# Negotiation up to spelling

Two descriptions that differ at most in how their codecs are spelled act alike on an engine: they
are stopped by the same number or meet the same conflicts, and they leave states that differ at most
in how the negotiated codecs are spelled. The two runs are followed side by side. What they have
negotiated stays the same up to spelling, and no decision on the way sees more than that.

Results:
* `respells_commit`: two spellings of matches are taken over alike.
* `respells_takeCodecs`, `respells_applySection`: a section acts alike on two such states.
* `respells_applySections`: so does a description.
* `update_of_respelled`: two spellings of a description act alike on an engine.
-/

namespace MediaNegotiation

/-! ## Taking matches over -/

/-- Two spellings of matches are taken over alike into two spellings of a list, with the same
conflicts. -/
theorem respells_commit {codecs others : List Codec} {chosen more : List Match}
    (hcodecs : List.Forall₂ Codec.Respells codecs others)
    (hchosen : List.Forall₂ Match.Respells chosen more) :
    List.Forall₂ Codec.Respells (commit codecs chosen).1 (commit others more).1 ∧
      (commit codecs chosen).2 = (commit others more).2 := by
  induction hchosen generalizing codecs others with
  | nil => exact ⟨hcodecs, rfl⟩
  | @cons m n _ _ hmn _ ih =>
    have hfind := respells_find? hcodecs hmn.entry.payloadType
    generalize hm : Codec.find? codecs m.entry.payloadType = a at hfind
    generalize hn : Codec.find? others n.entry.payloadType = b at hfind
    cases hfind with
    | none =>
      rw [commit_cons_free hm, commit_cons_free hn]
      exact ih (List.rel_append hcodecs (.cons hmn.entry .nil))
    | @some held other hheld =>
      have hsame := hheld.sameCodec hmn.entry
      obtain ⟨hlist, hconflicts⟩ := ih hcodecs
      cases hc : held.sameCodec m.entry with
      | true =>
        rw [commit_cons_same hm hc, commit_cons_same hn (hsame ▸ hc)]
        exact ⟨hlist, hconflicts⟩
      | false =>
        rw [commit_cons_conflict hm hc, commit_cons_conflict hn (hsame ▸ hc)]
        exact ⟨hlist, congrArg (.codecConflict :: ·) hconflicts⟩

/-! ## States and outcomes -/

/-- Two states with the same negotiated kinds and the same bindings, and with the same negotiated
codecs up to spelling. -/
structure Negotiated.Respells (s u : Negotiated) : Prop where
  hasKind : ∀ kind, s.hasKind kind = u.hasKind kind
  codecsOf : ∀ kind, List.Forall₂ Codec.Respells (s.codecsOf kind) (u.codecsOf kind)
  bindings : s.bindings = u.bindings

namespace Negotiated.Respells

variable {s u : Negotiated}

theorem refl (s : Negotiated) : s.Respells s :=
  ⟨fun _ => rfl, fun _ => List.forall₂_same.2 fun c _ => .refl c, rfl⟩

theorem withCodecs (h : s.Respells u) (kind : MediaKind) {codecs others : List Codec}
    (hcodecs : List.Forall₂ Codec.Respells codecs others) :
    (s.withCodecs kind codecs).Respells (u.withCodecs kind others) := by
  refine ⟨fun l => ?_, fun l => ?_, h.bindings⟩
  · by_cases hl : l = kind
    · simp [hl]
    · simpa [Negotiated.hasKind, Negotiated.get_withCodecs, hl] using h.hasKind l
  · rw [Negotiated.codecsOf_withCodecs, Negotiated.codecsOf_withCodecs]
    split
    · exact hcodecs
    · exact h.codecsOf l

/-- What a section offers is bound alike. -/
theorem bindOffered (h : s.Respells u) (known : List HeaderExtension) (kind : MediaKind)
    (offered : List (String × Int)) :
    (bindOffered known kind s offered).1.Respells (bindOffered known kind u offered).1 := by
  refine ⟨fun l => ?_, fun l => ?_, ?_⟩
  · rw [hasKind_bindOffered, hasKind_bindOffered, h.hasKind]
  · rw [codecsOf_bindOffered, codecsOf_bindOffered]
    exact h.codecsOf l
  · unfold MediaNegotiation.bindOffered
    rw [h.bindings]
    split
    · exact h.bindings
    · rfl

end Negotiated.Respells

/-- Two outcomes with the same report whose states are the same up to spelling. -/
structure Outcome.Respells (o p : Outcome) : Prop where
  negotiated : o.negotiated.Respells p.negotiated
  conflicts : o.conflicts = p.conflicts
  fault : o.fault = p.fault

namespace Outcome.Respells

variable {o p : Outcome}

theorem logged (h : o.Respells p) (log more : List Event) :
    (o.logged log).Respells (p.logged more) :=
  ⟨h.negotiated, h.conflicts, h.fault⟩

theorem result (h : o.Respells p) : o.result = p.result := by
  rw [Outcome.result, Outcome.result, h.fault, h.conflicts]

end Outcome.Respells

/-! ## Sections -/

/-- Two media sections that differ at most in how their codecs are spelled. -/
structure RemoteSection.Respells (r q : RemoteSection) : Prop where
  media : r.media = q.media
  codecs : List.Forall₂ Codec.Respells r.codecs q.codecs
  extensions : r.extensions = q.extensions

theorem RemoteSection.Respells.malformed_iff {r q : RemoteSection} (h : r.Respells q) :
    r.Malformed ↔ q.Malformed := by
  have hfault := (respells_matchCodecs [] h.codecs .empty).1
  rw [RemoteSection.Malformed, RemoteSection.Malformed,
    ← @matchCodecs_fault_isSome_iff [] {}, hfault,
    matchCodecs_fault_isSome_iff]

section

variable {e : Engine} {s u : Negotiated} {r q : RemoteSection}

/-- The codecs of two spellings of a section are taken over alike. -/
theorem respells_takeCodecs (hs : s.Respells u) (hr : r.Respells q) (kind : MediaKind) :
    (takeCodecs e kind s r).Respells (takeCodecs e kind u q) := by
  obtain ⟨hfault, hfound⟩ :=
    respells_matchCodecs (e.registered.get kind) hr.codecs .empty
  have hreport : (takeCodecs e kind s r).fault = (takeCodecs e kind u q).fault := by
    rw [takeCodecs_fault, takeCodecs_fault, hfault]
  by_cases hmalformed : r.Malformed
  · have hother := hr.malformed_iff.1 hmalformed
    refine ⟨?_, ?_, hreport⟩
    · rw [takeCodecs_malformed hmalformed, takeCodecs_malformed hother]
      exact hs
    · rw [takeCodecs_malformed_conflicts hmalformed, takeCodecs_malformed_conflicts hother]
  · have hother : ¬ q.Malformed := fun h => hmalformed (hr.malformed_iff.2 h)
    rcases hfound.best? with ⟨hnone, hnone'⟩ | ⟨tier, chosen, more, hbest, hbest', hchosen⟩
    · refine ⟨?_, ?_, hreport⟩
      · rw [takeCodecs_unmatched hnone, takeCodecs_unmatched hnone']
        exact hs
      · rw [takeCodecs_unmatched_conflicts hnone, takeCodecs_unmatched_conflicts hnone']
    · obtain ⟨hcommitted, hconflicts⟩ := respells_commit (hs.codecsOf kind) hchosen
      refine ⟨?_, ?_, hreport⟩
      · rw [takeCodecs_matched hmalformed hbest, takeCodecs_matched hother hbest', hr.extensions]
        exact (hs.withCodecs kind hcommitted).bindOffered _ _ _
      · rw [takeCodecs_matched_conflicts hmalformed hbest,
          takeCodecs_matched_conflicts hother hbest', hconflicts]

/-- Two spellings of a section act alike on two states that are the same up to spelling. -/
theorem respells_applySection (hs : s.Respells u) (hr : r.Respells q) :
    (applySection e s r).Respells (applySection e u q) := by
  cases h : MediaKind.ofText? r.media with
  | none =>
    rw [applySection_skipped h, applySection_skipped (hr.media ▸ h)]
    exact ⟨hs, rfl, rfl⟩
  | some kind =>
    have h' : MediaKind.ofText? q.media = some kind := hr.media ▸ h
    cases hk : s.hasKind kind with
    | false =>
      have hk' : u.hasKind kind = false := hs.hasKind kind ▸ hk
      rw [applySection_fresh h hk, applySection_fresh h' hk']
      exact (respells_takeCodecs (hs.withCodecs kind .nil) hr kind).logged _ _
    | true =>
      have hk' : u.hasKind kind = true := hs.hasKind kind ▸ hk
      have hbound := hs.bindOffered e.extensions kind r.extensions
      cases hm : e.multi with
      | false =>
        rw [applySection_closed h hk hm, applySection_closed h' hk' hm, ← hr.extensions]
        exact ⟨hbound, rfl, rfl⟩
      | true =>
        rw [applySection_again h hk hm, applySection_again h' hk' hm, ← hr.extensions]
        exact (respells_takeCodecs hbound hr kind).logged _ _

/-! ## Descriptions -/

/-- Two spellings of a description act alike on two states that are the same up to spelling. -/
theorem respells_applySections {d other : RemoteDescription} (hs : s.Respells u)
    (hd : List.Forall₂ RemoteSection.Respells d other) :
    (applySections e s d).Respells (applySections e u other) := by
  induction hd generalizing s u with
  | nil => exact ⟨hs, rfl, rfl⟩
  | @cons r q rest more hr _ ih =>
    have hfirst := respells_applySection (e := e) hs hr
    cases hf : (applySection e s r).fault with
    | some fault =>
      have hstop : (applySection e s r).fault.isSome := by rw [hf]; rfl
      rw [applySections_cons_stopped hstop, applySections_cons_stopped (hfirst.fault ▸ hstop)]
      exact hfirst
    | none =>
      have hrest := ih hfirst.negotiated
      rw [applySections_cons hf, applySections_cons (hfirst.fault ▸ hf)]
      refine ⟨hrest.negotiated, ?_, hrest.fault⟩
      rw [Outcome.andThen_conflicts, Outcome.andThen_conflicts, hfirst.conflicts, hrest.conflicts]

end

/-- **Spelling.** Two descriptions that are equal but for the letter case of MIME types and for
parameter lines that are read as the same parameters have the same result on an engine. They leave
the same kinds negotiated and the same bindings, and lists of negotiated codecs that agree entry by
entry in payload type, stats id, clock rate, channels and feedback, with MIME types that are equal
but for letter case and parameter lines that are read as the same parameters. -/
theorem update_of_respelled (e : Engine) {d other : RemoteDescription}
    (hd : List.Forall₂ RemoteSection.Respells d other) :
    (e.update d).2 = (e.update other).2 ∧
      (e.update d).1.negotiated.Respells (e.update other).1.negotiated := by
  have hsame : (e.negotiate d).Respells (e.negotiate other) :=
    respells_applySections (.refl e.negotiated) hd
  exact ⟨hsame.result, hsame.negotiated⟩

namespace Respelled

/-- An engine with two video codecs, the retransmission codec of one of them and an extension. -/
def engine : Engine :=
  (Bench.run {} [
    .registerCodec .video ⟨Mime.vp8, 90000, 0, "", [], 96, .given ""⟩,
    .registerCodec .video ⟨Mime.rtx, 90000, 0, "apt=96", [], 97, .given ""⟩,
    .registerCodec .video ⟨Mime.vp9, 90000, 0, "profile-id=0", [], 98, .given ""⟩,
    .registerExtension "urn:mid" .video []]).engine

/-- What a peer offers, as it is usually written. -/
def plain : RemoteSection where
  media := "video"
  codecs := [
    ⟨Mime.vp8, 90000, 0, "", [], 120, .given ""⟩,
    ⟨Mime.rtx, 90000, 0, "apt=120", [], 121, .given ""⟩,
    ⟨Mime.vp9, 90000, 0, "profile-id=0", [], 122, .given ""⟩]
  extensions := [("urn:mid", 3)]

/-- The same offer with other letters, blanks, repetitions and empty segments. -/
def unusual : RemoteSection where
  media := "video"
  codecs := [
    ⟨"VIDEO/vp8", 90000, 0, " ;", [], 120, .given ""⟩,
    ⟨"Video/RTX", 90000, 0, "; APT = 120 ", [], 121, .given ""⟩,
    ⟨"video/vp9", 90000, 0, "profile-id=2;Profile-ID=0", [], 122, .given ""⟩]
  extensions := [("urn:mid", 3)]

end Respelled

/-- Both spellings are taken over in full, and each keeps its own texts. -/
theorem update_of_respelled_of_unusual :
    (Respelled.engine.update [Respelled.plain]).2 =
        (Respelled.engine.update [Respelled.unusual]).2 ∧
      (Respelled.engine.update [Respelled.plain]).1.negotiated.Respells
        (Respelled.engine.update [Respelled.unusual]).1.negotiated ∧
      ((Respelled.engine.update [Respelled.plain]).1.negotiated.codecsOf .video).map (·.fmtp) =
        ["", "apt=96", "profile-id=0"] ∧
      ((Respelled.engine.update [Respelled.unusual]).1.negotiated.codecsOf .video).map (·.fmtp) =
        [" ;", ";apt=96", "profile-id=2;Profile-ID=0"] := by
  have hcodecs : List.Forall₂ Codec.Respells Respelled.plain.codecs Respelled.unusual.codecs := by
    refine .cons ?_ (.cons ?_ (.cons ?_ .nil))
    all_goals exact ⟨by decide +kernel, by decide +kernel, rfl, rfl, rfl, rfl, rfl⟩
  have hsection : Respelled.plain.Respells Respelled.unusual := ⟨rfl, hcodecs, rfl⟩
  obtain ⟨hresult, hstate⟩ := update_of_respelled Respelled.engine (.cons hsection .nil)
  exact ⟨hresult, hstate, by decide +kernel, by decide +kernel⟩

end MediaNegotiation
