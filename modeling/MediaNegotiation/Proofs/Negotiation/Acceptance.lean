import MediaNegotiation.Proofs.Negotiation.Repetition

/-!
# Accepted descriptions

An update succeeds when no section stops its description and no payload types conflict. Repeating it
succeeds again, and every kind keeps its codecs. What it can still do is to bind header extensions.
A section that opens its kind without matching a codec is left before its header extensions are
looked at, and when the description is repeated the kind is negotiated, so that they are bound after
all.

Results:
* `codecs_applySections_of_held`: sections that have no codecs to add leave all codecs as they are.
* `report_applySections_accepted`: a description that is accepted is accepted again.
* `update_update_of_ok`: what repeating an accepted description does, with the exact condition under
  which it changes nothing.
* `update_update_binds_late`: repeating an accepted description can bind a header extension.
-/

namespace MediaNegotiation

/-! ## Sections without codecs to add -/

section

variable {e : Engine} {s u : Negotiated} {r : RemoteSection} {d : RemoteDescription}

/-- Whether a section has codecs to add depends on the negotiated codecs alone. -/
theorem Negotiated.HoldsCodecs.of_codecs_eq (h : s.HoldsCodecs e r) (hsame : u.codecs = s.codecs) :
    u.HoldsCodecs e r := by
  intro kind hkind
  have hlist : u.codecsOf kind = s.codecsOf kind := by
    rw [Negotiated.codecsOf, hsame, Negotiated.codecsOf]
  obtain ⟨hk, hmatches⟩ := h kind hkind
  constructor
  · rw [Negotiated.hasKind, hsame]
    exact hk
  · intro hm
    rw [Negotiated.HoldsMatches, hlist]
    exact hmatches hm

theorem codecs_takeCodecs_of_held {kind : MediaKind} (hk : s.hasKind kind = true)
    (h : s.HoldsMatches e kind r) : (takeCodecs e kind s r).negotiated.codecs = s.codecs := by
  by_cases hr : r.Malformed
  · rw [takeCodecs_malformed hr]
  · cases hbest : (matchCodecs (e.registered.get kind) {} r.codecs).found.best? with
    | none => rw [takeCodecs_unmatched hbest]
    | some best =>
      obtain ⟨tier, chosen⟩ := best
      have hkept : (commit (s.codecsOf kind) chosen).1 = s.codecsOf kind :=
        commit_eq_self_iff.2 (h tier chosen hbest)
      rw [takeCodecs_matched hr hbest, codecs_bindOffered, hkept,
        s.withCodecs_eq_self kind _ (s.get_of_hasKind kind hk)]

/-- A section that has no codecs to add leaves the codecs of all kinds as they are. -/
theorem codecs_applySection_of_held (h : s.HoldsCodecs e r) :
    (applySection e s r).negotiated.codecs = s.codecs := by
  cases hkind : MediaKind.ofText? r.media with
  | none => rw [applySection_skipped hkind]
  | some kind =>
    obtain ⟨hk, -⟩ := h kind hkind
    have hbound := codecs_bindOffered e.extensions kind s r.extensions
    cases hm : e.multi with
    | false =>
      rw [applySection_closed hkind hk hm]
      exact hbound
    | true =>
      obtain ⟨hk', hmatches⟩ := h.of_codecs_eq hbound kind hkind
      rw [applySection_again hkind hk hm, Outcome.logged_negotiated,
        codecs_takeCodecs_of_held hk' (hmatches hm), hbound]

/-- Sections that have no codecs to add leave the codecs of all kinds as they are. -/
theorem codecs_applySections_of_held (h : ∀ r ∈ d, s.HoldsCodecs e r) :
    (applySections e s d).negotiated.codecs = s.codecs := by
  refine applySections_keeps (P := fun t => t.codecs = s.codecs) rfl fun r hr t hsame => ?_
  have hstep := codecs_applySection_of_held ((h r hr).of_codecs_eq hsame)
  exact hstep.trans hsame

/-! ## Reports -/

/-- Where later sections may not add codecs, sections of negotiated kinds have nothing to report. -/
theorem report_applySections_closed (hm : e.multi = false)
    (h : ∀ r ∈ d, ∀ kind, MediaKind.ofText? r.media = some kind → s.hasKind kind = true) :
    (applySections e s d).fault = none ∧ (applySections e s d).conflicts = [] := by
  induction d generalizing s with
  | nil => exact ⟨rfl, rfl⟩
  | cons r rest ih =>
    rw [List.forall_mem_cons] at h
    have hreport : (applySection e s r).fault = none ∧ (applySection e s r).conflicts = [] := by
      cases hkind : MediaKind.ofText? r.media with
      | none =>
        rw [applySection_skipped hkind]
        exact ⟨rfl, rfl⟩
      | some kind =>
        rw [applySection_closed hkind (h.1 kind hkind) hm]
        exact ⟨rfl, rfl⟩
    obtain ⟨hfaults, hmore⟩ := ih fun b hb kind hkind =>
      (changes_applySection e s r).hasKind (h.2 b hb kind hkind)
    rw [applySections_cons hreport.1, Outcome.andThen_fault, Outcome.andThen_conflicts, hreport.2,
      hfaults, hmore]
    exact ⟨rfl, rfl⟩

/-- A description that is accepted is accepted again from then on. -/
theorem report_applySections_accepted (hd : (applySections e s d).fault = none)
    (hconflicts : (applySections e s d).conflicts = [])
    (h : (applySections e s d).negotiated.GrowsTo u) :
    (applySections e u d).fault = none ∧ (applySections e u d).conflicts = [] := by
  cases hm : e.multi with
  | true =>
    obtain ⟨hfault, hsame⟩ := report_applySections_repeated (fun _ _ _ _ => .inr hm) h
    exact ⟨hfault.trans hd, hsame.trans hconflicts⟩
  | false =>
    exact report_applySections_closed hm fun r hr kind hkind =>
      (holdsCodecs_of_applySections hd h r hr kind hkind).1

end

/-! ## Updates -/

/-- The section behind `before` opens a kind without a match for any of its codecs. -/
structure Engine.OpensInVain (e : Engine) (before : List RemoteSection) (r : RemoteSection)
    (kind : MediaKind) : Prop where
  named : MediaKind.ofText? r.media = some kind
  fresh : e.negotiated.hasKind kind = false
  first : ∀ b ∈ before, MediaKind.ofText? b.media ≠ some kind
  unmatched : (matchCodecs (e.registered.get kind) {} r.codecs).found.best? = none

/-- A section of an accepted description finds its kind negotiated, or opens it with a match, or
opens it in vain. -/
theorem Engine.opens_cases {e : Engine} {before : List RemoteSection} {r : RemoteSection}
    {kind : MediaKind} (hbefore : (applySections e e.negotiated before).fault = none)
    (hkind : MediaKind.ofText? r.media = some kind) :
    ((applySections e e.negotiated before).negotiated.hasKind kind = true ∨
      (matchCodecs (e.registered.get kind) {} r.codecs).found.best?.isSome) ∨
      e.OpensInVain before r kind := by
  by_cases hnegotiated : (applySections e e.negotiated before).negotiated.hasKind kind = true
  · exact .inl (.inl hnegotiated)
  by_cases hmatched : (matchCodecs (e.registered.get kind) {} r.codecs).found.best?.isSome
  · exact .inl (.inr hmatched)
  refine .inr ⟨hkind, ?_, fun b hb hsame => hnegotiated ?_,
    Option.not_isSome_iff_eq_none.1 hmatched⟩
  · rw [Bool.eq_false_iff]
    exact fun hk => hnegotiated ((changes_applySections e e.negotiated before).hasKind hk)
  · exact (holdsCodecs_of_applySections hbefore (.refl _) b hb kind hsame).1

/-- **Repeated acceptance.** If a reachable engine accepts a description, it accepts the description
again at once, and all kinds keep their codecs. The engine is then the same exactly when every
section that has opened its kind in vain offers settled header extensions only; in particular if
there is no such section. -/
theorem update_update_of_ok {e : Engine} (he : e.Reachable) {d : RemoteDescription}
    (h : (e.update d).2 = .ok ()) :
    ((e.update d).1.update d).2 = .ok () ∧
      ((e.update d).1.update d).1.negotiated.codecs = (e.update d).1.negotiated.codecs ∧
      (((e.update d).1.update d).1 = (e.update d).1 ↔
        ∀ before r after kind, d = before ++ r :: after → e.OpensInVain before r kind →
          (e.update d).1.negotiated.SettlesExtensions e kind r) := by
  obtain ⟨hd, hconflicts⟩ := update_eq_ok_iff.1 h
  have hsound : (e.update d).1.BindingsSound :=
    kept_bindingsSound.update d (kept_bindingsSound.reachable bindingsSound_new he)
  -- the second call starts from what the first has negotiated and reads nothing else that changed
  have hagain : applySections (e.update d).1 (e.update d).1.negotiated d =
      applySections e (e.update d).1.negotiated d :=
    applySections_withNegotiated e _ _ d
  have hreport := report_applySections_accepted (u := (e.update d).1.negotiated) hd hconflicts
    (.refl _)
  have hheld := holdsCodecs_of_applySections (u := (e.update d).1.negotiated) hd (.refl _)
  refine ⟨update_eq_ok_iff.2 (hagain ▸ hreport), ?_, ?_⟩
  · show (applySections (e.update d).1 (e.update d).1.negotiated d).negotiated.codecs = _
    rw [hagain]
    exact codecs_applySections_of_held hheld
  · rw [update_eq_self_iff, hagain, applySections_repeats_iff hreport.1]
    constructor
    · rintro hrepeats before r after kind rfl hvain
      exact (hrepeats r (by simp) kind hvain.named).2.1
    · intro hvain r hr kind hkind
      obtain ⟨hk, hmatches⟩ := hheld r hr kind hkind
      refine ⟨hk, ?_, hmatches⟩
      -- the first call has bound what the section offers, unless it opened its kind in vain
      obtain ⟨before, after, rfl⟩ := List.append_of_mem hr
      rcases Engine.opens_cases (applySections_at hd).1 hkind with hopened | hopens
      · exact settlesExtensions_of_applySections hd hkind hopened (.refl _) hsound.oneToOne
      · exact hvain before r after kind rfl hopens

namespace Unmatched

/-- An engine with one codec of each kind and an extension for both kinds. -/
def engine : Engine := (Bench.run {} [
  .registerCodec .audio ⟨Mime.opus, 48000, 2, "", [], 111, .given ""⟩,
  .registerCodec .video ⟨Mime.vp8, 90000, 0, "", [], 96, .given ""⟩,
  .registerExtension "urn:mid" .audio [],
  .registerExtension "urn:mid" .video []]).engine

/-- A section whose only codec is not registered. -/
def video (id : Int) : RemoteSection :=
  { media := "video"
    codecs := [⟨Mime.h265, 90000, 0, "", [], 100, .given ""⟩]
    extensions := [("urn:mid", id)] }

/-- A section whose only codec is registered. -/
def audio (id : Int) : RemoteSection :=
  { media := "audio"
    codecs := [⟨Mime.opus, 48000, 2, "", [], 111, .given ""⟩]
    extensions := [("urn:mid", id)] }

end Unmatched

/-- A section that opens its kind in vain does not matter where the extension it offers has been
bound to another id. -/
theorem update_update_of_bound_elsewhere :
    Unmatched.engine.OpensInVain [Unmatched.audio 3] (Unmatched.video 5) .video ∧
      (Unmatched.engine.update [Unmatched.audio 3, Unmatched.video 5]).2 = .ok () ∧
      ((Unmatched.engine.update [Unmatched.audio 3, Unmatched.video 5]).1.update
          [Unmatched.audio 3, Unmatched.video 5]).1 =
        (Unmatched.engine.update [Unmatched.audio 3, Unmatched.video 5]).1 := by
  have haudio : MediaKind.ofText? (Unmatched.audio 3).media = some .audio :=
    MediaKind.ofText?_text .audio
  have hvideo : MediaKind.ofText? (Unmatched.video 5).media = some .video :=
    MediaKind.ofText?_text .video
  have hvain : Unmatched.engine.OpensInVain [Unmatched.audio 3] (Unmatched.video 5) .video := by
    refine ⟨hvideo, by decide +kernel, ?_, Option.isNone_iff_eq_none.1 (by decide +kernel)⟩
    simp [haudio]
  have hreachable : Unmatched.engine.Reachable := ⟨0, _, rfl⟩
  have hok : (Unmatched.engine.update [Unmatched.audio 3, Unmatched.video 5]).2 = .ok () := by
    decide +kernel
  refine ⟨hvain, hok, (update_update_of_ok hreachable hok).2.2.2 ?_⟩
  intro before r after kind hd hopens
  have hmem : r ∈ [Unmatched.audio 3, Unmatched.video 5] := by simp [hd]
  rcases List.mem_pair.1 hmem with rfl | rfl
  · obtain rfl : MediaKind.audio = kind := by simpa [haudio] using hopens.named
    exact bindOffered_eq_self_iff.1 (by decide +kernel)
  · obtain rfl : MediaKind.video = kind := by simpa [hvideo] using hopens.named
    exact bindOffered_eq_self_iff.1 (by decide +kernel)

/-- Repeating an accepted description can bind a header extension: a section that has opened its
kind in vain offers it to no effect the first time and binds it the second time. -/
theorem update_update_binds_late :
    Unmatched.engine.Reachable ∧
      (Unmatched.engine.update [Unmatched.video 3]).2 = .ok () ∧
      ((Unmatched.engine.update [Unmatched.video 3]).1.update [Unmatched.video 3]).2 = .ok () ∧
      (Unmatched.engine.update [Unmatched.video 3]).1.extensionId "urn:mid" = (0, .both false) ∧
      ((Unmatched.engine.update [Unmatched.video 3]).1.update [Unmatched.video 3]).1.extensionId
        "urn:mid" = (3, { audio := false, video := true }) ∧
      ((Unmatched.engine.update [Unmatched.video 3]).1.update
          [Unmatched.video 3]).1.negotiated.bindings ≠
        (Unmatched.engine.update [Unmatched.video 3]).1.negotiated.bindings := by
  refine ⟨⟨0, _, rfl⟩, ?_⟩
  decide +kernel

end MediaNegotiation
