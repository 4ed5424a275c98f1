import MediaNegotiation.Engine.Views
import MediaNegotiation.Proofs.Negotiation.Conflicts

/-!
# Kinds are negotiated independently

Audio and video sections stand in one description and are applied in one run, which shares the table
of bindings, the list of conflicts and the place where it stops. The codecs of a kind nevertheless
depend on the sections of that kind alone. A section of another kind leaves them as they are, and
what a section of the kind reports and leaves behind follows from the codecs it meets, whatever else
has been negotiated. So the sections of the two kinds can be interleaved in any way.

Results:
* `codecs_applySection_other`: a section touches the codecs of no kind but its own.
* `sameFor_applySection`: a section sees nothing but the codecs of its own kind.
* `codecs_ofKind`: the sections of a kind alone leave the same codecs of that kind.
* `applySections_fault_eq_none_iff`: a description is stopped exactly when the sections of one kind
  alone are.
* `length_conflicts_applySections`: its conflicts are those of the two kinds.
* `update_of_interleaving`: descriptions with the same sections of each kind give the same codecs
  and the same result.
-/

namespace MediaNegotiation

/-! ## Sections of a kind -/

/-- Whether a section is of a kind. -/
def RemoteSection.isOf (kind : MediaKind) (r : RemoteSection) : Bool :=
  MediaKind.ofText? r.media == some kind

theorem RemoteSection.isOf_iff {kind : MediaKind} {r : RemoteSection} :
    r.isOf kind = true ↔ MediaKind.ofText? r.media = some kind := by
  simp [isOf]

/-- The sections of a kind, in their order. -/
def RemoteDescription.ofKind (d : RemoteDescription) (kind : MediaKind) : RemoteDescription :=
  d.filter (·.isOf kind)

section

variable {kind : MediaKind} {r : RemoteSection}

theorem ofKind_cons (h : MediaKind.ofText? r.media = some kind) (rest : RemoteDescription) :
    RemoteDescription.ofKind (r :: rest) kind = r :: rest.ofKind kind :=
  List.filter_cons_of_pos (RemoteSection.isOf_iff.2 h)

theorem ofKind_cons_other (h : MediaKind.ofText? r.media ≠ some kind) (rest : RemoteDescription) :
    RemoteDescription.ofKind (r :: rest) kind = rest.ofKind kind :=
  List.filter_cons_of_neg fun hof => h (RemoteSection.isOf_iff.1 hof)

end

/-! ## Other kinds -/

section

variable {e : Engine} {s u : Negotiated} {kind l : MediaKind} {r : RemoteSection}
  {d : RemoteDescription}

theorem codecs_takeCodecs_other (hl : l ≠ kind) :
    (takeCodecs e kind s r).negotiated.codecs.get l = s.codecs.get l := by
  by_cases hr : r.Malformed
  · rw [takeCodecs_malformed hr]
  · cases hbest : (matchCodecs (e.registered.get kind) {} r.codecs).found.best? with
    | none => rw [takeCodecs_unmatched hbest]
    | some best =>
      rw [takeCodecs_matched hr hbest, codecs_bindOffered, Negotiated.get_withCodecs, if_neg hl]

/-- A section touches the codecs of no kind but its own. -/
theorem codecs_applySection_other (h : MediaKind.ofText? r.media ≠ some l) :
    (applySection e s r).negotiated.codecs.get l = s.codecs.get l := by
  cases hkind : MediaKind.ofText? r.media with
  | none => rw [applySection_skipped hkind]
  | some kind =>
    have hl : l ≠ kind := by
      rintro rfl
      exact h hkind
    have hbound := codecs_bindOffered e.extensions kind s r.extensions
    cases hk : s.hasKind kind with
    | false =>
      rw [applySection_fresh hkind hk, Outcome.logged_negotiated, codecs_takeCodecs_other hl,
        Negotiated.get_withCodecs, if_neg hl]
    | true =>
      cases hm : e.multi with
      | false => rw [applySection_closed hkind hk hm, hbound]
      | true =>
        rw [applySection_again hkind hk hm, Outcome.logged_negotiated,
          codecs_takeCodecs_other hl, hbound]

/-! ## The kind of a section -/

/-- Two outcomes report the same and leave the same codecs of a kind behind. -/
structure Outcome.SameFor (kind : MediaKind) (o p : Outcome) : Prop where
  fault : o.fault = p.fault
  conflicts : o.conflicts = p.conflicts
  codecs : o.negotiated.codecs.get kind = p.negotiated.codecs.get kind

theorem Outcome.SameFor.logged {o p : Outcome} (h : o.SameFor kind p) (log more : List Event) :
    (o.logged log).SameFor kind (p.logged more) :=
  ⟨h.fault, h.conflicts, h.codecs⟩

theorem codecsOf_eq_of_get (hs : s.codecs.get kind = u.codecs.get kind) :
    s.codecsOf kind = u.codecsOf kind := by
  rw [Negotiated.codecsOf, hs, Negotiated.codecsOf]

theorem hasKind_eq_of_get (hs : s.codecs.get kind = u.codecs.get kind) :
    s.hasKind kind = u.hasKind kind := by
  rw [Negotiated.hasKind, hs, Negotiated.hasKind]

theorem sameFor_takeCodecs (hs : s.codecs.get kind = u.codecs.get kind) :
    (takeCodecs e kind s r).SameFor kind (takeCodecs e kind u r) := by
  have hfault : (takeCodecs e kind s r).fault = (takeCodecs e kind u r).fault := by
    rw [takeCodecs_fault, takeCodecs_fault]
  by_cases hr : r.Malformed
  · refine ⟨hfault, ?_, ?_⟩
    · rw [takeCodecs_malformed_conflicts hr, takeCodecs_malformed_conflicts hr]
    · rw [takeCodecs_malformed hr, takeCodecs_malformed hr, hs]
  · cases hbest : (matchCodecs (e.registered.get kind) {} r.codecs).found.best? with
    | none =>
      refine ⟨hfault, ?_, ?_⟩
      · rw [takeCodecs_unmatched_conflicts hbest, takeCodecs_unmatched_conflicts hbest]
      · rw [takeCodecs_unmatched hbest, takeCodecs_unmatched hbest, hs]
    | some best =>
      have hlist := codecsOf_eq_of_get hs
      refine ⟨hfault, ?_, ?_⟩
      · rw [takeCodecs_matched_conflicts hr hbest, takeCodecs_matched_conflicts hr hbest, hlist]
      · rw [takeCodecs_matched hr hbest, takeCodecs_matched hr hbest, codecs_bindOffered,
          codecs_bindOffered, Negotiated.get_withCodecs_same, Negotiated.get_withCodecs_same, hlist]

/-- A section sees nothing but the codecs of its own kind. -/
theorem sameFor_applySection (h : MediaKind.ofText? r.media = some kind)
    (hs : s.codecs.get kind = u.codecs.get kind) :
    (applySection e s r).SameFor kind (applySection e u r) := by
  have hboundS := codecs_bindOffered e.extensions kind s r.extensions
  have hboundU := codecs_bindOffered e.extensions kind u r.extensions
  have hsame := hasKind_eq_of_get hs
  cases hk : s.hasKind kind with
  | false =>
    rw [applySection_fresh h hk, applySection_fresh h (hsame ▸ hk)]
    exact (sameFor_takeCodecs (by simp)).logged _ _
  | true =>
    cases hm : e.multi with
    | false =>
      rw [applySection_closed h hk hm, applySection_closed h (hsame ▸ hk) hm]
      exact ⟨rfl, rfl, by rw [hboundS, hboundU, hs]⟩
    | true =>
      rw [applySection_again h hk hm, applySection_again h (hsame ▸ hk) hm]
      exact (sameFor_takeCodecs (by rw [hboundS, hboundU, hs])).logged _ _

/-! ## Descriptions -/

/-- Where a description is not stopped, neither are its sections of a kind alone, and they leave the
same codecs of that kind behind. -/
theorem codecs_ofKind (kind : MediaKind) (hs : s.codecs.get kind = u.codecs.get kind)
    (hd : (applySections e s d).fault = none) :
    (applySections e u (d.ofKind kind)).fault = none ∧
      (applySections e u (d.ofKind kind)).negotiated.codecs.get kind =
        (applySections e s d).negotiated.codecs.get kind := by
  induction d generalizing s u with
  | nil => exact ⟨rfl, hs.symm⟩
  | cons r rest ih =>
    have hr : (applySection e s r).fault = none := applySection_fault_of_cons hd
    rw [applySections_cons hr, Outcome.andThen_fault] at hd
    rw [applySections_cons hr, Outcome.andThen_negotiated]
    by_cases hkind : MediaKind.ofText? r.media = some kind
    · have hsame := sameFor_applySection (e := e) hkind hs
      rw [ofKind_cons hkind, applySections_cons (hsame.fault ▸ hr)]
      exact ih hsame.codecs hd
    · rw [ofKind_cons_other hkind]
      exact ih ((codecs_applySection_other hkind).trans hs) hd

/-- A description is stopped exactly when the sections of one kind alone are. -/
theorem applySections_fault_eq_none_iff :
    (applySections e s d).fault = none ↔
      ∀ kind, (applySections e s (d.ofKind kind)).fault = none := by
  refine ⟨fun hd kind => (codecs_ofKind kind rfl hd).1, fun hkinds => ?_⟩
  by_contra hd
  -- the sections of its kind in front of the one that stops the description lead up to it as well
  obtain ⟨done, r, rest, rfl, hdone, hr, -⟩ :=
    applySections_stopped (Option.isSome_iff_ne_none.2 hd)
  obtain ⟨-, kind, hkind, -⟩ := applySection_fault_isSome_iff.1 hr
  obtain ⟨-, hcodecs⟩ := codecs_ofKind (u := s) kind rfl hdone
  have hsplit : RemoteDescription.ofKind (done ++ r :: rest) kind =
      RemoteDescription.ofKind done kind ++ r :: RemoteDescription.ofKind rest kind := by
    rw [← ofKind_cons hkind]
    exact List.filter_append _ _
  have hnone := (applySections_at (hsplit ▸ hkinds kind)).2.1
  rw [(sameFor_applySection hkind hcodecs).fault] at hnone
  simp [hnone] at hr

/-- A description that is not stopped meets as many conflicts as its sections of the two kinds. -/
theorem length_conflicts_applySections {v : Negotiated}
    (hu : s.codecs.get .audio = u.codecs.get .audio)
    (hv : s.codecs.get .video = v.codecs.get .video) (hd : (applySections e s d).fault = none) :
    (applySections e s d).conflicts.length =
      (applySections e u (d.ofKind .audio)).conflicts.length +
        (applySections e v (d.ofKind .video)).conflicts.length := by
  induction d generalizing s u v with
  | nil => rfl
  | cons r rest ih =>
    have hr : (applySection e s r).fault = none := applySection_fault_of_cons hd
    rw [applySections_cons hr, Outcome.andThen_fault] at hd
    rw [applySections_cons hr, Outcome.andThen_conflicts, List.length_append]
    cases hkind : MediaKind.ofText? r.media with
    | none =>
      rw [ofKind_cons_other (by simp [hkind]), ofKind_cons_other (by simp [hkind])]
      rw [applySection_skipped hkind] at hd ⊢
      rw [ih hu hv hd]
      simp
    | some kind =>
      cases kind with
      | audio =>
        have hother : MediaKind.ofText? r.media ≠ some .video := by simp [hkind]
        have hsame := sameFor_applySection (e := e) hkind hu
        rw [ofKind_cons hkind, ofKind_cons_other hother, applySections_cons (hsame.fault ▸ hr),
          Outcome.andThen_conflicts, List.length_append, ← hsame.conflicts,
          ih hsame.codecs ((codecs_applySection_other hother).trans hv) hd]
        omega
      | video =>
        have hother : MediaKind.ofText? r.media ≠ some .audio := by simp [hkind]
        have hsame := sameFor_applySection (e := e) hkind hv
        rw [ofKind_cons hkind, ofKind_cons_other hother, applySections_cons (hsame.fault ▸ hr),
          Outcome.andThen_conflicts, List.length_append, ← hsame.conflicts,
          ih ((codecs_applySection_other hother).trans hu) hsame.codecs hd]
        omega

end

/-! ## Updates -/

/-- **Independence.** Take two descriptions with the same audio sections and the same video
sections, each in their order, however they are interleaved and whatever other sections stand among
them. Either both updates fail on a number or neither does. If neither does, the same kinds are
negotiated with the same codecs, and the updates have the same result. -/
theorem update_of_interleaving {e : Engine} {d d' : RemoteDescription}
    (h : ∀ kind, d.ofKind kind = d'.ofKind kind) :
    ((∃ fault, (e.update d).2 = .error (.numeral fault)) ↔
        ∃ fault, (e.update d').2 = .error (.numeral fault)) ∧
      ((∀ fault, (e.update d).2 ≠ .error (.numeral fault)) →
        (∀ kind,
          (e.update d).1.negotiated.hasKind kind = (e.update d').1.negotiated.hasKind kind ∧
          (e.update d).1.negotiated.codecsOf kind = (e.update d').1.negotiated.codecsOf kind) ∧
        (e.update d).2 = (e.update d').2) := by
  have hstop : (applySections e e.negotiated d).fault = none ↔
      (applySections e e.negotiated d').fault = none := by
    rw [applySections_fault_eq_none_iff (d := d), applySections_fault_eq_none_iff (d := d')]
    simp only [h]
  constructor
  · rw [← not_iff_not, not_exists, not_exists]
    exact update_ne_numeral_iff.trans (hstop.trans update_ne_numeral_iff.symm)
  · intro hread
    have hd := update_ne_numeral_iff.1 hread
    have hd' := hstop.1 hd
    have hcodecs : ∀ kind, (e.update d).1.negotiated.codecs.get kind =
        (e.update d').1.negotiated.codecs.get kind := by
      intro kind
      have hfirst := (codecs_ofKind (u := e.negotiated) kind rfl hd).2
      have hsecond := (codecs_ofKind (u := e.negotiated) kind rfl hd').2
      rw [← h kind] at hsecond
      exact hfirst.symm.trans hsecond
    refine ⟨fun kind => ⟨hasKind_eq_of_get (hcodecs kind), codecsOf_eq_of_get (hcodecs kind)⟩, ?_⟩
    -- all conflicts are of one sort, so that only their number matters
    have hlength :=
      length_conflicts_applySections (u := e.negotiated) (v := e.negotiated) rfl rfl hd
    have hlength' :=
      length_conflicts_applySections (u := e.negotiated) (v := e.negotiated) rfl rfl hd'
    have hreplicate : ∀ b : RemoteDescription, (applySections e e.negotiated b).conflicts =
        List.replicate (applySections e e.negotiated b).conflicts.length .codecConflict :=
      fun b => List.eq_replicate_of_mem fun _ => eq_codecConflict_of_mem_applySections
    rw [update_eq_joinErrors hd, update_eq_joinErrors hd', hreplicate d, hreplicate d', hlength,
      hlength', h .audio, h .video]

namespace Interleaved

/-- An engine that lets later sections add codecs, with a codec of each kind. Both codecs leave
their clock rates open, so that they match any. -/
def engine : Engine := (Bench.run {} [
  .setMulti true,
  .registerCodec .audio ⟨Mime.opus, 0, 2, "", [], 111, .given ""⟩,
  .registerCodec .video ⟨Mime.vp8, 0, 0, "", [], 96, .given ""⟩,
  .registerExtension "urn:mid" .audio [],
  .registerExtension "urn:mid" .video []]).engine

/-- An audio section that offers the codec at a clock rate. -/
def audio (clockRate : UInt32) : RemoteSection :=
  { media := "audio"
    codecs := [⟨Mime.opus, clockRate, 2, "", [], 100, .given ""⟩]
    extensions := [("urn:mid", 3)] }

/-- A video section that offers the codec at a clock rate. -/
def video (clockRate : UInt32) : RemoteSection :=
  { media := "Video"
    codecs := [⟨Mime.vp8, clockRate, 0, "", [], 35, .given ""⟩]
    extensions := [("urn:mid", 4)] }

/-- The audio sections come first. -/
def apart : RemoteDescription :=
  [audio 48000, audio 44100, audio 8000, video 90000, video 48000]

/-- The sections take turns, with one of neither kind among them. -/
def mixed : RemoteDescription :=
  [video 90000, audio 48000, { media := "application" }, video 48000, audio 44100, audio 8000]

end Interleaved

/-- Two descriptions that bind the header extension they offer to different ids still negotiate the
same codecs, and report the same three conflicts. -/
theorem update_of_interleaving_of_mixed :
    (∀ kind, Interleaved.apart.ofKind kind = Interleaved.mixed.ofKind kind) ∧
      (Interleaved.engine.update Interleaved.apart).1.extensionId "urn:mid" =
        (3, { audio := true, video := false }) ∧
      (Interleaved.engine.update Interleaved.mixed).1.extensionId "urn:mid" =
        (4, { audio := false, video := true }) ∧
      (Interleaved.engine.update Interleaved.mixed).2 =
        joinErrors [.codecConflict, .codecConflict, .codecConflict] ∧
      (∀ kind, (Interleaved.engine.update Interleaved.apart).1.negotiated.codecsOf kind =
        (Interleaved.engine.update Interleaved.mixed).1.negotiated.codecsOf kind) ∧
      (Interleaved.engine.update Interleaved.apart).2 =
        (Interleaved.engine.update Interleaved.mixed).2 := by
  have hsame : ∀ kind, Interleaved.apart.ofKind kind = Interleaved.mixed.ofKind kind := by
    intro kind
    cases kind <;> decide +kernel
  have hread : ∀ fault, (Interleaved.engine.update Interleaved.apart).2 ≠
      .error (.numeral fault) :=
    update_ne_numeral_iff.2 (by decide +kernel)
  obtain ⟨hcodecs, hresult⟩ := (update_of_interleaving hsame).2 hread
  refine ⟨hsame, by decide +kernel, by decide +kernel, by decide +kernel, ?_, hresult⟩
  exact fun kind => (hcodecs kind).2

end MediaNegotiation
