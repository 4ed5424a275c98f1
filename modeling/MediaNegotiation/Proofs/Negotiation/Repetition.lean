import MediaNegotiation.Proofs.Extensions.Permanence
import MediaNegotiation.Proofs.Negotiation.Stopped

/-!
# Descriptions that are applied again

Applying a section settles what it offers: a header extension that has been offered is bound as
offered, or the table holds something else that stands in its way for good, and a codec that has
been matched has a payload type that is held. What is settled stays settled. So when a description
is applied once more, its sections find nothing to do and report what they reported before. The one
exception is a section that opens its kind and matches no codec, because its header extensions are
passed over the first time.

Results:
* `settles_of_bindOffered`: header extensions are settled once they have been offered.
* `report_applySection_repeated`, `report_applySections_repeated`: sections report the same again.
* `repeats_of_applySections`: sections of negotiated kinds are repeated from then on.
* `update_update_of_negotiated`: for negotiated kinds, applying a description twice is applying it
  once.
-/

namespace MediaNegotiation

/-! ## Header extensions -/

section

variable {known : List HeaderExtension} {kind : MediaKind} {t u : BindingTable} {uri : String}
  {id i : Int} {y : HeaderExtension}

/-- An offer is settled by the binding of its URI, unless that one is the binding that is offered
and can still be enabled. -/
theorem BindingTable.settles_of_held (hu : u.OneToOne) (hy : u[i]? = some y) (huri : y.uri = uri)
    (henabled : i = id → ∀ registered, HeaderExtension.find? known uri = some registered →
      registered.kinds.get kind = true → y.kinds.get kind = true) :
    u.Settles known kind (uri, id) := by
  subst huri
  intro registered hknown
  dsimp only at hknown ⊢
  rw [hu.binding?_eq_some hy]
  exact fun he => henabled he registered hknown

/-- An offer is settled when its id is bound to another URI. -/
theorem BindingTable.settles_of_taken (hy : u[id]? = some y) (hother : y.uri ≠ uri) :
    u.Settles known kind (uri, id) := by
  intro registered _
  dsimp only
  cases hb : u.binding? uri with
  | none => simp [hy]
  | some binding =>
    obtain ⟨j, z⟩ := binding
    obtain ⟨huri, hz⟩ := BindingTable.uri_binding? hb
    dsimp only
    rintro rfl
    obtain rfl : z = y := by simpa [hz] using hy
    exact absurd huri hother

/-- An offer that has been answered by a table is settled in all later ones. -/
theorem settles_of_bindExtension (h : (bindExtension known kind t uri id).1.GrowsTo u)
    (hu : u.OneToOne) : u.Settles known kind (uri, id) := by
  cases hknown : HeaderExtension.find? known uri with
  | none => simp [BindingTable.Settles, hknown]
  | some registered =>
    cases hb : t.binding? uri with
    | some binding =>
      obtain ⟨bound, x⟩ := binding
      obtain ⟨huri, hx⟩ := BindingTable.uri_binding? hb
      by_cases hbound : bound = id
      · subst hbound
        rw [bindExtension_bound hknown hb] at h
        by_cases happ : registered.kinds.get kind = true
        · rw [if_pos happ] at h
          obtain ⟨y, hy, hgrows⟩ := h bound (x.addKind kind) Std.ExtTreeMap.getElem?_insert_self
          exact BindingTable.settles_of_held hu hy (hgrows.uri.trans huri)
            fun _ _ _ _ => hgrows.kinds kind (x.get_addKind_same kind)
        · rw [if_neg happ] at h
          obtain ⟨y, hy, hgrows⟩ := h bound x hx
          refine BindingTable.settles_of_held hu hy (hgrows.uri.trans huri) ?_
          intro _ registered' hknown' happ'
          obtain rfl : registered = registered' := by simpa [hknown] using hknown'
          exact absurd happ' happ
      · rw [bindExtension_elsewhere hknown hb hbound] at h
        obtain ⟨y, hy, hgrows⟩ := h bound x hx
        exact BindingTable.settles_of_held hu hy (hgrows.uri.trans huri)
          fun he => absurd he hbound
    | none =>
      cases hid : t[id]? with
      | some holder =>
        rw [bindExtension_taken hknown hb hid] at h
        obtain ⟨y, hy, hgrows⟩ := h id holder hid
        refine BindingTable.settles_of_taken hy ?_
        rw [hgrows.uri]
        exact BindingTable.binding?_eq_none_iff.1 hb id holder hid
      | none =>
        rw [bindExtension_free hknown hb hid] at h
        obtain ⟨y, hy, hgrows⟩ := h id _ Std.ExtTreeMap.getElem?_insert_self
        refine BindingTable.settles_of_held hu hy hgrows.uri ?_
        intro _ registered' hknown' happ'
        obtain rfl : registered = registered' := by simpa [hknown] using hknown'
        exact hgrows.kinds kind (registered.get_boundFor_same uri kind ▸ happ')

theorem settles_of_bindExtensions {offered : List (String × Int)}
    (h : (bindExtensions known kind t offered).1.GrowsTo u) (hu : u.OneToOne) :
    ∀ offer ∈ offered, u.Settles known kind offer := by
  induction offered generalizing t with
  | nil => simp
  | cons offer rest ih =>
    have hrest := @growsTo_bindExtensions known kind
      (bindExtension known kind t offer.1 offer.2).1 rest
    rw [List.forall_mem_cons]
    exact ⟨settles_of_bindExtension (hrest.trans h) hu, ih h⟩

end

section

variable {e : Engine} {s u : Negotiated} {kind : MediaKind} {r : RemoteSection}

/-- What a section offers is settled in every state that follows once it has been bound. -/
theorem settles_of_bindOffered
    (h : Changes e (bindOffered e.extensions kind s r.extensions).1 u)
    (hu : ∀ t, u.bindings = some t → t.OneToOne) : u.SettlesExtensions e kind r := by
  intro t ht
  cases hs : s.bindings with
  | none =>
    -- without a table nothing is bound, and no change opens one
    have hnone : (bindOffered e.extensions kind s r.extensions).1.bindings = none := by
      simp [bindOffered, hs]
    rw [← h.bindings_eq_none_iff, ht] at hnone
    simp at hnone
  | some held =>
    have hbound : (bindOffered e.extensions kind s r.extensions).1.bindings =
        some (bindExtensions e.extensions kind held r.extensions).1 := by
      simp [bindOffered, hs]
    obtain ⟨wider, hwider, hgrows⟩ := h.growsTo.bindings _ hbound
    obtain rfl : wider = t := by simpa [hwider] using ht
    exact settles_of_bindExtensions hgrows (hu wider hwider)

/-! ## Codecs -/

/-- An audio or video section that has no codecs to add: its kind is negotiated, and if codecs can
be added, its matches are held. -/
def Negotiated.HoldsCodecs (s : Negotiated) (e : Engine) (r : RemoteSection) : Prop :=
  ∀ kind, MediaKind.ofText? r.media = some kind →
    s.hasKind kind = true ∧ (e.multi = true → s.HoldsMatches e kind r)

/-- The matches that a section has taken over stay in front of the codecs of the kind. -/
theorem commit_prefix_of_takeCodecs (hr : ¬ r.Malformed) {tier : Tier} {chosen : List Match}
    (hbest : (matchCodecs (e.registered.get kind) {} r.codecs).found.best? = some (tier, chosen))
    (h : (takeCodecs e kind s r).negotiated.GrowsTo u) :
    (commit (s.codecsOf kind) chosen).1 <+: u.codecsOf kind := by
  have hcodecs := h.codecsOf kind
  rw [takeCodecs_matched hr hbest, codecsOf_bindOffered, Negotiated.codecsOf_withCodecs,
    if_pos rfl] at hcodecs
  exact hcodecs

/-- A section that is not malformed has its matches held from then on. -/
theorem holdsMatches_of_takeCodecs (hr : ¬ r.Malformed)
    (h : (takeCodecs e kind s r).negotiated.GrowsTo u) : u.HoldsMatches e kind r := by
  intro tier chosen hbest
  have hagain := commit_again (commit_prefix_of_takeCodecs hr hbest h)
  rw [← commit_eq_self_iff, hagain]

/-- The codecs of a section meet the same conflicts when they are taken again. -/
theorem conflicts_takeCodecs_repeated (h : (takeCodecs e kind s r).negotiated.GrowsTo u) :
    (takeCodecs e kind u r).conflicts = (takeCodecs e kind s r).conflicts := by
  by_cases hr : r.Malformed
  · rw [takeCodecs_malformed_conflicts hr, takeCodecs_malformed_conflicts hr]
  · cases hbest : (matchCodecs (e.registered.get kind) {} r.codecs).found.best? with
    | none => rw [takeCodecs_unmatched_conflicts hbest, takeCodecs_unmatched_conflicts hbest]
    | some best =>
      obtain ⟨tier, chosen⟩ := best
      rw [takeCodecs_matched_conflicts hr hbest, takeCodecs_matched_conflicts hr hbest,
        commit_again (commit_prefix_of_takeCodecs hr hbest h)]

/-! ## Sections -/

/-- Where the codecs of a section are looked at, they are taken from a state in which the kind is
negotiated. -/
theorem applySection_looked (h : MediaKind.ofText? r.media = some kind)
    (hlook : s.hasKind kind = true → e.multi = true) :
    ∃ start log, start.hasKind kind = true ∧
      applySection e s r = (takeCodecs e kind start r).logged log := by
  cases hk : s.hasKind kind with
  | false => exact ⟨_, _, s.hasKind_withCodecs_same kind [], applySection_fresh h hk⟩
  | true =>
    exact ⟨_, _, by rw [hasKind_bindOffered, hk], applySection_again h hk (hlook hk)⟩

/-- The kind of a section is negotiated afterwards. -/
theorem hasKind_applySection (h : MediaKind.ofText? r.media = some kind) :
    (applySection e s r).negotiated.hasKind kind = true := by
  cases hk : s.hasKind kind with
  | true => exact (changes_applySection e s r).hasKind hk
  | false =>
    rw [applySection_fresh h hk, Outcome.logged_negotiated]
    exact (changes_takeCodecs (s.hasKind_withCodecs_same kind []) r).hasKind
      (s.hasKind_withCodecs_same kind [])

/-- A section whose kind is negotiated, or to which later ones may add codecs, reports the same when
it is applied again. -/
theorem report_applySection_repeated
    (hs : ∀ kind, MediaKind.ofText? r.media = some kind → s.hasKind kind = true ∨ e.multi = true)
    (h : (applySection e s r).negotiated.GrowsTo u) :
    (applySection e u r).fault = (applySection e s r).fault ∧
      (applySection e u r).conflicts = (applySection e s r).conflicts := by
  cases hkind : MediaKind.ofText? r.media with
  | none =>
    rw [applySection_skipped hkind, applySection_skipped hkind]
    exact ⟨rfl, rfl⟩
  | some kind =>
    have hu : u.hasKind kind = true := h.hasKind (hasKind_applySection hkind)
    cases hm : e.multi with
    | true =>
      obtain ⟨start, log, -, hfirst⟩ := @applySection_looked e s kind r hkind fun _ => hm
      rw [hfirst] at h ⊢
      rw [applySection_again hkind hu hm]
      have hbound := (changes_bindOffered (e := e) hu r.extensions).growsTo
      simp only [Outcome.logged_fault, Outcome.logged_conflicts, takeCodecs_fault, true_and]
      exact conflicts_takeCodecs_repeated (h.trans hbound)
    | false =>
      have hk : s.hasKind kind = true := by
        rcases hs kind hkind with hk | hmulti
        · exact hk
        · simp [hm] at hmulti
      rw [applySection_closed hkind hk hm, applySection_closed hkind hu hm]
      exact ⟨rfl, rfl⟩

/-- Once a section has been applied, its matches are held. -/
theorem holdsMatches_of_applySection (hr : (applySection e s r).fault = none)
    (h : (applySection e s r).negotiated.GrowsTo u)
    (hkind : MediaKind.ofText? r.media = some kind) (hm : e.multi = true) :
    u.HoldsMatches e kind r := by
  obtain ⟨start, log, -, hlooked⟩ := @applySection_looked e s kind r hkind fun _ => hm
  rw [hlooked] at hr h
  exact holdsMatches_of_takeCodecs (not_malformed_of_takeCodecs hr) h

/-- Once a section has been applied, its header extensions are settled, provided that its kind was
negotiated before or that it has been opened with a match. -/
theorem settlesExtensions_of_applySection (hkind : MediaKind.ofText? r.media = some kind)
    (hs : s.hasKind kind = true ∨ (applySection e s r).fault = none ∧
      (matchCodecs (e.registered.get kind) {} r.codecs).found.best?.isSome)
    (h : Changes e (applySection e s r).negotiated u)
    (hu : ∀ t, u.bindings = some t → t.OneToOne) : u.SettlesExtensions e kind r := by
  cases hk : s.hasKind kind with
  | true =>
    have hlater : Changes e (bindOffered e.extensions kind s r.extensions).1
        (applySection e s r).negotiated := by
      cases hm : e.multi with
      | false =>
        rw [applySection_closed hkind hk hm]
        exact .refl _
      | true =>
        rw [applySection_again hkind hk hm, Outcome.logged_negotiated]
        exact changes_takeCodecs (by rw [hasKind_bindOffered, hk]) r
    exact settles_of_bindOffered (hlater.trans h) hu
  | false =>
    obtain ⟨hfault, hmatched⟩ := hs.resolve_left (by simp [hk])
    obtain ⟨⟨tier, chosen⟩, hbest⟩ := Option.isSome_iff_exists.1 hmatched
    rw [applySection_fresh hkind hk, Outcome.logged_fault] at hfault
    have hwell : ¬ r.Malformed := not_malformed_of_takeCodecs hfault
    rw [applySection_fresh hkind hk, Outcome.logged_negotiated,
      takeCodecs_matched hwell hbest] at h
    exact settles_of_bindOffered h hu

/-- A section of a negotiated kind that stops the description does so again, and then changes
nothing. -/
theorem applySection_stopped_repeated (hr : (applySection e s r).fault.isSome)
    (hs : ∀ kind, MediaKind.ofText? r.media = some kind → s.hasKind kind = true)
    (hu : ∀ t, (applySection e s r).negotiated.bindings = some t → t.OneToOne) :
    (applySection e (applySection e s r).negotiated r).fault.isSome ∧
      (applySection e (applySection e s r).negotiated r).negotiated =
        (applySection e s r).negotiated := by
  obtain ⟨-, kind, hkind, -⟩ := applySection_fault_isSome_iff.1 hr
  have hk := hs kind hkind
  obtain ⟨hfault, -⟩ := report_applySection_repeated (fun kind hkind => .inl (hs kind hkind))
    (.refl (applySection e s r).negotiated)
  have hagain : (applySection e (applySection e s r).negotiated r).fault.isSome := hfault ▸ hr
  refine ⟨hagain, (applySection_stopped_eq_self_iff hagain).2 ⟨kind, hkind, ?_, ?_⟩⟩
  · exact hasKind_applySection hkind
  · exact settlesExtensions_of_applySection hkind (.inl hk) (.refl _) hu

end

/-! ## Descriptions -/

section

variable {e : Engine} {s u : Negotiated} {d : RemoteDescription}

/-- Sections whose kinds are negotiated, or to which later ones may add codecs, report the same when
they are applied again, also where they stop the description. -/
theorem report_applySections_repeated
    (hs : ∀ r ∈ d, ∀ kind, MediaKind.ofText? r.media = some kind →
      s.hasKind kind = true ∨ e.multi = true)
    (h : (applySections e s d).negotiated.GrowsTo u) :
    (applySections e u d).fault = (applySections e s d).fault ∧
      (applySections e u d).conflicts = (applySections e s d).conflicts := by
  induction d generalizing s u with
  | nil => exact ⟨rfl, rfl⟩
  | cons r rest ih =>
    rw [List.forall_mem_cons] at hs
    by_cases hr : (applySection e s r).fault.isSome
    · rw [applySections_cons_stopped hr] at h ⊢
      obtain ⟨hfault, hconflicts⟩ := report_applySection_repeated hs.1 h
      rw [applySections_cons_stopped (hfault ▸ hr)]
      exact ⟨hfault, hconflicts⟩
    · rw [Option.not_isSome_iff_eq_none] at hr
      rw [applySections_cons hr] at h ⊢
      have hfirst := (changes_applySection e s r).growsTo
      have hrest := growsTo_applySections e (applySection e s r).negotiated rest
      obtain ⟨hfault, hconflicts⟩ := report_applySection_repeated hs.1 (hrest.trans h)
      rw [applySections_cons (hfault.trans hr)]
      have hkinds : ∀ b ∈ rest, ∀ kind, MediaKind.ofText? b.media = some kind →
          (applySection e s r).negotiated.hasKind kind = true ∨ e.multi = true :=
        fun b hb kind hkind => (hs.2 b hb kind hkind).imp_left hfirst.hasKind
      obtain ⟨hfaults, hmore⟩ := ih hkinds (h.trans (changes_applySection e u r).growsTo)
      simp only [Outcome.andThen_fault, Outcome.andThen_conflicts, hconflicts, hfaults, hmore]
      exact ⟨trivial, trivial⟩

/-- The sections of a description that is not stopped have no codecs to add from then on. -/
theorem holdsCodecs_of_applySections (hd : (applySections e s d).fault = none)
    (h : (applySections e s d).negotiated.GrowsTo u) : ∀ r ∈ d, u.HoldsCodecs e r := by
  intro r hr kind hkind
  obtain ⟨before, after, rfl⟩ := List.append_of_mem hr
  obtain ⟨-, hfault, hleft⟩ := applySections_at hd
  rw [hleft] at h
  have hlater := (growsTo_applySections e _ after).trans h
  exact ⟨hlater.hasKind (hasKind_applySection hkind),
    holdsMatches_of_applySection hfault hlater hkind⟩

/-- The header extensions of a section are settled once the description has been applied, provided
that the section met its kind negotiated or has opened it with a match. -/
theorem settlesExtensions_of_applySections {before after : List RemoteSection} {r : RemoteSection}
    {kind : MediaKind} (hd : (applySections e s (before ++ r :: after)).fault = none)
    (hkind : MediaKind.ofText? r.media = some kind)
    (hs : (applySections e s before).negotiated.hasKind kind = true ∨
      (matchCodecs (e.registered.get kind) {} r.codecs).found.best?.isSome)
    (h : Changes e (applySections e s (before ++ r :: after)).negotiated u)
    (hu : ∀ t, u.bindings = some t → t.OneToOne) : u.SettlesExtensions e kind r := by
  obtain ⟨-, hfault, hleft⟩ := applySections_at hd
  rw [hleft] at h
  exact settlesExtensions_of_applySection hkind (hs.imp_right fun hmatched => ⟨hfault, hmatched⟩)
    ((changes_applySections e _ after).trans h) hu

/-- The sections of a description that is not stopped are repeated from then on, if their kinds were
negotiated before. -/
theorem repeats_of_applySections (hd : (applySections e s d).fault = none)
    (hs : ∀ r ∈ d, ∀ kind, MediaKind.ofText? r.media = some kind → s.hasKind kind = true)
    (h : Changes e (applySections e s d).negotiated u)
    (hu : ∀ t, u.bindings = some t → t.OneToOne) : ∀ r ∈ d, u.Repeats e r := by
  intro r hr kind hkind
  obtain ⟨hk, hmatches⟩ := holdsCodecs_of_applySections hd h.growsTo r hr kind hkind
  obtain ⟨before, after, rfl⟩ := List.append_of_mem hr
  have hstart := (changes_applySections e s before).hasKind (hs r hr kind hkind)
  exact ⟨hk, settlesExtensions_of_applySections hd hkind (.inl hstart) h hu, hmatches⟩

/-- Where all kinds of a description are negotiated, applying it a second time leaves the state as
the first time has left it. -/
theorem applySections_repeated
    (hs : ∀ r ∈ d, ∀ kind, MediaKind.ofText? r.media = some kind → s.hasKind kind = true)
    (hu : ∀ t, (applySections e s d).negotiated.bindings = some t → t.OneToOne) :
    (applySections e (applySections e s d).negotiated d).negotiated =
      (applySections e s d).negotiated := by
  obtain ⟨hfault, -⟩ := report_applySections_repeated
    (fun r hr kind hkind => .inl (hs r hr kind hkind)) (.refl (applySections e s d).negotiated)
  by_cases hd : (applySections e s d).fault = none
  · exact (applySections_repeats_iff (hfault.trans hd)).2
      (repeats_of_applySections hd hs (.refl _) hu)
  · -- the sections before the one that stops the description are repeated, and that one is settled
    obtain ⟨done, r, rest, rfl, hdone, hr, hleft⟩ :=
      applySections_stopped (Option.isSome_iff_ne_none.2 hd)
    rw [hleft] at hu ⊢
    have hlast := changes_applySection e (applySections e s done).negotiated r
    have hk : ∀ kind, MediaKind.ofText? r.media = some kind →
        (applySections e s done).negotiated.hasKind kind = true :=
      fun kind hkind => (changes_applySections e s done).hasKind (hs r (by simp) kind hkind)
    obtain ⟨hagain, hsame⟩ := applySection_stopped_repeated hr hk hu
    exact applySections_of_repeats
      (repeats_of_applySections hdone (fun b hb => hs b (by simp [hb])) hlast hu) hagain hsame rest

end

/-! ## Updates -/

/-- **Repeated renegotiation.** On a reachable engine that has negotiated all audio and video kinds
a description names, updating twice with the description is the same as updating once: the engine is
the same, and so is the result, also where the description is stopped or meets conflicts. -/
theorem update_update_of_negotiated {e : Engine} (he : e.Reachable) {d : RemoteDescription}
    (hd : ∀ r ∈ d, ∀ kind, MediaKind.ofText? r.media = some kind →
      e.negotiated.hasKind kind = true) :
    (e.update d).1.update d = e.update d := by
  have hsound : (e.update d).1.BindingsSound :=
    kept_bindingsSound.update d (kept_bindingsSound.reachable bindingsSound_new he)
  have hsame : (applySections e (applySections e e.negotiated d).negotiated d).negotiated =
      (applySections e e.negotiated d).negotiated :=
    applySections_repeated hd hsound.oneToOne
  obtain ⟨hfault, hconflicts⟩ := report_applySections_repeated
    (fun r hr kind hkind => .inl (hd r hr kind hkind))
    (.refl (applySections e e.negotiated d).negotiated)
  simp only [Engine.update, Engine.negotiate, applySections_withNegotiated, Outcome.result, hsame,
    hfault, hconflicts]

namespace Renegotiation

/-- A video codec at a clock rate. -/
def vp8 (clockRate : UInt32) : Codec := ⟨Mime.vp8, clockRate, 0, "", [], 96, .given ""⟩

/-- An engine that has negotiated VP8 and lets later sections add codecs. The registered codec
leaves its clock rate open, so that it matches any. -/
def engine : Engine := (Bench.run {} [
  .setMulti true,
  .registerCodec .video (vp8 0),
  .registerExtension "urn:mid" .video [],
  .registerExtension "urn:rid" .video [],
  .update [{ media := "video", codecs := [vp8 90000], extensions := [("urn:mid", 3)] }]]).engine

/-- A description that offers VP8 at another clock rate, moves one extension, offers the id of that
one for another, and binds the other one next. -/
def description : RemoteDescription := [
  { media := "video"
    codecs := [vp8 48000]
    extensions := [("urn:mid", 4), ("urn:rid", 3), ("urn:rid", 4)] }]

end Renegotiation

/-- A description that is refused over a payload type binds a header extension the first time, and
is refused for the same reason and without effect the second time. -/
theorem update_update_of_conflict :
    (Renegotiation.engine.update Renegotiation.description).2 =
        .error (.joined Error.codecConflict.message) ∧
      (Renegotiation.engine.update Renegotiation.description).1 ≠ Renegotiation.engine ∧
      (Renegotiation.engine.update Renegotiation.description).1.update Renegotiation.description =
        Renegotiation.engine.update Renegotiation.description := by
  refine ⟨by decide +kernel, by decide +kernel, ?_⟩
  have hnegotiated : Renegotiation.engine.negotiated.hasKind .video = true := by decide +kernel
  refine update_update_of_negotiated ⟨0, _, rfl⟩ fun r hr kind hkind => ?_
  have hmedia : r.media = "video" := by
    rw [List.eq_of_mem_singleton hr]
  have hvideo : MediaKind.ofText? "video" = some .video := MediaKind.ofText?_text .video
  obtain rfl : MediaKind.video = kind := by simpa [hmedia, hvideo] using hkind
  exact hnegotiated

end MediaNegotiation
