import MediaNegotiation.Proofs.Description
import MediaNegotiation.Proofs.Extensions.Assignment
import MediaNegotiation.Proofs.Extensions.Lookup

/-!
# Where ids come from

Looking up a URI that has not been negotiated gives the id 0. Ids that an engine proposes begin at
1, and so do those that are read from a session description, but a description is applied with
whatever ids it holds. So an engine shows an id below 1 only if a peer has offered it for that URI,
in which case the id is bound, and the id 0 stands for a URI that has not been negotiated as long as
no peer has offered it.

Results:
* `bindsOnly_applySections`, `bindsOnly_run`: everything that is bound was offered.
* `Assigns.binds_of_lt_one`: an assigned id below 1 is bound.
* `extensionId_of_unbound`, `extensionId_of_binds`, `extensionId_eq_zero_iff`: what looking a URI up
  gives.
* `one_le_of_read`: a description that was read from a session offers ids from 1 on.
* `extensionId_zero_run`: what the id 0 stands for after any sequence of operations.
* `extensionId_zero_of_bound`: that it can also stand for a URI that is bound.
-/

namespace MediaNegotiation

/-! ## Offers -/

/-- A description offers a URI under an id when one of its sections of audio or video does. -/
def RemoteDescription.Offers (d : RemoteDescription) (offer : String × Int) : Prop :=
  ∃ r ∈ d, (MediaKind.ofText? r.media).isSome ∧ offer ∈ r.extensions

/-- A URI has been offered under an id by one of the descriptions that were applied. -/
def Command.Offered (commands : List Command) (offer : String × Int) : Prop :=
  ∃ d : RemoteDescription, .update d ∈ commands ∧ d.Offers offer

/-- Every URI is bound under an id with which it has a property. -/
def Negotiated.BindsOnly (s : Negotiated) (P : String × Int → Prop) : Prop :=
  ∀ t, s.bindings = some t → ∀ (id : Int) (x : HeaderExtension), t[id]? = some x → P (x.uri, id)

section

variable {P : String × Int → Prop} {known : List HeaderExtension} {kind : MediaKind}
  {t : BindingTable} {s : Negotiated} {e : Engine}

/-- A single offer adds no other binding than its own. -/
theorem forall_bindExtension {uri : String} {id : Int}
    (ht : ∀ (i : Int) (x : HeaderExtension), t[i]? = some x → P (x.uri, i)) (h : P (uri, id)) :
    ∀ (i : Int) (x : HeaderExtension),
      (bindExtension known kind t uri id).1[i]? = some x → P (x.uri, i) := by
  intro i x hx
  rcases bindExtension_cases known kind t uri id with
    heq | ⟨y, registered, hy, -, -, heq⟩ | ⟨registered, -, -, -, heq⟩
  · exact ht i x (heq ▸ hx)
  · rw [heq] at hx
    rcases BindingTable.getElem?_insert_eq_some_iff.1 hx with ⟨rfl, rfl⟩ | ⟨-, hold⟩
    · exact ht i y hy
    · exact ht i x hold
  · rw [heq] at hx
    rcases BindingTable.getElem?_insert_eq_some_iff.1 hx with ⟨rfl, rfl⟩ | ⟨-, hold⟩
    · exact h
    · exact ht i x hold

theorem forall_bindExtensions {offered : List (String × Int)}
    (ht : ∀ (i : Int) (x : HeaderExtension), t[i]? = some x → P (x.uri, i))
    (h : ∀ offer ∈ offered, P offer) :
    ∀ (i : Int) (x : HeaderExtension),
      (bindExtensions known kind t offered).1[i]? = some x → P (x.uri, i) := by
  induction offered generalizing t with
  | nil => exact ht
  | cons offer rest ih =>
    rw [List.forall_mem_cons] at h
    exact ih (forall_bindExtension ht h.1) h.2

theorem bindsOnly_bindOffered {offered : List (String × Int)} (hs : s.BindsOnly P)
    (h : ∀ offer ∈ offered, P offer) : (bindOffered known kind s offered).1.BindsOnly P := by
  unfold bindOffered
  cases ht : s.bindings with
  | none => exact hs
  | some t =>
    intro u hu
    obtain rfl := Option.some.inj hu
    exact forall_bindExtensions (hs t ht) h

theorem bindsOnly_takeCodecs {r : RemoteSection} (hs : s.BindsOnly P)
    (h : ∀ offer ∈ r.extensions, P offer) : (takeCodecs e kind s r).negotiated.BindsOnly P := by
  by_cases hr : r.Malformed
  · rw [takeCodecs_malformed hr]
    exact hs
  · cases hbest : (matchCodecs (e.registered.get kind) {} r.codecs).found.best? with
    | none =>
      rw [takeCodecs_unmatched hbest]
      exact hs
    | some best =>
      rw [takeCodecs_matched hr hbest]
      exact bindsOnly_bindOffered hs h

/-- A section binds nothing but what it offers, and only as a section of audio or video. -/
theorem bindsOnly_applySection {r : RemoteSection} (hs : s.BindsOnly P)
    (h : (MediaKind.ofText? r.media).isSome → ∀ offer ∈ r.extensions, P offer) :
    (applySection e s r).negotiated.BindsOnly P := by
  cases hkind : MediaKind.ofText? r.media with
  | none =>
    rw [applySection_skipped hkind]
    exact hs
  | some kind =>
    have hoffers := h (by rw [hkind]; rfl)
    cases hk : s.hasKind kind with
    | false =>
      rw [applySection_fresh hkind hk, Outcome.logged_negotiated]
      exact bindsOnly_takeCodecs hs hoffers
    | true =>
      have hbound : (bindOffered e.extensions kind s r.extensions).1.BindsOnly P :=
        bindsOnly_bindOffered hs hoffers
      cases hm : e.multi with
      | false =>
        rw [applySection_closed hkind hk hm]
        exact hbound
      | true =>
        rw [applySection_again hkind hk hm, Outcome.logged_negotiated]
        exact bindsOnly_takeCodecs hbound hoffers

/-- A description binds nothing but what it offers, whether or not it is stopped. -/
theorem bindsOnly_applySections {d : RemoteDescription} (hs : s.BindsOnly P)
    (h : ∀ offer, d.Offers offer → P offer) : (applySections e s d).negotiated.BindsOnly P :=
  applySections_keeps (P := fun u => u.BindsOnly P) hs fun r hr _ ht =>
    bindsOnly_applySection ht fun hkind offer hmem => h offer ⟨r, hr, hkind, hmem⟩

/-- One operation binds nothing but what the description that it applies offers. -/
theorem bindsOnly_step {b : Bench} {command : Command} (hb : b.engine.negotiated.BindsOnly P)
    (h : ∀ offer, Command.Offered [command] offer → P offer) :
    (b.step command).1.engine.negotiated.BindsOnly P := by
  cases command with
  | registerCodec kind c =>
    have hneg := (b.engine.registerCodec_frame kind c (.issued b.serial)).2
    exact hneg.symm ▸ hb
  | registerDefaults =>
    have hneg := (b.engine.registerCodecs_frame b.serial Defaults.codecs).2
    exact hneg.symm ▸ hb
  | registerExtension uri kind directions =>
    by_cases hall : (Engine.allowedDirections directions).all Direction.isOneWay = true
    · simp only [Bench.step, Engine.registerExtension_accepted hall]
      intro t ht id x hx
      obtain rfl := Option.some.inj ht
      -- a table that is opened by the registration has no entries
      exact Engine.bound_induction (e := b.engine)
        (P := fun u => ∀ (i : Int) (y : HeaderExtension), u[i]? = some y → P (y.uri, i))
        (by simp) hb id x hx
    · simp only [Bench.step, Engine.registerExtension_refused hall]
      exact hb
  | registerFeedback kind f => exact hb
  | setMulti multi => exact hb
  | update d => exact bindsOnly_applySections hb fun offer ho => h offer ⟨d, by simp, ho⟩

/-- Everything that is bound was offered by one of the descriptions that were applied. -/
theorem bindsOnly_run (serial : Nat) (commands : List Command) :
    (Bench.run { serial } commands).engine.negotiated.BindsOnly (Command.Offered commands) := by
  refine Engine.run_keeps (P := fun e => e.negotiated.BindsOnly (Command.Offered commands))
    (fun t ht => by simp at ht) ?_
  intro now command hmem hnow
  refine bindsOnly_step hnow ?_
  rintro offer ⟨d, hd, hoffers⟩
  exact ⟨d, List.mem_singleton.1 hd ▸ hmem, hoffers⟩

end

/-! ## Views -/

namespace Engine

variable {e : Engine} {uri : String} {id : Int}

/-- The table of bindings has an entry for a URI under an id. -/
def Binds (e : Engine) (uri : String) (id : Int) : Prop :=
  ∃ t x, e.negotiated.bindings = some t ∧ t[id]? = some x ∧ x.uri = uri

theorem binds_iff : e.Binds uri id ↔ ∃ x, e.bound[id]? = some x ∧ x.uri = uri := by
  unfold Binds bound
  cases e.negotiated.bindings <;> simp

/-- A URI without an entry is answered with the id 0 and is used for no kind. -/
theorem extensionId_of_unbound (h : ∀ id, ¬ e.Binds uri id) :
    e.extensionId uri = (0, .both false) := by
  have hnone : e.bound.binding? uri = none :=
    BindingTable.binding?_eq_none_iff.2 fun id x hx huri => h id (binds_iff.2 ⟨x, hx, huri⟩)
  rw [extensionId_eq, hnone]

/-- A URI with an entry is answered with the id of the entry. -/
theorem extensionId_of_binds (he : e.BindingsSound) (h : e.Binds uri id) :
    (e.extensionId uri).1 = id := by
  obtain ⟨x, hx, rfl⟩ := binds_iff.1 h
  rw [extensionId_eq, (oneToOne_bound he).binding?_eq_some hx]

/-- The id 0 stands for a URI without an entry or with an entry under it. -/
theorem extensionId_eq_zero_iff (he : e.BindingsSound) :
    (e.extensionId uri).1 = 0 ↔ (∀ id, ¬ e.Binds uri id) ∨ e.Binds uri 0 := by
  constructor
  · intro hid
    rw [or_iff_not_imp_left, not_forall_not]
    rintro ⟨id, hbinds⟩
    rw [← hid, extensionId_of_binds he hbinds]
    exact hbinds
  · rintro (hunbound | hbinds)
    · rw [extensionId_of_unbound hunbound]
    · exact extensionId_of_binds he hbinds

/-- An id below 1 that is assigned is bound, because those that are proposed for URIs that are not
bound begin at 1. -/
theorem Assigns.binds_of_lt_one (he : e.BindingsSound) (h : e.Assigns uri id) (hid : id < 1) :
    e.Binds uri id := by
  rw [binds_iff]
  cases h with
  | @bound _ x hx => exact ⟨x, hx, rfl⟩
  | @proposed _ x hx =>
    have hreceived := (((gives_proposal he.toDescribed).table id x).1 hx).2
    cases hb : e.bound.binding? x.uri with
    | some binding =>
      obtain ⟨i, y⟩ := binding
      obtain ⟨huri, hy⟩ := BindingTable.uri_binding? hb
      rw [BindingTable.idFor?_of_bound hb, Option.some.injEq] at hreceived
      exact ⟨y, hreceived ▸ hy, huri⟩
    | none =>
      rw [BindingTable.idFor?_of_unbound hb] at hreceived
      have hfree := BindingTable.mem_freeIds_iff.1 (List.mem_of_getElem? hreceived)
      omega

end Engine

/-- A description that was read from a session offers ids from 1 on. -/
theorem RemoteDescription.one_le_of_read {session : Sdp.Session} {d : RemoteDescription}
    (h : ofSession session = .ok d) {offer : String × Int} (ho : d.Offers offer) : 1 ≤ offer.2 := by
  obtain ⟨r, hr, -, hoffer⟩ := ho
  rw [ofSession_eq, firstFault_eq_ok_iff] at h
  obtain ⟨-, rfl⟩ := h
  obtain ⟨m, -, rfl⟩ := List.mem_map.1 hr
  obtain ⟨a, -, ha⟩ := List.mem_filterMap.1 hoffer
  unfold RemoteSection.extensionFor? at ha
  split at ha
  · cases hread : Sdp.readExtMap a.text with
    | error fault => simp [hread, Except.toOption] at ha
    | ok x =>
      obtain rfl : x = offer := by simpa [hread, Except.toOption] using ha
      exact (Sdp.id_readExtMap hread).1
  · simp at ha

/-- **The id 0.** After any sequence of operations on a new engine, a URI that no entry of the table
of bindings carries is answered with the id 0 and is used for no kind, and a URI that an entry
carries is answered with the id of that entry, under which a description has offered it. A view
shows an id below 1 only if an entry has it. As long as no description offers an id below 1, as none
does that was read from a session, the id 0 is the answer for exactly the URIs without an entry and
no view shows an id below 1. -/
theorem extensionId_zero_run (serial : Nat) (commands : List Command) :
    let e := (Bench.run { serial } commands).engine
    (∀ uri, (∀ id, ¬ e.Binds uri id) → e.extensionId uri = (0, .both false)) ∧
    (∀ uri id, e.Binds uri id →
      (e.extensionId uri).1 = id ∧ Command.Offered commands (uri, id)) ∧
    (∀ uri, (e.extensionId uri).1 = 0 ↔ (∀ id, ¬ e.Binds uri id) ∨ e.Binds uri 0) ∧
    (∀ uri id, e.Shows (uri, id) → id < 1 → e.Binds uri id) ∧
    ((∀ offer, Command.Offered commands offer → 1 ≤ offer.2) →
      (∀ uri, (e.extensionId uri).1 = 0 ↔ ∀ id, ¬ e.Binds uri id) ∧
        ∀ uri id, e.Shows (uri, id) → 1 ≤ id) ∧
    ((∀ d, .update d ∈ commands → ∃ session, RemoteDescription.ofSession session = .ok d) →
      ∀ offer, Command.Offered commands offer → 1 ≤ offer.2) := by
  intro e
  have hsound : e.BindingsSound :=
    kept_bindingsSound.run (b := { serial }) bindingsSound_new commands
  have hanswer : ∀ uri id, e.Binds uri id →
      (e.extensionId uri).1 = id ∧ Command.Offered commands (uri, id) := by
    intro uri id hbinds
    refine ⟨Engine.extensionId_of_binds hsound hbinds, ?_⟩
    obtain ⟨t, x, ht, hx, rfl⟩ := hbinds
    exact bindsOnly_run serial commands t ht id x hx
  have hshown : ∀ uri id, e.Shows (uri, id) → id < 1 → e.Binds uri id :=
    fun uri id hshows => (hshows.assigns hsound).binds_of_lt_one hsound
  refine ⟨fun uri => Engine.extensionId_of_unbound, hanswer,
    fun uri => Engine.extensionId_eq_zero_iff hsound, hshown, ?_, ?_⟩
  · intro hoffered
    have hpositive : ∀ uri id, e.Binds uri id → 1 ≤ id := fun uri id hbinds =>
      hoffered (uri, id) (hanswer uri id hbinds).2
    refine ⟨fun uri => ?_, fun uri id hshows => ?_⟩
    · rw [Engine.extensionId_eq_zero_iff hsound, or_iff_left]
      intro hbinds
      have hone := hpositive uri 0 hbinds
      omega
    · by_contra hlow
      have hone := hpositive uri id (hshown uri id hshows (by omega))
      omega
  · rintro hread offer ⟨d, hd, hoffers⟩
    obtain ⟨session, hsession⟩ := hread d hd
    exact RemoteDescription.one_le_of_read hsession hoffers

namespace ZeroOffered

/-- An extension for video is offered under the id 0 in a section of audio. -/
def commands : List Command := [
  .registerCodec .audio ⟨Mime.opus, 48000, 2, "", [], 111, .given ""⟩,
  .registerExtension "urn:mid" .video [],
  .update [{
    media := "audio"
    codecs := [⟨Mime.opus, 48000, 2, "", [], 111, .given ""⟩]
    extensions := [("urn:mid", 0)] }]]

end ZeroOffered

/-- A URI that is bound under the id 0 and used for no kind is answered like one that is not bound,
and the id 0 is shown for the kind that has not been negotiated. -/
theorem extensionId_zero_of_bound :
    let e := (Bench.run {} ZeroOffered.commands).engine
    e.Binds "urn:mid" 0 ∧ e.extensionId "urn:mid" = (0, .both false) ∧
      (e.parameters .video [.sendonly]).extensions = [("urn:mid", 0)] := by
  intro e
  have hentry : (e.bound[(0 : Int)]?).map (·.uri) = some "urn:mid" := by decide +kernel
  obtain ⟨x, hx, huri⟩ := Option.map_eq_some_iff.1 hentry
  refine ⟨Engine.binds_iff.2 ⟨x, hx, huri⟩, ?_⟩
  decide +kernel

end MediaNegotiation
