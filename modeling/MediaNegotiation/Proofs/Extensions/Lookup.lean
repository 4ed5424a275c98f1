import MediaNegotiation.Proofs.Extensions.Proposals

/-!
# Looking up header extensions

Three views read the table of bindings: the one for a payload type takes the entries of a kind, the
one for a kind takes those that are also meant for the wanted directions, and the one for a URI
searches for a single entry. They agree, because every binding is restricted to one-way directions,
of which it has at least one, no URI is bound to two ids, and nothing is bound for a kind that has
not been negotiated.

Results:
* `serves_oneWay`: a binding serves a kind in one of the one-way directions exactly if it is used
  for it.
* `parametersByPayloadType_of_found`: the view for a payload type in terms of what is served.
* `extensionsFor_of_negotiated`: the view for a negotiated kind likewise.
* `mem_serving_iff_extensionId`: the view for a URI likewise.
* `lookups_agree`: the three views agree in every state.
-/

namespace MediaNegotiation

/-! ## Directions -/

/-- The directions that extensions can be restricted to. -/
def Direction.oneWay : List Direction := [.recvonly, .sendonly]

/-- A restriction to one-way directions is met by one of them. -/
theorem Direction.Restricts.overlap_oneWay {directions : List Direction}
    (h : Restricts directions) : overlap directions oneWay = true := by
  obtain ⟨hnonempty, honeWay⟩ := h
  obtain ⟨d, hd⟩ := List.exists_mem_of_ne_nil directions hnonempty
  refine List.any_eq_true.2 ⟨d, hd, ?_⟩
  rcases honeWay d hd with rfl | rfl <;> rfl

theorem HeaderExtension.serves_oneWay {x : HeaderExtension} {kind : MediaKind}
    (h : Direction.Restricts x.directions) : x.serves kind Direction.oneWay = x.kinds.get kind := by
  rw [serves, h.overlap_oneWay, Bool.true_and]

namespace Engine

variable {e : Engine} {kind : MediaKind}

/-! ## Views of the table -/

theorem backs_of_bound (he : e.BindingsSound) :
    ∀ (id : Int) (x : HeaderExtension), e.bound[id]? = some x → e.Backs x :=
  bound_induction (by simp) he.backed

/-- The extensions of a payload type are those that its kind is served with in any one-way
direction. -/
theorem parametersByPayloadType_of_found (he : e.BindingsSound) {payloadType : UInt8} {c : Codec}
    (h : e.codecByPayloadType payloadType = .ok (kind, c)) :
    e.parametersByPayloadType payloadType =
      .ok { extensions := e.bound.serving kind Direction.oneWay, codecs := [c] } := by
  have hused : e.bound.toList.filter (·.2.serves kind Direction.oneWay) =
      e.bound.toList.filter (·.2.kinds.get kind) := by
    refine List.filter_congr fun b hb => ?_
    have hx := Std.ExtTreeMap.mem_toList_iff_getElem?_eq_some.1 hb
    exact HeaderExtension.serves_oneWay (backs_of_bound he _ _ hx).directions
  rw [parametersByPayloadType, h, BindingTable.serving, hused]
  rfl

/-- The extensions of a negotiated kind are those that the table serves it with. -/
theorem extensionsFor_of_negotiated (hk : e.negotiated.hasKind kind = true)
    (wanted : List Direction) : e.extensionsFor kind wanted = e.bound.serving kind wanted := by
  rw [extensionsFor, if_pos hk, bound]
  cases e.negotiated.bindings with
  | none => rfl
  | some t => rfl

/-- A kind that has not been negotiated is served with nothing. -/
theorem serving_bound_of_fresh (he : e.BindingsSound) (hk : e.negotiated.hasKind kind = false)
    (wanted : List Direction) : e.bound.serving kind wanted = [] :=
  bound_induction (P := fun t => t.serving kind wanted = []) rfl fun _ => serving_of_fresh he hk

/-- Looking a URI up is searching the bindings for it. -/
theorem extensionId_eq (e : Engine) (uri : String) :
    e.extensionId uri =
      match e.bound.binding? uri with
      | some (id, x) => (id, x.kinds)
      | none => (0, .both false) := by
  unfold extensionId bound
  cases e.negotiated.bindings <;> rfl

/-- A table serves a kind with a URI under an id exactly if looking the URI up gives the id and says
that it is used for the kind. -/
theorem mem_serving_iff_extensionId (he : e.BindingsSound) {uri : String} {id : Int} :
    (uri, id) ∈ e.bound.serving kind Direction.oneWay ↔
      (e.extensionId uri).1 = id ∧ (e.extensionId uri).2.get kind = true := by
  rw [BindingTable.mem_serving_iff, extensionId_eq]
  constructor
  · rintro ⟨x, hx, rfl, hserves⟩
    rw [HeaderExtension.serves_oneWay (backs_of_bound he _ _ hx).directions] at hserves
    -- the URI is bound to no other id, so the search ends at this entry
    rw [(oneToOne_bound he).binding?_eq_some hx]
    exact ⟨rfl, hserves⟩
  · intro hid
    cases hb : e.bound.binding? uri with
    | none => simp [hb] at hid
    | some binding =>
      obtain ⟨i, x⟩ := binding
      rw [hb] at hid
      obtain ⟨rfl, hflag⟩ := hid
      obtain ⟨huri, hx⟩ := BindingTable.uri_binding? hb
      refine ⟨x, hx, huri, ?_⟩
      rw [HeaderExtension.serves_oneWay (backs_of_bound he _ _ hx).directions]
      exact hflag

end Engine

/-! ## Agreement -/

/-- **Lookups.** In a reachable engine, take a payload type under which a codec of some kind is
found. The parameters of the payload type hold that codec alone. If the kind has been negotiated,
their header extensions are those of the kind for both one-way directions, and a URI is among them
under an id exactly if looking the URI up gives this id and says that it is used for the kind. If
the kind has not been negotiated, there are none. -/
theorem lookups_agree {e : Engine} (he : e.Reachable) {payloadType : UInt8} {kind : MediaKind}
    {c : Codec} (h : e.codecByPayloadType payloadType = .ok (kind, c)) :
    ∃ shown, e.parametersByPayloadType payloadType = .ok { extensions := shown, codecs := [c] } ∧
      (e.negotiated.hasKind kind = true →
        shown = (e.parameters kind [.recvonly, .sendonly]).extensions ∧
        ∀ uri id, (uri, id) ∈ shown ↔
          (e.extensionId uri).1 = id ∧ (e.extensionId uri).2.get kind = true) ∧
      (e.negotiated.hasKind kind = false → shown = []) := by
  have hsound : e.BindingsSound := kept_bindingsSound.reachable bindingsSound_new he
  refine ⟨e.bound.serving kind Direction.oneWay, Engine.parametersByPayloadType_of_found hsound h,
    fun hk => ⟨?_, fun uri id => Engine.mem_serving_iff_extensionId hsound⟩, fun hk => ?_⟩
  · exact (Engine.extensionsFor_of_negotiated hk _).symm
  · exact Engine.serving_bound_of_fresh hsound hk _

namespace Lookup

/-- The audio codec as it is registered and found. -/
def opus (id : StatsId) : Codec := ⟨Mime.opus, 48000, 2, "", [], 111, id⟩

/-- An engine that has negotiated audio alone. One of the extensions it has bound is restricted to a
single direction, and one is registered for video only. -/
def engine : Engine := (Bench.run {} [
  .registerCodec .audio (opus (.given "")),
  .registerExtension "urn:level" .audio [.sendonly],
  .registerExtension "urn:rid" .video [],
  .registerExtension "urn:mid" .audio [],
  .update [{
    media := "audio"
    codecs := [opus (.given "")]
    extensions := [("urn:mid", 20), ("urn:rid", 7), ("urn:level", 1)] }]]).engine

end Lookup

/-- An extension that is restricted to one direction is shown with the codec, and one that is bound
but not used for audio is not. -/
theorem lookups_agree_of_bound_unused :
    Lookup.engine.codecByPayloadType 111 = .ok (.audio, Lookup.opus (.issued 0)) ∧
      Lookup.engine.extensionId "urn:rid" = (7, .both false) ∧
      ∃ shown, Lookup.engine.parametersByPayloadType 111 =
          .ok { extensions := shown, codecs := [Lookup.opus (.issued 0)] } ∧
        shown = (Lookup.engine.parameters .audio [.recvonly, .sendonly]).extensions ∧
        ("urn:level", 1) ∈ shown ∧ ("urn:rid", 7) ∉ shown := by
  have hfound : Lookup.engine.codecByPayloadType 111 = .ok (.audio, Lookup.opus (.issued 0)) := by
    decide +kernel
  have hunused : Lookup.engine.extensionId "urn:rid" = (7, .both false) := by decide +kernel
  have hreachable : Lookup.engine.Reachable := ⟨0, _, rfl⟩
  obtain ⟨shown, hanswer, hnegotiated, -⟩ := lookups_agree hreachable hfound
  obtain ⟨hsame, hlookup⟩ := hnegotiated (by decide +kernel)
  refine ⟨hfound, hunused, shown, hanswer, hsame, ?_, fun hrid => ?_⟩
  · exact (hlookup "urn:level" 1).2 (by decide +kernel)
  have hused := ((hlookup _ _).1 hrid).2
  rw [hunused] at hused
  exact Bool.false_ne_true hused

end MediaNegotiation
