import MediaNegotiation.Engine.Views
import MediaNegotiation.Proofs.Extensions.Offers

/-!
# One id for each extension

An engine answers with ids of header extensions in several views, and takes them from two tables:
from the bindings once a kind has been negotiated, and from a proposal before that. Both kinds are
served from the same bindings and the same proposal, and a proposal repeats what is bound and takes
no other id that is. So in one state of an engine an id stands for the same URI in every view, and a
URI has the same id in every view.

Results:
* `respects_proposal`: the ids that are proposed respect the bindings.
* `Assigns.uri_eq_iff`: bindings and proposal assign ids one-to-one.
* `Shows.assigns`: every view shows ids that are bound or proposed.
* `shows_one_to_one_run`: all views together show ids one-to-one after any sequence of operations.
-/

namespace MediaNegotiation

/-! ## Proposals -/

/-- A proposal respects the bindings: it offers each extension under the id it is bound to, and one
that is not bound under an id that is not bound either. -/
def Proposal.Respects (p : Proposal) (bound : BindingTable) : Prop :=
  ∀ (id : Int) (x : HeaderExtension), p.table[id]? = some x →
    (∃ y, bound.binding? x.uri = some (id, y)) ∨
      (bound.binding? x.uri = none ∧ bound[id]? = none)

/-- Adding an extension to a proposal keeps it in respect of the bindings. -/
theorem Proposal.Respects.add {bound : BindingTable} {p : Proposal} (hp : p.Respects bound)
    (x : HeaderExtension) : (p.add bound x).Respects bound := by
  intro id z hz
  unfold Proposal.add at hz
  cases hb : bound.binding? x.uri with
  | some binding =>
    obtain ⟨held, y⟩ := binding
    simp only [hb] at hz
    rcases BindingTable.getElem?_insert_eq_some_iff.1 hz with ⟨rfl, rfl⟩ | ⟨-, hold⟩
    · exact .inl ⟨y, hb⟩
    · exact hp id z hold
  | none =>
    simp only [hb] at hz
    cases hfree : freeId? bound p.table with
    | none =>
      simp only [hfree] at hz
      exact hp id z hz
    | some free =>
      simp only [hfree] at hz
      rcases BindingTable.getElem?_insert_eq_some_iff.1 hz with ⟨rfl, rfl⟩ | ⟨-, hold⟩
      · obtain ⟨-, -, hunbound, -⟩ := freeId?_eq_some hfree
        exact .inr ⟨hb, Std.ExtTreeMap.getElem?_eq_none hunbound⟩
      · exact hp id z hold

theorem Proposal.Respects.foldl_add {bound : BindingTable} {p : Proposal} (hp : p.Respects bound)
    (known : List HeaderExtension) : (known.foldl (Proposal.add bound) p).Respects bound := by
  induction known generalizing p with
  | nil => exact hp
  | cons x rest ih => exact ih (hp.add x)

namespace Engine

variable {e : Engine} {uri v : String} {id i : Int}

/-- The bindings of an engine, of which there are none before an extension has been registered. -/
def bound (e : Engine) : BindingTable := e.negotiated.bindings.getD ∅

/-- What holds of the empty table and of the table that an engine has holds of its bindings. -/
theorem bound_induction {P : BindingTable → Prop} (empty : P ∅)
    (table : ∀ t, e.negotiated.bindings = some t → P t) : P e.bound := by
  unfold bound
  cases ht : e.negotiated.bindings with
  | none => exact empty
  | some t => exact table t ht

/-- The ids that an engine proposes respect its bindings. -/
theorem respects_proposal (e : Engine) : e.proposal.Respects e.bound :=
  Proposal.Respects.foldl_add (p := {}) (fun _ _ hx => by simp at hx) e.extensions

theorem oneToOne_bound (he : e.BindingsSound) : e.bound.OneToOne :=
  bound_induction (by simp [BindingTable.OneToOne]) he.oneToOne

/-! ## Assigned ids -/

/-- An id is assigned to a URI when it is bound to it or proposed for it. -/
inductive Assigns (e : Engine) : String → Int → Prop
  | bound {id : Int} {x : HeaderExtension} (h : e.bound[id]? = some x) : Assigns e x.uri id
  | proposed {id : Int} {x : HeaderExtension} (h : e.proposal.table[id]? = some x) :
    Assigns e x.uri id

/-- A binding and a proposal have the same URI exactly when they have the same id. -/
theorem uri_bound_eq_uri_proposed_iff (he : e.BindingsSound) {x y : HeaderExtension}
    (hx : e.bound[id]? = some x) (hy : e.proposal.table[i]? = some y) : x.uri = y.uri ↔ id = i := by
  have hfound := (oneToOne_bound he).binding?_eq_some hx
  rcases e.respects_proposal i y hy with ⟨z, hz⟩ | ⟨hunbound, hfree⟩
  · -- the proposal repeats a binding
    obtain ⟨huri, hget⟩ := BindingTable.uri_binding? hz
    constructor
    · intro heq
      rw [heq, hz] at hfound
      obtain ⟨hid, -⟩ : id = i ∧ x = z := by simpa using hfound.symm
      exact hid
    · rintro rfl
      obtain rfl : z = x := by simpa [hget] using hx
      exact huri
  · -- the proposal is of an extension and an id that are not bound
    constructor
    · intro heq
      simp [heq, hunbound] at hfound
    · rintro rfl
      simp [hfree] at hx

/-- Bindings and proposal together assign ids one-to-one. -/
theorem Assigns.uri_eq_iff (he : e.BindingsSound) (h : e.Assigns uri id) (h' : e.Assigns v i) :
    uri = v ↔ id = i := by
  cases h with
  | @bound _ x hx =>
    cases h' with
    | @bound _ y hy =>
      refine ⟨oneToOne_bound he id i x y hx hy, ?_⟩
      rintro rfl
      obtain rfl : x = y := by simpa [hx] using hy
      rfl
    | @proposed _ y hy => exact uri_bound_eq_uri_proposed_iff he hx hy
  | @proposed _ x hx =>
    cases h' with
    | @bound _ y hy =>
      have hcross := uri_bound_eq_uri_proposed_iff he hy hx
      rw [eq_comm, hcross, eq_comm]
    | @proposed _ y hy =>
      refine ⟨oneToOne_proposal he.toDescribed id i x y hx hy, ?_⟩
      rintro rfl
      obtain rfl : x = y := by simpa [hx] using hy
      rfl

/-! ## Views -/

/-- A pair of URI and id is shown by one of the views of an engine: among the parameters of a kind,
among those of a payload type, or as the id of a bound URI. -/
inductive Shows (e : Engine) : String × Int → Prop
  | ofKind (kind : MediaKind) (wanted : List Direction) {pair : String × Int}
      (h : pair ∈ (e.parameters kind wanted).extensions) : Shows e pair
  | ofPayloadType {payloadType : UInt8} {parameters : RtpParameters} {pair : String × Int}
      (answer : e.parametersByPayloadType payloadType = .ok parameters)
      (h : pair ∈ parameters.extensions) : Shows e pair
  | ofUri {t : BindingTable} {id : Int} {x : HeaderExtension}
      (table : e.negotiated.bindings = some t) (h : t[id]? = some x) :
      Shows e (x.uri, (e.extensionId x.uri).1)

theorem assigns_of_mem_extensionsFor {kind : MediaKind} {wanted : List Direction}
    (h : (uri, id) ∈ e.extensionsFor kind wanted) : e.Assigns uri id := by
  unfold extensionsFor at h
  split at h
  · split at h
    · rename_i t ht
      obtain ⟨x, hx, rfl, -⟩ := BindingTable.mem_serving_iff.1 h
      exact .bound (by simpa [Engine.bound, ht] using hx)
    · simp at h
  · obtain ⟨x, hx, rfl, -⟩ := BindingTable.mem_serving_iff.1 h
    exact .proposed hx

theorem assigns_of_mem_parametersByPayloadType {payloadType : UInt8} {parameters : RtpParameters}
    (answer : e.parametersByPayloadType payloadType = .ok parameters)
    (h : (uri, id) ∈ parameters.extensions) : e.Assigns uri id := by
  unfold parametersByPayloadType at answer
  split at answer
  · simp at answer
  · rw [Except.ok.injEq] at answer
    subst answer
    obtain ⟨⟨i, x⟩, hmem, heq⟩ := List.mem_map.1 h
    obtain ⟨rfl, rfl⟩ : x.uri = uri ∧ i = id := by simpa using heq
    exact .bound (Std.ExtTreeMap.mem_toList_iff_getElem?_eq_some.1 (List.mem_filter.1 hmem).1)

theorem assigns_extensionId (he : e.BindingsSound) {t : BindingTable}
    (ht : e.negotiated.bindings = some t) {x : HeaderExtension} (hx : t[id]? = some x) :
    e.Assigns x.uri (e.extensionId x.uri).1 := by
  have hfound := (he.oneToOne t ht).binding?_eq_some hx
  have hid : e.extensionId x.uri = (id, x.kinds) := by simp [extensionId, ht, hfound]
  rw [hid]
  exact .bound (by simpa [Engine.bound, ht] using hx)

/-- Every view shows ids that are bound or proposed. -/
theorem Shows.assigns (he : e.BindingsSound) {pair : String × Int} (h : e.Shows pair) :
    e.Assigns pair.1 pair.2 := by
  cases h with
  | ofKind kind wanted h => exact assigns_of_mem_extensionsFor h
  | ofPayloadType answer h => exact assigns_of_mem_parametersByPayloadType answer h
  | ofUri table h => exact assigns_extensionId he table h

end Engine

/-- **One id for each extension.** After any sequence of operations on a new engine, take all pairs
of URI and id that its views show in that state, for both kinds, for all directions, for all payload
types and for all bound URIs. Two of them have the same URI exactly when they have the same id. -/
theorem shows_one_to_one_run (serial : Nat) (commands : List Command) {first second : String × Int}
    (hfirst : (Bench.run { serial } commands).engine.Shows first)
    (hsecond : (Bench.run { serial } commands).engine.Shows second) :
    first.1 = second.1 ↔ first.2 = second.2 := by
  have hsound : (Bench.run { serial } commands).engine.BindingsSound :=
    kept_bindingsSound.run (b := { serial }) bindingsSound_new commands
  exact Engine.Assigns.uri_eq_iff hsound (hfirst.assigns hsound) (hsecond.assigns hsound)

namespace HalfNegotiated

/-- Audio has been negotiated with a peer that binds one extension for both kinds to an id out of
the range of proposals and another one to the lowest id; video has not been negotiated. -/
def commands : List Command := [
  .registerCodec .audio ⟨Mime.opus, 48000, 2, "", [], 111, .given ""⟩,
  .registerExtension "urn:rid" .video [],
  .registerExtension "urn:mid" .audio [],
  .registerExtension "urn:mid" .video [],
  .registerExtension "urn:level" .audio [],
  .update [{
    media := "audio"
    codecs := [⟨Mime.opus, 48000, 2, "", [], 63, .given ""⟩]
    extensions := [("urn:mid", 20), ("urn:level", 1)] }]]

end HalfNegotiated

/-- What is proposed for a kind stays clear of what is bound for the other one. -/
theorem shows_one_to_one_of_half_negotiated :
    (Bench.run {} HalfNegotiated.commands).engine.extensionsFor .video [.sendonly] =
        [("urn:rid", 2), ("urn:mid", 20)] ∧
      (Bench.run {} HalfNegotiated.commands).engine.parametersByPayloadType 111 =
        .ok { extensions := [("urn:level", 1), ("urn:mid", 20)]
              codecs := [⟨Mime.opus, 48000, 2, "", [], 111, .issued 0⟩] } ∧
      ("urn:rid" = "urn:level" ↔ (2 : Int) = 1) := by
  have hproposed : (Bench.run {} HalfNegotiated.commands).engine.extensionsFor .video [.sendonly] =
      [("urn:rid", 2), ("urn:mid", 20)] := by
    decide +kernel
  have hbound : (Bench.run {} HalfNegotiated.commands).engine.parametersByPayloadType 111 =
      .ok { extensions := [("urn:level", 1), ("urn:mid", 20)]
            codecs := [⟨Mime.opus, 48000, 2, "", [], 111, .issued 0⟩] } := by
    decide +kernel
  refine ⟨hproposed, hbound, ?_⟩
  exact @shows_one_to_one_run 0 HalfNegotiated.commands ("urn:rid", 2) ("urn:level", 1)
    (.ofKind .video [.sendonly] (by simp [Engine.parameters, hproposed]))
    (.ofPayloadType hbound (by simp))

end MediaNegotiation
