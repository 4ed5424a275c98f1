import MediaNegotiation.Engine.Basic

/-!
# Registration

What the owner of an engine sets up before negotiation: codecs, header extensions, feedback and the
mode of negotiation. Definitions cite what they model in the module `media_engine`, by name and
lines.

Results:
* `addCodec_eq_error_iff`: a codec is refused exactly when its payload type is bound to a different
  codec.
* `payloadTypes_addCodec`: adding a codec keeps payload types distinct.
-/

namespace MediaNegotiation

/-- Appends a codec to a list in which every payload type is bound once (`add_codec`,
lines 314–328). The same codec again changes nothing, and a different codec on a bound payload type
is refused. -/
def addCodec (codecs : List Codec) (c : Codec) : Except Error (List Codec) :=
  match Codec.find? codecs c.payloadType with
  | some held => if held.sameCodec c then .ok codecs else .error .codecConflict
  | none => .ok (codecs ++ [c])

namespace Engine

/-! ## Codecs -/

/-- Registers a codec for a kind under the stats id that was drawn for it (`register_codec`,
lines 333–343). -/
def registerCodec (e : Engine) (kind : MediaKind) (c : Codec) (id : StatsId) :
    Engine × Except Error Unit :=
  match addCodec (e.registered.get kind) { c with statsId := id } with
  | .ok codecs => ({ e with registered := e.registered.set kind codecs }, .ok ())
  | .error err => (e, .error err)

/-- Registers codecs in order up to the first one that is refused (`register_default_codecs`,
lines 200–307). Their stats ids carry the serial numbers from `serial` on. -/
def registerCodecs (e : Engine) (serial : Nat) :
    List (MediaKind × Codec) → Engine × Except Error Unit
  | [] => (e, .ok ())
  | (kind, c) :: rest =>
    match e.registerCodec kind c (.issued serial) with
    | (next, .ok ()) => next.registerCodecs (serial + 1) rest
    | (next, .error err) => (next, .error err)

/-- Adds a feedback mechanism to the codecs of a kind that are registered so far
(`register_feedback`, lines 400–408). -/
def registerFeedback (e : Engine) (kind : MediaKind) (f : Feedback) : Engine :=
  let extend (c : Codec) : Codec := { c with feedback := c.feedback ++ [f] }
  { e with registered := e.registered.modify kind (·.map extend) }

/-! ## Header extensions and mode -/

/-- The directions that an extension is restricted to; an empty list means both one-way ones
(`register_header_extension`, lines 357–364). -/
def allowedDirections (directions : List Direction) : List Direction :=
  if directions.isEmpty then [.recvonly, .sendonly] else directions

/-- Registers a header extension for a kind (`register_header_extension`, lines 351–397). Only
one-way directions are accepted, and the first registration opens the table of bindings. -/
def registerExtension (e : Engine) (uri : String) (kind : MediaKind)
    (directions : List Direction) : Engine × Except Error Unit :=
  let allowed := allowedDirections directions
  if allowed.all Direction.isOneWay then
    ({ e with
        extensions := HeaderExtension.enable uri kind allowed e.extensions
        negotiated.bindings := some (e.negotiated.bindings.getD ∅) }, .ok ())
  else (e, .error .invalidExtensionDirection)

/-- Lets later media sections of a kind add codecs, or stops them (`set_multi_codec_negotiation`,
lines 412–414). -/
def setMulti (e : Engine) (multi : Bool) : Engine := { e with multi }

end Engine

/-! ## Laws -/

theorem addCodec_eq_error_iff {codecs : List Codec} {c : Codec} {err : Error} :
    addCodec codecs c = .error err ↔
      err = .codecConflict ∧
        ∃ held, Codec.find? codecs c.payloadType = some held ∧ held.sameCodec c = false := by
  unfold addCodec
  cases h : Codec.find? codecs c.payloadType with
  | none => simp
  | some held =>
    by_cases hs : held.sameCodec c
    · simp [hs]
    · simpa [hs] using eq_comm

/-- Adding a codec keeps payload types distinct. -/
theorem payloadTypes_addCodec {codecs result : List Codec} {c : Codec}
    (hd : (codecs.map (·.payloadType)).Nodup) (h : addCodec codecs c = .ok result) :
    (result.map (·.payloadType)).Nodup := by
  unfold addCodec at h
  split at h
  · split at h
    · cases h; exact hd
    · simp at h
  · rename_i hn
    cases h
    simp only [List.map_append, List.map_cons, List.map_nil]
    rw [List.nodup_append]
    refine ⟨hd, by simp, ?_⟩
    intro a ha b hb e
    simp only [List.mem_singleton] at hb
    obtain ⟨x, hx, rfl⟩ := List.mem_map.1 ha
    have := List.find?_eq_none.1 hn x hx
    simp [e, hb] at this

end MediaNegotiation
