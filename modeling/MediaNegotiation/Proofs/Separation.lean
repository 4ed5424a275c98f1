import MediaNegotiation.Proofs.Extensions.Registry
import MediaNegotiation.Proofs.Negotiation.Growth
import MediaNegotiation.Proofs.Negotiation.Independence

/-!
# Registration and negotiation are apart

An engine has two halves. Registration works on the one and leaves everything that has been
negotiated alone, except that the first extension opens the table of bindings. Updates work on the
other and leave everything that has been registered alone, and as long as later sections may not add
codecs they leave the codecs of negotiated kinds alone as well. Whatever the operations are, what
has been negotiated only grows.

Results:
* `keptByRegistration_opensTo`: what registration leaves of the negotiated half.
* `codecs_applySections_closed`: codecs of negotiated kinds, where later sections may not add any.
* `Engine.Renegotiates.update`: what an update leaves of the registered half.
* `separation_run`: both halves through any sequence of operations.
-/

namespace MediaNegotiation

/-! ## Registration -/

/-- The second state is the first one, or differs from it in a table of bindings that has been
opened and is still empty. -/
def Negotiated.OpensTo (s u : Negotiated) : Prop :=
  u = s ∨ (s.bindings = none ∧ u = s.withBindings ∅)

namespace Negotiated.OpensTo

variable {s u : Negotiated}

theorem codecs (h : s.OpensTo u) : u.codecs = s.codecs := by
  rcases h with rfl | ⟨-, rfl⟩ <;> rfl

theorem bindings (h : s.OpensTo u) :
    u.bindings = s.bindings ∨ (s.bindings = none ∧ u.bindings = some ∅) := by
  rcases h with rfl | ⟨hnone, rfl⟩
  · exact .inl rfl
  · exact .inr ⟨hnone, rfl⟩

/-- Opening the table once more changes nothing. -/
theorem opened (h : s.OpensTo u) : s.OpensTo (u.withBindings (u.bindings.getD ∅)) := by
  rcases h with rfl | ⟨hnone, rfl⟩
  · cases hb : u.bindings with
    | none => exact .inr ⟨hb, rfl⟩
    | some t => exact .inl (u.withBindings_eq_self t hb)
  · exact .inr ⟨hnone, rfl⟩

end Negotiated.OpensTo

/-- Registration leaves what has been negotiated alone, apart from opening the table of bindings. -/
theorem keptByRegistration_opensTo (s : Negotiated) :
    Engine.KeptByRegistration fun e => s.OpensTo e.negotiated where
  registerCodec {e} kind c id he := (e.registerCodec_frame kind c id).2 ▸ he
  registerExtension {e} uri kind directions he := by
    by_cases hall : (Engine.allowedDirections directions).all Direction.isOneWay = true
    · rw [Engine.registerExtension_accepted hall]
      exact he.opened
    · rw [Engine.registerExtension_refused hall]
      exact he
  registerFeedback _ _ he := he
  setMulti _ he := he

/-! ## Negotiation -/

section

variable {e : Engine} {s : Negotiated} {kind : MediaKind} {codecs : List Codec}

/-- Where later sections may not add codecs, a section leaves those of negotiated kinds alone. -/
theorem codecs_applySection_closed (hm : e.multi = false) (hs : s.codecs.get kind = some codecs)
    (r : RemoteSection) : (applySection e s r).negotiated.codecs.get kind = some codecs := by
  by_cases hkind : MediaKind.ofText? r.media = some kind
  · have hk : s.hasKind kind = true := by simp [Negotiated.hasKind, hs]
    -- of another section of the kind only the header extensions are read
    rw [applySection_closed hkind hk hm, codecs_bindOffered, hs]
  · rw [codecs_applySection_other hkind, hs]

theorem codecs_applySections_closed (hm : e.multi = false)
    (hs : s.codecs.get kind = some codecs) (d : RemoteDescription) :
    (applySections e s d).negotiated.codecs.get kind = some codecs :=
  applySections_keeps (P := fun t => t.codecs.get kind = some codecs) hs
    fun r _ _ ht => codecs_applySection_closed hm ht r

end

/-- The second engine has the same codecs, extensions and mode registered as the first one. If its
mode does not let later sections add codecs, it has the same codecs of every kind that the first one
has negotiated. -/
structure Engine.Renegotiates (e f : Engine) : Prop where
  registered : f.registered = e.registered
  extensions : f.extensions = e.extensions
  multi : f.multi = e.multi
  closed : e.multi = false → ∀ kind codecs, e.negotiated.codecs.get kind = some codecs →
    f.negotiated.codecs.get kind = some codecs

namespace Engine.Renegotiates

variable {e f : Engine}

theorem refl (e : Engine) : e.Renegotiates e := ⟨rfl, rfl, rfl, fun _ _ _ h => h⟩

/-- An update leaves what has been registered alone. -/
theorem update (h : e.Renegotiates f) (d : RemoteDescription) : e.Renegotiates (f.update d).1 where
  registered := h.registered
  extensions := h.extensions
  multi := h.multi
  closed hm kind codecs hcodecs :=
    codecs_applySections_closed (h.multi.trans hm) (h.closed hm kind codecs hcodecs) d

theorem codecsOf (h : e.Renegotiates f) (hm : e.multi = false) {kind : MediaKind}
    (hk : e.negotiated.hasKind kind = true) :
    f.negotiated.codecsOf kind = e.negotiated.codecsOf kind :=
  f.negotiated.codecsOf_of_get kind _ (h.closed hm kind _ (e.negotiated.get_of_hasKind kind hk))

/-- Any number of updates leave what has been registered alone. -/
theorem run {b : Bench} {commands : List Command}
    (hc : ∀ command ∈ commands, command.isUpdate = true) :
    b.engine.Renegotiates (b.run commands).engine := by
  refine run_keeps (refl b.engine) fun {now command} hmem hnow => ?_
  cases command with
  | update d => exact hnow.update d
  | _ => simpa [Command.isUpdate] using hc _ hmem

end Engine.Renegotiates

/-! ## Histories -/

/-- **Separation.** Let an engine go through any operations, be it one or many, failing ones
included. A kind that has been negotiated stays negotiated, and the codecs negotiated for a kind
stay in front of those negotiated later. If the operations register only, no kind is negotiated, no
negotiated codec changes, and neither does the table of bindings, unless there was none and it is
now empty. If they apply descriptions only, the registered codecs, the registered extensions and the
mode stay the same, and if the mode does not let later sections add codecs, so do the codecs of
every kind that was negotiated before. -/
theorem separation_run (b : Bench) (commands : List Command) :
    let before := b.engine
    let after := (b.run commands).engine
    (∀ kind, (before.negotiated.hasKind kind = true → after.negotiated.hasKind kind = true) ∧
        before.negotiated.codecsOf kind <+: after.negotiated.codecsOf kind) ∧
      ((∀ command ∈ commands, command.isUpdate = false) →
        after.negotiated.codecs = before.negotiated.codecs ∧
        (after.negotiated.bindings = before.negotiated.bindings ∨
          (before.negotiated.bindings = none ∧ after.negotiated.bindings = some ∅))) ∧
      ((∀ command ∈ commands, command.isUpdate = true) →
        after.registered = before.registered ∧ after.extensions = before.extensions ∧
        after.multi = before.multi ∧
        (before.multi = false → ∀ kind, before.negotiated.hasKind kind = true →
          after.negotiated.codecsOf kind = before.negotiated.codecsOf kind)) := by
  intro before after
  have hgrows : before.negotiated.GrowsTo after.negotiated := growsTo_run b commands
  refine ⟨fun kind => ⟨hgrows.hasKind, hgrows.codecsOf kind⟩, fun hc => ?_, fun hc => ?_⟩
  · have hopens : before.negotiated.OpensTo after.negotiated :=
      (keptByRegistration_opensTo before.negotiated).run (.inl rfl) hc
    exact ⟨hopens.codecs, hopens.bindings⟩
  · have hsame : before.Renegotiates after := .run hc
    exact ⟨hsame.registered, hsame.extensions, hsame.multi, fun hm _ hk => hsame.codecsOf hm hk⟩

end MediaNegotiation
