import MediaNegotiation.Proofs.Extensions.Identification

/-!
# Proposals that are accepted

For a kind that has not been negotiated an engine proposes ids of header extensions, taken from what
is registered. A peer that accepts the proposal offers it back in its section of the kind, and from
then on the engine answers from its table of bindings. The two answers are the same. Nothing in the
table stands in the way of the proposal, so all of it is bound; nothing in the table serves the kind
before, so nothing else is answered; and what is bound has the directions it is registered with, so
the table restricts it to the same transceivers.

Results:
* `faithful_run`: bindings keep the directions that extensions are registered with, as long as no
  extension is registered once descriptions are applied.
* `serving_of_fresh`: bindings serve no kind that has not been negotiated.
* `takes_of_mem_extensionsFor`: nothing stands in the way of what is proposed.
* `update_accepts_proposal`: a proposal that is accepted is answered from then on.
-/

namespace MediaNegotiation

/-! ## Faithful engines -/

/-- The bindings of an engine agree with what is registered, and there is a table of them once
anything is. -/
structure Engine.Faithful (e : Engine) : Prop where
  tables : ∀ t, e.negotiated.bindings = some t → t.Faithful e.extensions
  untabled : e.negotiated.bindings = none → e.extensions = []

namespace Engine.Faithful

variable {e f : Engine}

theorem of_frame (he : e.Faithful) (hknown : f.extensions = e.extensions)
    (hneg : f.negotiated = e.negotiated) : f.Faithful := by
  constructor
  · rw [hneg, hknown]
    exact he.tables
  · rw [hneg, hknown]
    exact he.untabled

theorem of_untouched (he : e.Untouched) : e.Faithful := by
  rcases he.bindings with hempty | ⟨hnone, hknown⟩
  · refine ⟨fun t ht => ?_, fun hnone => ?_⟩
    · obtain rfl : ∅ = t := Option.some.inj (hempty.symm.trans ht)
      exact .empty
    · simp [hempty] at hnone
  · exact ⟨fun t ht => by simp [hnone] at ht, fun _ => hknown⟩

end Engine.Faithful

/-- A single change keeps an engine faithful. -/
theorem Change.faithful {e : Engine} {s u : Negotiated} (h : Change e s u)
    (hs : Engine.Faithful { e with negotiated := s }) :
    Engine.Faithful { e with negotiated := u } := by
  cases h with
  | opened => exact ⟨hs.tables, hs.untabled⟩
  | taken => exact ⟨hs.tables, hs.untabled⟩
  | enabled table bound =>
    refine ⟨fun t ht => ?_, fun hnone => by simp at hnone⟩
    obtain rfl := Option.some.inj ht
    exact (hs.tables _ table).insert_addKind bound
  | bound table unbound _ known =>
    refine ⟨fun t ht => ?_, fun hnone => by simp at hnone⟩
    obtain rfl := Option.some.inj ht
    exact (hs.tables _ table).insert_boundFor unbound known _

/-- Every operation except the registration of an extension keeps an engine faithful. -/
theorem faithful_step {b : Bench} {command : Command} (hb : b.engine.Faithful)
    (hc : command.registersExtension = false) : (b.step command).1.engine.Faithful := by
  have hcodec : ∀ {e : Engine} (kind : MediaKind) (c : Codec) (id : StatsId), e.Faithful →
      (e.registerCodec kind c id).1.Faithful := by
    intro e kind c id he
    obtain ⟨hknown, hneg⟩ := e.registerCodec_frame kind c id
    exact he.of_frame hknown hneg
  cases command with
  | registerCodec kind c => exact hcodec kind c _ hb
  | registerDefaults => exact Engine.registerCodecs_keeps hcodec hb b.serial Defaults.codecs
  | registerExtension uri kind directions => simp [Command.registersExtension] at hc
  | registerFeedback kind f => exact hb.of_frame rfl rfl
  | setMulti multi => exact hb.of_frame rfl rfl
  | update d => exact Engine.update_keeps hb Change.faithful d

/-- An engine is faithful if its extensions are registered before any description is applied. -/
theorem faithful_run {serial : Nat} {before after : List Command}
    (hbefore : ∀ command ∈ before, command.isUpdate = false)
    (hafter : ∀ command ∈ after, command.registersExtension = false) :
    (Bench.run { serial } (before ++ after)).engine.Faithful := by
  have hprepared : (Bench.run { serial } before).engine.Prepared := ⟨serial, before, hbefore, rfl⟩
  rw [Bench.run_append]
  exact Engine.run_keeps (.of_untouched hprepared.untouched) fun hmem hnow =>
    faithful_step hnow (hafter _ hmem)

/-! ## Accepting a proposal -/

section

variable {e later : Engine} {kind : MediaKind} {wanted : List Direction} {t : BindingTable}

/-- Bindings serve no kind that has not been negotiated. -/
theorem serving_of_fresh (he : e.BindingsSound) (hk : e.negotiated.hasKind kind = false)
    (ht : e.negotiated.bindings = some t) : t.serving kind wanted = [] := by
  rw [List.eq_nil_iff_forall_not_mem]
  rintro ⟨uri, id⟩ hmem
  obtain ⟨x, hx, -, hserves⟩ := BindingTable.mem_serving_iff.1 hmem
  have hflag : x.kinds.get kind = true := by
    rw [HeaderExtension.serves, Bool.and_eq_true] at hserves
    exact hserves.2
  obtain ⟨registered, -, hflags⟩ := (he.backed t ht id x hx).kinds
  have hnegotiated := (hflags kind hflag).2
  simp [hk] at hnegotiated

/-- Nothing that is bound stands in the way of what is proposed. -/
theorem takes_of_mem_extensionsFor (hk : e.negotiated.hasKind kind = false)
    (ht : e.negotiated.bindings = some t) {offer : String × Int}
    (h : offer ∈ e.extensionsFor kind wanted) : t.Takes offer := by
  rw [Engine.extensionsFor, hk, if_neg Bool.false_ne_true] at h
  obtain ⟨x, hx, huri, -⟩ := BindingTable.mem_serving_iff.1 h
  have hbound : e.bound = t := by simp [Engine.bound, ht]
  have hrespects := e.respects_proposal offer.2 x hx
  rwa [hbound, huri] at hrespects

/-- After a section that offers what was proposed for a kind, the same is answered for it. -/
theorem extensionsFor_of_accepted (he : e.BindingsSound) (hfaithful : e.Faithful)
    (hk : e.negotiated.hasKind kind = false) {codecs : List Codec} {offered : List (String × Int)}
    (hperm : offered.Perm (e.extensionsFor kind wanted))
    (hlater : later.negotiated =
      (bindOffered e.extensions kind (e.negotiated.withCodecs kind codecs) offered).1) :
    later.extensionsFor kind wanted = e.extensionsFor kind wanted := by
  cases ht : e.negotiated.bindings with
  | none =>
    have hnothing : e.extensionsFor kind wanted = [] := by
      rw [List.eq_nil_iff_forall_not_mem]
      rintro ⟨uri, id⟩ hmem
      obtain ⟨registered, hfind, -⟩ := Engine.serves_of_mem_extensionsFor he.toDescribed hk hmem
      simp [hfaithful.untabled ht, HeaderExtension.find?] at hfind
    rw [hnothing, extensionsFor_of_untabled ht hlater]
  | some t =>
    have huris : (offered.map Prod.fst).Nodup :=
      (hperm.map Prod.fst).nodup_iff.2 (Engine.nodup_uris_extensionsFor he)
    have hids : (offered.map Prod.snd).Nodup :=
      (hperm.map Prod.snd).nodup_iff.2 (e.nodup_ids_extensionsFor kind wanted)
    have htakes : ∀ offer ∈ offered, t.Takes offer := fun offer hmem =>
      takes_of_mem_extensionsFor hk ht (hperm.mem_iff.1 hmem)
    refine eq_of_mem_iff (later.pairwise_extensionsFor kind wanted)
      (e.pairwise_extensionsFor kind wanted) fun offer => ?_
    rw [mem_extensionsFor_of_taken ht (hfaithful.tables t ht) htakes huris hids hlater,
      serving_of_fresh he hk ht, hperm.mem_iff]
    constructor
    · rintro (hnil | ⟨hmem, -⟩)
      · simp at hnil
      · exact hmem
    · exact fun hmem =>
        .inr ⟨hmem, Engine.serves_of_mem_extensionsFor he.toDescribed hk hmem⟩

end

/-- **Accepted proposals.** Take an engine whose header extensions were all registered before the
first description was applied, and a kind that it has not negotiated. Let a description with one
section of that kind offer, in any order, the header extensions that the engine answers for the kind
and some directions. If the description is not stopped by a malformed number and one of its codecs
matches, the engine answers the same extensions under the same ids and in the same order. -/
theorem update_accepts_proposal {serial : Nat} {before after : List Command}
    (hbefore : ∀ command ∈ before, command.isUpdate = false)
    (hafter : ∀ command ∈ after, command.registersExtension = false)
    {kind : MediaKind} {wanted : List Direction} {r : RemoteSection} :
    let e := (Bench.run { serial } (before ++ after)).engine
    e.negotiated.hasKind kind = false →
    MediaKind.ofText? r.media = some kind →
    r.extensions.Perm (e.parameters kind wanted).extensions →
    (∀ fault, (e.update [r]).2 ≠ .error (.numeral fault)) →
    (matchCodecs (e.registered.get kind) {} r.codecs).found.best?.isSome →
      ((e.update [r]).1.parameters kind wanted).extensions =
        (e.parameters kind wanted).extensions := by
  intro e hk hkind hperm hread hmatch
  have hsound : e.BindingsSound :=
    kept_bindingsSound.run (b := { serial }) bindingsSound_new (before ++ after)
  have hr : ¬ r.Malformed := by
    intro hmalformed
    obtain ⟨fault, hfault⟩ := (update_fresh_numeral_iff hkind hk).2 hmalformed
    exact hread fault hfault
  obtain ⟨⟨tier, chosen⟩, hbest⟩ := Option.isSome_iff_exists.1 hmatch
  have hlater := update_fresh_matched hkind hk hr hbest
  exact extensionsFor_of_accepted hsound (faithful_run hbefore hafter) hk hperm hlater

namespace Accepted

/-- A codec of each kind, one extension that both kinds share and one for each of them alone. -/
def registrations : List Command := [
  .registerCodec .audio ⟨Mime.opus, 48000, 2, "", [], 111, .given ""⟩,
  .registerCodec .video ⟨Mime.vp8, 90000, 0, "", [], 96, .given ""⟩,
  .registerExtension "urn:rid" .video [.sendonly],
  .registerExtension "urn:mid" .audio [],
  .registerExtension "urn:mid" .video [],
  .registerExtension "urn:level" .audio []]

/-- A peer that negotiates audio alone, under ids of its own choice. -/
def audio : RemoteSection where
  media := "audio"
  codecs := [⟨Mime.opus, 48000, 2, "", [], 63, .given ""⟩]
  extensions := [("urn:mid", 20), ("urn:level", 1)]

/-- A peer that accepts for video what is proposed after that. -/
def video : RemoteSection where
  media := "video"
  codecs := [⟨Mime.vp8, 90000, 0, "", [], 120, .given ""⟩]
  extensions := [("urn:mid", 20), ("urn:rid", 2)]

/-- The engine that has negotiated audio. -/
def engine : Engine := (Bench.run {} (registrations ++ [.update [audio]])).engine

end Accepted

/-- One of the accepted ids was bound for the other kind before, and one is new. -/
theorem update_accepts_proposal_of_bound :
    Accepted.engine.negotiated.hasKind .video = false ∧
      (Accepted.engine.parameters .video [.sendonly]).extensions =
        [("urn:rid", 2), ("urn:mid", 20)] ∧
      ((Accepted.engine.update [Accepted.video]).1.parameters .video [.sendonly]).extensions =
        [("urn:rid", 2), ("urn:mid", 20)] := by
  have hfresh : Accepted.engine.negotiated.hasKind .video = false := by decide +kernel
  have hproposed : (Accepted.engine.parameters .video [.sendonly]).extensions =
      [("urn:rid", 2), ("urn:mid", 20)] := by
    decide +kernel
  have hperm : Accepted.video.extensions.Perm
      (Accepted.engine.parameters .video [.sendonly]).extensions := by
    rw [hproposed]
    decide
  have hread : ∀ fault, (Accepted.engine.update [Accepted.video]).2 ≠ .error (.numeral fault) := by
    rw [update_ne_numeral_iff]
    decide +kernel
  have hmatch : (matchCodecs (Accepted.engine.registered.get .video) {}
      Accepted.video.codecs).found.best?.isSome := by
    decide +kernel
  refine ⟨hfresh, hproposed, ?_⟩
  rw [← hproposed]
  exact @update_accepts_proposal 0 Accepted.registrations [.update [Accepted.audio]] (by decide)
    (by decide) .video [.sendonly] Accepted.video hfresh (MediaKind.ofText?_text .video) hperm hread
    hmatch

end MediaNegotiation
