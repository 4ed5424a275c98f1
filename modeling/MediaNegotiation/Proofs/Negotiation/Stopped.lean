import MediaNegotiation.Engine.Views
import MediaNegotiation.Proofs.Extensions.Settled

/-!
# Stopped descriptions

A malformed codec stops a description in the middle, and what came before it is not taken back. The
engine is then as it was only if everything before the malformed codec found nothing to change. That
takes an engine that lets later sections add codecs, and sections that merely repeat what has been
negotiated.

Results:
* `applySection_repeats_iff`, `applySections_repeats_iff`: sections change nothing exactly when
  they repeat what is negotiated.
* `applySection_stopped_eq_self_iff`: when a section that stops the description changes nothing.
* `update_stopped_eq_self_iff`: the exact condition under which a stopped update leaves the engine
  as it was.
* `update_stopped_hides_registered`: an update that is stopped can leave a kind without codecs.
-/

namespace MediaNegotiation

/-! ## Sections that repeat what is negotiated -/

/-- Every header extension that a section offers is settled. -/
def Negotiated.SettlesExtensions (s : Negotiated) (e : Engine) (kind : MediaKind)
    (r : RemoteSection) : Prop :=
  ∀ t, s.bindings = some t → ∀ offer ∈ r.extensions, t.Settles e.extensions kind offer

/-- Every codec that would be taken over from a section has a payload type that is negotiated. -/
def Negotiated.HoldsMatches (s : Negotiated) (e : Engine) (kind : MediaKind)
    (r : RemoteSection) : Prop :=
  ∀ tier chosen,
    (matchCodecs (e.registered.get kind) {} r.codecs).found.best? = some (tier, chosen) →
    ∀ m ∈ chosen, (Codec.find? (s.codecsOf kind) m.entry.payloadType).isSome

/-- An audio or video section that repeats what is negotiated: its kind is, its header extensions
are settled, and if codecs can be added, it has none to add. -/
def Negotiated.Repeats (s : Negotiated) (e : Engine) (r : RemoteSection) : Prop :=
  ∀ kind, MediaKind.ofText? r.media = some kind →
    s.hasKind kind = true ∧ s.SettlesExtensions e kind r ∧
      (e.multi = true → s.HoldsMatches e kind r)

section

variable {e : Engine} {s : Negotiated}

/-- A section that is not malformed has its codecs taken without effect exactly when its matches
are held and, if there are any, its extensions are settled. -/
theorem takeCodecs_eq_self_iff {kind : MediaKind} {r : RemoteSection} (hk : s.hasKind kind = true)
    (hr : ¬ r.Malformed) (hsettled : s.SettlesExtensions e kind r) :
    (takeCodecs e kind s r).negotiated = s ↔ s.HoldsMatches e kind r := by
  unfold Negotiated.HoldsMatches
  cases hbest : (matchCodecs (e.registered.get kind) {} r.codecs).found.best? with
  | none => simp [takeCodecs_unmatched hbest]
  | some best =>
    obtain ⟨tier, chosen⟩ := best
    have hheld := s.get_of_hasKind kind hk
    rw [takeCodecs_matched hr hbest]
    constructor
    · intro h tier' chosen' hsome
      obtain ⟨-, rfl⟩ : tier = tier' ∧ chosen = chosen' := by simpa using hsome
      rw [← commit_eq_self_iff]
      have hcodecs := congrArg (fun u => u.codecsOf kind) h
      simpa [codecsOf_bindOffered, Negotiated.codecsOf_withCodecs] using hcodecs
    · intro h
      have hsame : s.withCodecs kind (commit (s.codecsOf kind) chosen).1 = s := by
        rw [commit_eq_self_iff.2 (h tier chosen rfl), s.withCodecs_eq_self kind _ hheld]
      rw [hsame]
      exact bindOffered_eq_self_iff.2 hsettled

/-- A section changes nothing exactly when it repeats what is negotiated. -/
theorem applySection_repeats_iff {r : RemoteSection} (hr : (applySection e s r).fault = none) :
    (applySection e s r).negotiated = s ↔ s.Repeats e r := by
  unfold Negotiated.Repeats
  cases h : MediaKind.ofText? r.media with
  | none => simp [applySection_skipped h]
  | some kind =>
    simp only [Option.some.injEq, forall_eq']
    cases hk : s.hasKind kind with
    | false =>
      simp only [Bool.false_eq_true, false_and, iff_false]
      intro hself
      have hlater : (applySection e s r).negotiated.hasKind kind = true := by
        rw [applySection_fresh h hk]
        exact (changes_takeCodecs (by simp) r).hasKind (by simp)
      rw [hself, hk] at hlater
      simp at hlater
    | true =>
      have hbound := (changes_bindOffered (e := e) hk r.extensions).growsTo
      cases hm : e.multi with
      | false =>
        rw [applySection_closed h hk hm]
        simp [bindOffered_eq_self_iff, Negotiated.SettlesExtensions]
      | true =>
        rw [applySection_again h hk hm] at hr ⊢
        have hwell : ¬ r.Malformed := not_malformed_of_takeCodecs hr
        simp only [true_and, forall_const, Outcome.logged_negotiated]
        constructor
        · intro hself
          have htake := (changes_takeCodecs (hbound.hasKind hk) r).growsTo (e := e)
          rw [hself] at htake
          have hsame := htake.antisymm hbound
          have hsettled : s.SettlesExtensions e kind r := bindOffered_eq_self_iff.1 hsame
          rw [hsame] at hself
          exact ⟨hsettled, (takeCodecs_eq_self_iff hk hwell hsettled).1 hself⟩
        · rintro ⟨hsettled, hmatches⟩
          rw [bindOffered_eq_self_iff.2 hsettled]
          exact (takeCodecs_eq_self_iff hk hwell hsettled).2 hmatches

/-- Sections that do not stop the description change nothing exactly when each of them repeats what
is negotiated, because no section takes back what an earlier one did. -/
theorem applySections_repeats_iff {d : RemoteDescription}
    (hd : (applySections e s d).fault = none) :
    (applySections e s d).negotiated = s ↔ ∀ r ∈ d, s.Repeats e r := by
  induction d with
  | nil => simp [applySections]
  | cons r rest ih =>
    have hr : (applySection e s r).fault = none := applySection_fault_of_cons hd
    rw [applySections_cons hr, Outcome.andThen_fault] at hd
    rw [applySections_cons hr, Outcome.andThen_negotiated, List.forall_mem_cons,
      ← applySection_repeats_iff hr]
    constructor
    · intro hself
      have hback := growsTo_applySections e (applySection e s r).negotiated rest
      rw [hself] at hback
      have hfirst := hback.antisymm (changes_applySection e s r).growsTo
      rw [hfirst] at hd hself
      exact ⟨hfirst, (ih hd).1 hself⟩
    · rintro ⟨hfirst, hrest⟩
      rw [hfirst] at hd ⊢
      exact (ih hd).2 hrest

/-! ## Sections that stop a description -/

/-- A section that stops the description changes nothing exactly when its kind is negotiated
already and its header extensions are settled. -/
theorem applySection_stopped_eq_self_iff {r : RemoteSection}
    (hr : (applySection e s r).fault.isSome) :
    (applySection e s r).negotiated = s ↔
      ∃ kind, MediaKind.ofText? r.media = some kind ∧ s.hasKind kind = true ∧
        s.SettlesExtensions e kind r := by
  obtain ⟨hmalformed, kind, h, hlooked⟩ := applySection_fault_isSome_iff.1 hr
  simp only [h, Option.some.injEq, exists_eq_left']
  cases hk : s.hasKind kind with
  | false =>
    simp only [Bool.false_eq_true, false_and, iff_false]
    rw [applySection_fresh h hk, Outcome.logged_negotiated, takeCodecs_malformed hmalformed]
    intro hself
    have hopened := s.hasKind_withCodecs_same kind []
    rw [hself, hk] at hopened
    exact Bool.false_ne_true hopened
  | true =>
    rw [applySection_again h hk (hlooked hk), Outcome.logged_negotiated,
      takeCodecs_malformed hmalformed, bindOffered_eq_self_iff]
    simp [Negotiated.SettlesExtensions]

/-- What repeats the negotiated state leaves it as it is even where it stops the description. -/
theorem applySection_of_repeats {r : RemoteSection} (h : s.Repeats e r) :
    (applySection e s r).negotiated = s := by
  by_cases hr : (applySection e s r).fault.isSome
  · obtain ⟨-, kind, hkind, -⟩ := applySection_fault_isSome_iff.1 hr
    obtain ⟨hk, hsettled, -⟩ := h kind hkind
    exact (applySection_stopped_eq_self_iff hr).2 ⟨kind, hkind, hk, hsettled⟩
  · exact (applySection_repeats_iff (Option.not_isSome_iff_eq_none.1 hr)).2 h

/-- Sections that repeat what is negotiated leave the state as it is, and so does a section behind
them that stops the description without changing it. -/
theorem applySections_of_repeats {done : List RemoteSection} {r : RemoteSection}
    (hdone : ∀ b ∈ done, s.Repeats e b) (hstop : (applySection e s r).fault.isSome)
    (hr : (applySection e s r).negotiated = s) (rest : List RemoteSection) :
    (applySections e s (done ++ r :: rest)).negotiated = s := by
  induction done with
  | nil => rw [List.nil_append, applySections_cons_stopped hstop, hr]
  | cons b more ih =>
    rw [List.forall_mem_cons] at hdone
    have hb := applySection_of_repeats hdone.1
    rw [List.cons_append]
    by_cases hfault : (applySection e s b).fault.isSome
    · rw [applySections_cons_stopped hfault, hb]
    · rw [applySections_cons (Option.not_isSome_iff_eq_none.1 hfault), Outcome.andThen_negotiated,
        hb, ih hdone.2]

end

/-! ## Updates that are stopped -/

/-- **Stopped updates.** An update that a malformed codec stops leaves the engine as it was exactly
when later sections may add codecs, all sections before the malformed one repeat what is negotiated,
and the malformed one is of a negotiated kind and offers settled header extensions only. In every
other case part of the description stays applied. -/
theorem update_stopped_eq_self_iff {e : Engine} {d : RemoteDescription} {fault : NumeralFault}
    (h : (e.update d).2 = .error (.numeral fault)) :
    (e.update d).1 = e ↔ e.multi = true ∧
      ∃ done r rest kind, d = done ++ r :: rest ∧ (∀ b ∈ done, e.negotiated.Repeats e b) ∧
        r.Malformed ∧ MediaKind.ofText? r.media = some kind ∧ e.negotiated.hasKind kind = true ∧
        e.negotiated.SettlesExtensions e kind r := by
  rw [update_eq_self_iff]
  constructor
  · intro hsame
    have hstop : (applySections e e.negotiated d).fault.isSome := by
      rw [update_eq_numeral_iff.1 h]
      rfl
    obtain ⟨done, r, rest, hd, hdone, hr, hleft⟩ := applySections_stopped hstop
    -- what follows the sections that were done grows back to the state they started from
    have hgrown := growsTo_applySections e e.negotiated done
    have hback := (changes_applySection e (applySections e e.negotiated done).negotiated r).growsTo
    rw [← hleft, hsame] at hback
    have hkept := hback.antisymm hgrown
    rw [hkept] at hr hleft
    rw [hsame] at hleft
    obtain ⟨kind, hkind, hk, hsettled⟩ := (applySection_stopped_eq_self_iff hr).1 hleft.symm
    obtain ⟨hmalformed, kind', hkind', hlooked⟩ := applySection_fault_isSome_iff.1 hr
    obtain rfl : kind = kind' := by simpa [hkind] using hkind'
    exact ⟨hlooked hk, done, r, rest, kind, hd, (applySections_repeats_iff hdone).1 hkept,
      hmalformed, hkind, hk, hsettled⟩
  · rintro ⟨hm, done, r, rest, kind, rfl, hdone, hmalformed, hkind, hk, hsettled⟩
    have hstop : (applySection e e.negotiated r).fault.isSome :=
      applySection_fault_isSome_iff.2 ⟨hmalformed, kind, hkind, fun _ => hm⟩
    exact applySections_of_repeats hdone hstop
      ((applySection_stopped_eq_self_iff hstop).2 ⟨kind, hkind, hk, hsettled⟩) rest

/-! ## An engine that loses its codecs -/

namespace Stopped

/-- A video codec. -/
def vp8 : Codec := ⟨Mime.vp8, 90000, 0, "", [], 96, .given ""⟩

/-- A retransmission codec that names its codec where a payload type belongs. -/
def brokenRtx : Codec := ⟨Mime.rtx, 90000, 0, "apt=vp8", [], 97, .given ""⟩

/-- An engine with one registered codec and nothing negotiated. -/
def engine : Engine := (Bench.run {} [.registerCodec .video vp8]).engine

/-- A description whose only section has no codec but the broken one. -/
def description : RemoteDescription := [{ media := "video", codecs := [brokenRtx] }]

end Stopped

/-- The first section of a kind stops the update, and what the section has opened stays open. -/
theorem update_stopped_of_fresh_kind :
    (Stopped.engine.update Stopped.description).2 = .error (.numeral .invalidDigit) ∧
      (Stopped.engine.update Stopped.description).1 ≠ Stopped.engine := by
  have hstop : (Stopped.engine.update Stopped.description).2 = .error (.numeral .invalidDigit) :=
    update_eq_numeral_iff.2 (by decide +kernel)
  refine ⟨hstop, fun hself => ?_⟩
  obtain ⟨hm, -⟩ := (update_stopped_eq_self_iff hstop).1 hself
  revert hm
  decide +kernel

/-- An update that is stopped can leave a kind without codecs for good: the registered ones are
hidden by an empty list of negotiated ones. -/
theorem update_stopped_hides_registered :
    Stopped.engine.Reachable ∧
      (Stopped.engine.update Stopped.description).2 = .error (.numeral .invalidDigit) ∧
      Stopped.engine.negotiated.hasKind .video = false ∧
      (Stopped.engine.update Stopped.description).1.negotiated.hasKind .video = true ∧
      (Stopped.engine.codecs .video).map (·.payloadType) = [96] ∧
      (Stopped.engine.update Stopped.description).1.codecs .video = [] := by
  refine ⟨⟨0, _, rfl⟩, update_eq_numeral_iff.2 (by decide +kernel), ?_⟩
  decide +kernel

end MediaNegotiation
