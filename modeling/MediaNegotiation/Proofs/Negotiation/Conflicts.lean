import MediaNegotiation.Proofs.Negotiation.Grounding

/-!
# Conflicts over payload types

A match conflicts when its payload type is held by a codec that does not count as the same. Both of
them stand for the registered codec of that payload type. Their MIME types are then spellings of one
text and their channel counts agree, because these two relations are transitive. The agreement of
clock rates is not: a registered codec that leaves its clock rate open agrees with any two. Where
every registered codec has a clock rate, nothing is left to conflict.

Results:
* `eq_codecConflict_of_mem_applySections`: there is one sort of conflict.
* `Codec.StandsFor.sameFormat`: two codecs that stand for one with a clock rate share a format.
* `conflicts_commit_of_rated`: taking matches over meets no conflict where clock rates are set.
* `conflicts_applySections_of_rated`: neither does a description, whether or not it is stopped.
* `update_of_rated`: an update succeeds or fails on a number where clock rates are set.
-/

namespace MediaNegotiation

/-! ## What is reported -/

theorem eq_codecConflict_of_mem_commit {codecs : List Codec} {chosen : List Match} {err : Error}
    (h : err ∈ (commit codecs chosen).2) : err = .codecConflict := by
  induction chosen generalizing codecs with
  | nil => simp [commit] at h
  | cons m rest ih =>
    cases hfind : Codec.find? codecs m.entry.payloadType with
    | none =>
      rw [commit_cons_free hfind] at h
      exact ih h
    | some held =>
      cases hsame : held.sameCodec m.entry with
      | true =>
        rw [commit_cons_same hfind hsame] at h
        exact ih h
      | false =>
        rw [commit_cons_conflict hfind hsame] at h
        rcases List.mem_cons.1 h with hfirst | hrest
        · exact hfirst
        · exact ih hrest

/-- Every conflict that a section meets is one over a payload type. -/
theorem eq_codecConflict_of_mem_applySection {e : Engine} {s : Negotiated} {r : RemoteSection}
    {err : Error} (h : err ∈ (applySection e s r).conflicts) : err = .codecConflict := by
  rcases applySection_report_cases e s r with ⟨-, hnone⟩ | ⟨kind, start, log, -, -, heq⟩
  · simp [hnone] at h
  · rw [heq, Outcome.logged_conflicts] at h
    rcases conflicts_takeCodecs_cases e start kind r with hnone | ⟨tier, chosen, -, hcommit⟩
    · simp [hnone] at h
    · exact eq_codecConflict_of_mem_commit (hcommit ▸ h)

/-- Every conflict that a description meets is one over a payload type. -/
theorem eq_codecConflict_of_mem_applySections {e : Engine} {s : Negotiated}
    {d : RemoteDescription} {err : Error} (h : err ∈ (applySections e s d).conflicts) :
    err = .codecConflict := by
  induction d generalizing s with
  | nil => simp [applySections] at h
  | cons r rest ih =>
    by_cases hr : (applySection e s r).fault.isSome
    · rw [applySections_cons_stopped hr] at h
      exact eq_codecConflict_of_mem_applySection h
    · rw [applySections_cons (Option.not_isSome_iff_eq_none.1 hr), Outcome.andThen_conflicts,
        List.mem_append] at h
      rcases h with hfirst | hrest
      · exact eq_codecConflict_of_mem_applySection hfirst
      · exact ih hrest

/-! ## Codecs that stand for the same one -/

/-- Two clock rates that agree with a rate that is set agree with each other. -/
theorem clockRatesAgree_of_set {a b rate : UInt32} (ha : clockRatesAgree a rate = true)
    (hb : clockRatesAgree b rate = true) (hset : rate ≠ 0) : clockRatesAgree a b = true := by
  simp only [clockRatesAgree, Bool.or_eq_true, beq_iff_eq] at *
  rcases ha with (ha | hzero) | ha
  · exact .inl (.inl ha)
  · exact absurd hzero hset
  · rcases hb with (hb | hzero) | hb
    · exact .inl (.inr hb)
    · exact absurd hzero hset
    · exact .inr (ha.trans hb.symm)

/-- Two codecs that stand for one with a clock rate share a format. -/
theorem Codec.StandsFor.sameFormat {c d registered : Codec} (hc : c.StandsFor registered)
    (hd : d.StandsFor registered) (hrate : registered.clockRate ≠ 0) : c.sameFormat d = true := by
  have hmime : Text.sameSpelling c.mime d.mime = true :=
    Text.sameSpelling_trans hc.mime (Text.sameSpelling_symm _ _ ▸ hd.mime)
  have hchannels : channelsAgree c.channels d.channels = true :=
    channelsAgree_trans hc.channels (channelsAgree_symm _ _ ▸ hd.channels)
  have hclock := clockRatesAgree_of_set hc.clockRate hd.clockRate hrate
  simp [Codec.sameFormat, hmime, hclock, hchannels]

/-- Every registered codec has a clock rate. -/
def Rated (registered : List Codec) : Prop := ∀ r ∈ registered, r.clockRate ≠ 0

section

variable {registered : List Codec}

/-- Two codecs with one payload type that stand for registered codecs count as the same. -/
theorem sameCodec_of_standsFor (hd : (registered.map (·.payloadType)).Nodup)
    (hrated : Rated registered) {held c : Codec}
    (hheld : ∃ r ∈ registered, held.StandsFor r) (hc : ∃ r ∈ registered, c.StandsFor r)
    (htype : held.payloadType = c.payloadType) : held.sameCodec c = true := by
  obtain ⟨r, hr, hheld⟩ := hheld
  obtain ⟨r', hr', hc⟩ := hc
  have hsame : r.payloadType = r'.payloadType := by
    rw [← hheld.payloadType, ← hc.payloadType, htype]
  obtain rfl : r = r' := List.inj_on_of_nodup_map hd hr hr' hsame
  simp [Codec.sameCodec, htype, hheld.sameFormat hc (hrated r hr)]

/-- Taking matches over meets no conflict where clock rates are set. -/
theorem conflicts_commit_of_rated (hd : (registered.map (·.payloadType)).Nodup)
    (hrated : Rated registered) {codecs : List Codec} {chosen : List Match}
    (hcodecs : ∀ c ∈ codecs, ∃ r ∈ registered, c.StandsFor r)
    (hchosen : ∀ m ∈ chosen, ∃ r ∈ registered, m.entry.StandsFor r) :
    (commit codecs chosen).2 = [] := by
  induction chosen generalizing codecs with
  | nil => rfl
  | cons m rest ih =>
    rw [List.forall_mem_cons] at hchosen
    obtain ⟨hm, hrest⟩ := hchosen
    cases hfind : Codec.find? codecs m.entry.payloadType with
    | none =>
      rw [commit_cons_free hfind]
      refine ih (fun c hc => ?_) hrest
      rcases List.mem_append.1 hc with hold | hnew
      · exact hcodecs c hold
      · exact List.mem_singleton.1 hnew ▸ hm
    | some held =>
      have hheld := hcodecs held (List.mem_of_find?_eq_some hfind)
      have htype : held.payloadType = m.entry.payloadType := by
        simpa using List.find?_some hfind
      rw [commit_cons_same hfind (sameCodec_of_standsFor hd hrated hheld hm htype)]
      exact ih hcodecs hrest

end

/-! ## Descriptions -/

/-- Changes keep an engine grounded. -/
theorem Changes.grounded {e : Engine} {s u : Negotiated} (h : Changes e s u)
    (hs : Engine.Grounded { e with negotiated := s }) :
    Engine.Grounded { e with negotiated := u } :=
  h.keeps (P := fun v => Engine.Grounded { e with negotiated := v }) hs Change.grounded

section

variable {e : Engine} {s : Negotiated}

theorem conflicts_takeCodecs_of_rated {kind : MediaKind}
    (hrated : Rated (e.registered.get kind)) (hs : Engine.Grounded { e with negotiated := s })
    (r : RemoteSection) : (takeCodecs e kind s r).conflicts = [] := by
  rcases conflicts_takeCodecs_cases e s kind r with hnone | ⟨tier, chosen, hbest, hcommit⟩
  · exact hnone
  · rw [hcommit]
    refine conflicts_commit_of_rated (hs.registered kind) hrated (hs.partner kind) fun m hm => ?_
    obtain ⟨wanted, hmade⟩ := madeFrom_of_mem_matchCodecs (Found.mem_entries_of_best hbest hm)
    exact hmade.standsFor

variable (hrated : ∀ kind, Rated (e.registered.get kind))
include hrated

theorem conflicts_applySection_of_rated (hs : Engine.Grounded { e with negotiated := s })
    (r : RemoteSection) : (applySection e s r).conflicts = [] := by
  rcases applySection_report_cases e s r with ⟨-, hnone⟩ | ⟨kind, start, log, hstart, -, heq⟩
  · exact hnone
  · rw [heq, Outcome.logged_conflicts]
    exact conflicts_takeCodecs_of_rated (hrated kind) (hstart.grounded hs) r

/-- A description meets no conflict where clock rates are set, whether or not it is stopped. -/
theorem conflicts_applySections_of_rated (hs : Engine.Grounded { e with negotiated := s })
    (d : RemoteDescription) : (applySections e s d).conflicts = [] := by
  induction d generalizing s with
  | nil => rfl
  | cons r rest ih =>
    have hfirst := conflicts_applySection_of_rated hrated hs r
    by_cases hr : (applySection e s r).fault.isSome
    · rw [applySections_cons_stopped hr, hfirst]
    · rw [applySections_cons (Option.not_isSome_iff_eq_none.1 hr), Outcome.andThen_conflicts,
        hfirst, ih ((changes_applySection e s r).grounded hs)]
      rfl

end

/-! ## Updates -/

/-- **Conflicts.** If every registered codec of a reachable engine has a clock rate, then an update
either succeeds or fails on a number. Codecs that conflict over a payload type are never reported,
whatever the description offers. -/
theorem update_of_rated {e : Engine} (he : e.Reachable)
    (hrated : ∀ kind, ∀ c ∈ e.registered.get kind, c.clockRate ≠ 0) (d : RemoteDescription) :
    (e.update d).2 = .ok () ∨ ∃ fault, (e.update d).2 = .error (.numeral fault) := by
  have hground : e.Grounded := kept_grounded.reachable grounded_new he
  have hconflicts : (applySections e e.negotiated d).conflicts = [] :=
    conflicts_applySections_of_rated hrated hground d
  cases hfault : (applySections e e.negotiated d).fault with
  | none => exact .inl (update_eq_ok_iff.2 ⟨hfault, hconflicts⟩)
  | some fault => exact .inr ⟨fault, update_eq_numeral_iff.2 hfault⟩

namespace Rates

/-- A video codec at a clock rate, under a payload type. -/
def vp8 (clockRate : UInt32) (payloadType : UInt8) : Codec :=
  ⟨Mime.vp8, clockRate, 0, "", [], payloadType, .given ""⟩

/-- An engine whose codec has a clock rate, but which has taken it over from a peer that leaves the
clock rate open. Later sections may add codecs. -/
def engine : Engine := (Bench.run {} [
  .setMulti true,
  .registerCodec .video (vp8 90000 96),
  .update [{ media := "video", codecs := [vp8 0 35] }]]).engine

/-- A description that offers the codec with and without its clock rate, twice under one payload
type, and with another clock rate. -/
def description : RemoteDescription := [
  { media := "video", codecs := [vp8 90000 36, vp8 0 36, vp8 48000 36] },
  { media := "video", codecs := [vp8 90000 37] }]

end Rates

/-- A codec that is held without a clock rate and offered with one is not in conflict with
itself. -/
theorem update_of_rated_of_open_rate :
    (∀ kind, ∀ c ∈ Rates.engine.registered.get kind, c.clockRate ≠ 0) ∧
      (Rates.engine.negotiated.codecsOf .video).map (·.clockRate) = [0] ∧
      ((Rates.engine.update Rates.description).2 = .ok () ∨
        ∃ fault, (Rates.engine.update Rates.description).2 = .error (.numeral fault)) := by
  have hrated : ∀ kind, ∀ c ∈ Rates.engine.registered.get kind, c.clockRate ≠ 0 := by
    intro kind
    cases kind <;> decide +kernel
  exact ⟨hrated, by decide +kernel, update_of_rated ⟨0, _, rfl⟩ hrated Rates.description⟩

end MediaNegotiation
