import MediaNegotiation.Engine.History
import MediaNegotiation.Proofs.Negotiation.Answering
import MediaNegotiation.Proofs.Negotiation.Section
import MediaNegotiation.Proofs.Reachability

/-!
# Associated codecs stand behind their codec

A codec that names an associated payload type is of use only together with the codec that is bound
to it. The list of negotiated codecs of a kind is closed in this sense, and in order: whatever a
peer names, the entry that is taken over names a payload type that is negotiated in front of it.

Results:
* `chained_matchCodecs`: the matches of a section that can be taken over are chained.
* `chained_commit`: taking chained matches over keeps the negotiated codecs chained.
* `codecsOf_applySection_cases`: what a section can do to the codecs of a kind.
* `associated_in_front_run`: after every sequence of operations, every negotiated codec that names
  an associated payload type names one that is negotiated in front of it.
-/

namespace MediaNegotiation

/-! ## Chained lists -/

/-- The payload type that a codec names as associated, if it names one, is written in decimal and
is one of those in front of the codec. -/
def Codec.Follows (c : Codec) (front : List UInt8) : Prop :=
  ∀ apt, (Format.ofCodec c).parameter? "apt" = some apt →
    ∃ q ∈ front, apt = String.ofList (Numeral.write q)

/-- Every codec of a list follows the payload types before it, those of `front` included. -/
def Chained (front : List UInt8) : List Codec → Prop
  | [] => True
  | c :: rest => c.Follows front ∧ Chained (front ++ [c.payloadType]) rest

section

variable {front wider : List UInt8} {c : Codec}

theorem Codec.Follows.mono (h : c.Follows front) (hsub : front ⊆ wider) : c.Follows wider := by
  intro apt hapt
  obtain ⟨q, hq, heq⟩ := h apt hapt
  exact ⟨q, hsub hq, heq⟩

/-- A codec that belongs to no other one follows anything. -/
theorem Codec.follows_of_alone (h : associated c = .ok none) : c.Follows front := by
  intro apt hapt
  rw [associated, hapt] at h
  cases hread : Numeral.readUInt8 apt.toList <;> simp [hread, Except.map] at h

/-- A codec that is pointed at a payload type follows it. -/
theorem Codec.follows_of_retarget {remote : Codec} {apt localType : UInt8}
    (h : associated remote = .ok (some apt)) (hfront : localType ∈ front) :
    Codec.Follows { remote with fmtp := Parameters.retargetApt remote.fmtp localType } front := by
  intro value hvalue
  have hnamed := apt_retarget h localType
  refine ⟨localType, hfront, ?_⟩
  simpa [Format.parameter?, Format.ofCodec, hnamed] using hvalue.symm

/-- The entry for a codec follows what the codec follows. -/
theorem Codec.follows_entryFor {wanted registered : Codec} :
    (entryFor wanted registered).Follows front ↔ wanted.Follows front := Iff.rfl

theorem Chained.mono {codecs : List Codec} (h : Chained front codecs) (hsub : front ⊆ wider) :
    Chained wider codecs := by
  induction codecs generalizing front wider with
  | nil => trivial
  | cons c rest ih =>
    exact ⟨h.1.mono hsub, ih h.2 (List.append_subset.2
      ⟨List.subset_append_of_subset_left _ hsub, List.subset_append_right _ _⟩)⟩

theorem chained_append {first second : List Codec} :
    Chained front (first ++ second) ↔
      Chained front first ∧ Chained (front ++ first.map (·.payloadType)) second := by
  induction first generalizing front with
  | nil => simp [Chained]
  | cons c rest ih => simp [Chained, ih, and_assoc]

theorem chained_concat {codecs : List Codec} :
    Chained front (codecs ++ [c]) ↔
      Chained front codecs ∧ c.Follows (front ++ codecs.map (·.payloadType)) := by
  simp [chained_append, Chained]

/-- In a chained list each codec follows those before it. -/
theorem Chained.follows {before after : List Codec} (h : Chained [] (before ++ c :: after)) :
    c.Follows (before.map (·.payloadType)) := by
  have hrest := (chained_append.1 h).2
  simpa using hrest.1

end

/-! ## Matches -/

/-- The exact matches are chained, and as long as there are none, so are the loose ones. -/
structure Found.Chained (found : Found) : Prop where
  exact : MediaNegotiation.Chained [] (found.exact.map (·.entry))
  loose : found.exact = [] → MediaNegotiation.Chained [] (found.loose.map (·.entry))

/-- The payload types of the matches of a tier. -/
def Found.types (found : Found) : Tier → List UInt8
  | .exact => found.exact.map (·.entry.payloadType)
  | .loose => found.loose.map (·.entry.payloadType)

theorem Found.mem_types_of_locate? {found : Found} {apt localType : UInt8} {tier : Tier}
    (h : found.locate? apt = some (localType, tier)) : localType ∈ found.types tier := by
  unfold Found.locate? at h
  split at h
  · rename_i m hm
    obtain ⟨rfl, rfl⟩ : m.entry.payloadType = localType ∧ Tier.exact = tier := by simpa using h
    exact List.mem_map_of_mem (List.mem_of_find?_eq_some hm)
  · obtain ⟨m, hm, he⟩ := Option.map_eq_some_iff.1 h
    obtain ⟨rfl, rfl⟩ : m.entry.payloadType = localType ∧ Tier.loose = tier := by simpa using he
    exact List.mem_map_of_mem (List.mem_of_find?_eq_some hm)

/-- A match can be added when it follows the matches of its tier, or when it is a loose one that an
exact one has put out of use. -/
theorem Found.Chained.add {found : Found} (h : found.Chained) {m : Match} {tier : Tier}
    (hm : (tier = .loose → found.exact = []) → m.entry.Follows (found.types tier)) :
    (found.add m tier).Chained := by
  cases tier with
  | exact =>
    refine ⟨?_, fun hnil => by simp [Found.add] at hnil⟩
    simp only [Found.add, List.map_append, List.map_cons, List.map_nil]
    rw [chained_concat]
    refine ⟨h.exact, ?_⟩
    simpa [Found.types, Function.comp_def] using hm (by simp)
  | loose =>
    refine ⟨h.exact, fun hnil => ?_⟩
    simp only [Found.add, List.map_append, List.map_cons, List.map_nil]
    rw [chained_concat]
    refine ⟨h.loose hnil, ?_⟩
    simpa [Found.types, Function.comp_def] using hm fun _ => hnil

/-- The matches of a section are chained. -/
theorem chained_matchCodecs (registered offered : List Codec) :
    (matchCodecs registered {} offered).found.Chained := by
  refine matchCodecs_induction (P := Found.Chained) offered ?_ ⟨trivial, fun _ => trivial⟩
  intro before remote wanted entry bound tier _ hbefore hcompared hmade hbound
  obtain ⟨partner, -, -, rfl⟩ := hmade
  refine hbefore.add fun hused => Codec.follows_entryFor.2 ?_
  cases hcompared with
  | alone halone => exact Codec.follows_of_alone halone
  | @behind apt localType _ hapt hlocated =>
    have hmem := Found.mem_types_of_locate? hlocated
    have hsame : bound = tier := by
      cases tier with
      | exact => exact hbound rfl
      | loose =>
        cases bound with
        | loose => rfl
        | exact => simp [Found.types, hused rfl] at hmem
    exact Codec.follows_of_retarget hapt (hsame ▸ hmem)

theorem Found.Chained.of_best {found : Found} (h : found.Chained) {tier : Tier}
    {chosen : List Match} (hbest : found.best? = some (tier, chosen)) :
    MediaNegotiation.Chained [] (chosen.map (·.entry)) := by
  unfold Found.best? at hbest
  split at hbest
  · obtain ⟨-, rfl⟩ : Tier.exact = tier ∧ found.exact = chosen := by simpa using hbest
    exact h.exact
  · rename_i hexact
    split at hbest
    · obtain ⟨-, rfl⟩ : Tier.loose = tier ∧ found.loose = chosen := by simpa using hbest
      exact h.loose (by simpa using hexact)
    · simp at hbest

/-! ## Taking matches over -/

/-- Taking chained matches over keeps the codecs chained: a match that is left out has a payload
type that is held already. -/
theorem chained_commit {codecs : List Codec} {chosen : List Match} (hcodecs : Chained [] codecs)
    (hchosen : Chained (codecs.map (·.payloadType)) (chosen.map (·.entry))) :
    Chained [] (commit codecs chosen).1 := by
  induction chosen generalizing codecs with
  | nil => exact hcodecs
  | cons m rest ih =>
    obtain ⟨hm, hrest⟩ := hchosen
    cases hfind : Codec.find? codecs m.entry.payloadType with
    | some held =>
      rw [commit_cons_held (by simp [hfind])]
      refine ih hcodecs (hrest.mono ?_)
      have htype : held.payloadType = m.entry.payloadType := by
        simpa using List.find?_some hfind
      have hmem : m.entry.payloadType ∈ codecs.map (·.payloadType) :=
        List.mem_map.2 ⟨held, List.mem_of_find?_eq_some hfind, htype⟩
      exact List.append_subset.2 ⟨List.Subset.refl _, by simpa using hmem⟩
    | none =>
      rw [commit_cons_free hfind]
      refine ih (chained_concat.2 ⟨hcodecs, by simpa using hm⟩) ?_
      simpa using hrest

/-! ## Sections -/

theorem codecsOf_takeCodecs_cases (e : Engine) (s : Negotiated) (r : RemoteSection)
    (kind l : MediaKind) :
    (takeCodecs e kind s r).negotiated.codecsOf l = s.codecsOf l ∨
      ∃ tier chosen,
        (matchCodecs (e.registered.get l) {} r.codecs).found.best? = some (tier, chosen) ∧
        (takeCodecs e kind s r).negotiated.codecsOf l = (commit (s.codecsOf l) chosen).1 := by
  by_cases hr : r.Malformed
  · rw [takeCodecs_malformed hr]
    exact .inl rfl
  · cases hbest : (matchCodecs (e.registered.get kind) {} r.codecs).found.best? with
    | none =>
      rw [takeCodecs_unmatched hbest]
      exact .inl rfl
    | some best =>
      obtain ⟨tier, chosen⟩ := best
      rw [takeCodecs_matched hr hbest, codecsOf_bindOffered, Negotiated.codecsOf_withCodecs]
      by_cases hl : l = kind
      · subst hl
        exact .inr ⟨tier, chosen, hbest, if_pos rfl⟩
      · exact .inl (if_neg hl)

/-- The codecs of a kind stay as they are in a section, or the best matches of the section are taken
over into them. -/
theorem codecsOf_applySection_cases (e : Engine) (s : Negotiated) (r : RemoteSection)
    (l : MediaKind) :
    (applySection e s r).negotiated.codecsOf l = s.codecsOf l ∨
      ∃ tier chosen,
        (matchCodecs (e.registered.get l) {} r.codecs).found.best? = some (tier, chosen) ∧
        (applySection e s r).negotiated.codecsOf l = (commit (s.codecsOf l) chosen).1 := by
  cases h : MediaKind.ofText? r.media with
  | none => exact .inl (by rw [applySection_skipped h])
  | some kind =>
    cases hk : s.hasKind kind with
    | false =>
      -- a kind that is opened has no codecs before and none when it is opened
      have hopened : (s.withCodecs kind []).codecsOf l = s.codecsOf l := by
        rw [Negotiated.codecsOf_withCodecs]
        split
        · rename_i hl
          rw [hl, s.codecsOf_of_fresh kind hk]
        · rfl
      rw [applySection_fresh h hk, Outcome.logged_negotiated, ← hopened]
      exact codecsOf_takeCodecs_cases e _ r kind l
    | true =>
      have hbound := codecsOf_bindOffered e.extensions kind l s r.extensions
      cases hm : e.multi with
      | false =>
        rw [applySection_closed h hk hm]
        exact .inl hbound
      | true =>
        rw [applySection_again h hk hm, Outcome.logged_negotiated, ← hbound]
        exact codecsOf_takeCodecs_cases e _ r kind l

/-! ## Histories -/

/-- The negotiated codecs of each kind are chained. -/
def Negotiated.Chained (s : Negotiated) : Prop :=
  ∀ kind, MediaNegotiation.Chained [] (s.codecsOf kind)

/-- A section keeps the negotiated codecs chained. -/
theorem chained_applySection {s : Negotiated} (hs : s.Chained) (e : Engine) (r : RemoteSection) :
    (applySection e s r).negotiated.Chained := by
  intro kind
  rcases codecsOf_applySection_cases e s r kind with hsame | ⟨tier, chosen, hbest, htaken⟩
  · rw [hsame]
    exact hs kind
  · rw [htaken]
    have hchosen := (chained_matchCodecs (e.registered.get kind) r.codecs).of_best hbest
    exact chained_commit (hs kind) (hchosen.mono (List.nil_subset _))

/-- A description keeps the negotiated codecs chained, whether or not it is stopped. -/
theorem chained_applySections {s : Negotiated} (hs : s.Chained) (e : Engine)
    (d : RemoteDescription) : (applySections e s d).negotiated.Chained :=
  applySections_keeps hs fun r _ _ hlater => chained_applySection hlater e r

/-- Every operation keeps the negotiated codecs chained. -/
theorem kept_chained : Engine.Kept fun e => e.negotiated.Chained where
  registerCodec {e} kind c id he := (e.registerCodec_frame kind c id).2 ▸ he
  registerExtension {e} uri kind directions he := by
    unfold Engine.registerExtension
    dsimp only
    split <;> exact he
  registerFeedback _ _ he := he
  setMulti _ he := he
  update {e} d he := chained_applySections he e d

/-- **Associated codecs.** After any sequence of operations on a new engine, a negotiated codec
whose parameters name an associated payload type names one of 8 bits in decimal, and a codec with
that payload type is negotiated for the same kind in front of it. -/
theorem associated_in_front_run (serial : Nat) (commands : List Command) (kind : MediaKind)
    {before after : List Codec} {c : Codec} {apt : String}
    (hc : (Bench.run { serial } commands).engine.negotiated.codecsOf kind = before ++ c :: after)
    (hapt : (Format.ofCodec c).parameter? "apt" = some apt) :
    ∃ q : UInt8, apt = String.ofList (Numeral.write q) ∧ ∃ d ∈ before, d.payloadType = q := by
  have hchained : (Bench.run { serial } commands).engine.negotiated.Chained :=
    kept_chained.run (b := { serial }) (fun kind => by cases kind <;> trivial) commands
  have hkind := hchained kind
  rw [hc] at hkind
  obtain ⟨q, hq, happ⟩ := hkind.follows apt hapt
  exact ⟨q, happ, List.mem_map.1 hq⟩

namespace Retransmission

/-- A video codec of a profile, under a payload type. -/
def vp9 (profile : String) (payloadType : UInt8) (id : StatsId) : Codec :=
  ⟨Mime.vp9, 90000, 0, profile, [], payloadType, id⟩

/-- A retransmission codec that belongs to the codec of a payload type. -/
def rtx (line : String) (payloadType : UInt8) (id : StatsId) : Codec :=
  ⟨Mime.rtx, 90000, 0, line, [], payloadType, id⟩

/-- A peer uses payload types of its own and another profile, so that both codecs match loosely. -/
def commands : List Command := [
  .registerCodec .video (vp9 "profile-id=1" 98 (.given "")),
  .registerCodec .video (rtx "apt=98" 99 (.given "")),
  .update [{
    media := "video"
    codecs := [vp9 "profile-id=2" 35 (.given ""), rtx "rtx-time=200;APT = 35" 36 (.given "")] }]]

end Retransmission

/-- A retransmission codec that names a payload type of the peer is negotiated behind the codec it
belongs to, and names the local payload type of that one. -/
theorem associated_in_front_of_rtx :
    (Bench.run {} Retransmission.commands).engine.negotiated.codecsOf .video =
        [Retransmission.vp9 "profile-id=2" 98 (.issued 0)] ++
          Retransmission.rtx "rtx-time=200;apt=98" 99 (.issued 1) :: [] ∧
      ∃ q : UInt8, "98" = String.ofList (Numeral.write q) ∧
        ∃ d ∈ [Retransmission.vp9 "profile-id=2" 98 (.issued 0)], d.payloadType = q := by
  have hcodecs : (Bench.run {} Retransmission.commands).engine.negotiated.codecsOf .video =
      [Retransmission.vp9 "profile-id=2" 98 (.issued 0)] ++
        Retransmission.rtx "rtx-time=200;apt=98" 99 (.issued 1) :: [] := by
    decide +kernel
  refine ⟨hcodecs, ?_⟩
  exact associated_in_front_run 0 Retransmission.commands .video hcodecs (by decide +kernel)

end MediaNegotiation
