import MediaNegotiation.Proofs.Format.Retargeting
import MediaNegotiation.Proofs.Negotiation.Commit
import MediaNegotiation.Proofs.Negotiation.Matching

/-!
# Codecs that can be offered back

The codecs that an engine takes over from a peer are what it offers to that peer in turn. The peer
can read all of them, because a codec that belongs to another one is always pointed at a payload
type. And the first of them belongs to no other codec, because a codec that belongs to another one
follows that one in the list of a tier. So the peer finds a match: the codec from which it was made.

Results:
* `ofLine_retarget`, `associated_retarget`: a codec that is pointed at a payload type keeps all its
  other parameters and names that payload type.
* `readable_of_mem_matchCodecs`: every match can be read.
* `led_matchCodecs`: the first match that is taken over belongs to no other codec.
* `best?_isSome_of_leading`: a section that begins with a known codec has a match.
* `readable_of_mem_commit`, `commit_leads`: what is taken over can be offered back.
-/

namespace MediaNegotiation

/-! ## Associated payload types -/

section

variable {c : Codec}

theorem associated_of_none (h : (Parameters.ofLine c.fmtp)["apt"]? = none) :
    associated c = .ok none := by
  simp [associated, Format.parameter?, Format.ofCodec, h]

theorem associated_of_some {value : String} (h : (Parameters.ofLine c.fmtp)["apt"]? = some value) :
    associated c = (Numeral.readUInt8 value.toList).map some := by
  simp [associated, Format.parameter?, Format.ofCodec, h]

end

/-- The entry for a codec names the payload type that the codec names. -/
theorem associated_entryFor (wanted registered : Codec) :
    associated (entryFor wanted registered) = associated wanted := rfl

/-- The line of a codec that names a payload type is read, once it has been pointed at another one,
as the same parameters with that one in decimal. -/
theorem ofLine_retarget {remote : Codec} {apt : UInt8} (h : associated remote = .ok (some apt))
    (localType : UInt8) :
    Parameters.ofLine (Parameters.retargetApt remote.fmtp localType) =
      (Parameters.ofLine remote.fmtp).insert "apt" (String.ofList (Numeral.write localType)) := by
  cases hvalue : (Parameters.ofLine remote.fmtp)["apt"]? with
  | none => simp [associated_of_none hvalue] at h
  | some value =>
    rw [associated_of_some hvalue] at h
    -- an empty value cannot be read, so the line names a payload type
    have hne : value ≠ "" := by
      intro he
      rw [he] at h
      have hempty : Numeral.readUInt8 "".toList = .error .empty := rfl
      rw [hempty] at h
      simp [Except.map] at h
    exact Parameters.ofLine_retargetApt hvalue hne localType

theorem apt_retarget {remote : Codec} {apt : UInt8} (h : associated remote = .ok (some apt))
    (localType : UInt8) :
    (Parameters.ofLine (Parameters.retargetApt remote.fmtp localType))["apt"]? =
      some (String.ofList (Numeral.write localType)) := by
  rw [ofLine_retarget h, Std.ExtTreeMap.getElem?_insert_self]

/-- A codec that is pointed at a payload type names that payload type. -/
theorem associated_retarget {remote : Codec} {apt : UInt8} (h : associated remote = .ok (some apt))
    (localType : UInt8) :
    associated { remote with fmtp := Parameters.retargetApt remote.fmtp localType } =
      .ok (some localType) := by
  have hread := associated_of_some
    (c := { remote with fmtp := Parameters.retargetApt remote.fmtp localType })
    (apt_retarget h localType)
  rw [hread, String.toList_ofList, Numeral.readUInt8_write]
  rfl

/-- What a codec is compared as can be read. -/
theorem ComparedAs.readable {found : Found} {remote wanted : Codec} {bound : Tier}
    (h : ComparedAs found remote wanted bound) : ∃ named, associated wanted = .ok named := by
  cases h with
  | alone h => exact ⟨none, h⟩
  | @behind apt localType _ h _ => exact ⟨some localType, associated_retarget h localType⟩

/-- Every match of a section can be read. -/
theorem readable_of_mem_matchCodecs {registered codecs : List Codec} {c : Codec}
    (h : c ∈ (matchCodecs registered {} codecs).found.entries) :
    ∃ named, associated c = .ok named := by
  refine matchCodecs_induction
    (P := fun found => ∀ c ∈ found.entries, ∃ named, associated c = .ok named) codecs ?_ ?_ c h
  · intro before remote wanted entry bound tier _ hbefore hcompared hmade _ c hc
    rcases Found.mem_entries_add.1 hc with hc | rfl
    · exact hbefore c hc
    · obtain ⟨partner, -, -, rfl⟩ := hmade
      rw [associated_entryFor]
      exact hcompared.readable
  · simp [Found.entries]

/-! ## The first match -/

/-- A match with an offered codec that belongs to no other one. -/
def Match.Leads (offered : List Codec) (m : Match) : Prop :=
  ∃ remote ∈ offered, associated remote = .ok none ∧ ∃ partner, m.entry = entryFor remote partner

/-- The first exact match leads, and if there is none, the first loose one does. -/
structure Found.Led (offered : List Codec) (found : Found) : Prop where
  exact : ∀ m, found.exact.head? = some m → m.Leads offered
  loose : found.exact = [] → ∀ m, found.loose.head? = some m → m.Leads offered

theorem head?_append_singleton {α : Type} {list : List α} {a b : α}
    (h : (list ++ [a]).head? = some b) : list.head? = some b ∨ (list = [] ∧ a = b) := by
  cases list with
  | nil => exact .inr ⟨rfl, by simpa using h⟩
  | cons c rest => exact .inl (by simpa using h)

/-- A match that leads can be added anywhere. -/
theorem Found.Led.add {offered : List Codec} {found : Found} (h : found.Led offered) {m : Match}
    (hm : m.Leads offered) (tier : Tier) : (found.add m tier).Led offered := by
  cases tier with
  | exact =>
    refine ⟨fun first hfirst => ?_, fun hnil => ?_⟩
    · rcases head?_append_singleton hfirst with hold | ⟨-, rfl⟩
      · exact h.exact first hold
      · exact hm
    · simp [Found.add] at hnil
  | loose =>
    refine ⟨h.exact, fun hnil first hfirst => ?_⟩
    rcases head?_append_singleton hfirst with hold | ⟨-, rfl⟩
    · exact h.loose hnil first hold
    · exact hm

/-- Behind another match of its tier, or behind an exact one, any match can be added. -/
theorem Found.Led.add_behind {offered : List Codec} {found : Found} (h : found.Led offered)
    {m : Match} {tier : Tier} (hexact : tier = .exact → found.exact ≠ [])
    (hloose : found.exact = [] → found.loose ≠ []) : (found.add m tier).Led offered := by
  cases tier with
  | exact =>
    refine ⟨fun first hfirst => ?_, fun hnil => ?_⟩
    · rcases head?_append_singleton hfirst with hold | ⟨hnil, -⟩
      · exact h.exact first hold
      · exact absurd hnil (hexact rfl)
    · simp [Found.add] at hnil
  | loose =>
    refine ⟨h.exact, fun hnil first hfirst => ?_⟩
    rcases head?_append_singleton hfirst with hold | ⟨hnone, -⟩
    · exact h.loose hnil first hold
    · exact absurd hnone (hloose hnil)

/-- A payload type is located among the exact matches, or among the loose ones. -/
theorem Found.locate?_eq_some {found : Found} {apt localType : UInt8} {tier : Tier}
    (h : found.locate? apt = some (localType, tier)) :
    (tier = .exact → found.exact ≠ []) ∧ (found.exact = [] → found.loose ≠ []) := by
  unfold Found.locate? at h
  split at h
  · rename_i m hm
    have hne := List.ne_nil_of_mem (List.mem_of_find?_eq_some hm)
    exact ⟨fun _ => hne, fun hnil => absurd hnil hne⟩
  · obtain ⟨m, hm, he⟩ := Option.map_eq_some_iff.1 h
    have hne := List.ne_nil_of_mem (List.mem_of_find?_eq_some hm)
    refine ⟨fun ht => ?_, fun _ => hne⟩
    rw [ht] at he
    simp at he

/-- The matches of a section are led by one that belongs to no other codec. -/
theorem led_matchCodecs (registered offered : List Codec) :
    (matchCodecs registered {} offered).found.Led offered := by
  refine matchCodecs_induction (P := Found.Led offered) offered ?_ ⟨by simp, by simp⟩
  intro before remote wanted entry bound tier hremote hbefore hcompared hmade hbound
  cases hcompared with
  | alone halone =>
    obtain ⟨partner, -, -, rfl⟩ := hmade
    exact hbefore.add ⟨remote, hremote, halone, partner, rfl⟩ tier
  | behind _ hlocated =>
    obtain ⟨hexact, hloose⟩ := Found.locate?_eq_some hlocated
    exact hbefore.add_behind (fun ht => hexact (hbound ht)) hloose

/-- The matches that are taken over begin with one that belongs to no other codec. -/
theorem Found.Led.of_best {offered : List Codec} {found : Found} (h : found.Led offered)
    {tier : Tier} {chosen : List Match} (hbest : found.best? = some (tier, chosen)) :
    ∃ m rest, chosen = m :: rest ∧ m.Leads offered := by
  unfold Found.best? at hbest
  cases hexact : found.exact with
  | cons m rest =>
    obtain ⟨-, rfl⟩ : Tier.exact = tier ∧ m :: rest = chosen := by simpa [hexact] using hbest
    exact ⟨m, rest, rfl, h.exact m (by simp [hexact])⟩
  | nil =>
    cases hloose : found.loose with
    | cons m rest =>
      obtain ⟨-, rfl⟩ : Tier.loose = tier ∧ m :: rest = chosen := by
        simpa [hexact, hloose] using hbest
      exact ⟨m, rest, rfl, h.loose hexact m (by simp [hloose])⟩
    | nil => simp [hexact, hloose] at hbest

/-! ## The answer -/

theorem Found.best?_add_isSome (found : Found) (m : Match) (tier : Tier) :
    (found.add m tier).best?.isSome := by
  cases tier with
  | exact => simp [Found.add, Found.best?]
  | loose =>
    unfold Found.best?
    split
    · rfl
    · simp [Found.add]

/-- A section that begins with a codec which belongs to no other one and has the format of a
registered codec has a match. -/
theorem best?_isSome_of_leading {registered rest : List Codec} {c : Codec}
    (halone : associated c = .ok none) (hknown : ∃ r ∈ registered, r.sameFormat c = true) :
    (matchCodecs registered {} (c :: rest)).found.best?.isSome := by
  obtain ⟨⟨entry, tier⟩, hmatch⟩ :=
    Option.isSome_iff_exists.1 (@matchWithin_isSome_iff registered c .exact |>.2 hknown)
  rw [matchCodecs]
  simp only [matchCodec_alone halone, hmatch]
  exact matchCodecs_induction (P := fun found => found.best?.isSome) rest
    (fun before remote _ entry _ tier _ _ _ _ _ =>
      before.best?_add_isSome ⟨remote.payloadType, entry⟩ tier)
    (Found.best?_add_isSome {} ⟨c.payloadType, entry⟩ tier)

/-- Whatever is taken over was there before or comes from a match. -/
theorem mem_of_mem_commit {codecs : List Codec} {chosen : List Match} {c : Codec}
    (h : c ∈ (commit codecs chosen).1) : c ∈ codecs ∨ ∃ m ∈ chosen, m.entry = c := by
  induction chosen generalizing codecs with
  | nil => exact .inl h
  | cons m rest ih =>
    cases hfind : Codec.find? codecs m.entry.payloadType with
    | some held =>
      rw [commit_cons_held (by simp [hfind])] at h
      rcases ih h with hold | ⟨n, hn, he⟩
      · exact .inl hold
      · exact .inr ⟨n, List.mem_cons_of_mem _ hn, he⟩
    | none =>
      rw [commit_cons_free hfind] at h
      rcases ih h with hold | ⟨n, hn, he⟩
      · rcases List.mem_append.1 hold with hold | hnew
        · exact .inl hold
        · exact .inr ⟨m, List.mem_cons_self, (List.mem_singleton.1 hnew).symm⟩
      · exact .inr ⟨n, List.mem_cons_of_mem _ hn, he⟩

/-- Of the matches of a new kind the first one is taken over first. -/
theorem commit_nil_cons (m : Match) (rest : List Match) :
    ∃ more, (commit [] (m :: rest)).1 = m.entry :: more := by
  rw [commit_cons_free (by simp [Codec.find?])]
  obtain ⟨more, hmore⟩ := prefix_commit [m.entry] rest
  exact ⟨more, by rw [List.nil_append, ← hmore, List.singleton_append]⟩

section

variable {registered offered : List Codec} {tier : Tier} {chosen : List Match}

/-- Everything that is taken over from a section into a new kind can be read. -/
theorem readable_of_mem_commit
    (hbest : (matchCodecs registered {} offered).found.best? = some (tier, chosen)) {c : Codec}
    (hc : c ∈ (commit [] chosen).1) : ∃ named, associated c = .ok named := by
  rcases mem_of_mem_commit hc with hnil | ⟨m, hm, rfl⟩
  · simp at hnil
  · exact readable_of_mem_matchCodecs (Found.mem_entries_of_best hbest hm)

/-- What is taken over from a section into a new kind begins with a codec that belongs to no other
one and has the format of an offered one. -/
theorem commit_leads
    (hbest : (matchCodecs registered {} offered).found.best? = some (tier, chosen)) :
    ∃ c more, (commit [] chosen).1 = c :: more ∧ associated c = .ok none ∧
      ∃ remote ∈ offered, remote.sameFormat c = true := by
  obtain ⟨m, rest, rfl, remote, hremote, halone, partner, hentry⟩ :=
    (led_matchCodecs registered offered).of_best hbest
  obtain ⟨more, hmore⟩ := commit_nil_cons m rest
  refine ⟨m.entry, more, hmore, ?_, remote, hremote, ?_⟩
  · rw [hentry, associated_entryFor, halone]
  · rw [hentry]
    exact remote.sameFormat_refl

end

end MediaNegotiation
