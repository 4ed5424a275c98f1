import MediaNegotiation.Proofs.Negotiation.Classification
import MediaNegotiation.Proofs.Negotiation.Takeover

/-!
# The order of a section

A peer lists the codecs of a section by preference. Each codec is matched behind the matches of
those before it, but what it is matched with depends on one of them at most, the codec that it
belongs to. That one may belong to a further codec in turn. So the match of a codec is settled by
this chain alone once the payload types of a section are distinct, and the chain is the same in any
order that keeps codecs behind those they belong to.

Reordering a section in this way changes the order in which codecs are taken over, and so which of
several entries for one payload type is taken. It does not change which payload types are taken.

Results:
* `Matched.transport`, `Matched.unique`: what the match of a codec depends on.
* `followsChains_matchCodecs`: the matches of a section are those of the chains of its codecs.
* `mem_committed_of_reorders`: a section commits the same entries in either order.
* `update_of_reordered`: the payload types that are negotiated after either order.
-/

namespace MediaNegotiation

/-! ## Order -/

/-- A codec stands before another one in a list. -/
def Precedes (offered : List Codec) (first second : Codec) : Prop :=
  [first, second].Sublist offered

/-- The codecs of a section in another order, in which every codec that names the payload type of
another one stands on the same side of it as before. -/
structure Reorders (offered others : List Codec) : Prop where
  perm : offered.Perm others
  keeps : ∀ c ∈ offered, ∀ d ∈ offered, associated c = .ok (some d.payloadType) →
    (Precedes offered d c ↔ Precedes others d c)

instance (offered : List Codec) (first second : Codec) :
    Decidable (Precedes offered first second) :=
  inferInstanceAs (Decidable ([first, second].Sublist offered))

instance (offered others : List Codec) : Decidable (Reorders offered others) :=
  decidable_of_iff
    (offered.Perm others ∧ ∀ c ∈ offered, ∀ d ∈ offered, associated c = .ok (some d.payloadType) →
      (Precedes offered d c ↔ Precedes others d c))
    ⟨fun h => ⟨h.1, h.2⟩, fun h => ⟨h.perm, h.keeps⟩⟩

section

variable {offered others front : List Codec} {c d z : Codec}

theorem Precedes.mem (h : Precedes offered d c) : d ∈ offered ∧ c ∈ offered :=
  ⟨h.subset List.mem_cons_self, h.subset (by simp)⟩

/-- In a list that grows at its end, what stood before another codec still does, and all that was
there stands before the new codec. -/
theorem precedes_concat_iff :
    Precedes (front ++ [z]) d c ↔ Precedes front d c ∨ (c = z ∧ d ∈ front) := by
  constructor
  · intro h
    obtain ⟨first, last, hsplit, hfirst, hlast⟩ := List.sublist_append_iff.1 h
    rcases List.sublist_singleton.1 hlast with rfl | rfl
    · rw [List.append_nil] at hsplit
      rw [← hsplit] at hfirst
      exact .inl hfirst
    · have hpair : [d] ++ [c] = first ++ [z] := hsplit
      obtain ⟨hd, hc⟩ := List.append_inj' hpair rfl
      exact .inr ⟨List.singleton_inj.1 hc, List.singleton_sublist.1 (hd ▸ hfirst)⟩
  · rintro (h | ⟨rfl, hd⟩)
    · exact h.trans (List.sublist_append_left front [z])
    · exact (List.singleton_sublist.2 hd).append (List.Sublist.refl [c])

theorem Reorders.symm (h : Reorders offered others) : Reorders others offered where
  perm := h.perm.symm
  keeps c hc d hd hnamed :=
    (h.keeps c (h.perm.mem_iff.2 hc) d (h.perm.mem_iff.2 hd) hnamed).symm

end

/-! ## Chains -/

/-- The entry and the tier of a codec of a section. A codec that belongs to no other one is matched
on its own, and any other one with the payload type and behind the tier of the codec it belongs to,
which stands before it. -/
inductive Matched (registered offered : List Codec) : Codec → Codec × Tier → Prop
  | alone {c : Codec} {m : Codec × Tier} (h : associated c = .ok none)
      (hm : matchWithin registered c .exact = some m) : Matched registered offered c m
  | behind {c d entry : Codec} {tier : Tier} {m : Codec × Tier}
      (h : associated c = .ok (some d.payloadType)) (hbefore : Precedes offered d c)
      (hd : Matched registered offered d (entry, tier))
      (hm : matchWithin registered
        { c with fmtp := Parameters.retargetApt c.fmtp entry.payloadType } tier = some m) :
      Matched registered offered c m

section

variable {registered offered others front : List Codec} {c z : Codec} {m n : Codec × Tier}

/-- A chain can be followed in another list that has its codecs in the same order. -/
theorem Matched.transport {P : Codec → Prop} (hm : Matched registered offered c m) (hc : P c)
    (step : ∀ c d, P c → associated c = .ok (some d.payloadType) → Precedes offered d c →
      P d ∧ Precedes others d c) : Matched registered others c m := by
  induction hm with
  | alone h hm => exact .alone h hm
  | behind h hbefore _ hm ih =>
    obtain ⟨hd, hbefore⟩ := step _ _ hc h hbefore
    exact .behind h hbefore (ih hd) hm

/-- Where payload types are distinct a codec has one entry and one tier at most. -/
theorem Matched.unique (hd : (offered.map (·.payloadType)).Nodup)
    (hm : Matched registered offered c m) (hn : Matched registered offered c n) : m = n := by
  induction hm generalizing n with
  | alone h hm =>
    cases hn with
    | alone _ hn => exact Option.some.inj (hm.symm.trans hn)
    | behind h' => simp [h] at h'
  | @behind c d entry tier m h hbefore _ hm ih =>
    cases hn with
    | alone h' => simp [h] at h'
    | @behind _ d' entry' tier' _ h' hbefore' hd' hn =>
      have htype : d.payloadType = d'.payloadType := by simpa [h] using h'
      obtain rfl := List.inj_on_of_nodup_map hd hbefore.mem.1 hbefore'.mem.1 htype
      obtain ⟨rfl, rfl⟩ : entry = entry' ∧ tier = tier' := by simpa using ih hd'
      exact Option.some.inj (hm.symm.trans hn)

/-- A codec behind the others leaves their chains as they are. -/
theorem matched_concat_iff (hz : z ∉ front) (hc : c ∈ front) :
    Matched registered (front ++ [z]) c m ↔ Matched registered front c m := by
  constructor
  · intro hm
    refine hm.transport (P := (· ∈ front)) hc fun c d hc _ hbefore => ?_
    rcases precedes_concat_iff.1 hbefore with hfront | ⟨rfl, -⟩
    · exact ⟨hfront.mem.1, hfront⟩
    · exact absurd hc hz
  · intro hm
    exact hm.transport (P := fun _ => True) trivial fun _ _ _ _ hbefore =>
      ⟨trivial, precedes_concat_iff.2 (.inl hbefore)⟩

/-- A chain can be followed in a reordered section. -/
theorem Reorders.matched (h : Reorders offered others) (hm : Matched registered offered c m) :
    Matched registered others c m :=
  hm.transport (P := fun _ => True) trivial fun c d _ hnamed hbefore =>
    ⟨trivial, (h.keeps c hbefore.mem.2 d hbefore.mem.1 hnamed).1 hbefore⟩

end

/-! ## The matches of a section -/

/-- The matches found are those of the chains of some codecs. -/
def Found.FollowsChains (found : Found) (registered offered : List Codec) : Prop :=
  ∀ (tier : Tier) (m : Match), m ∈ found.ofTier tier ↔
    ∃ c ∈ offered, m.remoteType = c.payloadType ∧ Matched registered offered c (m.entry, tier)

section

variable {registered offered front : List Codec} {found : Found} {z : Codec}

theorem Found.mem_ranked_iff {m : Match} {tier : Tier} :
    (m, tier) ∈ found.ranked ↔ m ∈ found.ofTier tier := by
  cases tier <;> simp [ranked, ofTier]

/-- The match that is located for a payload type is the one of the codec with that payload type. -/
theorem Found.FollowsChains.locate?_eq_some_iff (h : found.FollowsChains registered front)
    (hd : (front.map (·.payloadType)).Nodup) {remoteType localType : UInt8} {tier : Tier} :
    found.locate? remoteType = some (localType, tier) ↔
      ∃ d ∈ front, d.payloadType = remoteType ∧
        ∃ entry, Matched registered front d (entry, tier) ∧ entry.payloadType = localType := by
  have hlocated : ∀ {m : Match} {own : Tier},
      found.ranked.find? (·.1.remoteType == remoteType) = some (m, own) →
        ∃ d ∈ front, d.payloadType = remoteType ∧ Matched registered front d (m.entry, own) := by
    intro m own hfind
    have htype : m.remoteType = remoteType := by simpa using List.find?_some hfind
    obtain ⟨d, hdmem, hdtype, hm⟩ :=
      (h own m).1 (mem_ranked_iff.1 (List.mem_of_find?_eq_some hfind))
    exact ⟨d, hdmem, hdtype.symm.trans htype, hm⟩
  rw [Found.locate?_eq_some_iff]
  constructor
  · rintro ⟨m, hfind, rfl⟩
    obtain ⟨d, hdmem, hdtype, hm⟩ := hlocated hfind
    exact ⟨d, hdmem, hdtype, m.entry, hm, rfl⟩
  · rintro ⟨d, hdmem, hdtype, entry, hm, rfl⟩
    have hmatch := mem_ranked_iff.2 ((h tier ⟨d.payloadType, entry⟩).2 ⟨d, hdmem, rfl, hm⟩)
    have hfound : (found.ranked.find? (·.1.remoteType == remoteType)).isSome :=
      List.find?_isSome.2 ⟨_, hmatch, by simpa using hdtype⟩
    obtain ⟨⟨first, own⟩, hfind⟩ := Option.isSome_iff_exists.1 hfound
    -- the match that is found first belongs to the same codec, which has one match only
    obtain ⟨d', hdmem', hdtype', hm'⟩ := hlocated hfind
    obtain rfl := List.inj_on_of_nodup_map hd hdmem hdmem' (hdtype.trans hdtype'.symm)
    obtain ⟨rfl, rfl⟩ : entry = first.entry ∧ tier = own := by simpa using hm.unique hd hm'
    exact ⟨first, hfind, rfl⟩

/-- Behind the matches of the others, the last codec is matched by its chain. -/
theorem Found.FollowsChains.matchCodec_eq_some_iff (h : found.FollowsChains registered front)
    (hd : (front.map (·.payloadType)).Nodup) (hz : z ∉ front) {m : Codec × Tier} :
    (matchCodec registered found z).result = .ok (some m) ↔
      Matched registered (front ++ [z]) z m := by
  obtain ⟨entry, tier⟩ := m
  rw [MediaNegotiation.matchCodec_eq_some_iff]
  constructor
  · rintro ⟨_, _, hnamed | ⟨hnamed, hlocated⟩, hm⟩
    · exact .alone hnamed hm
    · obtain ⟨d, hdmem, rfl, entry, hchain, rfl⟩ := (h.locate?_eq_some_iff hd).1 hlocated
      exact .behind hnamed (precedes_concat_iff.2 (.inr ⟨rfl, hdmem⟩))
        ((matched_concat_iff hz hdmem).2 hchain) hm
  · rintro (⟨hnamed, hm⟩ | @⟨_, d, other, bound, _, hnamed, hbefore, hchain, hm⟩)
    · exact ⟨_, _, .alone hnamed, hm⟩
    · have hdmem : d ∈ front := by
        rcases precedes_concat_iff.1 hbefore with hfront | ⟨-, hdmem⟩
        · exact hfront.mem.1
        · exact hdmem
      have hlocated := (h.locate?_eq_some_iff hd).2
        ⟨d, hdmem, rfl, other, (matched_concat_iff hz hdmem).1 hchain, rfl⟩
      exact ⟨_, _, .behind hnamed hlocated, hm⟩

/-- The matches of a section are those of the others and the one of its last codec. -/
theorem mem_ofTier_concat_iff (hread : (matchCodecs registered {} front).fault = none)
    {tier : Tier} {m : Match} :
    m ∈ (matchCodecs registered {} (front ++ [z])).found.ofTier tier ↔
      m ∈ (matchCodecs registered {} front).found.ofTier tier ∨
        (m.remoteType = z.payloadType ∧
          (matchCodec registered (matchCodecs registered {} front).found z).result =
            .ok (some (m.entry, tier))) := by
  rw [found_matchCodecs_concat z hread]
  cases (matchCodec registered (matchCodecs registered {} front).found z).result with
  | error fault => simp [Except.toOption]
  | ok found? =>
    cases found? with
    | none => simp [Except.toOption]
    | some made =>
      obtain ⟨entry, own⟩ := made
      obtain ⟨remoteType, other⟩ := m
      simp only [Except.toOption, Option.join_some, Found.ofTier_add]
      by_cases hown : own = tier
      · simp [hown, eq_comm]
      · simp [hown]

/-- **Chains.** In a section that can be read and whose payload types are distinct, the matches are
those of the chains of its codecs. -/
theorem followsChains_matchCodecs (hread : (matchCodecs registered {} offered).fault = none)
    (hd : (offered.map (·.payloadType)).Nodup) :
    (matchCodecs registered {} offered).found.FollowsChains registered offered := by
  induction offered using List.reverseRecOn with
  | nil => intro tier m; cases tier <;> simp [matchCodecs, Found.ofTier]
  | append_singleton front z ih =>
    obtain ⟨hfront, hz⟩ := nodup_keys_concat hd
    have hread' := matchCodecs_fault_of_append hread
    have hchains := ih hread' hfront
    intro tier m
    rw [mem_ofTier_concat_iff hread', hchains tier m, hchains.matchCodec_eq_some_iff hfront hz]
    constructor
    · rintro (⟨c, hc, htype, hm⟩ | ⟨htype, hm⟩)
      · exact ⟨c, List.mem_append_left _ hc, htype, (matched_concat_iff hz hc).2 hm⟩
      · exact ⟨z, by simp, htype, hm⟩
    · rintro ⟨c, hc, htype, hm⟩
      rcases List.mem_append.1 hc with hc | hc
      · exact .inl ⟨c, hc, htype, (matched_concat_iff hz hc).1 hm⟩
      · obtain rfl := List.mem_singleton.1 hc
        exact .inr ⟨htype, hm⟩

/-- The entries of a tier are those of the chains of the codecs. -/
theorem mem_entriesOf_iff (hread : (matchCodecs registered {} offered).fault = none)
    (hd : (offered.map (·.payloadType)).Nodup) {tier : Tier} {entry : Codec} :
    entry ∈ entriesOf registered offered tier ↔
      ∃ c ∈ offered, Matched registered offered c (entry, tier) := by
  have hchains := followsChains_matchCodecs hread hd
  rw [← entries_matchCodecs hread, List.mem_map]
  constructor
  · rintro ⟨m, hm, rfl⟩
    obtain ⟨c, hc, -, hmatched⟩ := (hchains tier m).1 hm
    exact ⟨c, hc, hmatched⟩
  · rintro ⟨c, hc, hmatched⟩
    exact ⟨⟨c.payloadType, entry⟩, (hchains tier _).2 ⟨c, hc, rfl, hmatched⟩, rfl⟩

end

/-! ## Reordered sections -/

section

variable {registered offered others : List Codec}

theorem Reorders.fault_eq_none (h : Reorders offered others)
    (hread : (matchCodecs registered {} offered).fault = none) :
    (matchCodecs registered {} others).fault = none := by
  rw [← Option.not_isSome_iff_eq_none, matchCodecs_fault_isSome_iff] at hread ⊢
  rintro ⟨c, hc, hfault⟩
  exact hread ⟨c, h.perm.mem_iff.2 hc, hfault⟩

theorem Reorders.mem_entriesOf_iff (h : Reorders offered others)
    (hread : (matchCodecs registered {} offered).fault = none)
    (hd : (offered.map (·.payloadType)).Nodup) {tier : Tier} {entry : Codec} :
    entry ∈ entriesOf registered offered tier ↔ entry ∈ entriesOf registered others tier := by
  have hd' : (others.map (·.payloadType)).Nodup := (h.perm.map _).nodup_iff.1 hd
  rw [MediaNegotiation.mem_entriesOf_iff hread hd,
    MediaNegotiation.mem_entriesOf_iff (h.fault_eq_none hread) hd']
  constructor
  · rintro ⟨c, hc, hm⟩
    exact ⟨c, h.perm.mem_iff.1 hc, h.matched hm⟩
  · rintro ⟨c, hc, hm⟩
    exact ⟨c, h.perm.mem_iff.2 hc, h.symm.matched hm⟩

/-- A section commits the same entries in either order. -/
theorem mem_committed_of_reorders (h : Reorders offered others)
    (hread : (matchCodecs registered {} offered).fault = none)
    (hd : (offered.map (·.payloadType)).Nodup) {entry : Codec} :
    entry ∈ committed registered offered ↔ entry ∈ committed registered others := by
  have hempty :
      entriesOf registered offered .exact = [] ↔ entriesOf registered others .exact = [] := by
    simp only [List.eq_nil_iff_forall_not_mem, h.mem_entriesOf_iff hread hd]
  unfold committed
  by_cases hexact : entriesOf registered offered .exact = []
  · rw [if_neg (not_not_intro hexact), if_neg (not_not_intro (hempty.1 hexact))]
    exact h.mem_entriesOf_iff hread hd
  · rw [if_pos hexact, if_pos fun hnil => hexact (hempty.2 hnil)]
    exact h.mem_entriesOf_iff hread hd

end

section

variable {e : Engine} {s : Negotiated} {kind : MediaKind} {r : RemoteSection} {others : List Codec}

theorem Reorders.malformed_iff (h : Reorders r.codecs others) :
    r.Malformed ↔ RemoteSection.Malformed { r with codecs := others } :=
  exists_congr fun _ => and_congr_left fun _ => h.perm.mem_iff

/-- The payload types that are held after a section whose codecs are looked at. -/
theorem mem_payloadTypes_applySection (hkind : MediaKind.ofText? r.media = some kind)
    (hlooked : s.hasKind kind = true → e.multi = true)
    (hd : ((s.codecsOf kind).map (·.payloadType)).Nodup) (hr : ¬ r.Malformed) {t : UInt8} :
    t ∈ ((applySection e s r).negotiated.codecsOf kind).map (·.payloadType) ↔
      t ∈ (s.codecsOf kind).map (·.payloadType) ∨
        t ∈ (committed (e.registered.get kind) r.codecs).map (·.payloadType) := by
  rw [Negotiated.codecsOf, (codecs_applySection hkind hlooked hd hr).1, Option.getD_some,
    mem_payloadTypes_firstFree]

/-- A section leaves the same payload types held in either order. -/
theorem Reorders.mem_payloadTypes_applySection_iff (h : Reorders r.codecs others)
    (hkind : MediaKind.ofText? r.media = some kind)
    (hheld : ((s.codecsOf kind).map (·.payloadType)).Nodup)
    (hd : (r.codecs.map (·.payloadType)).Nodup) (hread : (applySection e s r).fault = none)
    {t : UInt8} :
    t ∈ ((applySection e s r).negotiated.codecsOf kind).map (·.payloadType) ↔
      t ∈ ((applySection e s { r with codecs := others }).negotiated.codecsOf kind).map
        (·.payloadType) := by
  by_cases hlooked : s.hasKind kind = true → e.multi = true
  · have hr : ¬ r.Malformed := fun hmalformed => by
      have hstops := applySection_fault_isSome_iff.2 ⟨hmalformed, kind, hkind, hlooked⟩
      simp [hread] at hstops
    rw [mem_payloadTypes_applySection hkind hlooked hheld hr,
      mem_payloadTypes_applySection (r := { r with codecs := others }) hkind hlooked hheld
        (h.malformed_iff.not.1 hr)]
    refine or_congr_right ?_
    simp only [List.mem_map, mem_committed_of_reorders h (matchCodecs_fault_of_wellFormed hr) hd]
  · -- the codecs of the section are not looked at
    obtain ⟨hk, hm⟩ : s.hasKind kind = true ∧ e.multi = false := by simpa using hlooked
    rw [applySection_closed hkind hk hm,
      applySection_closed (r := { r with codecs := others }) hkind hk hm]

end

/-- **The order of a section.** Update any reachable engine with a section of distinct payload
types, or with the same codecs in another order that keeps each pair of a codec and the one whose
payload type it names. Either both updates fail on a number or neither does, and if neither does,
the same payload types are negotiated for the kind. -/
theorem update_of_reordered {e : Engine} (he : e.Reachable) {r : RemoteSection} {kind : MediaKind}
    (hkind : MediaKind.ofText? r.media = some kind) (hd : (r.codecs.map (·.payloadType)).Nodup)
    {others : List Codec} (h : Reorders r.codecs others) :
    ((∃ fault, (e.update [r]).2 = .error (.numeral fault)) ↔
        ∃ fault, (e.update [{ r with codecs := others }]).2 = .error (.numeral fault)) ∧
      ((∀ fault, (e.update [r]).2 ≠ .error (.numeral fault)) →
        ∀ t, t ∈ ((e.update [r]).1.negotiated.codecsOf kind).map (·.payloadType) ↔
          t ∈ ((e.update [{ r with codecs := others }]).1.negotiated.codecsOf kind).map
            (·.payloadType)) := by
  have hground : e.Grounded := kept_grounded.reachable grounded_new he
  constructor
  · simp only [update_eq_numeral_iff, (applySections_singleton _ _ _).2]
    rw [← Option.isSome_iff_exists, ← Option.isSome_iff_exists, applySection_fault_isSome_iff,
      applySection_fault_isSome_iff, h.malformed_iff]
  · intro hread t
    rw [update_ne_numeral_iff, (applySections_singleton _ _ _).2] at hread
    show t ∈ ((applySections e e.negotiated [r]).negotiated.codecsOf kind).map _ ↔
      t ∈ ((applySections e e.negotiated [_]).negotiated.codecsOf kind).map _
    rw [(applySections_singleton _ _ _).1, (applySections_singleton _ _ _).1]
    exact h.mem_payloadTypes_applySection_iff hkind (hground.negotiated kind) hd hread

namespace Preference

/-- A codec that retransmits the one its line names. -/
def rtx (line : String) (payloadType : UInt8) (statsId : StatsId) : Codec :=
  ⟨Mime.rtx, 90000, 0, line, [], payloadType, statsId⟩

def engine : Engine := (Bench.run {} [
  .registerCodec .video (Takeover.codec Mime.vp8 0 96 (.given "")),
  .registerCodec .video (rtx "apt=96" 97 (.given "")),
  .registerCodec .video (Takeover.codec Mime.vp9 90000 98 (.given ""))]).engine

/-- A section with two codecs for one registered codec, the first of which can be retransmitted. -/
def offer : RemoteSection where
  media := "video"
  codecs := [
    Takeover.codec Mime.vp9 90000 35 (.given ""),
    Takeover.codec Mime.vp8 90000 36 (.given ""),
    rtx "apt=36" 37 (.given ""),
    Takeover.codec Mime.vp8 48000 38 (.given "")]

/-- The same codecs by another preference. -/
def others : List Codec := [
  Takeover.codec Mime.vp8 48000 38 (.given ""),
  Takeover.codec Mime.vp8 90000 36 (.given ""),
  rtx "apt=36" 37 (.given ""),
  Takeover.codec Mime.vp9 90000 35 (.given "")]

end Preference

/-- By another preference another codec is taken over, under a payload type that is negotiated in
either case. -/
theorem update_of_reordered_preference :
    (Preference.engine.update [Preference.offer]).1.negotiated.codecsOf .video =
        [Takeover.codec Mime.vp9 90000 98 (.issued 2), Takeover.codec Mime.vp8 90000 96 (.issued 0),
          Preference.rtx "apt=96" 97 (.issued 1)] ∧
      (Preference.engine.update
          [{ Preference.offer with codecs := Preference.others }]).1.negotiated.codecsOf .video =
        [Takeover.codec Mime.vp8 48000 96 (.issued 0), Preference.rtx "apt=96" 97 (.issued 1),
          Takeover.codec Mime.vp9 90000 98 (.issued 2)] ∧
      ∀ t, t ∈ ((Preference.engine.update
          [Preference.offer]).1.negotiated.codecsOf .video).map (·.payloadType) ↔
        t ∈ ((Preference.engine.update [{ Preference.offer with
          codecs := Preference.others }]).1.negotiated.codecsOf .video).map (·.payloadType) := by
  have hkind : MediaKind.ofText? Preference.offer.media = some .video :=
    MediaKind.ofText?_text .video
  have hreorders : Reorders Preference.offer.codecs Preference.others := by decide +kernel
  obtain ⟨-, hsame⟩ := update_of_reordered (e := Preference.engine) ⟨0, _, rfl⟩ hkind
    (by decide +kernel) hreorders
  exact ⟨by decide +kernel, by decide +kernel,
    hsame (update_ne_numeral_iff.2 (by decide +kernel))⟩

end MediaNegotiation
