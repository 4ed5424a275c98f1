import MediaNegotiation.Engine.Matching

/-!
# What matching finds

A codec of a section is compared either as it stands or, when it belongs to another codec, pointed
at the local payload type of that one. Every entry that results was made from a registered codec of
the format that was wanted.

Results:
* `matchCodec_eq_some_iff`: which entries and tiers the match of one codec gives.
* `matchCodecs_induction`: what each match of a section keeps holds of all its matches.
* `madeFrom_of_mem_matchCodecs`: every match of a section was made from a registered codec.
-/

namespace MediaNegotiation

/-! ## Tiers -/

theorem Tier.weaker_eq_exact_iff {a b : Tier} : a.weaker b = .exact ↔ a = .exact ∧ b = .exact := by
  cases a <;> cases b <;> simp [Tier.weaker]

/-! ## One codec -/

/-- What a remote codec is compared as, and the tier that bounds its own: itself, or the codec
pointed at the local payload type of the match it belongs to. -/
inductive ComparedAs (found : Found) (remote : Codec) : Codec → Tier → Prop
  | alone (h : associated remote = .ok none) : ComparedAs found remote remote .exact
  | behind {apt localType : UInt8} {tier : Tier} (h : associated remote = .ok (some apt))
      (hl : found.locate? apt = some (localType, tier)) :
      ComparedAs found remote
        { remote with fmtp := Parameters.retargetApt remote.fmtp localType } tier

/-- An entry made from one of the registered codecs, which has the format that was wanted. -/
def MadeFrom (registered : List Codec) (wanted entry : Codec) : Prop :=
  ∃ partner ∈ registered, partner.sameFormat wanted = true ∧ entry = entryFor wanted partner

theorem search_eq_some {registered : List Codec} {wanted partner : Codec} {tier : Tier}
    (h : search registered wanted = some (partner, tier)) :
    partner ∈ registered ∧ partner.sameFormat wanted = true := by
  unfold search at h
  dsimp only at h
  split at h
  · rename_i c hfind
    obtain ⟨rfl, -⟩ : c = partner ∧ Tier.exact = tier := by simpa using h
    have hs := List.find?_some hfind
    rw [Bool.and_eq_true] at hs
    exact ⟨List.mem_of_find?_eq_some hfind, hs.1⟩
  · obtain ⟨c, hfind, hc⟩ := Option.map_eq_some_iff.1 h
    obtain ⟨rfl, -⟩ : c = partner ∧ Tier.loose = tier := by simpa using hc
    exact ⟨List.mem_of_find?_eq_some hfind, by simpa using List.find?_some hfind⟩

theorem matchWithin_eq_some {registered : List Codec} {wanted entry : Codec} {bound tier : Tier}
    (h : matchWithin registered wanted bound = some (entry, tier)) :
    MadeFrom registered wanted entry ∧ (tier = .exact → bound = .exact) := by
  obtain ⟨⟨partner, own⟩, hs, he⟩ := Option.map_eq_some_iff.1 h
  obtain ⟨rfl, rfl⟩ : entryFor wanted partner = entry ∧ own.weaker bound = tier := by
    simpa using he
  have hp := search_eq_some hs
  exact ⟨⟨partner, hp.1, hp.2, rfl⟩, fun ht => (Tier.weaker_eq_exact_iff.1 ht).2⟩

/-- A codec finds a match exactly when some registered codec has its format. -/
theorem matchWithin_isSome_iff {registered : List Codec} {wanted : Codec} {bound : Tier} :
    (matchWithin registered wanted bound).isSome ↔
      ∃ c ∈ registered, c.sameFormat wanted = true := by
  rw [matchWithin, Option.isSome_map, search_isSome_iff]

section

variable {registered : List Codec} {found : Found} {remote : Codec}

theorem matchCodec_unreadable {fault : NumeralFault} (h : associated remote = .error fault) :
    (matchCodec registered found remote).result = .error fault := by
  simp [matchCodec, h]

theorem matchCodec_alone (h : associated remote = .ok none) :
    (matchCodec registered found remote).result = .ok (matchWithin registered remote .exact) := by
  simp [matchCodec, h]

theorem matchCodec_ignored {apt : UInt8} (h : associated remote = .ok (some apt))
    (hl : found.locate? apt = none) :
    (matchCodec registered found remote).result = .ok none := by
  simp [matchCodec, h, hl]

theorem matchCodec_behind {apt localType : UInt8} {tier : Tier}
    (h : associated remote = .ok (some apt)) (hl : found.locate? apt = some (localType, tier)) :
    (matchCodec registered found remote).result =
      .ok (matchWithin registered
        { remote with fmtp := Parameters.retargetApt remote.fmtp localType } tier) := by
  simp [matchCodec, h, hl]

/-- A codec of a section stops the description exactly when the payload type it names as associated
cannot be read. -/
theorem matchCodec_eq_error_iff {fault : NumeralFault} :
    (matchCodec registered found remote).result = .error fault ↔
      associated remote = .error fault := by
  constructor
  · intro h
    cases ha : associated remote with
    | error err => simpa [matchCodec_unreadable ha] using h
    | ok named =>
      cases named with
      | none => simp [matchCodec_alone ha] at h
      | some apt =>
        cases hl : found.locate? apt with
        | none => simp [matchCodec_ignored ha hl] at h
        | some located => simp [matchCodec_behind ha hl] at h
  · exact matchCodec_unreadable

/-- The entry and the tier that the match of one codec gives. -/
theorem matchCodec_eq_some_iff {entry : Codec} {tier : Tier} :
    (matchCodec registered found remote).result = .ok (some (entry, tier)) ↔
      ∃ wanted bound, ComparedAs found remote wanted bound ∧
        matchWithin registered wanted bound = some (entry, tier) := by
  constructor
  · intro h
    cases ha : associated remote with
    | error err => simp [matchCodec_unreadable ha] at h
    | ok named =>
      cases named with
      | none =>
        rw [matchCodec_alone ha, Except.ok.injEq] at h
        exact ⟨remote, .exact, .alone ha, h⟩
      | some apt =>
        cases hl : found.locate? apt with
        | none => simp [matchCodec_ignored ha hl] at h
        | some located =>
          rw [matchCodec_behind ha hl, Except.ok.injEq] at h
          exact ⟨_, located.2, .behind ha hl, h⟩
  · rintro ⟨wanted, bound, ha | ⟨ha, hl⟩, hm⟩
    · rw [matchCodec_alone ha, hm]
    · rw [matchCodec_behind ha hl, hm]

end

/-! ## The codecs of a section -/

/-- The entries found so far, of both tiers. -/
def Found.entries (found : Found) : List Codec := (found.exact ++ found.loose).map (·.entry)

theorem Found.mem_entries_add {found : Found} {m : Match} {tier : Tier} {c : Codec} :
    c ∈ (found.add m tier).entries ↔ c ∈ found.entries ∨ c = m.entry := by
  cases tier <;> simp [entries, add] <;> grind

theorem Found.mem_entries_of_best {found : Found} {tier : Tier} {chosen : List Match}
    (h : found.best? = some (tier, chosen)) {m : Match} (hm : m ∈ chosen) :
    m.entry ∈ found.entries := by
  unfold best? at h
  simp only [entries, List.map_append, List.mem_append]
  split at h
  · obtain ⟨-, rfl⟩ : Tier.exact = tier ∧ found.exact = chosen := by simpa using h
    exact Or.inl (List.mem_map_of_mem hm)
  · split at h
    · obtain ⟨-, rfl⟩ : Tier.loose = tier ∧ found.loose = chosen := by simpa using h
      exact Or.inr (List.mem_map_of_mem hm)
    · simp at h

/-- What each match of a section keeps holds of all its matches. -/
theorem matchCodecs_induction {registered : List Codec} {P : Found → Prop} {found : Found}
    (codecs : List Codec)
    (step : ∀ (before : Found) (remote wanted entry : Codec) (bound tier : Tier),
      remote ∈ codecs → P before → ComparedAs before remote wanted bound →
      MadeFrom registered wanted entry → (tier = .exact → bound = .exact) →
      P (before.add ⟨remote.payloadType, entry⟩ tier))
    (hfound : P found) : P (matchCodecs registered found codecs).found := by
  induction codecs generalizing found with
  | nil => exact hfound
  | cons remote rest ih =>
    have ih' := fun {f : Found} => @ih f fun before r wanted entry bound tier hr =>
      step before r wanted entry bound tier (List.mem_cons_of_mem _ hr)
    rw [matchCodecs]
    dsimp only
    split
    · exact hfound
    · exact ih' hfound
    · rename_i entry tier hm
      obtain ⟨wanted, bound, hw, hm⟩ := matchCodec_eq_some_iff.1 hm
      obtain ⟨hmade, hbound⟩ := matchWithin_eq_some hm
      exact ih' (step found remote wanted entry bound tier List.mem_cons_self hfound hw hmade
        hbound)

/-- Every match of a section was made from a registered codec. -/
theorem madeFrom_of_mem_matchCodecs {registered codecs : List Codec} {c : Codec}
    (h : c ∈ (matchCodecs registered {} codecs).found.entries) :
    ∃ wanted, MadeFrom registered wanted c := by
  refine matchCodecs_induction
    (P := fun found => ∀ c ∈ found.entries, ∃ wanted, MadeFrom registered wanted c) codecs ?_ ?_ c h
  · intro before remote wanted entry bound tier _ hbefore _ hmade _ c hc
    rcases Found.mem_entries_add.1 hc with hc | rfl
    · exact hbefore c hc
    · exact ⟨wanted, hmade⟩
  · simp [Found.entries]

/-- A section stops the description exactly when one of its codecs does. -/
theorem matchCodecs_fault_isSome_iff {registered : List Codec} {found : Found}
    {codecs : List Codec} :
    (matchCodecs registered found codecs).fault.isSome ↔
      ∃ c ∈ codecs, ∃ fault, associated c = .error fault := by
  induction codecs generalizing found with
  | nil => simp [matchCodecs]
  | cons remote rest ih =>
    rw [matchCodecs]
    dsimp only
    split
    · rename_i fault hm
      simp [matchCodec_eq_error_iff.1 hm]
    all_goals
      rename_i hm
      have hok : ∀ fault, associated remote ≠ .error fault := by
        intro fault hf
        rw [matchCodec_eq_error_iff.2 hf] at hm
        simp at hm
      simp [ih, hok]

end MediaNegotiation
