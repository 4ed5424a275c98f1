import MediaNegotiation.Proofs.Negotiation.Matching

/-!
# How a codec is classified

A codec of a section is malformed, or it is left out, or it becomes an entry of one of the two
tiers. Which of the three it is, and what the entry holds, is said here for any registered codecs
and any matches found before, in terms of the lists themselves: of what the line of the codec names,
of the first match for a payload type, and of the first registered codec that reaches a tier.

Results:
* `associated_cases`: what a line names.
* `Found.locate?_eq_none_iff`, `Found.locate?_eq_some_iff`: the match that is located for a payload
  type.
* `search_eq_some_iff`: which registered codec is found, and for which tier.
* `matchCodec_classifies`: when a codec is malformed, when it is left out, and which entry of which
  tier it becomes otherwise.
-/

namespace MediaNegotiation

/-! ## Associated payload types -/

/-- The text by which a codec names a payload type as associated. -/
def Codec.apt? (c : Codec) : Option String := (Format.ofCodec c).parameter? "apt"

section

variable {c : Codec}

/-- A codec names nothing, or something that cannot be read, or a payload type. -/
theorem associated_cases (c : Codec) :
    (c.apt? = none ∧ associated c = .ok none) ∨
      ∃ text, c.apt? = some text ∧
        ((∃ fault, Numeral.readUInt8 text.toList = .error fault ∧ associated c = .error fault) ∨
          ∃ q, Numeral.readUInt8 text.toList = .ok q ∧ associated c = .ok (some q)) := by
  unfold associated Codec.apt?
  cases (Format.ofCodec c).parameter? "apt" with
  | none => exact .inl ⟨rfl, rfl⟩
  | some text =>
    refine .inr ⟨text, rfl, ?_⟩
    cases hread : Numeral.readUInt8 text.toList with
    | error fault => exact .inl ⟨fault, rfl, by simp [hread, Except.map]⟩
    | ok q => exact .inr ⟨q, rfl, by simp [hread, Except.map]⟩

/-- A codec is malformed exactly when the text by which it names a payload type is no number of
8 bits. -/
theorem associated_eq_error_iff {fault : NumeralFault} :
    associated c = .error fault ↔
      ∃ text, c.apt? = some text ∧ Numeral.readUInt8 text.toList = .error fault := by
  rcases associated_cases c with ⟨htext, h⟩ | ⟨text, htext, ⟨held, hread, h⟩ | ⟨q, hread, h⟩⟩
  · simp [htext, h]
  all_goals simp [htext, hread, h]

theorem associated_eq_none_iff : associated c = .ok none ↔ c.apt? = none := by
  rcases associated_cases c with ⟨htext, h⟩ | ⟨text, htext, ⟨held, -, h⟩ | ⟨q, -, h⟩⟩ <;>
    simp [htext, h]

theorem associated_eq_some_iff {payloadType : UInt8} :
    associated c = .ok (some payloadType) ↔
      ∃ text, c.apt? = some text ∧ Numeral.readUInt8 text.toList = .ok payloadType := by
  rcases associated_cases c with ⟨htext, h⟩ | ⟨text, htext, ⟨held, hread, h⟩ | ⟨q, hread, h⟩⟩
  · simp [htext, h]
  all_goals simp [htext, hread, h]

end

/-! ## Matches found before -/

namespace Found

/-- The matches found so far, each with its tier, the exact ones in front of the loose ones. -/
def ranked (found : Found) : List (Match × Tier) :=
  found.exact.map (·, .exact) ++ found.loose.map (·, .loose)

variable {found : Found} {remoteType : UInt8}

/-- The match that is located for a payload type is the first one of those found. -/
theorem locate?_eq_map_find? :
    found.locate? remoteType =
      (found.ranked.find? (·.1.remoteType == remoteType)).map
        fun m => (m.1.entry.payloadType, m.2) := by
  rw [locate?, ranked, List.find?_append, List.find?_map, List.find?_map]
  simp only [Function.comp_def]
  cases found.exact.find? (·.remoteType == remoteType) with
  | some m => rfl
  | none =>
    rw [Option.map_none, Option.none_or, Option.map_map]
    rfl

/-- Nothing is located for a payload type exactly when no match found is for it. -/
theorem locate?_eq_none_iff :
    found.locate? remoteType = none ↔
      ∀ m ∈ found.exact ++ found.loose, m.remoteType ≠ remoteType := by
  rw [locate?_eq_map_find?, Option.map_eq_none_iff, List.find?_eq_none]
  simp only [ranked, List.forall_mem_append, List.forall_mem_map, beq_iff_eq]

theorem locate?_eq_some_iff {localType : UInt8} {tier : Tier} :
    found.locate? remoteType = some (localType, tier) ↔
      ∃ m, found.ranked.find? (·.1.remoteType == remoteType) = some (m, tier) ∧
        m.entry.payloadType = localType := by
  rw [locate?_eq_map_find?]
  simp only [Option.map_eq_some_iff, Prod.mk.injEq, Prod.exists]
  grind

end Found

/-! ## What a codec is compared as -/

/-- The line under which a codec is compared, and the tier that bounds its own. A codec that names
no payload type is compared as it stands and without a bound. Any other one is pointed at the local
payload type of the first match for the payload type it names, and bounded by the tier of that
match. -/
inductive Codec.ComparedUnder (found : Found) (c : Codec) : String → Tier → Prop
  | own (h : c.apt? = none) : ComparedUnder found c c.fmtp .exact
  | behind {text : String} {remoteType : UInt8} {m : Match} {tier : Tier} (h : c.apt? = some text)
      (hread : Numeral.readUInt8 text.toList = .ok remoteType)
      (hfirst : found.ranked.find? (·.1.remoteType == remoteType) = some (m, tier)) :
      ComparedUnder found c (Parameters.retargetApt c.fmtp m.entry.payloadType) tier

theorem comparedAs_iff {found : Found} {c wanted : Codec} {bound : Tier} :
    ComparedAs found c wanted bound ↔
      ∃ line, c.ComparedUnder found line bound ∧ wanted = { c with fmtp := line } := by
  constructor
  · rintro (h | ⟨h, hlocated⟩)
    · exact ⟨c.fmtp, .own (associated_eq_none_iff.1 h), rfl⟩
    · obtain ⟨text, htext, hread⟩ := associated_eq_some_iff.1 h
      obtain ⟨m, hfirst, rfl⟩ := Found.locate?_eq_some_iff.1 hlocated
      exact ⟨_, .behind htext hread hfirst, rfl⟩
  · rintro ⟨line, h | ⟨htext, hread, hfirst⟩, rfl⟩
    · exact .alone (associated_eq_none_iff.2 h)
    · exact .behind (associated_eq_some_iff.2 ⟨_, htext, hread⟩)
        (Found.locate?_eq_some_iff.2 ⟨_, hfirst, rfl⟩)

/-! ## Registered codecs -/

/-- The format of a codec does not depend on its line. -/
theorem Codec.sameFormat_line (r c : Codec) (line : String) :
    r.sameFormat { c with fmtp := line } = r.sameFormat c := rfl

/-- Whether a registered codec reaches a tier for a wanted one: it has the format, and for the exact
tier its parameters are compatible too. -/
def Codec.reaches (wanted : Codec) (tier : Tier) (c : Codec) : Bool :=
  match tier with
  | .loose => c.sameFormat wanted
  | .exact => c.sameFormat wanted && (Format.ofCodec wanted).compatible (.ofCodec c)

theorem Codec.reaches_exact_iff {c r : Codec} {line : String} :
    Codec.reaches { c with fmtp := line } .exact r = true ↔ r.sameFormat c = true ∧
      (Format.ofCodec { c with fmtp := line }).compatible (.ofCodec r) = true := by
  rw [reaches, sameFormat_line, Bool.and_eq_true]

/-- The registered codec that is found is the first to reach the best tier that any of them
reaches. -/
theorem search_eq_some_iff {registered : List Codec} {wanted partner : Codec} {own : Tier} :
    search registered wanted = some (partner, own) ↔
      (own = .exact ↔ ∃ c ∈ registered, wanted.reaches .exact c = true) ∧
        registered.find? (wanted.reaches own) = some partner := by
  unfold search
  dsimp only
  cases hexact : registered.find?
      fun c => c.sameFormat wanted && (Format.ofCodec wanted).compatible (.ofCodec c) with
  | some c =>
    have hreached : ∃ d ∈ registered, wanted.reaches .exact d = true :=
      ⟨c, List.mem_of_find?_eq_some hexact, List.find?_some hexact⟩
    cases own with
    | exact =>
      have hfind : registered.find? (wanted.reaches .exact) = some c := hexact
      simp [hreached, hfind]
    | loose => simp [hreached]
  | none =>
    have hunreached : ¬ ∃ d ∈ registered, wanted.reaches .exact d = true := by
      rintro ⟨d, hd, hreaches⟩
      exact List.find?_eq_none.1 hexact d hd hreaches
    cases own with
    | exact => simp [hunreached]
    | loose =>
      have hloose : wanted.reaches .loose = (·.sameFormat wanted) := rfl
      simp [hunreached, hloose]

/-! ## The classification -/

section

variable {registered : List Codec} {found : Found} {c : Codec}

/-- A codec that can be read is left out exactly when the payload type that it names has not been
matched or when no registered codec has its format. -/
theorem matchCodec_eq_none_iff :
    (matchCodec registered found c).result = .ok none ↔
      (∀ fault, associated c ≠ .error fault) ∧
        ((∃ remoteType, associated c = .ok (some remoteType) ∧
            found.locate? remoteType = none) ∨
          ∀ r ∈ registered, r.sameFormat c = false) := by
  have hwithin : ∀ (wanted : Codec) (bound : Tier),
      matchWithin registered wanted bound = none ↔
        ∀ r ∈ registered, r.sameFormat wanted = false := by
    intro wanted bound
    rw [← Option.not_isSome_iff_eq_none, matchWithin_isSome_iff]
    simp
  cases ha : associated c with
  | error fault => simp [matchCodec_unreadable ha]
  | ok named =>
    cases named with
    | none =>
      rw [matchCodec_alone ha, Except.ok.injEq, hwithin]
      simp
    | some remoteType =>
      cases hl : found.locate? remoteType with
      | none => simp [matchCodec_ignored ha hl, hl]
      | some located =>
        rw [matchCodec_behind ha hl, Except.ok.injEq, hwithin]
        simp [hl, Codec.sameFormat_line]

end

/-- **Classification.** Match a codec with any registered codecs behind any matches found before.
It is malformed exactly when the text by which it names a payload type is no number of 8 bits. It is
left out exactly when it is not malformed and either no match found is for the payload type it names
or no registered codec has its format. In all other cases it becomes an entry: the codec under the
line that it is compared under, with the payload type and the stats id of the first registered codec
that reaches its own tier, and with those of the feedback mechanisms of that codec that it offers as
well, in their order. Its own tier is exact if and only if some registered codec of its format has
parameters that are compatible with this line, and its tier is the weaker one of its own and the
bound. -/
theorem matchCodec_classifies (registered : List Codec) (found : Found) (c : Codec) :
    let result := (matchCodec registered found c).result
    (∀ fault, result = .error fault ↔
        ∃ text, c.apt? = some text ∧ Numeral.readUInt8 text.toList = .error fault) ∧
      (result = .ok none ↔ (∀ fault, result ≠ .error fault) ∧
        ((∃ text remoteType, c.apt? = some text ∧
            Numeral.readUInt8 text.toList = .ok remoteType ∧
            ∀ m ∈ found.exact ++ found.loose, m.remoteType ≠ remoteType) ∨
          ∀ r ∈ registered, r.sameFormat c = false)) ∧
      ∀ entry tier, result = .ok (some (entry, tier)) ↔
        ∃ line bound own partner, c.ComparedUnder found line bound ∧
          (own = .exact ↔ ∃ r ∈ registered, r.sameFormat c = true ∧
            (Format.ofCodec { c with fmtp := line }).compatible (.ofCodec r) = true) ∧
          registered.find? (Codec.reaches { c with fmtp := line } own) = some partner ∧
          tier = own.weaker bound ∧
          entry = { c with
            fmtp := line
            feedback := partner.feedback.filter fun f => c.feedback.contains f
            payloadType := partner.payloadType
            statsId := partner.statsId } := by
  intro result
  refine ⟨fun fault => ?_, ?_, fun entry tier => ?_⟩
  · rw [← associated_eq_error_iff]
    exact matchCodec_eq_error_iff
  · simp only [result, Ne, matchCodec_eq_error_iff]
    rw [matchCodec_eq_none_iff]
    refine and_congr_right fun _ => or_congr_left ?_
    simp only [associated_eq_some_iff, Found.locate?_eq_none_iff]
    grind
  · simp only [result, matchCodec_eq_some_iff, comparedAs_iff, matchWithin, Option.map_eq_some_iff,
      Prod.exists, search_eq_some_iff, Prod.mk.injEq]
    constructor
    · rintro ⟨_, bound, ⟨line, hline, rfl⟩, partner, own, ⟨hown, hfirst⟩, rfl, rfl⟩
      simp only [Codec.reaches_exact_iff] at hown
      exact ⟨line, bound, own, partner, hline, hown, hfirst, rfl, rfl⟩
    · rintro ⟨line, bound, own, partner, hline, hown, hfirst, rfl, rfl⟩
      refine ⟨_, bound, ⟨line, hline, rfl⟩, partner, own, ⟨?_, hfirst⟩, rfl, rfl⟩
      simpa only [Codec.reaches_exact_iff] using hown

/-- A retransmission codec that fits a registered one exactly is no better than the loose match that
it belongs to. -/
example :
    (matchCodec [⟨Mime.rtx, 90000, 0, "apt=98", [], 99, .issued 1⟩]
        { loose := [⟨35, ⟨Mime.vp9, 90000, 0, "profile-id=2", [], 98, .issued 0⟩⟩] }
        ⟨Mime.rtx, 90000, 0, "APT = 35", [], 36, .given ""⟩).result.toOption =
      some (some (⟨Mime.rtx, 90000, 0, "apt=98", [], 99, .issued 1⟩, .loose)) := by
  decide +kernel

end MediaNegotiation
