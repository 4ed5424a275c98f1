import Mathlib.Data.List.Forall2
import MediaNegotiation.Proofs.Negotiation.Answering

/-!
# Codecs up to spelling

One codec can be written in many ways: the MIME type in any letter case, the parameters in any
order, with blanks, with repetitions and with empty segments. Matching reads these texts in several
ways. It folds the case of MIME types, looks parameters up by key, and rewrites the text of a
parameter line that names an associated payload type. All of them see no more of a codec than what
its spellings have in common.

Results:
* `Respells.sameFormat`, `Respells.compatible`, `respells_associated`: what comparisons see of a
  codec.
* `Respells.retarget`: two spellings of a codec stay so when they are pointed at another payload
  type.
* `matchedAlike_matchCodec`: two spellings of a codec are matched alike.
* `respells_matchCodecs`: so are two spellings of all codecs of a section.
-/

namespace MediaNegotiation

/-! ## Spellings of a codec -/

/-- Two entries of one codec that differ at most in how the MIME type and the parameter line are
written. -/
structure Codec.Respells (c d : Codec) : Prop where
  mime : Text.sameSpelling c.mime d.mime = true
  parameters : Parameters.ofLine c.fmtp = Parameters.ofLine d.fmtp
  clockRate : c.clockRate = d.clockRate
  channels : c.channels = d.channels
  feedback : c.feedback = d.feedback
  payloadType : c.payloadType = d.payloadType
  statsId : c.statsId = d.statsId

namespace Codec.Respells

variable {c d held other : Codec}

theorem refl (c : Codec) : c.Respells c := ⟨Text.sameSpelling_refl _, rfl, rfl, rfl, rfl, rfl, rfl⟩

/-- Whether two codecs share a format does not depend on how they are spelled. -/
theorem sameFormat (hheld : held.Respells other) (h : c.Respells d) :
    held.sameFormat c = other.sameFormat d := by
  unfold Codec.sameFormat
  rw [Text.sameSpelling_congr hheld.mime h.mime, hheld.clockRate, h.clockRate, hheld.channels,
    h.channels]

theorem sameCodec (hheld : held.Respells other) (h : c.Respells d) :
    held.sameCodec c = other.sameCodec d := by
  rw [Codec.sameCodec, Codec.sameCodec, hheld.sameFormat h, hheld.payloadType, h.payloadType]

/-- What a format is compatible with does not depend on how its codec is spelled. -/
theorem compatible (h : c.Respells d) (f : Format) :
    (Format.ofCodec c).compatible f = (Format.ofCodec d).compatible f := by
  have hname : ∀ name, Text.sameSpelling c.mime name = Text.sameSpelling d.mime name :=
    fun name => Text.sameSpelling_congr h.mime (Text.sameSpelling_refl name)
  unfold Format.ofCodec Format.read
  simp only [hname, h.parameters, h.clockRate, h.channels]
  -- the families look at parameters alone, and the other formats at the folded MIME type
  split_ifs
  · rfl
  · rfl
  · rfl
  · cases f <;> simp [Format.compatible, hname]

end Codec.Respells

section

variable {c d : Codec}

/-- Two spellings of a codec name the same associated payload type. -/
theorem respells_associated (h : c.Respells d) : associated c = associated d := by
  unfold associated Format.parameter? Format.ofCodec
  rw [Format.parameters_read, Format.parameters_read, h.parameters]

/-- Two spellings of a codec that belongs to another one stay so when they are pointed at the local
payload type of that one. -/
theorem Codec.Respells.retarget (h : c.Respells d) {apt : UInt8}
    (hc : associated c = .ok (some apt)) (localType : UInt8) :
    Codec.Respells { c with fmtp := Parameters.retargetApt c.fmtp localType }
      { d with fmtp := Parameters.retargetApt d.fmtp localType } := by
  have hd : associated d = .ok (some apt) := respells_associated h ▸ hc
  refine { h with parameters := ?_ }
  rw [ofLine_retarget hc, ofLine_retarget hd, h.parameters]

end

/-! ## Lists of spellings -/

/-- Lists that are related entry by entry have related first hits of a search that related entries
answer alike. -/
theorem rel_find? {α β : Type} {R : α → β → Prop} {p : α → Bool} {q : β → Bool} {l : List α}
    {m : List β} (h : List.Forall₂ R l m) (hpq : ∀ a b, R a b → p a = q b) :
    Option.Rel R (l.find? p) (m.find? q) := by
  induction h with
  | nil => exact .none
  | @cons a b l m hab _ ih =>
    rw [List.find?_cons, List.find?_cons, hpq a b hab]
    cases q b with
    | true => exact .some hab
    | false => exact ih

/-- The codecs found for a payload type in two spellings of a list are two spellings. -/
theorem respells_find? {codecs others : List Codec} (h : List.Forall₂ Codec.Respells codecs others)
    {a b : UInt8} (hab : a = b) :
    Option.Rel Codec.Respells (Codec.find? codecs a) (Codec.find? others b) :=
  rel_find? h fun c d hcd => by rw [hcd.payloadType, hab]

/-- Two matches of one codec with the same registered one, up to spelling. -/
structure Match.Respells (m n : Match) : Prop where
  remoteType : m.remoteType = n.remoteType
  entry : m.entry.Respells n.entry

/-- The same matches in the same order, up to spelling. -/
structure Found.Respells (f g : Found) : Prop where
  exact : List.Forall₂ Match.Respells f.exact g.exact
  loose : List.Forall₂ Match.Respells f.loose g.loose

namespace Found.Respells

variable {f g : Found}

theorem empty : Found.Respells {} {} := ⟨.nil, .nil⟩

theorem add (h : f.Respells g) {m n : Match} (hmn : m.Respells n) (tier : Tier) :
    (f.add m tier).Respells (g.add n tier) := by
  have hlast : List.Forall₂ Match.Respells [m] [n] := .cons hmn .nil
  cases tier with
  | exact => exact ⟨List.rel_append h.exact hlast, h.loose⟩
  | loose => exact ⟨h.exact, List.rel_append h.loose hlast⟩

/-- The match for a payload type is located alike. -/
theorem locate? (h : f.Respells g) (apt : UInt8) : f.locate? apt = g.locate? apt := by
  have hsame : ∀ m n : Match, m.Respells n →
      (m.remoteType == apt) = (n.remoteType == apt) := fun m n hmn => by rw [hmn.remoteType]
  have hexact := rel_find? h.exact hsame
  have hloose := rel_find? h.loose hsame
  unfold Found.locate?
  generalize f.exact.find? (·.remoteType == apt) = exact at hexact ⊢
  generalize g.exact.find? (·.remoteType == apt) = exact' at hexact ⊢
  generalize f.loose.find? (·.remoteType == apt) = loose at hloose ⊢
  generalize g.loose.find? (·.remoteType == apt) = loose' at hloose ⊢
  cases hexact with
  | some hmn => simp [hmn.entry.payloadType]
  | none =>
    cases hloose with
    | some hmn => simp [hmn.entry.payloadType]
    | none => rfl

/-- The matches to take over are of the same tier and the same, up to spelling. -/
theorem best? (h : f.Respells g) :
    (f.best? = none ∧ g.best? = none) ∨
      ∃ tier chosen other, f.best? = some (tier, chosen) ∧ g.best? = some (tier, other) ∧
        List.Forall₂ Match.Respells chosen other := by
  obtain ⟨exact, loose⟩ := f
  obtain ⟨exact', loose'⟩ := g
  obtain ⟨hexact, hloose⟩ := h
  cases hexact with
  | cons hm hrest => exact .inr ⟨.exact, _, _, rfl, rfl, .cons hm hrest⟩
  | nil =>
    cases hloose with
    | cons hm hrest => exact .inr ⟨.loose, _, _, rfl, rfl, .cons hm hrest⟩
    | nil => exact .inl ⟨rfl, rfl⟩

end Found.Respells

/-! ## Matching -/

/-- Two results of matching a codec that differ at most in the spelling of the entry. -/
inductive MatchedAlike : (a b : Except NumeralFault (Option (Codec × Tier))) → Prop
  | malformed (fault : NumeralFault) : MatchedAlike (.error fault) (.error fault)
  | unmatched : MatchedAlike (.ok none) (.ok none)
  | matched {c d : Codec} (h : c.Respells d) (tier : Tier) :
    MatchedAlike (.ok (some (c, tier))) (.ok (some (d, tier)))

section

variable {registered : List Codec} {c d : Codec}

/-- Two spellings of a codec have the same partner and tier. -/
theorem respells_search (h : c.Respells d) : search registered c = search registered d := by
  have hformat : ∀ r : Codec, r.sameFormat c = r.sameFormat d :=
    fun r => (Codec.Respells.refl r).sameFormat h
  unfold search
  simp only [hformat, h.compatible]

/-- The entries made from one partner for two spellings of a codec are two spellings. -/
theorem Codec.Respells.entryFor (h : c.Respells d) (partner : Codec) :
    (entryFor c partner).Respells (entryFor d partner) :=
  { h with
    feedback := by rw [MediaNegotiation.entryFor, MediaNegotiation.entryFor, h.feedback]
    payloadType := rfl
    statsId := rfl }

theorem matchedAlike_matchWithin (h : c.Respells d) (bound : Tier) :
    MatchedAlike (.ok (matchWithin registered c bound)) (.ok (matchWithin registered d bound)) := by
  unfold matchWithin
  rw [respells_search h]
  cases search registered d with
  | none => exact .unmatched
  | some best => exact .matched (h.entryFor best.1) _

/-- Two spellings of a codec are matched alike behind matches that are alike. -/
theorem matchedAlike_matchCodec (registered : List Codec) (h : c.Respells d) {f g : Found}
    (hfound : f.Respells g) :
    MatchedAlike (matchCodec registered f c).result (matchCodec registered g d).result := by
  cases hc : associated c with
  | error fault =>
    rw [matchCodec_unreadable hc, matchCodec_unreadable (respells_associated h ▸ hc)]
    exact .malformed fault
  | ok named =>
    have hd : associated d = .ok named := respells_associated h ▸ hc
    cases named with
    | none =>
      rw [matchCodec_alone hc, matchCodec_alone hd]
      exact matchedAlike_matchWithin h .exact
    | some apt =>
      cases hl : f.locate? apt with
      | none =>
        rw [matchCodec_ignored hc hl, matchCodec_ignored hd (hfound.locate? apt ▸ hl)]
        exact .unmatched
      | some located =>
        obtain ⟨localType, tier⟩ := located
        rw [matchCodec_behind hc hl, matchCodec_behind hd (hfound.locate? apt ▸ hl)]
        exact matchedAlike_matchWithin (h.retarget hc localType) tier

/-- Two spellings of the codecs of a section are stopped by the same number, and the matches up to
there are the same up to spelling. -/
theorem respells_matchCodecs (registered : List Codec) {codecs others : List Codec}
    (h : List.Forall₂ Codec.Respells codecs others) {f g : Found} (hfound : f.Respells g) :
    (matchCodecs registered f codecs).fault = (matchCodecs registered g others).fault ∧
      (matchCodecs registered f codecs).found.Respells (matchCodecs registered g others).found := by
  induction h generalizing f g with
  | nil => exact ⟨rfl, hfound⟩
  | @cons c d rest more hcd _ ih =>
    have hstep := matchedAlike_matchCodec registered hcd hfound
    rw [matchCodecs, matchCodecs]
    generalize matchCodec registered f c = first at hstep ⊢
    generalize matchCodec registered g d = second at hstep ⊢
    obtain ⟨result, log⟩ := first
    obtain ⟨result', log'⟩ := second
    cases hstep with
    | malformed fault => exact ⟨rfl, hfound⟩
    | unmatched => exact ih hfound
    | matched hentry tier => exact ih (hfound.add ⟨hcd.payloadType, hentry⟩ tier)

end

end MediaNegotiation
