import MediaNegotiation.Payload
import MediaNegotiation.Proofs.Format.Compatibility
import MediaNegotiation.Proofs.Negotiation.Grounding

/-!
# Packets of negotiated codecs

The MIME type of a codec decides three things by comparison with names: the payload family that lays
frames out in packets, the family of formats whose rule of compatibility holds, and whether the
codec retransmits the packets of another one. A negotiated codec has the peer's spelling of its MIME
type and the registered codec that it stands for has the owner's. All three decisions are the same
for both, because they are the same for all spellings of a text.

Results:
* `Mime.select?_eq_some_iff`: among distinct names a MIME type selects what it spells the name of.
* `PayloadFamily.ofMime_eq`, `Format.Family.ofMime_eq`: both families are selected by name.
* `Format.Family.names_spelled_alike`: a family of formats and its payload family have one name
  each, and these are spellings of one text.
* `Format.Family.ofMime_eq_iff`: the families of formats with a rule of their own have the MIME
  types of payload families.
* `Codec.packetizedAs_of_sameSpelling`: codecs with spellings of one MIME type are packetized alike.
* `packetization_run`: negotiation never changes how a payload type is packetized.
-/

namespace MediaNegotiation

/-! ## Selection by name -/

namespace Mime

variable {α : Type} {names : List (String × α)} {mime : String}

/-- What a MIME type selects among things with names: the first one whose name it spells. -/
def select? (names : List (String × α)) (mime : String) : Option α :=
  (names.find? fun named => Text.sameSpelling mime named.1).map Prod.snd

/-- Names of which no two are spellings of one text. -/
def Distinct (names : List (String × α)) : Prop :=
  names.Pairwise fun first second => Text.sameSpelling first.1 second.1 = false

/-- What a MIME type selects does not depend on how it is spelled. -/
theorem select?_congr {a b : String} (h : Text.sameSpelling a b = true) :
    select? names a = select? names b := by
  have hname : ∀ name, Text.sameSpelling a name = Text.sameSpelling b name :=
    fun name => Text.sameSpelling_congr h (Text.sameSpelling_refl name)
  unfold select?
  simp only [hname]

/-- Among distinct names a MIME type selects what it spells the name of. -/
theorem select?_eq_some_iff (hnames : Distinct names) {a : α} :
    select? names mime = some a ↔
      ∃ name, (name, a) ∈ names ∧ Text.sameSpelling mime name = true := by
  unfold select?
  rw [Option.map_eq_some_iff]
  constructor
  · rintro ⟨⟨name, b⟩, hfound, rfl⟩
    have hspells := List.find?_some hfound
    exact ⟨name, List.mem_of_find?_eq_some hfound, hspells⟩
  · rintro ⟨name, hmem, hspells⟩
    obtain ⟨front, back, rfl⟩ := List.append_of_mem hmem
    refine ⟨(name, a), ?_, rfl⟩
    rw [List.find?_eq_some_iff_append]
    refine ⟨hspells, front, back, rfl, fun other hother => ?_⟩
    -- a MIME type that spells both names would make them spellings of one text
    have hdistinct := (List.pairwise_append.1 hnames).2.2 other hother (name, a) (by simp)
    rw [Bool.not_eq_true', ← Bool.not_eq_true]
    intro hboth
    rw [Text.sameSpelling_symm] at hboth
    simp [Text.sameSpelling_trans hboth hspells] at hdistinct

end Mime

/-! ## Payload families -/

/-- The MIME types of the payload families. -/
def PayloadFamily.named : List (String × PayloadFamily) :=
  [(Mime.h264, .h264), (Mime.vp8, .vp8), (Mime.vp9, .vp9), (Mime.av1, .av1), (Mime.opus, .opus),
    (Mime.g722, .g7xx), (Mime.pcmu, .g7xx), (Mime.pcma, .g7xx), (Mime.telephoneEvent, .g7xx)]

theorem PayloadFamily.distinct_named : Mime.Distinct named := by
  unfold Mime.Distinct
  decide +kernel

/-- A MIME type has the payload family that it selects by name, if it selects one. -/
theorem PayloadFamily.ofMime_eq (mime : String) :
    ofMime mime = (Mime.select? named mime).elim (.error .noPayloader) .ok := by
  unfold ofMime Mime.select? named
  simp only [List.find?_cons]
  repeat' split
  all_goals simp_all

/-- A MIME type has a payload family exactly when it spells a name of the family. -/
theorem PayloadFamily.ofMime_eq_ok_iff {mime : String} {family : PayloadFamily} :
    ofMime mime = .ok family ↔
      ∃ name, (name, family) ∈ named ∧ Text.sameSpelling mime name = true := by
  rw [← Mime.select?_eq_some_iff distinct_named, ofMime_eq]
  cases Mime.select? named mime <;> simp

theorem PayloadFamily.ofMime_congr {a b : String} (h : Text.sameSpelling a b = true) :
    ofMime a = ofMime b := by
  rw [ofMime_eq, ofMime_eq, Mime.select?_congr h]

/-! ## Families of formats -/

namespace Format

theorem Family.distinct_named : Mime.Distinct named := by
  unfold Mime.Distinct
  decide +kernel

/-- A MIME type has the family of formats that it selects by name, and otherwise the general one. -/
theorem Family.ofMime_eq (mime : String) :
    Family.ofMime mime = (Mime.select? named mime).getD .generic := rfl

theorem Family.ofMime_congr {a b : String} (h : Text.sameSpelling a b = true) :
    Family.ofMime a = Family.ofMime b := by
  rw [Family.ofMime_eq, Family.ofMime_eq, Mime.select?_congr h]

/-- The payload family that goes with a family of formats. -/
def Family.payload? : Family → Option PayloadFamily
  | .h264 => some .h264
  | .vp9 => some .vp9
  | .av1 => some .av1
  | .generic => none

/-- A family of formats with a rule of its own and the payload family that goes with it have one
name each, and the two names are spellings of one text. -/
theorem Family.names_spelled_alike {family : Family} {payload : PayloadFamily}
    (h : family.payload? = some payload) :
    ∃ name other, (∀ n, (n, family) ∈ Family.named ↔ n = name) ∧
      (∀ n, (n, payload) ∈ PayloadFamily.named ↔ n = other) ∧
      Text.sameSpelling name other = true := by
  cases family with
  | generic => simp [payload?] at h
  | h264 =>
    obtain rfl : .h264 = payload := Option.some.inj h
    exact ⟨h264Mime, Mime.h264, by simp [Family.named], by simp [PayloadFamily.named],
      by decide +kernel⟩
  | vp9 =>
    obtain rfl : .vp9 = payload := Option.some.inj h
    exact ⟨vp9Mime, Mime.vp9, by simp [Family.named], by simp [PayloadFamily.named],
      by decide +kernel⟩
  | av1 =>
    obtain rfl : .av1 = payload := Option.some.inj h
    exact ⟨av1Mime, Mime.av1, by simp [Family.named], by simp [PayloadFamily.named],
      by decide +kernel⟩

/-- A family of formats with a rule of its own is selected exactly for one payload family. -/
theorem Family.ofMime_eq_iff {mime : String} {family : Family} {payload : PayloadFamily}
    (h : family.payload? = some payload) :
    Family.ofMime mime = family ↔ PayloadFamily.ofMime mime = .ok payload := by
  have hselect : Family.ofMime mime = family ↔ Mime.select? Family.named mime = some family := by
    rw [Family.ofMime_eq]
    cases Mime.select? Family.named mime with
    | some selected => simp
    | none =>
      have hne : Family.generic ≠ family := by
        rintro rfl
        simp [payload?] at h
      simp [hne]
  obtain ⟨name, other, hname, hother, hsame⟩ := Family.names_spelled_alike h
  rw [hselect, Mime.select?_eq_some_iff Family.distinct_named, PayloadFamily.ofMime_eq_ok_iff]
  simp only [hname, hother, exists_eq_left]
  rw [Text.sameSpelling_congr (Text.sameSpelling_refl mime) hsame]

end Format

/-! ## Codecs -/

/-- A codec is packetized as another one: both have the same payload family or neither has one,
their formats are compared by the same rule, and either both retransmit packets or neither does. -/
structure Codec.PacketizedAs (c d : Codec) : Prop where
  payload : PayloadFamily.ofMime c.mime = PayloadFamily.ofMime d.mime
  rule : (Format.ofCodec c).family = (Format.ofCodec d).family
  retransmits : Text.sameSpelling c.mime Mime.rtx = Text.sameSpelling d.mime Mime.rtx

theorem Codec.packetizedAs_of_sameSpelling {c d : Codec}
    (h : Text.sameSpelling c.mime d.mime = true) : c.PacketizedAs d where
  payload := PayloadFamily.ofMime_congr h
  rule := by rw [Format.family_ofCodec, Format.family_ofCodec, Format.Family.ofMime_congr h]
  retransmits := Text.sameSpelling_congr h (Text.sameSpelling_refl _)

/-- **Packetization.** The payload family of a MIME type, or the lack of one, and the family of the
formats that are read with it do not depend on its spelling. The three families of formats with a
rule of their own are selected exactly for the payload families of the same names. So after any
sequence of operations on a new engine, every negotiated codec is packetized as the one registered
codec of its kind with its payload type. -/
theorem packetization_run (serial : Nat) (commands : List Command) (kind : MediaKind) :
    (∀ a b : String, Text.sameSpelling a b = true →
      PayloadFamily.ofMime a = PayloadFamily.ofMime b ∧
        ∀ (clockRate clockRate' : UInt32) (channels channels' : UInt16) (line line' : String),
          (Format.read a clockRate channels line).family =
            (Format.read b clockRate' channels' line').family) ∧
    (∀ (mime : String) (clockRate : UInt32) (channels : UInt16) (line : String),
      let family := (Format.read mime clockRate channels line).family
      (family = .h264 ↔ PayloadFamily.ofMime mime = .ok .h264) ∧
        (family = .vp9 ↔ PayloadFamily.ofMime mime = .ok .vp9) ∧
        (family = .av1 ↔ PayloadFamily.ofMime mime = .ok .av1)) ∧
    let e := (Bench.run { serial } commands).engine
    ∀ c ∈ e.negotiated.codecsOf kind, ∃ r,
      (e.registered.get kind).filter (·.payloadType == c.payloadType) = [r] ∧
        c.PacketizedAs r := by
  refine ⟨fun a b h => ⟨PayloadFamily.ofMime_congr h, ?_⟩, ?_, ?_⟩
  · intro clockRate clockRate' channels channels' line line'
    rw [Format.family_read, Format.family_read, Format.Family.ofMime_congr h]
  · intro mime clockRate channels line family
    have hfamily : family = Format.Family.ofMime mime := Format.family_read ..
    rw [hfamily]
    exact ⟨Format.Family.ofMime_eq_iff rfl, Format.Family.ofMime_eq_iff rfl,
      Format.Family.ofMime_eq_iff rfl⟩
  · intro e c hc
    have hground : e.Grounded := kept_grounded.run (b := { serial }) grounded_new commands
    obtain ⟨r, hr, hstands⟩ := hground.partner kind c hc
    refine ⟨r, ?_, Codec.packetizedAs_of_sameSpelling hstands.mime⟩
    rw [hstands.payloadType]
    exact filter_of_nodup_keys (hground.registered kind) hr

/-- Spellings are not only a matter of letter case: a long s is a small s. -/
example : PayloadFamily.ofMime "AUDIO/opu\u017F" = .ok .opus := by decide +kernel

end MediaNegotiation
