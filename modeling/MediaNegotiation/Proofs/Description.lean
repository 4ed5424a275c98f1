import Mathlib.Data.List.Forall2
import MediaNegotiation.Description.OfSession

/-!
# Descriptions of sessions

Reading a session description goes through its items one by one: the media sections in order, and in
each of them the formats, if it describes audio or video, before the header extensions. Whether the
description can be read, what it then says and which error is reported otherwise all depend on the
items alone. The readers stop at the first fault, and there is none exactly when all items can be
read.

Results:
* `codecsOf_eq`, `extensionsOf_eq`, `ofMedia_eq`, `ofSession_eq`: every reader gives the first fault
  of its items, or else what they say.
* `Sdp.Media.faults_eq_nil_iff`: when a media section has no fault.
* `Sdp.Media.describes`: what a media section says.
* `ofSession_reads`: which descriptions can be read, what they say, and what is reported of others.
-/

namespace MediaNegotiation

/-! ## Items and their faults -/

namespace Sdp

/-- Whether a media section is one of audio or video, in any ASCII case. -/
def Media.IsRtp (m : Media) : Prop :=
  Text.sameAscii m.name "audio" = true ∨ Text.sameAscii m.name "video" = true

instance (m : Media) : Decidable m.IsRtp := inferInstanceAs (Decidable (_ ∨ _))

/-- An attribute that can be read mentions a payload type. -/
def Media.Mentions (m : Media) (payloadType : UInt8) : Prop :=
  ∃ a ∈ m.attributes, ∃ facts, a.facts? = some (payloadType, facts)

/-- A media section all items of which can be read. -/
structure Media.Readable (m : Media) : Prop where
  formats : m.IsRtp → ∀ format ∈ m.formats, ∃ payloadType,
    Numeral.readUInt8 format.toList = .ok payloadType ∧ (m.Mentions payloadType ∨ payloadType = 0)
  extensions : ∀ a ∈ m.attributes, a.key = extMapKey → ∃ x, readExtMap a.text = .ok x

/-- Why a format of a media section cannot be read. -/
def Media.formatFault? (m : Media) (format : String) : Option Error :=
  match Numeral.readUInt8 format.toList with
  | .error fault => some (.numeral fault)
  | .ok payloadType =>
    if m.factsFor payloadType = none ∧ payloadType ≠ 0 then some (.sdp .payloadTypeNotFound)
    else none

/-- Why an attribute that maps a header extension cannot be read. -/
def Attribute.extMapFault? (a : Attribute) : Option Error :=
  if a.key = extMapKey then
    match readExtMap a.text with
    | .error fault => some (.sdp fault)
    | .ok _ => none
  else none

/-- The faults of a media section, those of formats before those of header extensions. -/
def Media.faults (m : Media) : List Error :=
  (if m.IsRtp then m.formats.filterMap m.formatFault? else []) ++
    m.attributes.filterMap Attribute.extMapFault?

/-- The payload types that formats of a media section stand for, without the payload type 0 where
no attribute mentions it. -/
def Media.listed (m : Media) (formats : List String) : List UInt8 :=
  (formats.filterMap fun format => (Numeral.readUInt8 format.toList).toOption).filter
    fun payloadType => (m.factsFor payloadType).isSome || payloadType != 0

/-- The attributes of a media section that map header extensions. -/
def Media.extMaps (m : Media) : List Attribute := m.attributes.filter (·.key = extMapKey)

/-- What a readable media section says: its name; for audio and video a codec for each payload type
that it lists, with the MIME type made of the two names; and the header extensions. -/
structure Media.Describes (m : Media) (r : RemoteSection) : Prop where
  media : r.media = m.name
  codecs : m.IsRtp → List.Forall₂
    (fun payloadType c => ∃ facts, m.factsFor payloadType = some facts ∧
      c = RemoteSection.codecOf m.name payloadType facts ∧
      c.payloadType = payloadType ∧ c.mime = m.name ++ "/" ++ facts.name)
    (m.listed m.formats) r.codecs
  noCodecs : ¬ m.IsRtp → r.codecs = []
  extensions : List.Forall₂ (fun a x => readExtMap a.text = .ok x) m.extMaps r.extensions

end Sdp

/-! ## The first fault -/

/-- The first of some faults, or a value if there is none. -/
def firstFault {α : Type} (faults : List Error) (value : α) : Except Error α :=
  match faults with
  | [] => .ok value
  | err :: _ => .error err

section

variable {α β : Type} {faults : List Error} {err : Error} {value other : α}

@[simp] theorem firstFault_nil (value : α) : firstFault [] value = .ok value := rfl

@[simp] theorem firstFault_cons (err : Error) (faults : List Error) (value : α) :
    firstFault (err :: faults) value = .error err := rfl

@[simp] theorem map_firstFault (f : α → β) (faults : List Error) (value : α) :
    (firstFault faults value).map f = firstFault faults (f value) := by
  cases faults <;> rfl

theorem firstFault_eq_ok_iff :
    firstFault faults value = .ok other ↔ faults = [] ∧ value = other := by
  cases faults <;> simp

theorem firstFault_eq_error_iff :
    firstFault faults value = .error err ↔ faults.head? = some err := by
  cases faults <;> simp

end

/-! ## Readers -/

namespace RemoteSection

/-- The codec for a format of a media section. -/
def codecFor? (m : Sdp.Media) (format : String) : Option Codec :=
  (Numeral.readUInt8 format.toList).toOption.bind fun payloadType =>
    (m.factsFor payloadType).map (codecOf m.name payloadType)

/-- The header extension that an attribute maps. -/
def extensionFor? (a : Sdp.Attribute) : Option (String × Int) :=
  if a.key = Sdp.extMapKey then (Sdp.readExtMap a.text).toOption else none

theorem codecsOf_eq (m : Sdp.Media) (formats : List String) :
    codecsOf m formats =
      firstFault (formats.filterMap m.formatFault?) (formats.filterMap (codecFor? m)) := by
  induction formats with
  | nil => rfl
  | cons format rest ih =>
    rw [codecsOf]
    cases hread : Numeral.readUInt8 format.toList with
    | error fault => simp [Sdp.Media.formatFault?, hread]
    | ok payloadType =>
      cases hfacts : m.factsFor payloadType with
      | some facts =>
        simp [ih, Sdp.Media.formatFault?, codecFor?, hread, hfacts, Except.toOption]
      | none =>
        obtain rfl | hzero := eq_or_ne payloadType 0
        · simp [ih, Sdp.Media.formatFault?, codecFor?, hread, hfacts, Except.toOption]
        · simp [Sdp.Media.formatFault?, hread, hfacts, hzero]

theorem extensionsOf_eq (attributes : List Sdp.Attribute) :
    extensionsOf attributes =
      firstFault (attributes.filterMap Sdp.Attribute.extMapFault?)
        (attributes.filterMap extensionFor?) := by
  induction attributes with
  | nil => rfl
  | cons a rest ih =>
    rw [extensionsOf]
    by_cases hkey : a.key = Sdp.extMapKey
    · cases hread : Sdp.readExtMap a.text with
      | error fault => simp [Sdp.Attribute.extMapFault?, hkey, hread]
      | ok x =>
        simp [ih, Sdp.Attribute.extMapFault?, extensionFor?, hkey, hread, Except.toOption]
    · simp [ih, Sdp.Attribute.extMapFault?, extensionFor?, hkey]

/-- What the items of a media section say, those left out that cannot be read. -/
def described (m : Sdp.Media) : RemoteSection where
  media := m.name
  codecs := if m.IsRtp then m.formats.filterMap (codecFor? m) else []
  extensions := m.attributes.filterMap extensionFor?

theorem isRtp_iff {m : Sdp.Media} : m.IsRtp ↔ (MediaKind.ofText? m.name).isSome := by
  unfold Sdp.Media.IsRtp MediaKind.ofText?
  cases Text.sameAscii m.name "audio" <;> cases Text.sameAscii m.name "video" <;> simp

theorem ofMedia_eq (m : Sdp.Media) : ofMedia m = firstFault m.faults (described m) := by
  unfold ofMedia Sdp.Media.faults described
  rw [codecsOf_eq, extensionsOf_eq]
  by_cases hrtp : m.IsRtp
  · rw [if_pos (isRtp_iff.1 hrtp), if_pos hrtp, if_pos hrtp]
    cases m.formats.filterMap m.formatFault? <;> simp
  · rw [if_neg fun h => hrtp (isRtp_iff.2 h), if_neg hrtp, if_neg hrtp]
    simp

end RemoteSection

theorem RemoteDescription.ofSession_eq (s : Sdp.Session) :
    ofSession s = firstFault (s.flatMap Sdp.Media.faults) (s.map RemoteSection.described) := by
  induction s with
  | nil => rfl
  | cons m rest ih =>
    rw [ofSession, RemoteSection.ofMedia_eq, ih]
    cases hfaults : m.faults <;> simp [hfaults]

/-! ## Readable sections -/

/-- An attribute has no fault exactly when it maps no header extension or can be read. -/
theorem Sdp.Attribute.extMapFault?_eq_none_iff {a : Sdp.Attribute} :
    a.extMapFault? = none ↔ (a.key = extMapKey → ∃ x, readExtMap a.text = .ok x) := by
  unfold extMapFault?
  by_cases hkey : a.key = extMapKey
  · cases hread : readExtMap a.text <;> simp [hkey]
  · simp [hkey]

namespace Sdp.Media

variable {m : Media} {payloadType : UInt8}

theorem mentions_iff : m.Mentions payloadType ↔ (m.factsFor payloadType).isSome := by
  rw [← not_iff_not, Bool.not_eq_true, Option.isSome_eq_false_iff, Option.isNone_iff_eq_none,
    factsFor_eq_none_iff]
  simp [Mentions]

theorem formatFault?_eq_none_iff {format : String} :
    m.formatFault? format = none ↔ ∃ payloadType,
      Numeral.readUInt8 format.toList = .ok payloadType ∧
        (m.Mentions payloadType ∨ payloadType = 0) := by
  unfold formatFault?
  cases hread : Numeral.readUInt8 format.toList with
  | error fault => simp
  | ok payloadType =>
    simp only [Except.ok.injEq, exists_eq_left', mentions_iff]
    cases m.factsFor payloadType <;> simp

/-- A media section has no fault exactly when all its items can be read. -/
theorem faults_eq_nil_iff : m.faults = [] ↔ m.Readable := by
  have hformats : (if m.IsRtp then m.formats.filterMap m.formatFault? else []) = [] ↔
      (m.IsRtp → ∀ format ∈ m.formats, m.formatFault? format = none) := by
    by_cases hrtp : m.IsRtp
    · simp [hrtp, List.filterMap_eq_nil_iff]
    · simp [hrtp]
  rw [faults, List.append_eq_nil_iff, hformats, List.filterMap_eq_nil_iff]
  simp only [formatFault?_eq_none_iff, Attribute.extMapFault?_eq_none_iff]
  exact ⟨fun h => ⟨h.1, h.2⟩, fun h => ⟨h.formats, h.extensions⟩⟩

/-- Formats that can be read give a codec for each payload type that they list. -/
theorem forall₂_codecFor {formats : List String}
    (h : ∀ format ∈ formats, m.formatFault? format = none) :
    List.Forall₂
      (fun payloadType c => ∃ facts, m.factsFor payloadType = some facts ∧
        c = RemoteSection.codecOf m.name payloadType facts ∧
        c.payloadType = payloadType ∧ c.mime = m.name ++ "/" ++ facts.name)
      (m.listed formats) (formats.filterMap (RemoteSection.codecFor? m)) := by
  induction formats with
  | nil => exact List.Forall₂.nil
  | cons format rest ih =>
    rw [List.forall_mem_cons, formatFault?_eq_none_iff] at h
    obtain ⟨⟨payloadType, hread, hmentioned⟩, hrest⟩ := h
    rw [mentions_iff] at hmentioned
    have hlisted : m.listed (format :: rest) =
        if (m.factsFor payloadType).isSome then payloadType :: m.listed rest
        else m.listed rest := by
      cases hfacts : m.factsFor payloadType with
      | some facts => simp [listed, hread, hfacts, Except.toOption]
      | none =>
        obtain rfl : payloadType = 0 := by simpa [hfacts] using hmentioned
        simp [listed, hread, hfacts, Except.toOption]
    rw [hlisted]
    cases hfacts : m.factsFor payloadType with
    | some facts =>
      have hcodec : RemoteSection.codecFor? m format =
          some (RemoteSection.codecOf m.name payloadType facts) := by
        simp [RemoteSection.codecFor?, hread, hfacts, Except.toOption]
      rw [List.filterMap_cons_some hcodec, Option.isSome_some, if_pos rfl]
      exact List.Forall₂.cons ⟨facts, hfacts, rfl, rfl, rfl⟩ (ih hrest)
    | none =>
      have hcodec : RemoteSection.codecFor? m format = none := by
        simp [RemoteSection.codecFor?, hread, hfacts, Except.toOption]
      rw [List.filterMap_cons_none hcodec, Option.isSome_none, if_neg Bool.false_ne_true]
      exact ih hrest

/-- Extension maps that can be read give the extensions that they map. -/
theorem forall₂_extensionFor {attributes : List Attribute}
    (h : ∀ a ∈ attributes, a.key = extMapKey → ∃ x, readExtMap a.text = .ok x) :
    List.Forall₂ (fun a x => readExtMap a.text = .ok x)
      (attributes.filter (·.key = extMapKey))
      (attributes.filterMap RemoteSection.extensionFor?) := by
  induction attributes with
  | nil => exact List.Forall₂.nil
  | cons a rest ih =>
    rw [List.forall_mem_cons] at h
    by_cases hkey : a.key = extMapKey
    · obtain ⟨x, hread⟩ := h.1 hkey
      have hextension : RemoteSection.extensionFor? a = some x := by
        simp [RemoteSection.extensionFor?, hkey, hread, Except.toOption]
      rw [List.filter_cons_of_pos (by simpa using hkey), List.filterMap_cons_some hextension]
      exact List.Forall₂.cons hread (ih h.2)
    · have hextension : RemoteSection.extensionFor? a = none := by
        simp [RemoteSection.extensionFor?, hkey]
      rw [List.filter_cons_of_neg (by simpa using hkey), List.filterMap_cons_none hextension]
      exact ih h.2

/-- What a readable media section says. -/
theorem describes (h : m.Readable) : m.Describes (RemoteSection.described m) where
  media := rfl
  codecs hrtp := by
    rw [RemoteSection.described, if_pos hrtp]
    exact forall₂_codecFor fun format hmem =>
      formatFault?_eq_none_iff.2 (h.formats hrtp format hmem)
  noCodecs hrtp := if_neg hrtp
  extensions := forall₂_extensionFor h.extensions

end Sdp.Media

/-- **Reading descriptions.** A session description can be read exactly when every format of every
section of audio or video is a payload type that an attribute of the section mentions, or 0, and
every extension map of every section can be read. Then it has one section for each media section, in
order, which says what that one says. Otherwise the first fault is reported, where the media
sections come in order and in each of them the formats before the extension maps. -/
theorem ofSession_reads (s : Sdp.Session) :
    ((∃ d, RemoteDescription.ofSession s = .ok d) ↔ ∀ m ∈ s, m.Readable) ∧
      (∀ d, RemoteDescription.ofSession s = .ok d → List.Forall₂ Sdp.Media.Describes s d) ∧
      ∀ err, RemoteDescription.ofSession s = .error err ↔
        (s.flatMap Sdp.Media.faults).head? = some err := by
  have hreadable : s.flatMap Sdp.Media.faults = [] ↔ ∀ m ∈ s, m.Readable := by
    simp only [List.flatMap_eq_nil_iff, Sdp.Media.faults_eq_nil_iff]
  rw [RemoteDescription.ofSession_eq]
  refine ⟨?_, ?_, fun err => firstFault_eq_error_iff⟩
  · simp only [firstFault_eq_ok_iff, exists_and_left, exists_eq', and_true, hreadable]
  · intro d hd
    obtain ⟨hnone, rfl⟩ := firstFault_eq_ok_iff.1 hd
    rw [List.forall₂_map_right_iff, List.forall₂_same]
    exact fun m hm => Sdp.Media.describes (hreadable.1 hnone m hm)

/-- A section that is neither audio nor video may list what it likes, but its extension maps have
to be read, and a fault there comes before those of later sections. -/
example :
    RemoteDescription.ofSession [
      { name := "application", formats := ["webrtc"], attributes := [⟨"extmap", some "0 urn:a"⟩] },
      { name := "AUDIO", formats := ["300"] }] =
      .error (.sdp (.extMap "0 -- extmap key must be in the range 1-256")) := by
  decide +kernel

end MediaNegotiation
