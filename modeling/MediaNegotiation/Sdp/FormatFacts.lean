import MediaNegotiation.Sdp.Session
import MediaNegotiation.Text.Blank
import MediaNegotiation.Text.Cut
import MediaNegotiation.Text.Numeral

/-!
# Facts about formats

Three kinds of attributes say something about the format of a payload type: its name and rates, its
parameters, and its feedback. An attribute that cannot be read says nothing. The facts about one
payload type are merged in the order of the attributes, where the first value given holds and
feedback is collected. The package `sdp` does this, and its documented behaviour is followed here.

Results:
* `factsFor_eq_none_iff`: there are facts about a payload type exactly when a readable attribute
  mentions it.
-/

namespace MediaNegotiation.Sdp

/-- What attributes say about the format of a payload type. Empty text and the rate 0 say
nothing. -/
structure FormatFacts where
  name : String := ""
  clockRate : UInt32 := 0
  /-- Further parameters of the encoding, which for audio hold the channel count. -/
  encoding : String := ""
  fmtp : String := ""
  feedback : List String := []
  deriving DecidableEq, Repr

/-- The facts of two attributes together. -/
def FormatFacts.merge (a b : FormatFacts) : FormatFacts where
  name := if a.name = "" then b.name else a.name
  clockRate := if a.clockRate = 0 then b.clockRate else a.clockRate
  encoding := if a.encoding = "" then b.encoding else a.encoding
  fmtp := if a.fmtp = "" then b.fmtp else a.fmtp
  feedback := a.feedback ++ b.feedback

/-! ## Reading attributes -/

/-- The payload type behind the only colon of a token. -/
def payloadTypeOf? (token : List Char) : Option UInt8 :=
  match token.splitOn ':' with
  | [_, digits] => (Numeral.readUInt8 digits).toOption
  | _ => none

/-- The facts in a format name with its rate and encoding parameters, between slashes. -/
def mappingFacts? (mapping : List Char) : Option FormatFacts :=
  match mapping.splitOn '/' with
  | [] => none
  | [name] => some { name := String.ofList name }
  | name :: rate :: more =>
    match Numeral.readUInt32 rate with
    | .error _ => none
    | .ok clockRate =>
      let encoding := String.ofList (more.head?.getD [])
      some { name := String.ofList name, clockRate, encoding }

/-- Reads the text of an attribute that maps a payload type to a format. -/
def readMapping (text : List Char) : Option (UInt8 × FormatFacts) :=
  match Text.words text with
  | [token, mapping] =>
    match payloadTypeOf? token, mappingFacts? mapping with
    | some payloadType, some facts => some (payloadType, facts)
    | _, _ => none
  | _ => none

/-- Reads the text of an attribute with format parameters, which hold no blanks. -/
def readParameters (text : List Char) : Option (UInt8 × FormatFacts) :=
  match Text.words text with
  | [token, fmtp] =>
    (payloadTypeOf? token).map fun payloadType => (payloadType, { fmtp := String.ofList fmtp })
  | _ => none

/-- Reads the text of a feedback attribute; the feedback is all that follows the first space. -/
def readFeedback (text : List Char) : Option (UInt8 × FormatFacts) :=
  match Text.cutAt ' ' text with
  | some (token, feedback) =>
    (payloadTypeOf? token).map fun payloadType =>
      (payloadType, { feedback := [String.ofList feedback] })
  | none => none

/-- The payload type an attribute mentions, with what it says about it. -/
def Attribute.facts? (a : Attribute) : Option (UInt8 × FormatFacts) :=
  let text := a.text.toList
  if "rtpmap:".toList.isPrefixOf text then readMapping text
  else if "fmtp:".toList.isPrefixOf text then readParameters text
  else if "rtcp-fb:".toList.isPrefixOf text then readFeedback text
  else none

/-- All that the attributes of a media section say about a payload type. -/
def Media.factsFor (m : Media) (payloadType : UInt8) : Option FormatFacts :=
  let mentions := (m.attributes.filterMap Attribute.facts?).filter (·.1 == payloadType)
  match mentions.map (·.2) with
  | [] => none
  | first :: more => some (more.foldl FormatFacts.merge first)

/-- There are facts about a payload type exactly when a readable attribute mentions it. -/
theorem factsFor_eq_none_iff {m : Media} {payloadType : UInt8} :
    m.factsFor payloadType = none ↔
      ∀ a ∈ m.attributes, ∀ facts, a.facts? ≠ some (payloadType, facts) := by
  unfold Media.factsFor
  dsimp only
  split
  · rename_i h
    simp only [List.map_eq_nil_iff, List.filter_eq_nil_iff, List.mem_filterMap, beq_iff_eq] at h
    simp only [true_iff]
    intro a ha facts hf
    exact h _ ⟨a, ha, hf⟩ rfl
  · rename_i first more h
    simp only [reduceCtorEq, false_iff]
    intro hn
    have hm : first ∈ ((m.attributes.filterMap Attribute.facts?).filter
        (·.1 == payloadType)).map (·.2) := by simp [h]
    simp only [List.mem_map, List.mem_filter, List.mem_filterMap, beq_iff_eq] at hm
    obtain ⟨⟨pt, facts⟩, ⟨⟨a, ha, hf⟩, rfl⟩, _⟩ := hm
    exact hn a ha facts hf

end MediaNegotiation.Sdp
