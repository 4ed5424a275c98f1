import MediaNegotiation.Domain.Label
import MediaNegotiation.Domain.Mapping
import MediaNegotiation.Domain.Punycode

/-!
# Host names

A host name is written with ASCII characters: its characters are mapped, the labels between its dots
are checked, and a label with characters above ASCII is written in Punycode behind `xn--`.

Host names are part of what the package `url` reads. The modules on labels, mapping and composition
follow the documented rules for them, so that the URL of an extension map is read as the program
reads it; no result about engines or descriptions rests on them.

Results:
* `toAscii_plain`: a plain name only loses its capitals.
* `readLabel_plain`: a label that is not marked as encoded stands for itself.
-/

namespace MediaNegotiation.Domain

/-- The mark in front of an encoded label. -/
def encodedMark : List Char := "xn--".toList

/-- Whether all characters of a text are ASCII. -/
def isAscii (s : List Char) : Bool := s.all (·.toNat < 128)

/-- Whether no host name may have an ASCII character: controls, spaces, and the marks that give a
URL its structure. -/
def isForbidden (c : Char) : Bool :=
  c.toNat ≤ 0x20 || c.toNat == 0x7F || "%#/:<>?@[\\]^|".toList.contains c

/-- The greatest number of characters that an encoded label may have behind its mark. -/
def longestEncoded : Nat := 2000

/-- The greatest number of characters in a label that has to be encoded. -/
def longestLabel : Nat := 1000

/-- Reads a label of a mapped name. An encoded one must have been worth encoding, and what it
encodes must be as mapping leaves it. -/
def readLabel (s : List Char) : Option Label :=
  if encodedMark.isPrefixOf s then
    let encoded := s.drop encodedMark.length
    if longestEncoded < encoded.length then none
    else match Punycode.decode encoded with
      | some label =>
        if !isAscii label && label.all isKept && isComposed label then some label else none
      | none => none
  else some s

/-- The written form of a label. -/
def writeLabel (label : Label) : List Char :=
  if isAscii label then label else encodedMark ++ Punycode.encode label

/-- Whether a label may stand as it is in a name that is written from left to right throughout. -/
def Label.isValid (label : Label) : Bool :=
  !label.startsWithMark && joinersFit [] label && label.all (!isForbidden ·) &&
    (isAscii label || label.length ≤ longestLabel)

/-- Whether the labels of a name may stand as they are. -/
def areValid (labels : List Label) : Bool :=
  labels.all Label.isValid &&
    (!labels.any Label.isRightToLeft || labels.all (fitsDirection ·.classes))

/-- Whether a name in small letters is made of ASCII labels that encode nothing. -/
def isPlain (name : List Char) : Bool :=
  name.all (fun c => c.toNat < 128 && !isForbidden c) &&
    !(name.splitOn '.').any encodedMark.isPrefixOf

/-- The written form of a host name. A plain name only loses its capitals. -/
def toAscii (name : List Char) : Option (List Char) :=
  let small := name.map Char.toLower
  if isPlain small then some small
  else do
    let labels ← ((← mapText name).splitOn '.').mapM readLabel
    if areValid labels then some (['.'].intercalate (labels.map writeLabel)) else none

theorem toAscii_plain {name : List Char} (h : isPlain (name.map Char.toLower) = true) :
    toAscii name = some (name.map Char.toLower) := by
  simp [toAscii, h]

theorem readLabel_plain {s : List Char} (h : encodedMark.isPrefixOf s = false) :
    readLabel s = some s := by
  simp [readLabel, h]

end MediaNegotiation.Domain
