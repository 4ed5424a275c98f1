import MediaNegotiation.Domain.Composition
import MediaNegotiation.Domain.MappingTable

/-!
# Mapping of host names

Before a host name is divided into labels its characters are mapped: capitals become small letters,
wide, narrow and ornamental forms become plain ones, characters that cannot be seen are left out,
and characters that no host name may have make the whole name invalid. The result is brought to
composed form. The rules are those by which the package `url` reads host names.

Results:
* `mapChar_ascii`: among ASCII characters only capitals change.
* `isKept_iff`: a character is kept exactly when it is its own image.
-/

namespace MediaNegotiation.Domain

/-- What stands for a character; none for one that no host name may have. -/
def mapChar (c : Char) : Option (List Char) :=
  if c.toNat < 128 then some [c.toLower]
  else if !Text.inRanges allowedRanges c then none
  else if Text.inRanges ignoredRanges c then some []
  else match replacements.lookup c.toNat with
    | some images => some (images.map Char.ofNat)
    | none => some [c]

/-- Whether a character stands for itself. -/
def isKept (c : Char) : Bool := mapChar c == some [c]

theorem mapChar_ascii {c : Char} (h : c.toNat < 128) : mapChar c = some [c.toLower] := by
  simp [mapChar, h]

theorem isKept_iff {c : Char} : isKept c = true ↔ mapChar c = some [c] := by
  simp [isKept]

/-- The mapped text, in composed form. -/
def mapText (s : List Char) : Option (List Char) :=
  (s.mapM mapChar).map fun images => compose images.flatten

end MediaNegotiation.Domain
