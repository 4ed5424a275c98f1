import Std.Data.ExtTreeMap
import MediaNegotiation.Text.Blank
import MediaNegotiation.Text.Cut
import MediaNegotiation.Text.Case
import MediaNegotiation.Text.Numeral

/-!
# Format parameters

The parameters of a media format are written on one line as segments `key=value` between
semicolons. Keys are compared in lowercase, blanks around keys and values do not count, a segment
without a key is dropped, and of several segments with one key the last one holds. Definitions cite
what they model by name and lines, in the module `fmtp` unless another one is named.

Results:
* `getElem?_ofEntries`: a key has the value of the last entry that carries it.
* `intercalate_segments`: the segments of a line, joined again, are the line.
-/

namespace MediaNegotiation

/-- Parameters by key. Two parameter lines say the same exactly when these maps are equal. -/
abbrev Parameters := Std.ExtTreeMap String String

namespace Parameters

/-! ## Reading a line -/

/-- The segments of a parameter line. -/
def segments (line : String) : List (List Char) := line.toList.splitOn ';'

/-- Reads a segment: a lowercase key with its value, which is empty without an equals sign
(`parse_parameters`, lines 49–56). -/
def readSegment (segment : List Char) : Option (String × String) :=
  let trimmed := Text.trim segment
  let (key, value) := match Text.cutAt '=' trimmed with
    | some (key, value) => (Text.trim key, Text.trim value)
    | none => (trimmed, [])
  if key.isEmpty then none
  else some (String.ofList (Text.lower key), String.ofList value)

/-- The keys and values of a line in the order of its segments. -/
def entries (line : String) : List (String × String) := (segments line).filterMap readSegment

/-- The parameters with the given entries; a later entry replaces an earlier one. -/
def ofEntries (entries : List (String × String)) : Parameters :=
  entries.foldl (fun parameters entry => parameters.insert entry.1 entry.2) ∅

/-- Reads a parameter line (`parse_parameters`, lines 46–59). -/
def ofLine (line : String) : Parameters := ofEntries (entries line)

/-! ## Associated payload types -/

/-- Whether a segment names the payload type of an associated codec (`replace_apt` of
`media_engine`, lines 887–888). -/
def isApt (segment : List Char) : Bool :=
  match Text.cutAt '=' segment with
  | some (key, _) => Text.asciiLower (Text.trim key) == "apt".toList
  | none => false

/-- The segment that names a payload type as associated (`replace_apt` of `media_engine`,
line 889). -/
def aptSegment (payloadType : UInt8) : List Char := "apt=".toList ++ Numeral.write payloadType

/-- Points a line at another associated payload type and keeps the text of every other segment
(`replace_apt` of `media_engine`, lines 884–895). -/
def retargetApt (line : String) (payloadType : UInt8) : String :=
  let retargeted := (segments line).map fun segment =>
    if isApt segment then aptSegment payloadType else segment
  String.ofList ([';'].intercalate retargeted)

/-! ## Laws -/

theorem getElem?_foldl_insert (list : List (String × String)) (start : Parameters) (key : String) :
    (list.foldl (fun parameters entry => parameters.insert entry.1 entry.2) start)[key]? =
      ((list.reverse.find? (·.1 == key)).map Prod.snd).or start[key]? := by
  induction list generalizing start with
  | nil => simp
  | cons entry rest ih =>
    rw [List.foldl_cons, ih, List.reverse_cons, List.find?_append]
    cases hr : rest.reverse.find? (·.1 == key) with
    | some found => simp
    | none =>
      by_cases hk : entry.1 = key <;>
        simp [Std.ExtTreeMap.getElem?_insert, hk]

/-- A key has the value of the last entry that carries it. -/
theorem getElem?_ofEntries (list : List (String × String)) (key : String) :
    (ofEntries list)[key]? = (list.reverse.find? (·.1 == key)).map Prod.snd := by
  simp [ofEntries, getElem?_foldl_insert]

/-- The segments of a line, joined again, are the line. -/
theorem intercalate_segments (line : String) :
    [';'].intercalate (segments line) = line.toList :=
  List.intercalate_splitOn ';'

end Parameters

end MediaNegotiation
