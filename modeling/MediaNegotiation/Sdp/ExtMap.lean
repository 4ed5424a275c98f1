import MediaNegotiation.Sdp.Fault
import MediaNegotiation.Sdp.Session
import MediaNegotiation.Text.Blank
import MediaNegotiation.Text.Cut
import MediaNegotiation.Url.Reader

/-!
# Extension maps

The attribute that maps a header extension, named by a URL, to an id, such as
`extmap:3/sendonly urn:ietf:params:rtp-hdrext:sdes:mid`. The package `sdp` reads it, and its
documented behaviour is followed here.

Results:
* `id_readExtMap`: an id that is read lies between 1 and 246.
-/

namespace MediaNegotiation.Sdp

/-- The key of extension maps. -/
def extMapKey : String := "extmap"

/-- The first line of a text, with its line break. -/
def firstLine (text : List Char) : List Char :=
  match Text.cutAt '\n' text with
  | some (line, _) => line ++ ['\n']
  | none => text

/-- The words for the directions of an extension map, which are compared exactly. -/
def extMapDirections : List (List Char) :=
  ["sendrecv".toList, "sendonly".toList, "recvonly".toList, "inactive".toList]

/-- Reads the id of an extension map, with its direction if one is given behind a slash. -/
def readExtMapId (token : List Char) : Except Fault Int :=
  let parts := token.splitOn '/'
  let digits := parts.head?.getD []
  match Numeral.readInteger Numeral.maxInt64 digits with
  | .error fault => .error (.numeral fault)
  | .ok id =>
    if id < 1 ∨ 246 < id then
      .error (.extMap (String.ofList digits ++ " -- extmap key must be in the range 1-256"))
    else match parts with
      | [_, direction] =>
        if extMapDirections.contains direction then .ok id
        else .error (.extMap ("unknown direction from " ++ String.ofList direction))
      | _ => .ok id

/-- Reads the text of an extension map into the URL, as it is written, and the id. Only the first
line counts, and what follows the URL is ignored. The package leaves the URL optional in its record,
but every map that it reads has one: a line without a URL is malformed. -/
def readExtMap (text : String) : Except Fault (String × Int) :=
  let line := firstLine text.toList
  let malformed : Except Fault (String × Int) := .error (.extMap (String.ofList line))
  match Text.cutAt ':' (Text.trim line) with
  | none => malformed
  | some (_, value) =>
    match Text.words value with
    | token :: url :: _ =>
      match readExtMapId token with
      | .error fault => .error fault
      | .ok id =>
        match Url.read url with
        | .error fault => .error (.url fault)
        | .ok u => .ok (u.toText, id)
    | _ => malformed

theorem readExtMapId_range {token : List Char} {id : Int} (h : readExtMapId token = .ok id) :
    1 ≤ id ∧ id ≤ 246 := by
  unfold readExtMapId at h
  dsimp only at h
  split at h
  · simp at h
  · split at h
    · simp at h
    · split at h
      · split at h
        · cases h; omega
        · simp at h
      · cases h; omega

/-- An id that is read lies between 1 and 246. -/
theorem id_readExtMap {text url : String} {id : Int} (h : readExtMap text = .ok (url, id)) :
    1 ≤ id ∧ id ≤ 246 := by
  unfold readExtMap at h
  dsimp only at h
  split at h
  · simp at h
  · split at h
    · split at h
      · simp at h
      · rename_i hid
        split at h
        · simp at h
        · cases h
          exact readExtMapId_range hid
    · simp at h

end MediaNegotiation.Sdp
