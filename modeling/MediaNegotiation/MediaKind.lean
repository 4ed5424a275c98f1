import MediaNegotiation.Error
import MediaNegotiation.Text.Case

/-!
# Media kinds

Codecs belong to one of two media kinds, and most of the state of an engine exists once for each.
Definitions cite what they model in the module `rtp_codec`, by name and lines.

Results:
* `PerKind.get_modify`: a change for one kind is seen under that kind and no other.
-/

namespace MediaNegotiation

/-- The kind of a media section and of the codecs in it (`RTPCodecType`, lines 12–18). -/
inductive MediaKind
  | audio
  | video
  deriving DecidableEq, Repr

namespace MediaKind

/-- The name of a kind (`fmt`, lines 37–43). -/
def text : MediaKind → String
  | .audio => "audio"
  | .video => "video"

/-- The kind that a media name stands for, in any ASCII case. -/
def ofText? (s : String) : Option MediaKind :=
  if Text.sameAscii s "audio" then some .audio
  else if Text.sameAscii s "video" then some .video
  else none

/-- Reads a kind; any other media name is an error (`try_from`, lines 25–33). -/
def ofText (s : String) : Except Error MediaKind :=
  match ofText? s with
  | some kind => .ok kind
  | none => .error .unknownKind

theorem ofText?_text (k : MediaKind) : ofText? k.text = some k := by
  cases k <;> decide +kernel

end MediaKind

/-- One value for each media kind. -/
structure PerKind (α : Type) where
  audio : α
  video : α
  deriving DecidableEq, Repr

namespace PerKind

variable {α : Type}

/-- The same value for both kinds. -/
def both (a : α) : PerKind α := ⟨a, a⟩

/-- The value for one kind. -/
def get (p : PerKind α) : MediaKind → α
  | .audio => p.audio
  | .video => p.video

/-- Changes the value for one kind. -/
def modify (p : PerKind α) (k : MediaKind) (f : α → α) : PerKind α :=
  match k with
  | .audio => { p with audio := f p.audio }
  | .video => { p with video := f p.video }

/-- Replaces the value for one kind. -/
def set (p : PerKind α) (k : MediaKind) (a : α) : PerKind α := p.modify k fun _ => a

@[simp] theorem get_both (a : α) (k : MediaKind) : (both a).get k = a := by
  cases k <;> rfl

theorem get_modify (p : PerKind α) (k l : MediaKind) (f : α → α) :
    (p.modify k f).get l = if l = k then f (p.get k) else p.get l := by
  cases k <;> cases l <;> simp [modify, get]

theorem get_set (p : PerKind α) (k l : MediaKind) (a : α) :
    (p.set k a).get l = if l = k then a else p.get l :=
  get_modify p k l _

theorem ext_get {p q : PerKind α} (h : ∀ k, p.get k = q.get k) : p = q := by
  cases p; cases q
  have ha := h .audio
  have hv := h .video
  simp only [get] at ha hv
  simp [ha, hv]

end PerKind

end MediaNegotiation
