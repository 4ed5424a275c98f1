import MediaNegotiation.Format.Parameters
import MediaNegotiation.Proofs.Text.Trimming

/-!
# Segments of a parameter line

A segment is a key alone, or a key and a value with the first equals sign between them. It is read
as the key in lowercase together with the value, both without the blanks around them, and a segment
with a blank key as nothing.

Results:
* `segment_cases`: a segment has no equals sign or is cut at the first one.
* `readSegment_eq`: a segment is read as its key and its value.
-/

namespace MediaNegotiation.Parameters

open Text

variable {segment key : List Char}

/-! ## Reading after a cut -/

theorem readSegment_of_cut {key value : List Char} (h : cutAt '=' segment = some (key, value)) :
    readSegment segment =
      if (trim key).isEmpty then none
      else some (String.ofList (lower (trim key)), String.ofList (trim value)) := by
  have hcut : cutAt '=' (trim segment) = some (trimStart key, trimEnd value) := by
    rw [cutAt_trim segment (by decide), h, Option.map_some]
  unfold readSegment
  simp only [hcut, trim_trimStart, trim_trimEnd]

theorem readSegment_of_uncut (h : cutAt '=' segment = none) :
    readSegment segment =
      if (trim segment).isEmpty then none else some (String.ofList (lower (trim segment)), "") := by
  have hcut : cutAt '=' (trim segment) = none := by
    rw [cutAt_trim segment (by decide), h, Option.map_none]
  unfold readSegment
  simp only [hcut]

/-! ## Keys and values -/

/-- What stands in front of the first equals sign of a segment, without blanks around it. -/
def keyText (segment : List Char) : List Char := trim (segment.takeWhile (· != '='))

/-- What stands behind the first equals sign of a segment, without blanks around it. -/
def valueText (segment : List Char) : List Char := trim ((segment.dropWhile (· != '=')).drop 1)

/-- The key of a segment in lowercase; a segment whose key is blank has none. -/
def key? (segment : List Char) : Option String :=
  if (keyText segment).isEmpty then none else some (String.ofList (lower (keyText segment)))

/-- A segment has no equals sign or is cut at the first one. -/
theorem segment_cases (segment : List Char) :
    '=' ∉ segment ∨ ∃ key value, segment = key ++ '=' :: value ∧ '=' ∉ key := by
  cases hcut : cutAt '=' segment with
  | none => exact .inl (cutAt_eq_none_iff.1 hcut)
  | some parts => exact .inr ⟨parts.1, parts.2, cutAt_eq_some_iff.1 hcut⟩

theorem forall_ne_of_not_mem (h : '=' ∉ key) : ∀ c ∈ key, (c != '=') = true := by
  intro c hc
  rw [bne_iff_ne]
  exact fun he => h (he ▸ hc)

theorem takeWhile_of_cut (h : '=' ∉ key) (value : List Char) :
    (key ++ '=' :: value).takeWhile (· != '=') = key := by
  rw [List.takeWhile_append_of_pos (forall_ne_of_not_mem h), List.takeWhile_cons_of_neg (by simp),
    List.append_nil]

theorem takeWhile_of_uncut (h : '=' ∉ key) : key.takeWhile (· != '=') = key := by
  have htake : (key ++ []).takeWhile (· != '=') = key ++ [].takeWhile (· != '=') :=
    List.takeWhile_append_of_pos (forall_ne_of_not_mem h)
  simpa using htake

theorem keyText_of_cut (h : '=' ∉ key) (value : List Char) :
    keyText (key ++ '=' :: value) = trim key := by
  rw [keyText, takeWhile_of_cut h]

theorem keyText_of_uncut (h : '=' ∉ key) : keyText key = trim key := by
  rw [keyText, takeWhile_of_uncut h]

theorem valueText_of_cut (h : '=' ∉ key) (value : List Char) :
    valueText (key ++ '=' :: value) = trim value := by
  rw [valueText, List.dropWhile_append_of_pos (forall_ne_of_not_mem h),
    List.dropWhile_cons_of_neg (by simp), List.drop_one, List.tail_cons]

theorem valueText_of_uncut (h : '=' ∉ key) : valueText key = [] := by
  have hdrop : (key ++ []).dropWhile (· != '=') = [].dropWhile (· != '=') :=
    List.dropWhile_append_of_pos (forall_ne_of_not_mem h)
  rw [List.append_nil] at hdrop
  rw [valueText, hdrop]
  rfl

/-- A segment is read as its key and its value, if it has a key. -/
theorem readSegment_eq (segment : List Char) :
    readSegment segment =
      (key? segment).map fun key => (key, String.ofList (valueText segment)) := by
  rcases segment_cases segment with huncut | ⟨key, value, rfl, hkey⟩
  · rw [readSegment_of_uncut (cutAt_eq_none_iff.2 huncut), key?, keyText_of_uncut huncut,
      valueText_of_uncut huncut]
    split <;> rfl
  · rw [readSegment_of_cut (cutAt_eq_some_iff.2 ⟨rfl, hkey⟩), key?, keyText_of_cut hkey,
      valueText_of_cut hkey]
    split <;> rfl

theorem key?_of_read {entry : String × String} (h : readSegment segment = some entry) :
    key? segment = some entry.1 := by
  rw [readSegment_eq, Option.map_eq_some_iff] at h
  obtain ⟨key, hkey, rfl⟩ := h
  exact hkey

end MediaNegotiation.Parameters
