import MediaNegotiation.Text.Blank
import MediaNegotiation.Text.Cut
import MediaNegotiation.Proofs.Text.Lowercase

/-!
# Trimming around a mark

A mark that is not blank stops trimming from both sides. So it does not matter whether a text is
trimmed before it is cut at the mark or its parts are trimmed afterwards.

Results:
* `trim_append_cons`: trimming a text with a mark trims the outer sides of its two parts.
* `trim_trimStart`, `trim_trimEnd`: trimming one side first makes no difference.
* `cutAt_trim`: a trimmed text is cut into the parts of the text, trimmed on their outer sides.
* `trim_padded`: blanks around a text do not count.
* `asciiLower_trim`: trimming and ASCII lowercase commute.
-/

namespace MediaNegotiation.Text

/-- A text of blanks only. -/
def AllBlank (s : List Char) : Prop := ∀ c ∈ s, isBlank c = true

instance (s : List Char) : Decidable (AllBlank s) := decidable_of_iff _ List.all_eq_true

variable {mark : Char} (before after s : List Char)

/-! ## One side -/

theorem trimStart_append_cons (h : isBlank mark = false) :
    trimStart (before ++ mark :: after) = trimStart before ++ mark :: after := by
  induction before with
  | nil => simp [trimStart, h]
  | cons c rest ih =>
    unfold trimStart at ih ⊢
    rw [List.cons_append, List.dropWhile_cons, List.dropWhile_cons]
    split
    · exact ih
    · rfl

theorem trimEnd_append_cons (h : isBlank mark = false) :
    trimEnd (before ++ mark :: after) = before ++ mark :: trimEnd after := by
  have hreverse := trimStart_append_cons after.reverse before.reverse h
  unfold trimStart at hreverse
  unfold trimEnd
  rw [List.reverse_append, List.reverse_cons, List.append_assoc, List.singleton_append, hreverse]
  simp

theorem trimStart_trimStart : trimStart (trimStart s) = trimStart s := by
  induction s with
  | nil => rfl
  | cons c rest ih =>
    unfold trimStart at ih ⊢
    by_cases hc : isBlank c = true
    · rw [List.dropWhile_cons_of_pos hc, ih]
    · rw [List.dropWhile_cons_of_neg hc, List.dropWhile_cons_of_neg hc]

theorem trimEnd_trimEnd : trimEnd (trimEnd s) = trimEnd s := by
  have hreverse := trimStart_trimStart s.reverse
  unfold trimStart at hreverse
  unfold trimEnd
  rw [List.reverse_reverse, hreverse]

/-- A text is blank throughout, or its first character that is not blank stands behind blank
ones. -/
theorem trimStart_cases : AllBlank s ∨
    ∃ blanks c rest, s = blanks ++ c :: rest ∧ AllBlank blanks ∧ isBlank c = false := by
  unfold AllBlank
  induction s with
  | nil => simp
  | cons c rest ih =>
    cases hc : isBlank c with
    | false => exact .inr ⟨[], c, rest, rfl, by simp, hc⟩
    | true =>
      rcases ih with hall | ⟨blanks, d, after, rfl, hblanks, hd⟩
      · exact .inl (by simpa [hc] using hall)
      · exact .inr ⟨c :: blanks, d, after, rfl, by simpa [hc] using hblanks, hd⟩

theorem trimStart_of_blank {s : List Char} (h : AllBlank s) : trimStart s = [] := by
  have hdrop : (s ++ []).dropWhile isBlank = [].dropWhile isBlank := List.dropWhile_append_of_pos h
  simpa [trimStart] using hdrop

theorem trimEnd_of_blank {s : List Char} (h : AllBlank s) : trimEnd s = [] := by
  have hreverse : trimStart s.reverse = [] :=
    trimStart_of_blank fun c hc => h c (List.mem_reverse.1 hc)
  unfold trimStart at hreverse
  unfold trimEnd
  rw [hreverse, List.reverse_nil]

/-- It does not matter which side is trimmed first. -/
theorem trimStart_trimEnd : trimStart (trimEnd s) = trimEnd (trimStart s) := by
  rcases trimStart_cases s with hall | ⟨blanks, c, rest, rfl, hblanks, hc⟩
  · rw [trimEnd_of_blank hall, trimStart_of_blank hall]
    rfl
  · have hfront := trimEnd_append_cons [] rest hc
    rw [trimEnd_append_cons _ _ hc, trimStart_append_cons _ _ hc, trimStart_append_cons _ _ hc,
      trimStart_of_blank hblanks, hfront]

/-! ## Both sides -/

/-- Trimming a text with a mark trims the outer sides of its two parts. -/
theorem trim_append_cons (h : isBlank mark = false) :
    trim (before ++ mark :: after) = trimStart before ++ mark :: trimEnd after := by
  unfold trim
  rw [trimStart_append_cons before after h, trimEnd_append_cons _ _ h]

theorem trim_trimStart : trim (trimStart s) = trim s := by
  unfold trim
  rw [trimStart_trimStart]

theorem trim_trimEnd : trim (trimEnd s) = trim s := by
  unfold trim
  rw [trimStart_trimEnd, trimEnd_trimEnd]

theorem mem_of_mem_trimStart {s : List Char} {c : Char} (h : c ∈ trimStart s) : c ∈ s :=
  List.dropWhile_subset isBlank h

theorem mem_of_mem_trim {s : List Char} {c : Char} (h : c ∈ trim s) : c ∈ s := by
  unfold trim trimEnd at h
  have hstart := List.dropWhile_subset isBlank (List.mem_reverse.1 h)
  exact mem_of_mem_trimStart (List.mem_reverse.1 hstart)

/-- A trimmed text is cut into the parts of the text, trimmed on their outer sides. -/
theorem cutAt_trim (h : isBlank mark = false) :
    cutAt mark (trim s) = (cutAt mark s).map fun parts => (trimStart parts.1, trimEnd parts.2) := by
  cases hcut : cutAt mark s with
  | none =>
    rw [Option.map_none, cutAt_eq_none_iff]
    exact fun hmem => cutAt_eq_none_iff.1 hcut (mem_of_mem_trim hmem)
  | some parts =>
    obtain ⟨front, back⟩ := parts
    obtain ⟨rfl, hfront⟩ := cutAt_eq_some_iff.1 hcut
    rw [Option.map_some, cutAt_eq_some_iff, trim_append_cons front back h]
    exact ⟨rfl, fun hmem => hfront (mem_of_mem_trimStart hmem)⟩

/-! ## Padding and case -/

theorem trim_eq_nil_iff : trim s = [] ↔ AllBlank s := by
  constructor
  · intro h
    rcases trimStart_cases s with hall | ⟨blanks, c, rest, rfl, -, hc⟩
    · exact hall
    · rw [trim_append_cons blanks rest hc] at h
      simp at h
  · intro h
    unfold trim
    rw [trimStart_of_blank h]
    rfl

variable {left right : List Char}

theorem trim_padStart (h : AllBlank left) : trim (left ++ s) = trim s := by
  unfold trim trimStart
  rw [List.dropWhile_append_of_pos h]

theorem trim_padEnd (h : AllBlank right) : trim (s ++ right) = trim s := by
  have hend : trimEnd (s ++ right) = trimEnd s := by
    unfold trimEnd
    rw [List.reverse_append, List.dropWhile_append_of_pos fun c hc => h c (List.mem_reverse.1 hc)]
  rw [← trim_trimEnd, hend, trim_trimEnd]

/-- Blanks around a text do not count. -/
theorem trim_padded (hl : AllBlank left) (hr : AllBlank right) :
    trim (left ++ s ++ right) = trim s := by
  rw [trim_padEnd _ hr, trim_padStart _ hl]

/-- Trimming and ASCII lowercase commute. -/
theorem asciiLower_trim : asciiLower (trim s) = trim (asciiLower s) := by
  have hblank : isBlank ∘ Char.toLower = isBlank := funext (apply_toLower (by decide +kernel))
  unfold trim trimEnd trimStart asciiLower
  rw [List.dropWhile_map, hblank, ← List.map_reverse, List.dropWhile_map, hblank, List.map_reverse]

end MediaNegotiation.Text
