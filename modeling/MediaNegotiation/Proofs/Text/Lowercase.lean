import MediaNegotiation.Text.Case

/-!
# Lowercase of ASCII words

Full lowercase knows characters above ASCII and treats a capital sigma by its neighbours, while
ASCII lowercase does neither. The two agree on which texts are lowered to a given word of small
letters, as long as the letter `k` is not in it: the Kelvin sign is the only character above ASCII
whose lowercase is a small letter. Full lowercase does not see the case of the ASCII letters of a
text, also not of those beside a sigma.

Results:
* `shiftBy_lowerRuns`: where the lowercase table takes characters above ASCII.
* `lower_ascii`: on ASCII text full lowercase is ASCII lowercase.
* `lower_eq_iff`: the same texts are lowered to a word in both ways.
* `lower_congr`: full lowercase does not depend on the case of ASCII letters.
-/

namespace MediaNegotiation.Text

/-- A small letter other than `k`. -/
def isPlainSmall (c : Char) : Bool := 97 ≤ c.toNat && c.toNat ≤ 122 && c.toNat != 107

theorem isPlainSmall_iff {c : Char} :
    isPlainSmall c = true ↔ 97 ≤ c.toNat ∧ c.toNat ≤ 122 ∧ c.toNat ≠ 107 := by
  simp [isPlainSmall, and_assoc]

/-! ## Single characters -/

/-- The lowercase table takes characters above ASCII to such characters again, or to the letter
`k`. -/
theorem shiftBy_lowerRuns {n : Nat} (h : 128 ≤ n) :
    128 ≤ shiftBy lowerRuns n ∨ shiftBy lowerRuns n = 107 := by
  have hruns : ∀ r ∈ lowerRuns,
      128 ≤ r.first + r.shift ∨ (r.first = r.last ∧ r.first + r.shift = 107) := by
    decide +kernel
  unfold shiftBy
  split
  · rename_i r hr
    have hmem := List.mem_of_find?_eq_some hr
    have hcovers := List.find?_some hr
    simp only [CaseRun.covers, Bool.and_eq_true, decide_eq_true_eq] at hcovers
    rcases hruns r hmem with hfar | ⟨hsingle, hk⟩
    · left
      omega
    · right
      omega
  · exact .inl h

theorem isPlainSmall_ofNat {n : Nat} (h : 128 ≤ n ∨ n = 107) :
    isPlainSmall (Char.ofNat n) = false := by
  rcases h with hn | rfl
  · by_cases hvalid : n.isValidChar
    · have htoNat : (Char.ofNat n).toNat = n := by
        rw [Char.ofNat, dif_pos hvalid]
        rfl
      rw [← Bool.not_eq_true, isPlainSmall_iff, htoNat]
      omega
    · rw [Char.ofNat, dif_neg hvalid]
      rfl
  · rfl

/-- The lowercase of a character above ASCII has a character that is no plain small letter. -/
theorem exists_mem_lowerChar {c : Char} (h : 128 ≤ c.toNat) :
    ∃ d ∈ lowerChar c, isPlainSmall d = false := by
  have hascii : ¬ c.toNat < 128 := by omega
  unfold lowerChar
  rw [if_neg hascii]
  split
  · exact ⟨'\u0307', by simp, rfl⟩
  · exact ⟨_, List.mem_singleton_self _, isPlainSmall_ofNat (shiftBy_lowerRuns h)⟩

/-- A character whose ASCII lowercase is in ASCII is in ASCII itself. -/
theorem toNat_lt_of_toLower {c : Char} (h : c.toLower.toNat < 128) : c.toNat < 128 := by
  unfold Char.toLower at h
  split at h
  · rename_i hupper
    have hle : c.toNat ≤ 'Z'.toNat := hupper.2
    have hz : 'Z'.toNat = 90 := rfl
    omega
  · exact h

/-! ## Texts -/

/-- On ASCII text full lowercase is ASCII lowercase. -/
theorem lower_ascii {s : List Char} (h : ∀ c ∈ s, c.toNat < 128) (before : List Char) :
    lowerAfter before s = asciiLower s := by
  induction s generalizing before with
  | nil => rfl
  | cons c rest ih =>
    rw [List.forall_mem_cons] at h
    have hsigma : ¬ c.toNat = 0x3A3 := by
      have hc := h.1
      omega
    rw [lowerAfter]
    simp only [if_neg hsigma, lowerChar, if_pos h.1]
    rw [ih h.2]
    rfl

/-- Only ASCII texts are lowered to plain small letters. -/
theorem ascii_of_lower {s : List Char} {before : List Char}
    (h : ∀ d ∈ lowerAfter before s, isPlainSmall d = true) : ∀ c ∈ s, c.toNat < 128 := by
  induction s generalizing before with
  | nil => simp
  | cons c rest ih =>
    rw [lowerAfter, List.forall_mem_append] at h
    obtain ⟨himage, hrest⟩ := h
    rw [List.forall_mem_cons]
    refine ⟨?_, ih hrest⟩
    by_cases hc : c.toNat < 128
    · exact hc
    · exfalso
      split at himage
      · split at himage
        · exact absurd (himage _ (List.mem_singleton_self _)) (by decide)
        · exact absurd (himage _ (List.mem_singleton_self _)) (by decide)
      · obtain ⟨d, hd, hplain⟩ := exists_mem_lowerChar (by omega : 128 ≤ c.toNat)
        simp [himage d hd] at hplain

/-- A word of small letters without `k` is the lowercase of the same texts in both ways. -/
theorem lower_eq_iff {s word : List Char} (hword : ∀ d ∈ word, isPlainSmall d = true) :
    lower s = word ↔ asciiLower s = word := by
  unfold lower
  constructor
  · intro h
    have hascii := ascii_of_lower (h ▸ hword)
    rw [← lower_ascii hascii [], h]
  · intro h
    have hascii : ∀ c ∈ s, c.toNat < 128 := by
      intro c hc
      have hmem : c.toLower ∈ word := h ▸ List.mem_map_of_mem hc
      have hplain := isPlainSmall_iff.1 (hword _ hmem)
      exact toNat_lt_of_toLower (by omega)
    rw [lower_ascii hascii [], h]

/-! ## Case of ASCII letters -/

/-- The capital letters of ASCII in order. -/
def capital (k : Fin 26) : Char := Char.ofNat (65 + k)

theorem exists_capital {c : Char} (h : 'A' ≤ c ∧ c ≤ 'Z') : ∃ k, capital k = c := by
  have hlow : 'A'.toNat ≤ c.toNat := h.1
  have hhigh : c.toNat ≤ 'Z'.toNat := h.2
  have ha : 'A'.toNat = 65 := rfl
  have hz : 'Z'.toNat = 90 := rfl
  have hnat : 65 + (c.toNat - 65) = c.toNat := by omega
  refine ⟨⟨c.toNat - 65, by omega⟩, ?_⟩
  rw [capital, hnat, Char.ofNat_toNat]

/-- What gives the same for each capital of ASCII and its small letter does not depend on the case
of ASCII letters. -/
theorem apply_toLower {α : Type} {f : Char → α} (h : ∀ k, f (capital k).toLower = f (capital k))
    (c : Char) : f c.toLower = f c := by
  by_cases hc : 'A' ≤ c ∧ c ≤ 'Z'
  · obtain ⟨k, rfl⟩ := exists_capital hc
    exact h k
  · have hself : c.toLower = c := by
      unfold Char.toLower
      exact dif_neg hc
    rw [hself]

theorem meetsCased_asciiLower (s : List Char) : meetsCased (asciiLower s) = meetsCased s := by
  have hignorable : inRanges caseIgnorableRanges ∘ Char.toLower = inRanges caseIgnorableRanges :=
    funext (apply_toLower (by decide +kernel))
  have hcased : ∀ c : Char, inRanges casedRanges c.toLower = inRanges casedRanges c :=
    apply_toLower (by decide +kernel)
  unfold meetsCased asciiLower
  rw [List.dropWhile_map, hignorable]
  cases s.dropWhile (inRanges caseIgnorableRanges) with
  | nil => rfl
  | cons c rest => exact hcased c

/-- Full lowercase sees ASCII letters in either case alike, also where it looks at the neighbours of
a sigma. -/
theorem lowerAfter_asciiLower (before s : List Char) :
    lowerAfter (asciiLower before) (asciiLower s) = lowerAfter before s := by
  induction s generalizing before with
  | nil => rfl
  | cons c rest ih =>
    have hsigma : (c.toLower.toNat == 0x3A3) = (c.toNat == 0x3A3) :=
      apply_toLower (f := fun d => d.toNat == 0x3A3) (by decide +kernel) c
    rw [Bool.eq_iff_iff, beq_iff_eq, beq_iff_eq] at hsigma
    have hchar : lowerChar c.toLower = lowerChar c := apply_toLower (by decide +kernel) c
    have hcons : ∀ l, asciiLower (c :: l) = c.toLower :: asciiLower l := fun _ => rfl
    rw [hcons, lowerAfter, lowerAfter, ← hcons, ih, hchar, meetsCased_asciiLower,
      meetsCased_asciiLower]
    simp only [hsigma]

/-- Full lowercase does not depend on the case of ASCII letters. -/
theorem lower_congr {s t : List Char} (h : asciiLower s = asciiLower t) : lower s = lower t := by
  have hs := lowerAfter_asciiLower [] s
  have ht := lowerAfter_asciiLower [] t
  rw [lower, lower, ← hs, h, ht]

end MediaNegotiation.Text
