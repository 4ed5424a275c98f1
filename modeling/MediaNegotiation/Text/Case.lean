import MediaNegotiation.Text.CaseTable
import MediaNegotiation.Text.CharRange

/-!
# Letter case

Three views of letter case: ASCII lowercase, full Unicode lowercase, and full case folding. Two
texts that fold to the same characters are spellings of one text; no other normalisation takes
place.

Results:
* `sameSpelling_refl`, `sameSpelling_symm`, `sameSpelling_trans`: equality under folding is an
  equivalence, because it compares images under one function.
* `sameSpelling_congr`: it does not depend on how the two texts are spelled.
* `foldChar_ascii`: on ASCII text folding is ASCII lowercase.
-/

namespace MediaNegotiation.Text

/-! ## ASCII -/

/-- A text with its ASCII capitals replaced by small letters. -/
def asciiLower (s : List Char) : List Char := s.map Char.toLower

/-- Whether two texts agree up to the case of ASCII letters. -/
def sameAscii (a b : String) : Bool := asciiLower a.toList == asciiLower b.toList

/-! ## Folding -/

/-- The full case folding of one character. -/
def foldChar (c : Char) : List Char :=
  if c.toNat < 128 then [c.toLower]
  else match foldExpansions.lookup c.toNat with
    | some images => images.map Char.ofNat
    | none => [Char.ofNat (shiftBy foldRuns c.toNat)]

/-- The full case folding of a text. -/
def fold (s : List Char) : List Char := s.flatMap foldChar

/-- Whether two texts are equal under full case folding. -/
def sameSpelling (a b : String) : Bool := fold a.toList == fold b.toList

theorem foldChar_ascii {c : Char} (h : c.toNat < 128) : foldChar c = [c.toLower] := by
  simp [foldChar, h]

theorem sameSpelling_iff {a b : String} :
    sameSpelling a b = true ↔ fold a.toList = fold b.toList := by
  simp [sameSpelling]

@[simp] theorem sameSpelling_refl (a : String) : sameSpelling a a = true := by
  simp [sameSpelling]

theorem sameSpelling_symm (a b : String) : sameSpelling a b = sameSpelling b a := by
  simp only [sameSpelling]
  exact Bool.beq_comm

theorem sameSpelling_trans {a b c : String} (hab : sameSpelling a b = true)
    (hbc : sameSpelling b c = true) : sameSpelling a c = true := by
  rw [sameSpelling_iff] at *
  exact hab.trans hbc

/-- Whether two texts are spellings of one text does not depend on how they are spelled. -/
theorem sameSpelling_congr {a b c d : String} (hab : sameSpelling a b = true)
    (hcd : sameSpelling c d = true) : sameSpelling a c = sameSpelling b d := by
  rw [sameSpelling_iff] at hab hcd
  rw [sameSpelling, sameSpelling, hab, hcd]

/-! ## Lowercase -/

/-- The lowercase of one character, away from its neighbours. -/
def lowerChar (c : Char) : List Char :=
  if c.toNat < 128 then [c.toLower]
  else if c.toNat = 0x130 then ['i', '\u0307']
  else [Char.ofNat (shiftBy lowerRuns c.toNat)]

/-- Whether the first character that is not case-ignorable exists and has case. -/
def meetsCased (s : List Char) : Bool :=
  match s.dropWhile (inRanges caseIgnorableRanges) with
  | c :: _ => inRanges casedRanges c
  | [] => false

/-- The lowercase of the text `rest` that follows `before`, whose characters are given in reverse.
A capital sigma at the end of a word takes its final form: a cased character before it and none
after it, with case-ignorable characters skipped on both sides. -/
def lowerAfter : (before rest : List Char) → List Char
  | _, [] => []
  | before, c :: rest =>
    let image :=
      if c.toNat = 0x3A3 then
        if meetsCased before && !meetsCased rest then ['\u03C2'] else ['\u03C3']
      else lowerChar c
    image ++ lowerAfter (c :: before) rest

/-- The full lowercase of a text. -/
def lower (s : List Char) : List Char := lowerAfter [] s

end MediaNegotiation.Text
