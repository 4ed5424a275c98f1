import MediaNegotiation.Text.CharRange

/-!
# Blank characters

The characters with the Unicode property White_Space, and what depends on them: trimming a text
at both ends and dividing it into words.

Results:
* `isBlank_of_isWhitespace`: every character that the core library counts as whitespace is blank.
-/

namespace MediaNegotiation.Text

/-- The code points with the property White_Space, as closed ranges. Zero width space (U+200B),
the byte order mark (U+FEFF) and the information separators do not belong to them. -/
def blankRanges : List (Nat × Nat) := [
  (0x9, 0xD), (0x20, 0x20), (0x85, 0x85), (0xA0, 0xA0), (0x1680, 0x1680), (0x2000, 0x200A),
  (0x2028, 0x2029), (0x202F, 0x202F), (0x205F, 0x205F), (0x3000, 0x3000)]

/-- Whether a character is white space. -/
def isBlank (c : Char) : Bool := inRanges blankRanges c

/-- Removes the blank characters at the front. -/
def trimStart (s : List Char) : List Char := s.dropWhile isBlank

/-- Removes the blank characters at the end. -/
def trimEnd (s : List Char) : List Char := (s.reverse.dropWhile isBlank).reverse

/-- Removes the blank characters at both ends. -/
def trim (s : List Char) : List Char := trimEnd (trimStart s)

/-- The longest pieces without a blank character, in order. -/
def words (s : List Char) : List (List Char) := (s.splitOnP isBlank).filter (!·.isEmpty)

/-- Every character that the core library counts as whitespace is blank. -/
theorem isBlank_of_isWhitespace (c : Char) (h : c.isWhitespace) : isBlank c := by
  simp only [Char.isWhitespace, Bool.or_eq_true, decide_eq_true_eq] at h
  rcases h with (((rfl | rfl) | rfl) | rfl) <;> decide

end MediaNegotiation.Text
