import MediaNegotiation.Domain.CompositionTable
import MediaNegotiation.Text.CharRange

/-!
# Canonical composition

Characters with marks can be written as one character or as several. A text is brought to one form:
every character is taken apart, the marks that follow each other are put in the order of their
combining classes, and what can be joined is joined again. The tables cover the characters that
host names keep. It is a step of the host names that the package `url` reads.

Results:
* `mem_settle`: putting a mark in its place keeps the characters.
* `isComposed_iff`: a text is in composed form exactly when composing leaves it as it is.
-/

namespace MediaNegotiation.Domain

/-! ## Korean syllables -/

/-- The first syllable. There are 19 leading letters from U+1100, 21 vowels from U+1161 and 27
trailing letters from U+11A8, and the syllables are numbered in their order. -/
def firstSyllable : Nat := 0xAC00

/-- The two parts of a syllable: a shorter syllable and its trailing letter, or a leading letter and
a vowel. -/
def splitSyllable (n : Nat) : Option (Nat × Nat) :=
  let i := n - firstSyllable
  if n < firstSyllable ∨ 19 * 21 * 28 ≤ i then none
  else if i % 28 = 0 then some (0x1100 + i / (21 * 28), 0x1161 + i / 28 % 21)
  else some (n - i % 28, 0x11A7 + i % 28)

/-- The syllable with two given parts. -/
def joinSyllable (a b : Nat) : Option Nat :=
  let leading := a - 0x1100
  let vowel := b - 0x1161
  let i := a - firstSyllable
  if 0x1100 ≤ a ∧ leading < 19 ∧ 0x1161 ≤ b ∧ vowel < 21 then
    some (firstSyllable + (leading * 21 + vowel) * 28)
  else if firstSyllable ≤ a ∧ i < 19 * 21 * 28 ∧ i % 28 = 0 ∧ 0x11A8 ≤ b ∧ b < 0x11C3 then
    some (a + (b - 0x11A7))
  else none

/-! ## Taking apart -/

/-- The combining class of a character; zero for all that are not marks. -/
def combiningClass (c : Char) : Nat :=
  match combiningClasses.find? fun entry => Text.inRanges entry.2 c with
  | some (k, _) => k
  | none => 0

/-- The two characters that a character is made of. -/
def split? (c : Char) : Option (Char × Char) :=
  match splitSyllable c.toNat with
  | some (a, b) => some (Char.ofNat a, Char.ofNat b)
  | none =>
    match pairs.lookup c.toNat with
    | some [a, b] => some (Char.ofNat a, Char.ofNat b)
    | _ => none

/-- Takes a character apart, and its first part again, up to `depth` times. -/
def takeApart : (depth : Nat) → Char → List Char
  | 0, c => [c]
  | depth + 1, c =>
    match split? c with
    | some (a, b) => takeApart depth a ++ [b]
    | none => [c]

/-- Puts a mark behind the marks of its own and of lower classes; `s` is given in reverse. -/
def settle (c : Char) : (s : List Char) → List Char
  | [] => [c]
  | d :: rest =>
    if combiningClass c < combiningClass d then d :: settle c rest else c :: d :: rest

theorem mem_settle {c x : Char} {s : List Char} : x ∈ settle c s ↔ x = c ∨ x ∈ s := by
  induction s with
  | nil => simp [settle]
  | cons d rest ih =>
    unfold settle
    split
    · simp only [List.mem_cons, ih]; exact or_left_comm
    · simp

/-- The characters of a text taken apart, with marks in the order of their classes. No character of
the tables has more than three marks. -/
def decompose (s : List Char) : List Char :=
  ((s.flatMap (takeApart 4)).foldl
    (fun done c => if combiningClass c = 0 then c :: done else settle c done) []).reverse

/-! ## Joining -/

/-- The character made of two others. -/
def join? (a b : Char) : Option Char :=
  match joinSyllable a.toNat b.toNat with
  | some n => some (Char.ofNat n)
  | none =>
    match pairs.find? fun entry => entry.2 == [a.toNat, b.toNat] with
    | some (n, _) => some (Char.ofNat n)
    | none => none

/-- Whether a mark is kept from the character it follows by the last mark between them. -/
def isBlocked (between : List Char) (c : Char) : Bool :=
  match between with
  | [] => false
  | last :: _ => combiningClass c ≤ combiningClass last

/-- Joins what follows `base` with it; the marks `between` base and rest, given in reverse, could
not be joined. -/
def joinAll (base : Char) : (between rest : List Char) → List Char
  | between, [] => base :: between.reverse
  | between, c :: rest =>
    match if isBlocked between c then none else join? base c with
    | some joined => joinAll joined between rest
    | none =>
      if combiningClass c = 0 then base :: between.reverse ++ joinAll c [] rest
      else joinAll base (c :: between) rest

/-- The composed form of a text. -/
def compose (s : List Char) : List Char :=
  match decompose s with
  | [] => []
  | base :: rest => joinAll base [] rest

/-- Whether a text is in composed form. -/
def isComposed (s : List Char) : Bool := compose s == s

theorem isComposed_iff {s : List Char} : isComposed s = true ↔ compose s = s := by
  simp [isComposed]

end MediaNegotiation.Domain
