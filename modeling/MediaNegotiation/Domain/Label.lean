import MediaNegotiation.Domain.Composition
import MediaNegotiation.Domain.LabelTable

/-!
# Labels of host names

A host name is a sequence of labels. A label may not begin with a mark, may hold an unseen joiner
only where the joiner has an effect, and in a name that is written from right to left in part it may
not mix directions. The rules are those by which the package `url` reads host names.

Results:
* `joinersFit_of_plain`: a label without joiners passes the joiner rule.
* `fitsDirection_of_leftToRight`: a label written from left to right throughout passes the
  direction rule.
-/

namespace MediaNegotiation.Domain

/-- A label as it is read, before it is written with ASCII characters. -/
abbrev Label := List Char

/-- Whether a character is a mark on the character in front of it. -/
def isMark (c : Char) : Bool :=
  Text.inRanges nonspacingRanges c || Text.inRanges spacingRanges c

/-- Whether a label begins with a mark. -/
def Label.startsWithMark : Label → Bool
  | [] => false
  | c :: _ => isMark c

/-! ## Joiners -/

/-- The unseen character that keeps letters from joining. -/
def nonJoiner : Char := '\u200c'

/-- The unseen character that makes letters join. -/
def joiner : Char := '\u200d'

/-- Whether joining looks through a character. -/
def isTransparent (c : Char) : Bool :=
  Text.inRanges nonspacingRanges c || Text.inRanges transparentRanges c

/-- Whether the nearest character that joining sees is a letter of some kind that joins. -/
def meetsJoining (ranges : List (Nat × Nat)) (s : List Char) : Bool :=
  match s.dropWhile isTransparent with
  | [] => false
  | c :: _ => Text.inRanges dualJoiningRanges c || Text.inRanges ranges c

/-- Whether a text, given in reverse, ends with the mark that silences a vowel. -/
def endsSilenced : List Char → Bool
  | [] => false
  | c :: _ => combiningClass c == 9

/-- Whether every joiner stands where it has an effect: behind a silenced vowel, or, for the
character that keeps letters from joining, between two letters that would join. The characters
`before` are given in reverse. -/
def joinersFit : (before rest : List Char) → Bool
  | _, [] => true
  | before, c :: rest =>
    (if c = joiner then endsSilenced before
      else if c = nonJoiner then
        endsSilenced before ||
          (meetsJoining leftJoiningRanges before && meetsJoining rightJoiningRanges rest)
      else true) && joinersFit (c :: before) rest

theorem joinersFit_of_plain {before s : List Char} (h₁ : joiner ∉ s) (h₂ : nonJoiner ∉ s) :
    joinersFit before s = true := by
  induction s generalizing before with
  | nil => rfl
  | cons c rest ih =>
    simp only [List.mem_cons, not_or] at h₁ h₂
    simp [joinersFit, Ne.symm h₁.1, Ne.symm h₂.1, ih h₁.2 h₂.2]

/-! ## Writing direction -/

/-- The class of a character. -/
def bidiClass (c : Char) : BidiClass :=
  match bidiTable.find? fun entry => Text.inRanges entry.2 c with
  | some (k, _) => k
  | none => if Text.inRanges nonspacingRanges c then .nonspacingMark else .leftToRight

/-- Whether a class makes the name one that is written from right to left in part. -/
def BidiClass.isRightToLeft : BidiClass → Bool
  | .rightToLeft | .arabicLetter | .arabicNumber => true
  | _ => false

/-- Whether a label written from right to left may hold a character of the class. -/
def BidiClass.fitsRightToLeft : BidiClass → Bool
  | .leftToRight => false
  | _ => true

/-- Whether a label written from left to right may hold a character of the class. -/
def BidiClass.fitsLeftToRight (k : BidiClass) : Bool := !k.isRightToLeft

/-- Whether a label written from right to left may end with a character of the class. -/
def BidiClass.endsRightToLeft : BidiClass → Bool
  | .rightToLeft | .arabicLetter | .arabicNumber | .europeanNumber => true
  | _ => false

/-- Whether a label written from left to right may end with a character of the class. -/
def BidiClass.endsLeftToRight : BidiClass → Bool
  | .leftToRight | .europeanNumber => true
  | _ => false

/-- Whether classes, with marks at the end left out of sight, end as `allowed` says. -/
def endsWith (allowed : BidiClass → Bool) (classes : List BidiClass) : Bool :=
  match classes.reverse.dropWhile (· == .nonspacingMark) with
  | [] => false
  | k :: _ => allowed k

/-- Whether the classes of a label keep to one direction. The first one decides which. -/
def fitsDirection (classes : List BidiClass) : Bool :=
  match classes with
  | [] => true
  | .rightToLeft :: _ | .arabicLetter :: _ =>
    classes.all BidiClass.fitsRightToLeft && endsWith BidiClass.endsRightToLeft classes &&
      !(classes.contains .europeanNumber && classes.contains .arabicNumber)
  | .leftToRight :: _ =>
    classes.all BidiClass.fitsLeftToRight && endsWith BidiClass.endsLeftToRight classes
  | _ => false

theorem fitsDirection_of_leftToRight {classes : List BidiClass}
    (h : ∀ k ∈ classes, k = .leftToRight) : fitsDirection classes = true := by
  rw [List.eq_replicate_of_mem h]
  cases classes.length with
  | zero => rfl
  | succ n =>
    have hr : (List.replicate (n + 1) BidiClass.leftToRight).reverse =
        .leftToRight :: List.replicate n .leftToRight := by rw [List.reverse_replicate]; rfl
    have he : endsWith BidiClass.endsLeftToRight (List.replicate (n + 1) .leftToRight) = true := by
      simp [endsWith, hr, BidiClass.endsLeftToRight]
    rw [List.replicate_succ] at he ⊢
    simp [fitsDirection, he, BidiClass.fitsLeftToRight, BidiClass.isRightToLeft]

/-- The classes of the characters of a label. -/
def Label.classes (label : Label) : List BidiClass := label.map bidiClass

/-- Whether some character of a label is written from right to left. -/
def Label.isRightToLeft (label : Label) : Bool := label.classes.any BidiClass.isRightToLeft

end MediaNegotiation.Domain
