import MediaNegotiation.Text.Blank
import MediaNegotiation.Text.Cut
import MediaNegotiation.Text.Hex

/-!
# Tables written as text

Large tables of characters are written as words of hexadecimal code points.

* In a table of ranges a word is a code point, `38C`, or a closed range of them, `300-36F`.
* In a table of images a word `C0:` sets the code point that the next word is the image of, and each
  image moves on to the code point behind it. An image is a sequence of code points, `20.308`. The
  word `E0*17` stands for `17` images (a hexadecimal number) that count upwards from `E0`, and
  `101~18` for images that count upwards by two and belong to every second code point.

Results:
* `placeImages_append`: a table may be divided before any word that sets the code point.
-/

namespace MediaNegotiation.Text

/-- The number that a word of hexadecimal digits stands for. -/
def hexNumber (w : List Char) : Nat := w.foldl (fun n c => 16 * n + (hexDigit? c).getD 0) 0

/-- The closed range that a word stands for. -/
def readRange (w : List Char) : Nat × Nat :=
  match cutAt '-' w with
  | some (first, last) => (hexNumber first, hexNumber last)
  | none => (hexNumber w, hexNumber w)

/-- Reads a table of ranges. -/
def readRanges (table : String) : List (Nat × Nat) := (words table.toList).map readRange

/-- What a word of a table of images does. -/
inductive ImageWord
  /-- Sets the code point that the next image belongs to. -/
  | start (position : Nat)
  /-- Images of `count` code points at the distance `stride`, which count upwards from `first`. -/
  | run (stride count first : Nat)
  | image (codePoints : List Nat)

/-- Reads one word of a table of images. -/
def ImageWord.read (w : List Char) : ImageWord :=
  match cutAt ':' w, cutAt '*' w, cutAt '~' w with
  | some (position, _), _, _ => .start (hexNumber position)
  | _, some (first, count), _ => .run 1 (hexNumber count) (hexNumber first)
  | _, _, some (first, count) => .run 2 (hexNumber count) (hexNumber first)
  | _, _, _ => .image ((w.splitOn '.').map hexNumber)

/-- The code points that the images of some words belong to, with these images. -/
def placeImages (position : Nat) : List ImageWord → List (Nat × List Nat)
  | [] => []
  | .start next :: rest => placeImages next rest
  | .run stride count first :: rest =>
    (List.range count).map (fun i => (position + stride * i, [first + stride * i])) ++
      placeImages (position + stride * (count - 1) + 1) rest
  | .image codePoints :: rest => (position, codePoints) :: placeImages (position + 1) rest

/-- Reads a table of images. -/
def readImages (table : String) : List (Nat × List Nat) :=
  placeImages 0 ((words table.toList).map ImageWord.read)

/-- A table may be divided before any word that sets the code point. -/
theorem placeImages_append (position next : Nat) (front back : List ImageWord) :
    placeImages position (front ++ .start next :: back) =
      placeImages position front ++ placeImages next back := by
  induction front generalizing position with
  | nil => rfl
  | cons w rest ih => cases w <;> simp [placeImages, ih]

end MediaNegotiation.Text
