import MediaNegotiation.Text.Cut
import MediaNegotiation.Text.Hex
import MediaNegotiation.Text.Numeral

/-!
# Numeric addresses

An address of 32 bits is written as one to four numbers between dots, of which the last one fills
the bytes that are left; a number may be octal behind `0` or hexadecimal behind `0x`. An address of
128 bits is written as eight pieces of 16 bits between colons, in hexadecimal; one gap `::` stands
for pieces that are zero, and the last two pieces may be written as an address of 32 bits. The rules
are those of the package `url`.

Results:
* `readIpv4_lt`: an address that is read has 32 bits.
* `length_readIpv6`: an address that is read has eight pieces.
-/

namespace MediaNegotiation.Url

/-! ## Addresses of 32 bits -/

/-- Reads the digits of a number in a base; none for a character that is no digit of the base. -/
def readDigits (base : Nat) (s : List Char) : Option Nat :=
  s.foldlM
    (fun n c => (Text.hexDigit? c).bind fun d => if d < base then some (base * n + d) else none) 0

/-- Reads one number of an address. -/
def readPart (s : List Char) : Option Nat :=
  match s with
  | [] => none
  | ['0'] => some 0
  | '0' :: 'x' :: digits | '0' :: 'X' :: digits => readDigits 16 digits
  | '0' :: digits => readDigits 8 digits
  | digits => readDigits 10 digits

/-- The parts of a dotted text; a dot at the end counts for nothing. -/
def dottedParts (s : List Char) : List (List Char) :=
  let parts := s.splitOn '.'
  if parts.length ≠ 1 ∧ parts.getLast? = some [] then parts.dropLast else parts

/-- Whether a host name ends in a number, so that all of it has to be an address. -/
def endsInNumber (s : List Char) : Bool :=
  match (dottedParts s).getLast? with
  | none | some [] => false
  | some last => last.all Char.isDigit || (readPart last).isSome

/-- How many numbers can be held in some bytes. -/
def numbersIn : (bytes : Nat) → Nat
  | 0 => 1
  | bytes + 1 => 256 * numbersIn bytes

/-- Puts the numbers of an address together; the last one fills `room` bytes less one for each
number in front of it. -/
def joinParts : (room : Nat) → List Nat → Option Nat
  | _, [] => none
  | room, [last] => if last < numbersIn room then some last else none
  | room, n :: rest =>
    match joinParts (room - 1) rest with
    | some low => if n < 256 ∧ 1 < room then some (n * numbersIn (room - 1) + low) else none
    | none => none

/-- Reads an address of 32 bits. -/
def readIpv4 (s : List Char) : Option Nat := ((dottedParts s).mapM readPart).bind (joinParts 4)

/-- The written form of an address of 32 bits. -/
def writeIpv4 (n : Nat) : List Char :=
  ['.'].intercalate
    ([n / 0x1000000, n / 0x10000 % 256, n / 0x100 % 256, n % 256].map (Nat.toDigits 10))

theorem joinParts_lt {room n : Nat} {parts : List Nat} (h : joinParts room parts = some n) :
    n < numbersIn room := by
  induction parts generalizing room n with
  | nil => simp [joinParts] at h
  | cons first rest ih =>
    cases rest with
    | nil =>
      simp only [joinParts, Option.ite_none_right_eq_some, Option.some.injEq] at h
      exact h.2 ▸ h.1
    | cons second rest =>
      simp only [joinParts] at h
      split at h
      · rename_i low hlow
        simp only [Option.ite_none_right_eq_some, Option.some.injEq] at h
        obtain ⟨⟨hn, hr⟩, rfl⟩ := h
        have hl := ih hlow
        obtain ⟨k, rfl⟩ : ∃ k, room = k + 1 := ⟨room - 1, by omega⟩
        simp only [Nat.add_sub_cancel] at hl ⊢
        have hm : first * numbersIn k ≤ 255 * numbersIn k := Nat.mul_le_mul_right _ (by omega)
        rw [numbersIn]
        omega
      · simp at h

/-- An address that is read has 32 bits. -/
theorem readIpv4_lt {s : List Char} {n : Nat} (h : readIpv4 s = some n) : n < 0x100000000 := by
  obtain ⟨parts, -, hp⟩ := Option.bind_eq_some_iff.1 h
  simpa [numbersIn] using joinParts_lt hp

/-! ## Addresses of 128 bits -/

/-- Reads one piece: one to four hexadecimal digits. -/
def readPiece (s : List Char) : Option Nat :=
  if s.isEmpty ∨ 4 < s.length then none else readDigits 16 s

/-- Reads a byte in decimal, without leading zeros. -/
def readByte (s : List Char) : Option Nat :=
  if s.isEmpty ∨ (1 < s.length ∧ s.head? = some '0') then none
  else (readDigits 10 s).bind fun n => if n < 256 then some n else none

/-- Reads four bytes between dots as two pieces. -/
def readBytes (s : List Char) : Option (List Nat) :=
  match (s.splitOn '.').mapM readByte with
  | some [a, b, c, d] => some [256 * a + b, 256 * c + d]
  | _ => none

/-- Reads pieces between colons, the last of which may be four bytes. -/
def readPieces : List (List Char) → Option (List Nat)
  | [] => some []
  | [last] => ((readPiece last).map ([·])).or (readBytes last)
  | piece :: rest =>
    match readPiece piece, readPieces rest with
    | some n, some pieces => some (n :: pieces)
    | _, _ => none

/-- The pieces of a text in front of or behind a gap. -/
def pieceTexts (s : List Char) : List (List Char) := if s.isEmpty then [] else s.splitOn ':'

/-- The texts in front of and behind the first gap. -/
def cutGap : List Char → Option (List Char × List Char)
  | [] => none
  | ':' :: ':' :: rest => some ([], rest)
  | c :: rest => (cutGap rest).map fun parts => (c :: parts.1, parts.2)

/-- Fills the gap between pieces so that there are eight; it stands for one piece at least. -/
def fillGap (front back : List Nat) : Option (List Nat) :=
  let count := front.length + back.length
  if count < 8 then some (front ++ List.replicate (8 - count) 0 ++ back) else none

/-- Reads an address of 128 bits into its eight pieces. -/
def readIpv6 (s : List Char) : Option (List Nat) :=
  match cutGap s with
  | some (front, back) =>
    match (pieceTexts front).mapM readPiece, readPieces (pieceTexts back) with
    | some front, some back => fillGap front back
    | _, _ => none
  | none => (readPieces (pieceTexts s)).bind fun pieces =>
    if pieces.length = 8 then some pieces else none

/-- The number of pieces that are zero at the front. -/
def zerosAhead (pieces : List Nat) : Nat := (pieces.takeWhile (· == 0)).length

/-- The first of the longest runs of pieces that are zero, as the place where it begins and its
length. -/
def longestGap (pieces : List Nat) : Nat × Nat :=
  (List.range pieces.length).foldl
    (fun best i =>
      let length := zerosAhead (pieces.drop i)
      if best.2 < length then (i, length) else best)
    (0, 0)

/-- Pieces between colons. -/
def writePieces (pieces : List Nat) : List Char :=
  [':'].intercalate (pieces.map (Nat.toDigits 16))

/-- The written form of an address of 128 bits; a run of two or more pieces that are zero is left
out. -/
def writeIpv6 (pieces : List Nat) : List Char :=
  let (start, length) := longestGap pieces
  if 1 < length then
    writePieces (pieces.take start) ++ [':', ':'] ++ writePieces (pieces.drop (start + length))
  else writePieces pieces

theorem length_fillGap {front back pieces : List Nat} (h : fillGap front back = some pieces) :
    pieces.length = 8 := by
  simp only [fillGap, Option.ite_none_right_eq_some, Option.some.injEq] at h
  obtain ⟨hc, rfl⟩ := h
  simp only [List.length_append, List.length_replicate]
  omega

/-- An address that is read has eight pieces. -/
theorem length_readIpv6 {s : List Char} {pieces : List Nat} (h : readIpv6 s = some pieces) :
    pieces.length = 8 := by
  unfold readIpv6 at h
  split at h
  · split at h
    · exact length_fillGap h
    · simp at h
  · obtain ⟨found, -, hf⟩ := Option.bind_eq_some_iff.1 h
    simp only [Option.ite_none_right_eq_some, Option.some.injEq] at hf
    exact hf.2 ▸ hf.1

end MediaNegotiation.Url
