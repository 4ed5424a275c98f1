/-!
# Decimal numerals

Integers of bounded range are read from decimal text from left to right, and the first problem met
is the one reported: a character that is not a digit, or a value that has left the range.

Results:
* `readNatural_le`: a natural number that is read lies within the limit.
* `readUInt8_write`: the digits of a number of 8 bits are read back as that number.
-/

namespace MediaNegotiation

/-- Why a text is not an integer of the wanted range. -/
inductive NumeralFault
  | empty
  | invalidDigit
  | tooLarge
  | tooSmall
  deriving DecidableEq, Repr

/-- The wording of a fault. -/
def NumeralFault.message : NumeralFault → String
  | .empty => "cannot parse integer from empty string"
  | .invalidDigit => "invalid digit found in string"
  | .tooLarge => "number too large to fit in target type"
  | .tooSmall => "number too small to fit in target type"

namespace Numeral

/-- The value of an ASCII digit. -/
def digit? (c : Char) : Option Nat :=
  if '0' ≤ c ∧ c ≤ '9' then some (c.toNat - '0'.toNat) else none

/-- Reads further digits behind a number whose value so far is `value`. The fault `beyond` is
reported as soon as the value exceeds `limit`. -/
def readDigits (limit : Nat) (beyond : NumeralFault) :
    (value : Nat) → List Char → Except NumeralFault Nat
  | value, [] => .ok value
  | value, c :: rest =>
    match digit? c with
    | none => .error .invalidDigit
    | some d =>
      let next := 10 * value + d
      if limit < next then .error beyond else readDigits limit beyond next rest

/-- Reads an unsigned numeral up to `limit`; one plus sign may stand in front of the digits. -/
def readNatural (limit : Nat) : List Char → Except NumeralFault Nat
  | [] => .error .empty
  | ['+'] => .error .invalidDigit
  | '+' :: digits => readDigits limit .tooLarge 0 digits
  | digits => readDigits limit .tooLarge 0 digits

/-- The greatest signed number of 32 bits. -/
def maxInt32 : Nat := 0x7FFFFFFF

/-- The greatest signed number of 64 bits. -/
def maxInt64 : Nat := 0x7FFFFFFFFFFFFFFF

/-- The greatest unsigned number of 32 bits. -/
def maxNat32 : Nat := 0xFFFFFFFF

/-- The greatest unsigned number of 64 bits. -/
def maxNat64 : Nat := 0xFFFFFFFFFFFFFFFF

/-- Reads a signed numeral up to `limit`, and below zero down to one step further; one sign may
stand in front of the digits. -/
def readInteger (limit : Nat) : List Char → Except NumeralFault Int
  | [] => .error .empty
  | ['+'] => .error .invalidDigit
  | ['-'] => .error .invalidDigit
  | '+' :: digits => (readDigits limit .tooLarge 0 digits).map Int.ofNat
  | '-' :: digits => (readDigits (limit + 1) .tooSmall 0 digits).map fun n => -Int.ofNat n
  | digits => (readDigits limit .tooLarge 0 digits).map Int.ofNat

/-- Reads a number of 8 bits. -/
def readUInt8 (s : List Char) : Except NumeralFault UInt8 := (readNatural 255 s).map UInt8.ofNat

/-- Reads a number of 16 bits. -/
def readUInt16 (s : List Char) : Except NumeralFault UInt16 :=
  (readNatural 65535 s).map UInt16.ofNat

/-- Reads a number of 32 bits. -/
def readUInt32 (s : List Char) : Except NumeralFault UInt32 :=
  (readNatural maxNat32 s).map UInt32.ofNat

/-- The decimal digits of a number of 8 bits. -/
def write (n : UInt8) : List Char := Nat.toDigits 10 n.toNat

theorem readDigits_le {limit : Nat} {beyond : NumeralFault} {s : List Char} {value n : Nat}
    (hv : value ≤ limit) (h : readDigits limit beyond value s = .ok n) : n ≤ limit := by
  induction s generalizing value with
  | nil => simp only [readDigits, Except.ok.injEq] at h; omega
  | cons c rest ih =>
    simp only [readDigits] at h
    split at h
    · simp at h
    · split at h
      · simp at h
      · exact ih (by omega) h

/-- A natural number that is read lies within the limit. -/
theorem readNatural_le {limit : Nat} {s : List Char} {n : Nat}
    (h : readNatural limit s = .ok n) : n ≤ limit := by
  unfold readNatural at h
  split at h
  · simp at h
  · simp at h
  · exact readDigits_le (Nat.zero_le _) h
  · exact readDigits_le (Nat.zero_le _) h

/-- The digits of a number of 8 bits are read back as that number. -/
theorem readUInt8_write (n : UInt8) : readUInt8 (write n) = .ok n := by
  have all : ∀ k : Fin 256,
      (readUInt8 (write (UInt8.ofFin k))).toOption = some (UInt8.ofFin k) := by
    decide +kernel
  have h : (readUInt8 (write n)).toOption = some n := by simpa using all n.toFin
  cases hr : readUInt8 (write n) with
  | error e => simp [hr, Except.toOption] at h
  | ok m => simp only [hr, Except.toOption, Option.some.injEq] at h; rw [h]

end Numeral

end MediaNegotiation
