/-!
# Punycode

A text is written with ASCII letters and digits. Its ASCII characters come first; behind a hyphen
follow numbers that say, in ascending order of code points, where each other character goes.
A number is written with the least significant digit first, in a mixed base: a digit below the
threshold of its place ends the number, and the thresholds follow a bias that is adapted to the
numbers already seen. The package `url` reads and writes labels of host names in this way.

Results:
* `threshold_bounds`: a threshold lies between 1 and 26, so every number comes to an end.
* `digit?_digitChar`: a digit that is written is read back.
-/

namespace MediaNegotiation.Domain.Punycode

/-! ## Digits and thresholds -/

/-- The letter or digit with a value below 36. -/
def digitChar (d : Nat) : Char :=
  if d < 26 then Char.ofNat ('a'.toNat + d) else Char.ofNat ('0'.toNat + (d - 26))

/-- The value of a letter or digit. -/
def digit? (c : Char) : Option Nat :=
  let c := c.toLower
  if 'a' ≤ c ∧ c ≤ 'z' then some (c.toNat - 'a'.toNat)
  else if '0' ≤ c ∧ c ≤ '9' then some (26 + (c.toNat - '0'.toNat))
  else none

/-- The threshold at a place, which counts in steps of 36. -/
def threshold (place bias : Nat) : Nat := max 1 (min 26 (place - bias))

theorem threshold_bounds (place bias : Nat) :
    1 ≤ threshold place bias ∧ threshold place bias ≤ 26 := by
  unfold threshold; omega

theorem digit?_digitChar {d : Nat} (h : d < 36) : digit? (digitChar d) = some d := by
  have all : ∀ d : Fin 36, digit? (digitChar d) = some d.val := by decide
  exact all ⟨d, h⟩

/-- The places that it takes to bring a number down to 455, and what is left of it. -/
def shrink (n : Nat) : Nat × Nat :=
  if 455 < n then let (places, rest) := shrink (n / 35); (places + 36, rest) else (0, n)
termination_by n
decreasing_by exact Nat.div_lt_self (by omega) (by omega)

/-- The bias after a number has been written for a text that then has `size` characters. -/
def adapt (n size : Nat) (first : Bool) : Nat :=
  let n := if first then n / 700 else n / 2
  let (places, rest) := shrink (n + n / size)
  places + 36 * rest / (rest + 38)

/-! ## Numbers -/

/-- The digits of a number, from a place on. -/
def writeNumber (bias place n : Nat) : List Char :=
  let t := threshold place bias
  if n < t then [digitChar n]
  else digitChar (t + (n - t) % (36 - t)) :: writeNumber bias (place + 36) ((n - t) / (36 - t))
termination_by n
decreasing_by
  have bounds := threshold_bounds place bias
  exact Nat.lt_of_le_of_lt (Nat.div_le_self _ _) (by omega)

/-- A number that is being read: its value so far, and the weight and place of the next digit. -/
structure OpenNumber where
  value : Nat
  weight : Nat
  place : Nat

/-- Reads one more digit of a number; tells whether it was the last one. Values and weights stay
below 2^32. -/
def OpenNumber.next (bias : Nat) (p : OpenNumber) (c : Char) : Option (OpenNumber × Bool) :=
  match digit? c with
  | none => none
  | some d =>
    let t := threshold p.place bias
    let q : OpenNumber := ⟨p.value + d * p.weight, p.weight * (36 - t), p.place + 36⟩
    if 0x100000000 ≤ q.value then none
    else if d < t then some (q, true)
    else if 0x100000000 ≤ q.weight then none
    else some (q, false)

/-! ## Writing -/

/-- What has been written, and the count of characters that have found their place. -/
structure Writer where
  text : List Char
  placed : Nat
  bias : Nat
  /-- The steps made since the last character found its place. -/
  delta : Nat

/-- Passes one character while the characters with code point `n` are placed. -/
def Writer.pass (basic n : Nat) (w : Writer) (c : Char) : Writer :=
  if c.toNat < n then { w with delta := w.delta + 1 }
  else if c.toNat = n then
    { text := w.text ++ writeNumber w.bias 36 w.delta
      placed := w.placed + 1
      bias := adapt w.delta (w.placed + 1) (w.placed == basic)
      delta := 0 }
  else w

/-- Passes over the text once for each of its code points above ASCII, in ascending order; all code
points below `n` have been placed. -/
def Writer.passes (s : List Char) (basic : Nat) : (n : Nat) → List Nat → Writer → Writer
  | _, [], w => w
  | n, next :: rest, w =>
    let w := { w with delta := w.delta + (next - n) * (w.placed + 1) }
    let w := s.foldl (Writer.pass basic next) w
    passes s basic (next + 1) rest { w with delta := w.delta + 1 }

/-- Puts a number into an ascending list, unless it is there. -/
def insertOnce (n : Nat) : List Nat → List Nat
  | [] => [n]
  | m :: rest =>
    if n < m then n :: m :: rest else if n = m then m :: rest else m :: insertOnce n rest

/-- Writes a text. -/
def encode (s : List Char) : List Char :=
  let basic := s.filter (·.toNat < 128)
  let others := (s.filter (128 ≤ ·.toNat)).foldr (fun c found => insertOnce c.toNat found) []
  let front := if basic.isEmpty then [] else basic ++ ['-']
  (Writer.passes s basic.length 128 others ⟨front, basic.length, 72, 0⟩).text

/-! ## Reading -/

/-- What has been read. A number is read from `position` on, where the last character went. -/
structure Reader where
  text : List Char
  codePoint : Nat
  position : Nat
  bias : Nat

/-- Puts the next character in, at the steps that a number has counted from the start of the
text. -/
def Reader.insert (r : Reader) (n : Nat) : Option Reader :=
  let size := r.text.length + 1
  let codePoint := r.codePoint + n / size
  if codePoint.isValidChar then
    some {
      text := r.text.insertIdx (n % size) (Char.ofNat codePoint)
      codePoint
      position := n % size + 1
      bias := adapt (n - r.position) size (r.position == 0) }
  else none

/-- Reads the digits of all numbers; none if the last one does not end. -/
def Reader.read (r : Reader) (p : OpenNumber) : List Char → Option (List Char)
  | [] => if p.place = 36 then some r.text else none
  | c :: rest =>
    match p.next r.bias c with
    | none => none
    | some (p, false) => r.read p rest
    | some (p, true) =>
      match r.insert p.value with
      | none => none
      | some r => r.read ⟨r.position, 1, 36⟩ rest

/-- Reads a text. -/
def decode (s : List Char) : Option (List Char) :=
  let digits := (s.reverse.takeWhile (· != '-')).reverse
  let basic := s.take (s.length - digits.length - 1)
  if basic.isEmpty then (Reader.mk [] 128 0 72).read ⟨0, 1, 36⟩ s
  else if basic.all (·.toNat < 128) then (Reader.mk basic 128 0 72).read ⟨0, 1, 36⟩ digits
  else none

end MediaNegotiation.Domain.Punycode
