import MediaNegotiation.Text.Hex

/-!
# Percent encoding

A character that a part of a URL may not show is written as the bytes of its UTF-8 form, each as a
percent sign and two hexadecimal digits. Which characters those are follows the package `url`.

Results:
* `isShown_of_mem_encode`: an encoded text shows printable ASCII only.
* `encode_eq_self`: a text that shows nothing forbidden is left as it is.
-/

namespace MediaNegotiation.Url

/-! ## Encoding -/

/-- The digit of a percent encoding with a value below 16. -/
def percentDigit (n : Nat) : Char :=
  if n < 10 then Char.ofNat ('0'.toNat + n) else Char.ofNat ('A'.toNat + (n - 10))

/-- The percent encoding of one byte. -/
def encodeByte (b : UInt8) : List Char :=
  ['%', percentDigit (b.toNat / 16), percentDigit (b.toNat % 16)]

/-- Whether a character is printable ASCII. -/
def isShown (c : Char) : Bool := 0x20 ≤ c.toNat && c.toNat ≤ 0x7E

/-- Replaces the characters that are not shown, and those of `reserved`, by their percent
encoding. -/
def encode (reserved : List Char) (s : List Char) : List Char :=
  s.flatMap fun c =>
    if isShown c && !reserved.contains c then [c]
    else (String.utf8EncodeChar c).flatMap encodeByte

/-- The characters encoded in a fragment. -/
def fragmentReserved : List Char := [' ', '"', '<', '>', '\x60']

/-- The characters encoded in a query. -/
def queryReserved : List Char := [' ', '"', '#', '<', '>']

/-- The characters encoded in a path that is resolved. -/
def pathReserved : List Char := [' ', '"', '#', '<', '>', '?', '\x60', '\x7b', '\x7d']

/-- The characters encoded in user names and passwords. -/
def userReserved : List Char :=
  pathReserved ++ ['/', ':', ';', '=', '@', '[', '\\', ']', '^', '|']

theorem isShown_percentDigit {n : Nat} (h : n < 16) : isShown (percentDigit n) = true := by
  have all : ∀ n : Fin 16, isShown (percentDigit n) = true := by decide
  exact all ⟨n, h⟩

theorem isShown_of_mem_encodeByte {b : UInt8} {c : Char} (h : c ∈ encodeByte b) :
    isShown c = true := by
  have hb : b.toNat < 256 := b.toNat_lt
  simp only [encodeByte, List.mem_cons, List.not_mem_nil, or_false] at h
  rcases h with rfl | rfl | rfl
  · decide
  · exact isShown_percentDigit (by omega)
  · exact isShown_percentDigit (by omega)

/-- An encoded text shows printable ASCII only. -/
theorem isShown_of_mem_encode {reserved s : List Char} {c : Char} (h : c ∈ encode reserved s) :
    isShown c = true := by
  obtain ⟨d, -, hd⟩ := List.mem_flatMap.1 h
  split at hd
  · rename_i hs
    rw [List.mem_singleton.1 hd]
    simp_all
  · obtain ⟨b, -, hb⟩ := List.mem_flatMap.1 hd
    exact isShown_of_mem_encodeByte hb

/-- A text that shows nothing forbidden is left as it is. -/
theorem encode_eq_self {reserved s : List Char}
    (h : ∀ c ∈ s, isShown c = true ∧ c ∉ reserved) : encode reserved s = s := by
  induction s with
  | nil => rfl
  | cons c rest ih =>
    have hc := h c (by simp)
    have hr : encode reserved rest = rest := ih fun d hd => h d (by simp [hd])
    have hs : encode reserved (c :: rest) = c :: encode reserved rest := by
      simp [encode, hc.1, hc.2]
    rw [hs, hr]

/-! ## Decoding -/

/-- The bytes of a text whose percent encodings are undone. -/
def decodedBytes : List Char → List UInt8
  | '%' :: high :: low :: rest =>
    match Text.hexDigit? high, Text.hexDigit? low with
    | some h, some l => UInt8.ofNat (16 * h + l) :: decodedBytes rest
    | _, _ => '%'.toNat.toUInt8 :: decodedBytes (high :: low :: rest)
  | c :: rest => String.utf8EncodeChar c ++ decodedBytes rest
  | [] => []

/-- Undoes the percent encodings of a text; none if the result is not UTF-8. -/
def decode (s : List Char) : Option (List Char) :=
  if s.contains '%' then
    (String.fromUTF8? ⟨(decodedBytes s).toArray⟩).map String.toList
  else some s

end MediaNegotiation.Url
