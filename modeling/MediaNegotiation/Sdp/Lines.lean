import MediaNegotiation.Text.Blank

/-!
# Lines of a session description

A session description is a sequence of lines `type=value`. A line type runs up to its equals sign,
across line breaks if it has to, and a value runs to the end of the line. This is how the package
`sdp` reads a text.

Results:
* `linesFrom_line`: a type of one character and a value without a line break are read as one line.
-/

namespace MediaNegotiation.Sdp

/-- A line: its type with the equals sign, and its value without blanks around it. -/
structure Line where
  type : List Char
  value : List Char
  deriving DecidableEq, Repr

/-- Where reading stands: between lines, or behind the given characters of a type or of a value. -/
inductive LinePosition
  | between
  | inType (read : List Char)
  | inValue (type read : List Char)
  deriving DecidableEq, Repr

/-- The position after one more character of a type. -/
def LinePosition.extendType (read : List Char) (c : Char) : LinePosition :=
  if c = '=' then .inValue (read ++ [c]) [] else .inType (read ++ [c])

/-- The lines of a text that is read from a position on. The end of the text ends a line. -/
def linesFrom : LinePosition → List Char → List Line
  | .between, [] => []
  | .inType read, [] => [⟨read, []⟩]
  | .inValue type read, [] => [⟨type, Text.trim read⟩]
  | .between, c :: rest =>
    if c = '\n' ∨ c = '\r' then linesFrom .between rest
    else linesFrom (.extendType [] c) rest
  | .inType read, c :: rest => linesFrom (.extendType read c) rest
  | .inValue type read, c :: rest =>
    if c = '\n' then ⟨type, Text.trim read⟩ :: linesFrom .between rest
    else linesFrom (.inValue type (read ++ [c])) rest

/-- The lines of a text. -/
def lines (text : String) : List Line := linesFrom .between text.toList

/-! ## Laws -/

theorem linesFrom_inValue {value : List Char} (h : '\n' ∉ value) (type read rest : List Char) :
    linesFrom (.inValue type read) (value ++ '\n' :: rest) =
      ⟨type, Text.trim (read ++ value)⟩ :: linesFrom .between rest := by
  induction value generalizing read with
  | nil => simp [linesFrom]
  | cons c value ih =>
    simp only [List.mem_cons, not_or] at h
    simp only [List.cons_append, linesFrom, Ne.symm h.1, if_false, ih h.2, List.append_assoc,
      List.nil_append]

/-- A type of one character and a value without a line break are read as one line. -/
theorem linesFrom_line {type : Char} {value : List Char} (hn : type ≠ '\n') (hr : type ≠ '\r')
    (he : type ≠ '=') (h : '\n' ∉ value) (rest : List Char) :
    linesFrom .between (type :: '=' :: value ++ '\n' :: rest) =
      ⟨[type, '='], Text.trim value⟩ :: linesFrom .between rest := by
  simp [linesFrom, LinePosition.extendType, hn, hr, he, linesFrom_inValue h]

end MediaNegotiation.Sdp
