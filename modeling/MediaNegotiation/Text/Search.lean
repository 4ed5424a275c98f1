/-!
# Finding text in text

Results:
* `occursIn_iff`: a text occurs in another exactly when it is a stretch of it.
-/

namespace MediaNegotiation.Text

/-- Whether `part` stands somewhere in a text, without gaps. -/
def occursIn (part : List Char) : List Char → Bool
  | [] => part.isEmpty
  | c :: rest => part.isPrefixOf (c :: rest) || occursIn part rest

theorem occursIn_iff {part s : List Char} : occursIn part s = true ↔ part <:+: s := by
  induction s with
  | nil => simp [occursIn, List.isEmpty_iff]
  | cons c rest ih => simp [occursIn, ih, List.infix_cons_iff]

end MediaNegotiation.Text
