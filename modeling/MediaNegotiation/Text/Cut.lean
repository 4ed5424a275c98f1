/-!
# Cutting text at a mark

Lists are cut at the first occurrence of a mark, or divided at every occurrence with the list
operations `splitOn` and `intercalate`.

Results:
* `cutAt_eq_some_iff`: the two parts and the mark make up the list, and the mark is not in the
  first part.
* `cutAt_eq_none_iff`: a list is left whole exactly when the mark does not occur in it.
-/

namespace MediaNegotiation.Text

/-- The parts before and after the first occurrence of `mark`, if there is one. -/
def cutAt (mark : Char) : List Char → Option (List Char × List Char)
  | [] => none
  | c :: rest =>
    if c = mark then some ([], rest)
    else (cutAt mark rest).map fun parts => (c :: parts.1, parts.2)

theorem cutAt_eq_some_iff {mark : Char} {s before after : List Char} :
    cutAt mark s = some (before, after) ↔ s = before ++ mark :: after ∧ mark ∉ before := by
  induction s generalizing before with
  | nil => simp [cutAt]
  | cons c rest ih =>
    by_cases h : c = mark
    · subst h
      cases before with
      | nil => simp [cutAt]
      | cons b before => simp [cutAt]; intro e _ hne; exact absurd e hne
    · cases before with
      | nil => simp [cutAt, h]
      | cons b before =>
        simp only [cutAt, h, if_false, Option.map_eq_some_iff, Prod.exists, Prod.mk.injEq,
          List.cons.injEq, List.cons_append, List.mem_cons, not_or]
        constructor
        · rintro ⟨p, q, hpq, ⟨rfl, rfl⟩, rfl⟩
          have := ih.1 hpq
          exact ⟨⟨rfl, this.1⟩, fun e => h e.symm, this.2⟩
        · rintro ⟨⟨rfl, e⟩, _, hb⟩
          exact ⟨before, after, ih.2 ⟨e, hb⟩, ⟨rfl, rfl⟩, rfl⟩

theorem cutAt_eq_none_iff {mark : Char} {s : List Char} : cutAt mark s = none ↔ mark ∉ s := by
  induction s with
  | nil => simp [cutAt]
  | cons c rest ih =>
    by_cases h : c = mark
    · simp [cutAt, h]
    · simp [cutAt, h, ih, Ne.symm h]

end MediaNegotiation.Text
