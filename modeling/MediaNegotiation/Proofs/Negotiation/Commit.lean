import MediaNegotiation.Engine.Negotiation

/-!
# Taking matches over

Matches are taken over one by one. One whose payload type is held already leaves the list as it is,
whether it counts as the same codec or as a conflict, and any other is appended.

Results:
* `commit_cons_held`, `commit_cons_free`: the two ways of one match.
* `commit_cons_same`, `commit_cons_conflict`: a match whose payload type is held already.
* `prefix_commit`: the codecs that are there stay in front.
* `commit_eq_self_iff`: nothing is taken over exactly when every payload type is held already.
* `commit_again`: matches that are taken over a second time change nothing and conflict as before.
-/

namespace MediaNegotiation

/-- A codec that is not refused was held already or is appended. -/
theorem addCodec_eq_ok {codecs result : List Codec} {c : Codec}
    (h : addCodec codecs c = .ok result) :
    (result = codecs ∧ (Codec.find? codecs c.payloadType).isSome) ∨
      (result = codecs ++ [c] ∧ Codec.find? codecs c.payloadType = none) := by
  unfold addCodec at h
  split at h
  · rename_i held hheld
    split at h
    · cases h
      exact .inl ⟨rfl, by simp [hheld]⟩
    · simp at h
  · rename_i hnone
    cases h
    exact .inr ⟨rfl, hnone⟩

theorem addCodec_of_free {codecs : List Codec} {c : Codec}
    (h : Codec.find? codecs c.payloadType = none) : addCodec codecs c = .ok (codecs ++ [c]) := by
  rw [addCodec, h]

section

variable {codecs : List Codec} {m : Match} {rest : List Match}

theorem commit_cons_held (h : (Codec.find? codecs m.entry.payloadType).isSome) :
    (commit codecs (m :: rest)).1 = (commit codecs rest).1 := by
  rw [commit]
  cases hadd : addCodec codecs m.entry with
  | error err => rfl
  | ok extended =>
    rcases addCodec_eq_ok hadd with ⟨rfl, -⟩ | ⟨-, hnone⟩
    · rfl
    · simp [hnone] at h

theorem commit_cons_free (h : Codec.find? codecs m.entry.payloadType = none) :
    commit codecs (m :: rest) = commit (codecs ++ [m.entry]) rest := by
  rw [commit, addCodec_of_free h]

theorem commit_cons_same {held : Codec} (h : Codec.find? codecs m.entry.payloadType = some held)
    (hsame : held.sameCodec m.entry = true) : commit codecs (m :: rest) = commit codecs rest := by
  rw [commit, addCodec, h]
  simp only [hsame, if_true]

theorem commit_cons_conflict {held : Codec} (h : Codec.find? codecs m.entry.payloadType = some held)
    (hsame : held.sameCodec m.entry = false) :
    commit codecs (m :: rest) =
      ((commit codecs rest).1, .codecConflict :: (commit codecs rest).2) := by
  rw [commit, addCodec, h]
  simp only [hsame, Bool.false_eq_true, if_false]

end

/-- The codecs that are there stay in front. -/
theorem prefix_commit (codecs : List Codec) (chosen : List Match) :
    codecs <+: (commit codecs chosen).1 := by
  induction chosen generalizing codecs with
  | nil => exact List.prefix_rfl
  | cons m rest ih =>
    cases h : Codec.find? codecs m.entry.payloadType with
    | some held =>
      rw [commit_cons_held (by simp [h])]
      exact ih codecs
    | none =>
      rw [commit_cons_free h]
      exact (List.prefix_append codecs [m.entry]).trans (ih _)

/-- Nothing is taken over exactly when every payload type is held already. -/
theorem commit_eq_self_iff {codecs : List Codec} {chosen : List Match} :
    (commit codecs chosen).1 = codecs ↔
      ∀ m ∈ chosen, (Codec.find? codecs m.entry.payloadType).isSome := by
  induction chosen with
  | nil => simp [commit]
  | cons m rest ih =>
    rw [List.forall_mem_cons, ← ih]
    cases h : Codec.find? codecs m.entry.payloadType with
    | some held =>
      rw [commit_cons_held (by simp [h])]
      simp
    | none =>
      simp only [Option.isSome_none, Bool.false_eq_true, false_and, iff_false]
      intro hself
      have hlonger := (prefix_commit (codecs ++ [m.entry]) rest).length_le
      rw [← commit_cons_free h, hself, List.length_append, List.length_singleton] at hlonger
      omega

/-- Matches that have been taken over are not taken over again, and those that were left out for a
conflict conflict with the same codecs again. -/
theorem commit_again {codecs longer : List Codec} {chosen : List Match}
    (h : (commit codecs chosen).1 <+: longer) :
    commit longer chosen = (longer, (commit codecs chosen).2) := by
  induction chosen generalizing codecs with
  | nil => rfl
  | cons m rest ih =>
    have hprefix : codecs <+: longer := (prefix_commit codecs (m :: rest)).trans h
    cases hfind : Codec.find? codecs m.entry.payloadType with
    | some held =>
      have hlonger : Codec.find? longer m.entry.payloadType = some held :=
        hprefix.find?_eq_some hfind
      rw [commit_cons_held (by simp [hfind])] at h
      have hrest := ih h
      cases hsame : held.sameCodec m.entry with
      | true => rw [commit_cons_same hlonger hsame, commit_cons_same hfind hsame, hrest]
      | false => rw [commit_cons_conflict hlonger hsame, commit_cons_conflict hfind hsame, hrest]
    | none =>
      rw [commit_cons_free hfind] at h ⊢
      -- the second time the match meets the codec it has become
      have hnew : Codec.find? (codecs ++ [m.entry]) m.entry.payloadType = some m.entry := by
        unfold Codec.find? at hfind ⊢
        rw [List.find?_append, hfind]
        simp
      have hlonger : Codec.find? longer m.entry.payloadType = some m.entry :=
        ((prefix_commit _ rest).trans h).find?_eq_some hnew
      rw [commit_cons_same hlonger (by simp [Codec.sameCodec])]
      exact ih h

end MediaNegotiation
