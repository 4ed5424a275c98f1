import MediaNegotiation.Proofs.Negotiation.Matching
import MediaNegotiation.Proofs.Negotiation.State

/-!
# What a section does

Which of the ways through a media section is taken depends on whether its kind has been negotiated,
on the mode of the engine and on whether its codecs can be read. Each way is an equation here, so
that no other proof opens the definitions.

Results:
* `applySection_fresh`, `applySection_again`, `applySection_closed`: the three ways of a section.
* `takeCodecs_malformed`, `takeCodecs_unmatched`, `takeCodecs_matched`: the three ways of its
  codecs.
* `applySections_keeps`: what every section keeps, a description keeps.
* `applySections_at`: what a section of a description that is not stopped starts from.
* `applySections_stopped`: a description that is stopped is a run of sections that is not, and one
  section that stops it.
* `update_eq_numeral_iff`, `update_eq_joinErrors`, `update_eq_ok_iff`, `update_eq_self_iff`: how an
  update ends.
* `update_fresh_numeral_iff`, `update_fresh_matched`, `update_fresh_unmatched`: the first
  description of a kind, where it has one section.
-/

namespace MediaNegotiation

/-- A section with a codec that names an associated payload type which cannot be read. -/
def RemoteSection.Malformed (r : RemoteSection) : Prop :=
  ∃ c ∈ r.codecs, ∃ fault, associated c = .error fault

/-! ## Header extensions of a section -/

/-- Binding header extensions touches no codecs. -/
@[simp] theorem codecs_bindOffered (known : List HeaderExtension) (kind : MediaKind)
    (s : Negotiated) (offered : List (String × Int)) :
    (bindOffered known kind s offered).1.codecs = s.codecs := by
  unfold bindOffered
  split <;> rfl

@[simp] theorem codecsOf_bindOffered (known : List HeaderExtension) (kind l : MediaKind)
    (s : Negotiated) (offered : List (String × Int)) :
    (bindOffered known kind s offered).1.codecsOf l = s.codecsOf l := by
  rw [Negotiated.codecsOf, codecs_bindOffered, Negotiated.codecsOf]

@[simp] theorem hasKind_bindOffered (known : List HeaderExtension) (kind l : MediaKind)
    (s : Negotiated) (offered : List (String × Int)) :
    (bindOffered known kind s offered).1.hasKind l = s.hasKind l := by
  rw [Negotiated.hasKind, codecs_bindOffered, Negotiated.hasKind]

section

variable {e : Engine} {s : Negotiated} {kind : MediaKind} {r : RemoteSection}

/-! ## Codecs of a section -/

theorem takeCodecs_fault :
    (takeCodecs e kind s r).fault = (matchCodecs (e.registered.get kind) {} r.codecs).fault := by
  unfold takeCodecs
  dsimp only
  split
  · rename_i fault h
    exact h.symm
  · rename_i h
    rw [h]
    split <;> rfl

/-- The codecs of a section stop the description exactly when the section is malformed. -/
theorem takeCodecs_fault_isSome_iff : (takeCodecs e kind s r).fault.isSome ↔ r.Malformed := by
  rw [takeCodecs_fault]
  exact matchCodecs_fault_isSome_iff

/-- A section whose codecs do not stop the description is not malformed. -/
theorem not_malformed_of_takeCodecs (h : (takeCodecs e kind s r).fault = none) : ¬ r.Malformed := by
  rw [← takeCodecs_fault_isSome_iff, h]
  simp

theorem matchCodecs_fault_of_wellFormed (h : ¬ r.Malformed) :
    (matchCodecs (e.registered.get kind) {} r.codecs).fault = none := by
  rw [← Option.not_isSome_iff_eq_none]
  exact fun hf => h (matchCodecs_fault_isSome_iff.1 hf)

theorem takeCodecs_of_malformed (h : r.Malformed) :
    ∃ fault log, takeCodecs e kind s r = { negotiated := s, fault := some fault, log } := by
  obtain ⟨fault, hf⟩ := Option.isSome_iff_exists.1
    (matchCodecs_fault_isSome_iff.2 h :
      (matchCodecs (e.registered.get kind) {} r.codecs).fault.isSome)
  unfold takeCodecs
  dsimp only
  rw [hf]
  exact ⟨fault, _, rfl⟩

theorem takeCodecs_of_unmatched
    (hbest : (matchCodecs (e.registered.get kind) {} r.codecs).found.best? = none) :
    ∃ fault log, takeCodecs e kind s r = { negotiated := s, fault, log } := by
  unfold takeCodecs
  dsimp only
  split
  · exact ⟨_, _, rfl⟩
  · rw [hbest]
    exact ⟨none, _, rfl⟩

theorem takeCodecs_of_matched {tier : Tier} {chosen : List Match} (h : ¬ r.Malformed)
    (hbest : (matchCodecs (e.registered.get kind) {} r.codecs).found.best? = some (tier, chosen)) :
    ∃ log, takeCodecs e kind s r =
      { negotiated := (bindOffered e.extensions kind
          (s.withCodecs kind (commit (s.codecsOf kind) chosen).1) r.extensions).1
        conflicts := (commit (s.codecsOf kind) chosen).2
        log } := by
  have hf : (matchCodecs (e.registered.get kind) {} r.codecs).fault = none :=
    matchCodecs_fault_of_wellFormed h
  unfold takeCodecs
  dsimp only
  rw [hf, hbest]
  exact ⟨_, rfl⟩

/-- A malformed section takes no codecs and binds no extensions. -/
theorem takeCodecs_malformed (h : r.Malformed) : (takeCodecs e kind s r).negotiated = s := by
  obtain ⟨fault, log, heq⟩ := @takeCodecs_of_malformed e s kind r h
  rw [heq]

/-- A section without a match takes no codecs and binds no extensions. -/
theorem takeCodecs_unmatched
    (hbest : (matchCodecs (e.registered.get kind) {} r.codecs).found.best? = none) :
    (takeCodecs e kind s r).negotiated = s := by
  obtain ⟨fault, log, heq⟩ := @takeCodecs_of_unmatched e s kind r hbest
  rw [heq]

/-- A section with matches takes the best ones over and binds its extensions. -/
theorem takeCodecs_matched {tier : Tier} {chosen : List Match} (h : ¬ r.Malformed)
    (hbest : (matchCodecs (e.registered.get kind) {} r.codecs).found.best? = some (tier, chosen)) :
    (takeCodecs e kind s r).negotiated =
      (bindOffered e.extensions kind (s.withCodecs kind (commit (s.codecsOf kind) chosen).1)
        r.extensions).1 := by
  obtain ⟨log, heq⟩ := @takeCodecs_of_matched e s kind r tier chosen h hbest
  rw [heq]

theorem takeCodecs_malformed_conflicts (h : r.Malformed) :
    (takeCodecs e kind s r).conflicts = [] := by
  obtain ⟨fault, log, heq⟩ := @takeCodecs_of_malformed e s kind r h
  rw [heq]

theorem takeCodecs_unmatched_conflicts
    (hbest : (matchCodecs (e.registered.get kind) {} r.codecs).found.best? = none) :
    (takeCodecs e kind s r).conflicts = [] := by
  obtain ⟨fault, log, heq⟩ := @takeCodecs_of_unmatched e s kind r hbest
  rw [heq]

/-- The conflicts of a section are those of taking its best matches over. -/
theorem takeCodecs_matched_conflicts {tier : Tier} {chosen : List Match} (h : ¬ r.Malformed)
    (hbest : (matchCodecs (e.registered.get kind) {} r.codecs).found.best? = some (tier, chosen)) :
    (takeCodecs e kind s r).conflicts = (commit (s.codecsOf kind) chosen).2 := by
  obtain ⟨log, heq⟩ := @takeCodecs_of_matched e s kind r tier chosen h hbest
  rw [heq]

/-- The codecs of a section meet no conflicts, or those of taking its best matches over. -/
theorem conflicts_takeCodecs_cases (e : Engine) (s : Negotiated) (kind : MediaKind)
    (r : RemoteSection) :
    (takeCodecs e kind s r).conflicts = [] ∨
      ∃ tier chosen,
        (matchCodecs (e.registered.get kind) {} r.codecs).found.best? = some (tier, chosen) ∧
        (takeCodecs e kind s r).conflicts = (commit (s.codecsOf kind) chosen).2 := by
  by_cases hr : r.Malformed
  · exact .inl (takeCodecs_malformed_conflicts hr)
  · cases hbest : (matchCodecs (e.registered.get kind) {} r.codecs).found.best? with
    | none => exact .inl (takeCodecs_unmatched_conflicts hbest)
    | some best => exact .inr ⟨best.1, best.2, rfl, takeCodecs_matched_conflicts hr hbest⟩

/-! ## One section -/

theorem applySection_skipped (h : MediaKind.ofText? r.media = none) :
    applySection e s r = { negotiated := s, log := [.sectionSkipped r.media] } := by
  rw [applySection, h]

/-- The first section of a kind opens the kind and takes its codecs. -/
theorem applySection_fresh (h : MediaKind.ofText? r.media = some kind)
    (hk : s.hasKind kind = false) :
    applySection e s r =
      (takeCodecs e kind (s.withCodecs kind []) r).logged [.kindNegotiating kind] := by
  rw [applySection, h]
  simp only [hk, Bool.false_eq_true, if_false]
  rfl

/-- A later section of a kind binds its extensions and may then take codecs. -/
theorem applySection_again (h : MediaKind.ofText? r.media = some kind)
    (hk : s.hasKind kind = true) (hm : e.multi = true) :
    applySection e s r =
      (takeCodecs e kind (bindOffered e.extensions kind s r.extensions).1 r).logged
        (bindOffered e.extensions kind s r.extensions).2 := by
  rw [applySection, h]
  simp only [hk, hm, if_true]

/-- Where later sections may not add codecs, all they do is to bind their extensions. -/
theorem applySection_closed (h : MediaKind.ofText? r.media = some kind)
    (hk : s.hasKind kind = true) (hm : e.multi = false) :
    applySection e s r =
      { negotiated := (bindOffered e.extensions kind s r.extensions).1
        log := (bindOffered e.extensions kind s r.extensions).2 } := by
  rw [applySection, h]
  simp only [hk, hm, if_true, Bool.false_eq_true, if_false]

@[simp] theorem Outcome.logged_negotiated (o : Outcome) (log : List Event) :
    (o.logged log).negotiated = o.negotiated := rfl

@[simp] theorem Outcome.logged_fault (o : Outcome) (log : List Event) :
    (o.logged log).fault = o.fault := rfl

@[simp] theorem Outcome.logged_conflicts (o : Outcome) (log : List Event) :
    (o.logged log).conflicts = o.conflicts := rfl

/-- A section stops a description exactly when it is malformed and its codecs are looked at: its
kind is new, or later sections may add codecs. -/
theorem applySection_fault_isSome_iff :
    (applySection e s r).fault.isSome ↔ r.Malformed ∧
      ∃ kind, MediaKind.ofText? r.media = some kind ∧ (s.hasKind kind = true → e.multi = true) := by
  cases h : MediaKind.ofText? r.media with
  | none => simp [applySection_skipped h]
  | some kind =>
    simp only [Option.some.injEq, exists_eq_left']
    cases hk : s.hasKind kind with
    | false => simp [applySection_fresh h hk, takeCodecs_fault_isSome_iff]
    | true =>
      cases hm : e.multi with
      | false => simp [applySection_closed h hk hm]
      | true => simp [applySection_again h hk hm, takeCodecs_fault_isSome_iff]

end

/-! ## Descriptions -/

theorem applySections_cons_stopped {e : Engine} {s : Negotiated} {r : RemoteSection}
    (h : (applySection e s r).fault.isSome) (rest : RemoteDescription) :
    applySections e s (r :: rest) = applySection e s r := by
  rw [applySections]
  exact if_pos h

theorem applySections_cons {e : Engine} {s : Negotiated} {r : RemoteSection}
    (h : (applySection e s r).fault = none) (rest : RemoteDescription) :
    applySections e s (r :: rest) =
      (applySection e s r).andThen (applySections e (applySection e s r).negotiated rest) := by
  rw [applySections]
  exact if_neg (by simp [h])

@[simp] theorem Outcome.andThen_negotiated (o p : Outcome) :
    (o.andThen p).negotiated = p.negotiated := rfl

@[simp] theorem Outcome.andThen_fault (o p : Outcome) : (o.andThen p).fault = p.fault := rfl

@[simp] theorem Outcome.andThen_conflicts (o p : Outcome) :
    (o.andThen p).conflicts = o.conflicts ++ p.conflicts := rfl

/-- A description that is not stopped is not stopped by its first section. -/
theorem applySection_fault_of_cons {e : Engine} {s : Negotiated} {r : RemoteSection}
    {rest : RemoteDescription} (h : (applySections e s (r :: rest)).fault = none) :
    (applySection e s r).fault = none := by
  rw [← Option.not_isSome_iff_eq_none]
  intro hstop
  rw [applySections_cons_stopped hstop] at h
  simp [h] at hstop

/-- Applying sections does not depend on what the engine itself has negotiated. -/
theorem applySections_withNegotiated (e : Engine) (n s : Negotiated) (d : RemoteDescription) :
    applySections { e with negotiated := n } s d = applySections e s d := by
  induction d generalizing s with
  | nil => rfl
  | cons r rest ih =>
    simp only [applySections, ih]
    rfl

/-- What every section of a description keeps, the description keeps, whether or not it is
stopped. -/
theorem applySections_keeps {e : Engine} {s : Negotiated} {d : RemoteDescription}
    {P : Negotiated → Prop} (hs : P s)
    (step : ∀ r ∈ d, ∀ {t : Negotiated}, P t → P (applySection e t r).negotiated) :
    P (applySections e s d).negotiated := by
  induction d generalizing s with
  | nil => exact hs
  | cons r rest ih =>
    rw [List.forall_mem_cons] at step
    by_cases hr : (applySection e s r).fault.isSome
    · rw [applySections_cons_stopped hr]
      exact step.1 hs
    · rw [applySections_cons (Option.not_isSome_iff_eq_none.1 hr), Outcome.andThen_negotiated]
      exact ih (step.1 hs) step.2

/-- A description that is not stopped is not stopped before any of its sections, and what follows a
section builds on what that section leaves behind. -/
theorem applySections_at {e : Engine} {s : Negotiated} {before after : List RemoteSection}
    {r : RemoteSection} (h : (applySections e s (before ++ r :: after)).fault = none) :
    (applySections e s before).fault = none ∧
      (applySection e (applySections e s before).negotiated r).fault = none ∧
      (applySections e s (before ++ r :: after)).negotiated =
        (applySections e (applySection e (applySections e s before).negotiated r).negotiated
          after).negotiated := by
  induction before generalizing s with
  | nil =>
    have hr : (applySection e s r).fault = none := applySection_fault_of_cons h
    exact ⟨rfl, hr, by rw [List.nil_append, applySections_cons hr]; rfl⟩
  | cons b rest ih =>
    have hb : (applySection e s b).fault = none := applySection_fault_of_cons h
    rw [List.cons_append, applySections_cons hb, Outcome.andThen_fault] at h
    rw [List.cons_append, applySections_cons hb, applySections_cons hb]
    exact ih h

/-- A description that is stopped is a run of sections that is not, and one section that stops
it. What it leaves behind is what that section leaves behind. -/
theorem applySections_stopped {e : Engine} {s : Negotiated} {d : RemoteDescription}
    (h : (applySections e s d).fault.isSome) :
    ∃ done r rest, d = done ++ r :: rest ∧ (applySections e s done).fault = none ∧
      (applySection e (applySections e s done).negotiated r).fault.isSome ∧
      (applySections e s d).negotiated =
        (applySection e (applySections e s done).negotiated r).negotiated := by
  induction d generalizing s with
  | nil => simp [applySections] at h
  | cons r rest ih =>
    by_cases hr : (applySection e s r).fault.isSome
    · exact ⟨[], r, rest, rfl, rfl, hr, by rw [applySections_cons_stopped hr]; rfl⟩
    · rw [Option.not_isSome_iff_eq_none] at hr
      rw [applySections_cons hr, Outcome.andThen_fault] at h
      obtain ⟨done, x, after, rfl, hdone, hx, hleft⟩ := ih h
      refine ⟨r :: done, x, after, rfl, ?_, ?_, ?_⟩
      · rw [applySections_cons hr, Outcome.andThen_fault, hdone]
      · rw [applySections_cons hr, Outcome.andThen_negotiated]
        exact hx
      · rw [applySections_cons hr, applySections_cons hr, Outcome.andThen_negotiated,
          Outcome.andThen_negotiated, hleft]

/-! ## Results -/

theorem joinErrors_ne_numeral (errors : List Error) (fault : NumeralFault) :
    joinErrors errors ≠ .error (.numeral fault) := by
  cases errors <;> simp [joinErrors]

/-- An update fails on a number exactly when a section stops its description. -/
theorem update_eq_numeral_iff {e : Engine} {d : RemoteDescription} {fault : NumeralFault} :
    (e.update d).2 = .error (.numeral fault) ↔
      (applySections e e.negotiated d).fault = some fault := by
  unfold Engine.update Engine.negotiate Outcome.result
  dsimp only
  cases (applySections e e.negotiated d).fault with
  | none => simp [joinErrors_ne_numeral]
  | some held => simp

/-- An update does not fail on a number exactly when no section stops its description. -/
theorem update_ne_numeral_iff {e : Engine} {d : RemoteDescription} :
    (∀ fault, (e.update d).2 ≠ .error (.numeral fault)) ↔
      (applySections e e.negotiated d).fault = none := by
  simp only [Ne, update_eq_numeral_iff]
  exact Option.eq_none_iff_forall_ne_some.symm

/-- An update that no section stops reports the conflicts that its sections have met. -/
theorem update_eq_joinErrors {e : Engine} {d : RemoteDescription}
    (hd : (applySections e e.negotiated d).fault = none) :
    (e.update d).2 = joinErrors (applySections e e.negotiated d).conflicts := by
  simp only [Engine.update, Engine.negotiate, Outcome.result, hd]

/-- An update succeeds exactly when no section stops its description and no payload types
conflict. -/
theorem update_eq_ok_iff {e : Engine} {d : RemoteDescription} :
    (e.update d).2 = .ok () ↔ (applySections e e.negotiated d).fault = none ∧
      (applySections e e.negotiated d).conflicts = [] := by
  unfold Engine.update Engine.negotiate Outcome.result
  dsimp only
  cases (applySections e e.negotiated d).fault with
  | none => simp [joinErrors_eq_ok_iff]
  | some held => simp

/-- An update leaves the engine as it is exactly when its sections leave the negotiated state as it
is. -/
theorem update_eq_self_iff {e : Engine} {d : RemoteDescription} :
    (e.update d).1 = e ↔ (applySections e e.negotiated d).negotiated = e.negotiated := by
  constructor
  · exact congrArg Engine.negotiated
  · intro hsame
    rw [Engine.update, Engine.negotiate, hsame]

/-! ## The first section of a kind -/

theorem applySections_singleton (e : Engine) (s : Negotiated) (r : RemoteSection) :
    (applySections e s [r]).negotiated = (applySection e s r).negotiated ∧
      (applySections e s [r]).fault = (applySection e s r).fault := by
  by_cases h : (applySection e s r).fault.isSome
  · rw [applySections_cons_stopped h]
    exact ⟨rfl, rfl⟩
  · have hnone := Option.not_isSome_iff_eq_none.1 h
    rw [applySections_cons hnone, hnone]
    exact ⟨rfl, rfl⟩

section

variable {e : Engine} {r : RemoteSection} {kind : MediaKind}

/-- The first section of a kind is refused on a number exactly when it is malformed. -/
theorem update_fresh_numeral_iff (h : MediaKind.ofText? r.media = some kind)
    (hk : e.negotiated.hasKind kind = false) :
    (∃ fault, (e.update [r]).2 = .error (.numeral fault)) ↔ r.Malformed := by
  simp only [update_eq_numeral_iff, (applySections_singleton e e.negotiated r).2]
  rw [← Option.isSome_iff_exists, applySection_fresh h hk, Outcome.logged_fault,
    takeCodecs_fault_isSome_iff]

/-- The first section of a kind takes its matches over and binds its header extensions. -/
theorem update_fresh_matched (h : MediaKind.ofText? r.media = some kind)
    (hk : e.negotiated.hasKind kind = false) (hr : ¬ r.Malformed) {tier : Tier}
    {chosen : List Match}
    (hbest : (matchCodecs (e.registered.get kind) {} r.codecs).found.best? = some (tier, chosen)) :
    (e.update [r]).1.negotiated =
      (bindOffered e.extensions kind (e.negotiated.withCodecs kind (commit [] chosen).1)
        r.extensions).1 := by
  show (applySections e e.negotiated [r]).negotiated = _
  rw [(applySections_singleton e e.negotiated r).1, applySection_fresh h hk,
    Outcome.logged_negotiated, takeCodecs_matched hr hbest, Negotiated.codecsOf_withCodecs,
    if_pos rfl, Negotiated.withCodecs_withCodecs]

theorem update_fresh_unmatched (h : MediaKind.ofText? r.media = some kind)
    (hk : e.negotiated.hasKind kind = false)
    (hbest : (matchCodecs (e.registered.get kind) {} r.codecs).found.best? = none) :
    (e.update [r]).1.negotiated.codecsOf kind = [] := by
  show (applySections e e.negotiated [r]).negotiated.codecsOf kind = []
  rw [(applySections_singleton e e.negotiated r).1, applySection_fresh h hk,
    Outcome.logged_negotiated, takeCodecs_unmatched hbest, Negotiated.codecsOf_withCodecs,
    if_pos rfl]

end

end MediaNegotiation
