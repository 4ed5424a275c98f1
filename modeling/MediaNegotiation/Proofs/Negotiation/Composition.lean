import MediaNegotiation.Engine.History
import MediaNegotiation.Proofs.Negotiation.Section

/-!
# Descriptions one after the other

A description can be cut into two wherever one of its sections ends, and the parts applied one after
the other. What is negotiated is the same, because a section finds nothing of the sections before it
but what they have negotiated. The reports fit together as well: a malformed codec in the first part
keeps the second one from being applied, one in the second part hides the conflicts of the first,
and without any the conflicts of both are reported in their order.

Results:
* `joinErrors_append`: errors of two steps are reported like the reports on each of them.
* `applySections_append_stopped`, `applySections_append_read`: applying the sections of both parts.
* `update_append`: a description in two parts has the effect and the result of its parts.
-/

namespace MediaNegotiation

/-! ## Reports in a row -/

/-- The message of a result that is a failure. -/
def failureMessage? : Except Error Unit → Option String
  | .ok _ => none
  | .error err => some err.message

/-- The messages of the failures among some results, one on each line. -/
def failureLines (results : List (Except Error Unit)) : String :=
  "\n".intercalate (results.filterMap failureMessage?)

section

variable {errors first second : List Error}

theorem joinErrors_of_ne_nil (h : errors ≠ []) :
    joinErrors errors = .error (.joined (joinMessages errors)) := by
  cases errors with
  | nil => exact absurd rfl h
  | cons err rest => rfl

theorem joinMessages_append (hfirst : first ≠ []) (hsecond : second ≠ []) :
    joinMessages (first ++ second) = joinMessages first ++ "\n" ++ joinMessages second := by
  unfold joinMessages
  rw [List.map_append]
  exact String.intercalate_append_of_ne_nil (by simpa using hfirst) (by simpa using hsecond)

/-- Errors of two steps are reported together like the reports on each of the steps. -/
theorem joinErrors_append (h : first ++ second ≠ []) :
    joinErrors (first ++ second) =
      .error (.joined (failureLines [joinErrors first, joinErrors second])) := by
  rw [joinErrors_of_ne_nil h]
  by_cases hfirst : first = []
  · subst hfirst
    rw [List.nil_append] at h ⊢
    rw [joinErrors_of_ne_nil h]
    simp [failureLines, failureMessage?, List.filterMap_cons, joinErrors, Error.message]
  · by_cases hsecond : second = []
    · subst hsecond
      rw [List.append_nil, joinErrors_of_ne_nil hfirst]
      simp [failureLines, failureMessage?, List.filterMap_cons, joinErrors, Error.message]
    · rw [joinErrors_of_ne_nil hfirst, joinErrors_of_ne_nil hsecond,
        joinMessages_append hfirst hsecond]
      simp [failureLines, failureMessage?, Error.message]

end

/-! ## Sections in a row -/

section

variable {e : Engine} {s : Negotiated} {first second : RemoteDescription}

/-- Sections behind a run of sections that is stopped are not looked at. -/
theorem applySections_append_stopped (h : (applySections e s first).fault.isSome)
    (second : RemoteDescription) :
    applySections e s (first ++ second) = applySections e s first := by
  rw [applySections_append]
  exact if_pos h

/-- Sections behind a run of sections that is not stopped start from where it ends. -/
theorem applySections_append_read (h : (applySections e s first).fault = none)
    (second : RemoteDescription) :
    applySections e s (first ++ second) =
      (applySections e s first).andThen
        (applySections e (applySections e s first).negotiated second) := by
  rw [applySections_append]
  exact if_neg (by simp [h])

end

/-! ## Updates in a row -/

section

variable {e : Engine} {d d' : RemoteDescription}

theorem update_append_stopped (h : (e.negotiate d).fault.isSome) :
    e.update (d ++ d') = e.update d := by
  have hsections : e.negotiate (d ++ d') = e.negotiate d := applySections_append_stopped h d'
  rw [Engine.update, hsections, Engine.update]

/-- An update with two parts of which the first is not stopped leaves behind what updates with both
parts do, and reports the one after the other. -/
theorem update_append_read (h : (e.negotiate d).fault = none) :
    e.update (d ++ d') =
      (((e.update d).1.update d').1,
        ((e.negotiate d).andThen ((e.update d).1.negotiate d')).result) := by
  have hsecond : (e.update d).1.negotiate d' = applySections e (e.negotiate d).negotiated d' :=
    applySections_withNegotiated e _ _ d'
  have hsections : e.negotiate (d ++ d') =
      (e.negotiate d).andThen ((e.update d).1.negotiate d') := by
    rw [hsecond]
    exact applySections_append_read h d'
  rw [Engine.update, hsections]
  rfl

/-- **Composition.** Take a description in two parts. If the update with the first part fails on a
number, the update with both parts leaves the same engine behind and fails on the same number.
Otherwise it leaves the engine behind that the updates with the first and then with the second part
leave behind, and its result is made of theirs. If the second one fails on a number, so does the
whole. If both succeed, so does the whole. In any other case the whole fails with one new error, the
text of which has the messages of those that have failed, in their order, each on its own line. -/
theorem update_append (e : Engine) (d d' : RemoteDescription) :
    let first := e.update d
    let second := first.1.update d'
    let whole := e.update (d ++ d')
    (∀ fault, first.2 = .error (.numeral fault) → whole = first) ∧
      ((∀ fault, first.2 ≠ .error (.numeral fault)) →
        whole.1 = second.1 ∧
        (∀ fault, second.2 = .error (.numeral fault) → whole.2 = .error (.numeral fault)) ∧
        (first.2 = .ok () ∧ second.2 = .ok () → whole.2 = .ok ()) ∧
        ((∀ fault, second.2 ≠ .error (.numeral fault)) → ¬ (first.2 = .ok () ∧ second.2 = .ok ()) →
          whole.2 = .error (.joined (failureLines [first.2, second.2])))) := by
  intro first second whole
  constructor
  · intro fault hstop
    refine update_append_stopped ?_
    rw [Engine.negotiate, update_eq_numeral_iff.1 hstop]
    rfl
  · intro hread
    have hd : (e.negotiate d).fault = none := update_ne_numeral_iff.1 hread
    have hwhole : whole = (second.1, ((e.negotiate d).andThen (first.1.negotiate d')).result) :=
      update_append_read hd
    rw [hwhole]
    -- only a second part that is read to its end reports conflicts at all
    have hjoined : (first.1.negotiate d').fault = none →
        ((e.negotiate d).andThen (first.1.negotiate d')).result =
          joinErrors ((e.negotiate d).conflicts ++ (first.1.negotiate d').conflicts) := by
      intro hd'
      simp only [Outcome.result, Outcome.andThen_fault, hd', Outcome.andThen_conflicts]
    refine ⟨rfl, fun fault hstop => ?_, fun hok => ?_, fun hread' hfailed => ?_⟩
    · have hd' : (first.1.negotiate d').fault = some fault := update_eq_numeral_iff.1 hstop
      simp only [Outcome.result, Outcome.andThen_fault, hd']
    · have hnone : (e.negotiate d).conflicts = [] := (update_eq_ok_iff.1 hok.1).2
      obtain ⟨hd', hnone'⟩ : (first.1.negotiate d').fault = none ∧
          (first.1.negotiate d').conflicts = [] := update_eq_ok_iff.1 hok.2
      rw [hjoined hd', hnone, hnone']
      rfl
    · have hd' : (first.1.negotiate d').fault = none := update_ne_numeral_iff.1 hread'
      have hfirst : first.2 = joinErrors (e.negotiate d).conflicts := update_eq_joinErrors hd
      have hsecond : second.2 = joinErrors (first.1.negotiate d').conflicts :=
        update_eq_joinErrors hd'
      have hsome : (e.negotiate d).conflicts ++ (first.1.negotiate d').conflicts ≠ [] := by
        rw [Ne, List.append_eq_nil_iff, ← joinErrors_eq_ok_iff, ← joinErrors_eq_ok_iff, ← hfirst,
          ← hsecond]
        exact hfailed
      rw [hjoined hd', hfirst, hsecond]
      exact joinErrors_append hsome

end

namespace InParts

/-- A video section with a codec at a clock rate. -/
def video (clockRate : UInt32) : RemoteSection :=
  { media := "video", codecs := [⟨Mime.vp8, clockRate, 0, "", [], 35, .given ""⟩] }

/-- An engine that lets later sections add codecs. Its codec leaves the clock rate open, and has
been taken over at one. -/
def engine : Engine := (Bench.run {} [
  .setMulti true,
  .registerCodec .video ⟨Mime.vp8, 0, 0, "", [], 96, .given ""⟩,
  .update [video 90000]]).engine

end InParts

/-- Two parts that meet a conflict each, and a section between them that meets none. -/
example :
    (match (InParts.engine.update
        ([InParts.video 48000, InParts.video 90000] ++ [InParts.video 8000])).2 with
      | .ok _ => none
      | .error err => some err.message) =
      some (Error.codecConflict.message ++ "\n" ++ Error.codecConflict.message) := by
  decide +kernel

end MediaNegotiation
