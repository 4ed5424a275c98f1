import Mathlib.Data.List.Forall2
import MediaNegotiation.Proofs.Format.Segments

/-!
# Pointing a parameter line at another payload type

The rewriting of a parameter line looks at its text, and reading the line looks at keys and values.
The two agree on which segments name an associated payload type, except for a segment `apt` without
an equals sign, which is read as an empty value and is not rewritten. A line whose associated
payload type is not empty is therefore read, after rewriting, as the same parameters with the new
one.

Results:
* `readSegment_of_isApt`, `value_eq_empty_of_not_isApt`: how far the two views of a segment agree.
* `getElem?_ofLine`: what a line says about a key is what its last segment with the key says.
* `segments_retargetApt`: rewriting a line rewrites its segments one by one.
* `retargetApt_eq_self_iff`: which lines rewriting leaves as they are.
* `retargetApt_retargetApt`: only the last of several rewritings counts.
* `retargetApt_keeps`: the segments of other keys keep their text.
* `ofLine_retargetApt`: the parameters of a line after rewriting.
* `retargetApt_agrees`: rewriting and reading agree.
-/

namespace MediaNegotiation.Parameters

open Text

variable {segment : List Char} {payloadType : UInt8}

/-! ## Segments -/

/-- A key is read as `apt` exactly when its ASCII lowercase is. -/
theorem lower_eq_apt_iff {key : List Char} :
    String.ofList (lower key) = "apt" ↔ asciiLower key = "apt".toList := by
  have hplain : ∀ d ∈ "apt".toList, isPlainSmall d = true := List.all_eq_true.1 (by decide)
  have happ : String.ofList "apt".toList = "apt" := String.ofList_toList
  rw [← lower_eq_iff hplain, ← String.ofList_inj, happ]

/-- A segment that names an associated payload type is read as one. -/
theorem readSegment_of_isApt (h : isApt segment = true) :
    ∃ value, readSegment segment = some ("apt", value) := by
  unfold isApt at h
  split at h
  · rename_i key value hcut
    rw [beq_iff_eq] at h
    have hne : ¬ (trim key).isEmpty = true := by
      intro hempty
      rw [List.isEmpty_iff] at hempty
      rw [hempty] at h
      exact absurd h (by decide)
    rw [readSegment_of_cut hcut, if_neg hne, lower_eq_apt_iff.2 h]
    exact ⟨_, rfl⟩
  · exact absurd h Bool.false_ne_true

/-- What else is read as an associated payload type has an empty value. -/
theorem value_eq_empty_of_not_isApt {value : String} (h : isApt segment = false)
    (hread : readSegment segment = some ("apt", value)) : value = "" := by
  cases hcut : cutAt '=' segment with
  | none =>
    rw [readSegment_of_uncut hcut] at hread
    split at hread
    · simp at hread
    · simp only [Option.some.injEq, Prod.mk.injEq] at hread
      exact hread.2.symm
  | some parts =>
    obtain ⟨key, text⟩ := parts
    rw [readSegment_of_cut hcut] at hread
    split at hread
    · simp at hread
    · simp only [Option.some.injEq, Prod.mk.injEq] at hread
      have hapt : isApt segment = true := by
        unfold isApt
        rw [hcut, beq_iff_eq]
        exact lower_eq_apt_iff.1 hread.1
      rw [hapt] at h
      exact absurd h.symm Bool.false_ne_true

/-- The digits of a number of 8 bits have no blanks around them and no semicolon in them. -/
theorem write_plain (n : UInt8) :
    trim (Numeral.write n) = Numeral.write n ∧ ';' ∉ Numeral.write n := by
  have all : ∀ k : Fin 256, trim (Numeral.write (UInt8.ofFin k)) = Numeral.write (UInt8.ofFin k) ∧
      ';' ∉ Numeral.write (UInt8.ofFin k) := by
    decide +kernel
  simpa using all n.toFin

theorem cutAt_aptSegment (n : UInt8) :
    cutAt '=' (aptSegment n) = some ("apt".toList, Numeral.write n) :=
  cutAt_eq_some_iff.2 ⟨rfl, by decide⟩

/-- The segment that names a payload type is read as that payload type. -/
theorem readSegment_aptSegment (n : UInt8) :
    readSegment (aptSegment n) = some ("apt", String.ofList (Numeral.write n)) := by
  rw [readSegment_of_cut (cutAt_aptSegment n), (write_plain n).1]
  rfl

theorem isApt_aptSegment (n : UInt8) : isApt (aptSegment n) = true := by
  rw [isApt, cutAt_aptSegment]
  rfl

/-- A segment that names an associated payload type has the key `apt`. -/
theorem key?_of_isApt (h : isApt segment = true) : key? segment = some "apt" := by
  obtain ⟨value, hread⟩ := readSegment_of_isApt h
  exact key?_of_read hread

/-! ## Lines -/

/-- What a segment says about a key. -/
def value? (key : String) (segment : List Char) : Option String :=
  (readSegment segment).bind fun entry => if entry.1 = key then some entry.2 else none

theorem value?_of_read {key key' text : String} (h : readSegment segment = some (key', text)) :
    value? key segment = if key' = key then some text else none := by
  rw [value?, h, Option.bind_some]

/-- What a line says about a key is what its last segment with the key says. -/
theorem getElem?_ofLine (line key : String) :
    (ofLine line)[key]? = (segments line).reverse.findSome? (value? key) := by
  rw [ofLine, getElem?_ofEntries, entries, ← List.filterMap_reverse]
  induction (segments line).reverse with
  | nil => rfl
  | cons segment rest ih =>
    rw [List.findSome?_cons]
    cases hread : readSegment segment with
    | none => rw [List.filterMap_cons_none hread, ih, value?, hread, Option.bind_none]
    | some entry =>
      rw [List.filterMap_cons_some hread, value?_of_read hread]
      by_cases hk : entry.1 = key
      · rw [List.find?_cons_of_pos (by simpa using hk), if_pos hk]
        rfl
      · rw [List.find?_cons_of_neg (by simpa using hk), if_neg hk]
        exact ih

theorem not_mem_splitOn {s : List Char} (h : segment ∈ s.splitOn ';') : ';' ∉ segment := by
  induction s generalizing segment with
  | nil =>
    rw [List.splitOn_nil, List.mem_singleton] at h
    simp [h]
  | cons c rest ih =>
    rw [List.splitOn_cons_eq_if_modifyHead] at h
    split at h
    · rcases List.mem_cons.1 h with rfl | hrest
      · simp
      · exact ih hrest
    · rename_i hc
      cases hsplit : rest.splitOn ';' with
      | nil => simp at hsplit
      | cons first more =>
        rw [hsplit, List.modifyHead_cons, List.mem_cons] at h
        rcases h with rfl | hmore
        · rw [List.mem_cons, not_or]
          exact ⟨fun he => hc (beq_iff_eq.2 he.symm), ih (by simp [hsplit])⟩
        · exact ih (by simp [hsplit, hmore])

/-- A segment with its associated payload type replaced, if it names one. -/
def retargetSegment (payloadType : UInt8) (segment : List Char) : List Char :=
  if isApt segment then aptSegment payloadType else segment

/-- Rewriting a line rewrites its segments one by one. -/
theorem segments_retargetApt (line : String) (payloadType : UInt8) :
    segments (retargetApt line payloadType) =
      (segments line).map (retargetSegment payloadType) := by
  have hplain : ∀ l ∈ (segments line).map (retargetSegment payloadType), ';' ∉ l := by
    intro l hl
    obtain ⟨segment, hsegment, rfl⟩ := List.mem_map.1 hl
    unfold retargetSegment
    split
    · unfold aptSegment
      rw [List.mem_append, not_or]
      exact ⟨by decide, (write_plain payloadType).2⟩
    · exact not_mem_splitOn hsegment
  have hne : (segments line).map (retargetSegment payloadType) ≠ [] := by
    rw [Ne, List.map_eq_nil_iff]
    exact List.splitOn_ne_nil _ _
  rw [segments, retargetApt, String.toList_ofList]
  exact List.splitOn_intercalate ';' hplain hne

theorem retargetSegment_retargetSegment (first second : UInt8) (segment : List Char) :
    retargetSegment second (retargetSegment first segment) = retargetSegment second segment := by
  by_cases h : isApt segment = true
  · simp [retargetSegment, h, isApt_aptSegment]
  · simp [retargetSegment, h]

/-- A line that is pointed at two payload types in turn is the line pointed at the second one. -/
theorem retargetApt_retargetApt (line : String) (first second : UInt8) :
    retargetApt (retargetApt line first) second = retargetApt line second := by
  rw [← String.toList_inj, ← intercalate_segments, ← intercalate_segments, segments_retargetApt,
    segments_retargetApt, segments_retargetApt, List.map_map]
  congr 2
  funext segment
  exact retargetSegment_retargetSegment first second segment

/-- Each segment of a line that has another key than `apt` keeps its text. -/
theorem retargetApt_keeps (line : String) (payloadType : UInt8) :
    List.Forall₂ (fun before after => key? before ≠ some "apt" → after = before)
      (segments line) (segments (retargetApt line payloadType)) := by
  rw [segments_retargetApt, List.forall₂_map_right_iff, List.forall₂_same]
  intro segment _ hkey
  exact if_neg fun hapt => hkey (key?_of_isApt hapt)

/-- Pointing a line at a payload type changes nothing exactly when it names no other one. -/
theorem retargetApt_eq_self_iff {line : String} :
    retargetApt line payloadType = line ↔
      ∀ segment ∈ segments line, isApt segment = true → segment = aptSegment payloadType := by
  have hsegments : (segments line).map (retargetSegment payloadType) = segments line ↔
      ∀ segment ∈ segments line, retargetSegment payloadType segment = segment := by
    have hid := List.map_inj_left (l := segments line) (f := retargetSegment payloadType) (g := id)
    rwa [List.map_id] at hid
  have hline : retargetApt line payloadType = line ↔
      (segments line).map (retargetSegment payloadType) = segments line := by
    rw [← segments_retargetApt]
    refine ⟨congrArg segments, fun hsame => ?_⟩
    rw [← String.toList_inj, ← intercalate_segments, hsame, intercalate_segments]
  rw [hline, hsegments]
  refine forall_congr' fun segment => imp_congr_right fun _ => ?_
  unfold retargetSegment
  by_cases h : isApt segment = true
  · simp [h, eq_comm]
  · simp [h]

/-! ## Parameters -/

theorem value?_retargetSegment_of_ne {key : String} (hkey : key ≠ "apt") (payloadType : UInt8)
    (segment : List Char) :
    value? key (retargetSegment payloadType segment) = value? key segment := by
  unfold retargetSegment
  split
  · rename_i hapt
    obtain ⟨value, hread⟩ := readSegment_of_isApt hapt
    rw [value?_of_read (readSegment_aptSegment payloadType), value?_of_read hread,
      if_neg hkey.symm, if_neg hkey.symm]
  · rfl

/-- A line that names an associated payload type is read, once it has been pointed at another one,
as the same parameters with the new payload type. -/
theorem ofLine_retargetApt {line value : String} (h : (ofLine line)["apt"]? = some value)
    (hne : value ≠ "") (payloadType : UInt8) :
    ofLine (retargetApt line payloadType) =
      (ofLine line).insert "apt" (String.ofList (Numeral.write payloadType)) := by
  refine Std.ExtTreeMap.ext_getElem? fun key => ?_
  rw [getElem?_ofLine, segments_retargetApt, ← List.map_reverse, List.findSome?_map]
  by_cases hkey : key = "apt"
  · subst hkey
    rw [getElem?_ofLine, List.findSome?_eq_some_iff] at h
    obtain ⟨later, last, earlier, hsegments, hlast, hlater⟩ := h
    rw [Std.ExtTreeMap.getElem?_insert_self, List.findSome?_eq_some_iff]
    refine ⟨later, last, earlier, hsegments, ?_, fun segment hsegment => ?_⟩
    · -- the last segment with a value has one, so it is not an `apt` without an equals sign
      have hapt : isApt last = true := by
        rw [← Bool.not_eq_false]
        intro hnot
        obtain ⟨entry, hread, hvalue⟩ := Option.bind_eq_some_iff.1 hlast
        split at hvalue
        · rename_i hk
          refine hne (value_eq_empty_of_not_isApt hnot ?_)
          rw [hread, ← hk, ← Option.some.inj hvalue]
        · simp at hvalue
      rw [Function.comp_apply, retargetSegment, if_pos hapt,
        value?_of_read (readSegment_aptSegment payloadType), if_pos rfl]
    · have hnone := hlater segment hsegment
      have hnot : ¬ isApt segment = true := by
        intro hapt
        obtain ⟨value, hread⟩ := readSegment_of_isApt hapt
        rw [value?_of_read hread, if_pos rfl] at hnone
        simp at hnone
      rw [Function.comp_apply, retargetSegment, if_neg hnot, hnone]
  · have hother : ¬ compare "apt" key = .eq := by simpa using Ne.symm hkey
    rw [Std.ExtTreeMap.getElem?_insert, if_neg hother, getElem?_ofLine]
    congr 1
    funext segment
    exact value?_retargetSegment_of_ne hkey payloadType segment

/-- **Rewriting and reading.** Pointing a line at a payload type a second time changes nothing more,
and every segment with another key than `apt` keeps its text. A line for which reading finds an
associated payload type is then read as the same parameters with the new one. -/
theorem retargetApt_agrees (line : String) (payloadType : UInt8) :
    ((∃ value ≠ "", (ofLine line)["apt"]? = some value) →
      ofLine (retargetApt line payloadType) =
        (ofLine line).insert "apt" (String.ofList (Numeral.write payloadType))) ∧
    retargetApt (retargetApt line payloadType) payloadType = retargetApt line payloadType ∧
    List.Forall₂ (fun before after => key? before ≠ some "apt" → after = before)
      (segments line) (segments (retargetApt line payloadType)) := by
  refine ⟨?_, retargetApt_retargetApt line payloadType payloadType,
    retargetApt_keeps line payloadType⟩
  rintro ⟨value, hne, hvalue⟩
  exact ofLine_retargetApt hvalue hne payloadType

/-- Every segment `apt` with an equals sign is rewritten, and the one without is left. -/
example : retargetApt "APT =97; apt; x=1;apt= 98 " 100 = "apt=100; apt; x=1;apt=100" := by
  decide +kernel

end MediaNegotiation.Parameters
