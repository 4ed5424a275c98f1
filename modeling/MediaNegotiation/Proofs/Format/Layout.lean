import Mathlib.Logic.Relation
import MediaNegotiation.Format.Basic
import MediaNegotiation.Proofs.Format.Segments

/-!
# Layout of a parameter line

One set of parameters can be written in many ways: with blanks around segments, keys and values,
with keys in either case, with segments that say nothing, and in another order. The layouts of a
line are the lists of segments that such changes lead to, and all of them are read as the same
parameters, as long as the segments of one key stay in their order.

Results:
* `readSegment_of_restyled`: a segment may be padded and its key written in either case.
* `getElem?_ofSegments`: the value of a key is that of the last segment that carries it.
* `Relaid.swap`: neighbours with different keys may change places.
* `ofSegments_of_relaid`: one change of layout keeps the parameters.
* `ofLine_of_layouts`: neither the parameters of a line nor the formats that are read from it depend
  on its layout.
-/

namespace MediaNegotiation.Parameters

open Text

variable {segment key left right : List Char}

/-! ## Reading a segment -/

/-- A segment with a blank key is dropped. -/
theorem readSegment_of_blank (h : AllBlank (segment.takeWhile (· != '='))) :
    readSegment segment = none := by
  have hempty : keyText segment = [] := (trim_eq_nil_iff _).2 h
  rw [readSegment_eq, key?, hempty]
  rfl

/-- Two segments with the same value and the same key up to the case of ASCII letters are read
alike. -/
theorem readSegment_congr {a b : List Char} (hkey : asciiLower (keyText a) = asciiLower (keyText b))
    (hvalue : valueText a = valueText b) : readSegment a = readSegment b := by
  have hempty : (keyText a).isEmpty = (keyText b).isEmpty := by
    have hlower := congrArg List.isEmpty hkey
    unfold asciiLower at hlower
    rwa [List.isEmpty_map, List.isEmpty_map] at hlower
  rw [readSegment_eq, readSegment_eq, key?, key?, hempty, lower_congr hkey, hvalue]

/-! ## Layouts of a segment -/

/-- One segment is the other with blanks around it, around its key or around its value, or with its
key written in another case. -/
inductive Restyled : List Char → List Char → Prop
  | padded (segment : List Char) {left right : List Char} (hl : AllBlank left)
      (hr : AllBlank right) : Restyled segment (left ++ segment ++ right)
  | keyPadded {key left right : List Char} (value : List Char) (h : '=' ∉ key) (hl : AllBlank left)
      (hr : AllBlank right) : Restyled (key ++ '=' :: value) (left ++ key ++ right ++ '=' :: value)
  | valuePadded {key left right : List Char} (value : List Char) (h : '=' ∉ key)
      (hl : AllBlank left) (hr : AllBlank right) :
      Restyled (key ++ '=' :: value) (key ++ '=' :: (left ++ value ++ right))
  | recased {key key' : List Char} (value : List Char) (h : '=' ∉ key)
      (hcase : asciiLower key = asciiLower key') :
      Restyled (key ++ '=' :: value) (key' ++ '=' :: value)
  | recasedAlone {key key' : List Char} (h : '=' ∉ key) (hcase : asciiLower key = asciiLower key') :
      Restyled key key'

theorem not_mem_padded (h : '=' ∉ key) (hl : AllBlank left) (hr : AllBlank right) :
    '=' ∉ left ++ key ++ right := by
  have hblank : ∀ {s}, AllBlank s → '=' ∉ s := fun hs hmem => absurd (hs _ hmem) (by decide)
  simp [h, hblank hl, hblank hr]

theorem not_mem_recased {key' : List Char} (h : '=' ∉ key)
    (hcase : asciiLower key = asciiLower key') : '=' ∉ key' := by
  have hmark : ∀ c : Char, (c.toLower == '=') = (c == '=') :=
    apply_toLower (f := (· == '=')) (by decide +kernel)
  intro hmem
  have hlower : '=' ∈ asciiLower key := hcase ▸ List.mem_map.2 ⟨'=', hmem, rfl⟩
  obtain ⟨c, hc, hequals⟩ := List.mem_map.1 hlower
  have hc' := hmark c
  rw [hequals, beq_self_eq_true, eq_comm, beq_iff_eq] at hc'
  exact h (hc' ▸ hc)

theorem asciiLower_trim_congr {key' : List Char} (hcase : asciiLower key = asciiLower key') :
    asciiLower (trim key) = asciiLower (trim key') := by
  rw [asciiLower_trim, asciiLower_trim, hcase]

/-- A segment may be padded and its key written in either case. -/
theorem readSegment_of_restyled {a b : List Char} (h : Restyled a b) :
    readSegment b = readSegment a := by
  symm
  cases h with
  | @padded _ left right hl hr =>
    rcases segment_cases a with huncut | ⟨key, value, rfl, hkey⟩
    · have hpadded := not_mem_padded huncut hl hr
      refine readSegment_congr ?_ ?_
      · rw [keyText_of_uncut huncut, keyText_of_uncut hpadded, trim_padded _ hl hr]
      · rw [valueText_of_uncut huncut, valueText_of_uncut hpadded]
    · -- the blanks are in front of the key and behind the value
      have hparts :
          left ++ (key ++ '=' :: value) ++ right = left ++ key ++ '=' :: (value ++ right) := by
        simp
      have hfront : '=' ∉ left ++ key := by
        simpa using not_mem_padded hkey hl (List.forall_mem_nil _)
      rw [hparts]
      refine readSegment_congr ?_ ?_
      · rw [keyText_of_cut hkey, keyText_of_cut hfront, trim_padStart _ hl]
      · rw [valueText_of_cut hkey, valueText_of_cut hfront, trim_padEnd _ hr]
  | keyPadded value h hl hr =>
    have hpadded := not_mem_padded h hl hr
    refine readSegment_congr ?_ ?_
    · rw [keyText_of_cut h, keyText_of_cut hpadded, trim_padded _ hl hr]
    · rw [valueText_of_cut h, valueText_of_cut hpadded]
  | valuePadded value h hl hr =>
    refine readSegment_congr ?_ ?_
    · rw [keyText_of_cut h, keyText_of_cut h]
    · rw [valueText_of_cut h, valueText_of_cut h, trim_padded _ hl hr]
  | recased value h hcase =>
    have hrecased := not_mem_recased h hcase
    refine readSegment_congr ?_ ?_
    · rw [keyText_of_cut h, keyText_of_cut hrecased, asciiLower_trim_congr hcase]
    · rw [valueText_of_cut h, valueText_of_cut hrecased]
  | recasedAlone h hcase =>
    have hrecased := not_mem_recased h hcase
    refine readSegment_congr ?_ ?_
    · rw [keyText_of_uncut h, keyText_of_uncut hrecased, asciiLower_trim_congr hcase]
    · rw [valueText_of_uncut h, valueText_of_uncut hrecased]

/-! ## Layouts of a line -/

/-- The line with the given segments. -/
def joined (segs : List (List Char)) : String := String.ofList ([';'].intercalate segs)

/-- What the segments of a line say. -/
def ofSegments (segs : List (List Char)) : Parameters := ofEntries (segs.filterMap readSegment)

/-- The segments of a line are read one by one; a line without segments says nothing. -/
theorem ofLine_joined {segs : List (List Char)} (h : ∀ s ∈ segs, ';' ∉ s) :
    ofLine (joined segs) = ofSegments segs := by
  cases segs with
  | nil => rfl
  | cons first rest =>
    have hsegments : segments (joined (first :: rest)) = first :: rest := by
      rw [segments, joined, String.toList_ofList]
      exact List.splitOn_intercalate ';' h (List.cons_ne_nil first rest)
    rw [ofLine, entries, hsegments, ofSegments]

/-- The value of a key is that of the last segment that carries it. -/
theorem getElem?_ofSegments (segs : List (List Char)) (key : String) :
    (ofSegments segs)[key]? =
      (segs.filter fun segment => key? segment = some key).getLast?.map
        fun segment => String.ofList (valueText segment) := by
  have hcarries : ∀ segment,
      (readSegment segment).any (·.1 == key) = decide (key? segment = some key) := by
    intro segment
    rw [readSegment_eq, Option.any_map]
    cases key? segment with
    | none => rfl
    | some carried =>
      rw [Option.any_some, Bool.eq_iff_iff, beq_iff_eq, decide_eq_true_iff, Option.some.injEq]
  rw [ofSegments, getElem?_ofEntries, ← List.filterMap_reverse, List.find?_filterMap,
    List.getLast?_filter]
  simp only [hcarries]
  cases hfind : segs.reverse.find? fun segment => key? segment = some key with
  | none => rfl
  | some segment =>
    have hkey : key? segment = some key := by simpa using List.find?_some hfind
    rw [Option.bind_some, readSegment_eq, hkey]
    rfl

/-- One list of segments is the other with a segment that has a blank key, with one segment in
another style, or in an order that keeps the segments of each key in theirs. -/
inductive Relaid : List (List Char) → List (List Char) → Prop
  | insert (before after : List (List Char)) {segment : List Char}
      (h : AllBlank (segment.takeWhile (· != '='))) :
      Relaid (before ++ after) (before ++ segment :: after)
  | restyle (before after : List (List Char)) {a b : List Char} (h : Restyled a b) :
      Relaid (before ++ a :: after) (before ++ b :: after)
  | reorder {segs others : List (List Char)} (h : segs.Perm others)
      (hkeys : ∀ key : String,
        segs.filter (key? · = some key) = others.filter (key? · = some key)) :
      Relaid segs others

/-- Neighbours with different keys may change places. -/
theorem Relaid.swap (before after : List (List Char)) {a b : List Char} (h : key? a ≠ key? b) :
    Relaid (before ++ a :: b :: after) (before ++ b :: a :: after) := by
  refine .reorder ((List.Perm.swap b a after).append_left before) fun key => ?_
  by_cases ha : key? a = some key
  · have hb : ¬ key? b = some key := fun hb => h (ha.trans hb.symm)
    simp [List.filter_append, ha, hb]
  · simp [List.filter_append, List.filter_cons, ha]

/-- One change of layout keeps the parameters. -/
theorem ofSegments_of_relaid {segs others : List (List Char)} (h : Relaid segs others) :
    ofSegments others = ofSegments segs := by
  cases h with
  | insert before after hblank =>
    simp [ofSegments, List.filterMap_append, readSegment_of_blank hblank]
  | restyle before after hstyle =>
    simp [ofSegments, List.filterMap_append, List.filterMap_cons, readSegment_of_restyled hstyle]
  | reorder _ hkeys =>
    refine Std.ExtTreeMap.ext_getElem? fun key => ?_
    rw [getElem?_ofSegments, getElem?_ofSegments, hkeys key]

/-- The layouts of a line all say the same. -/
theorem ofSegments_of_layouts {segs others : List (List Char)}
    (h : Relation.EqvGen Relaid segs others) : ofSegments others = ofSegments segs := by
  induction h with
  | rel _ _ hstep => exact ofSegments_of_relaid hstep
  | refl => rfl
  | symm _ _ _ ih => exact ih.symm
  | trans _ _ _ _ _ hfirst hsecond => exact hsecond.trans hfirst

/-- **Layout.** Two lists of segments that changes of layout turn into each other make up lines with
the same parameters. The formats that are read from these lines are equal and compatible with the
same formats. The value of a key is that of the last segment that carries it. -/
theorem ofLine_of_layouts {segs others : List (List Char)} (hsegs : ∀ s ∈ segs, ';' ∉ s)
    (hothers : ∀ s ∈ others, ';' ∉ s) (h : Relation.EqvGen Relaid segs others) :
    ofLine (joined others) = ofLine (joined segs) ∧
    (∀ mime clockRate channels,
      let f := Format.read mime clockRate channels (joined segs)
      let g := Format.read mime clockRate channels (joined others)
      g = f ∧ ∀ other, g.compatible other = f.compatible other ∧
        other.compatible g = other.compatible f) ∧
    ∀ key : String, (ofLine (joined segs))[key]? =
      (segs.filter fun segment => key? segment = some key).getLast?.map
        fun segment => String.ofList (valueText segment) := by
  have hparameters : ofLine (joined others) = ofLine (joined segs) := by
    rw [ofLine_joined hsegs, ofLine_joined hothers, ofSegments_of_layouts h]
  refine ⟨hparameters, fun mime clockRate channels => ?_, fun key => ?_⟩
  · intro f g
    have hread : g = f := by
      unfold f g Format.read
      rw [hparameters]
    exact ⟨hread, fun other => by rw [hread]; exact ⟨rfl, rfl⟩⟩
  · rw [ofLine_joined hsegs, getElem?_ofSegments]

namespace LaidOut

/-- A line with two segments of one key, which carry it in different cases. -/
def plain : List (List Char) := ["x=c".toList, "profile-id=1".toList, "X=a=b".toList]

/-- The line in another layout. -/
def relaid : List (List Char) :=
  [" = 7".toList, "Profile-ID=1".toList, "x=c".toList, "X=\u2003a=b\t".toList]

theorem layouts : Relation.EqvGen Relaid plain relaid := by
  have hinsert : Relaid plain (" = 7".toList :: plain) :=
    .insert [] plain (by decide +kernel)
  have hswap : Relaid (" = 7".toList :: plain)
      [" = 7".toList, "profile-id=1".toList, "x=c".toList, "X=a=b".toList] :=
    .swap [" = 7".toList] ["X=a=b".toList] (by decide +kernel)
  have hkey : Restyled "profile-id=1".toList "Profile-ID=1".toList :=
    @Restyled.recased "profile-id".toList "Profile-ID".toList "1".toList (by decide) (by decide)
  have hvalue : Restyled "X=a=b".toList "X=\u2003a=b\t".toList :=
    @Restyled.valuePadded "X".toList "\u2003".toList "\t".toList "a=b".toList (by decide)
      (by decide +kernel) (by decide +kernel)
  refine .trans _ _ _ (.rel _ _ hinsert) (.trans _ _ _ (.rel _ _ hswap) ?_)
  exact .trans _ _ _
    (.rel _ _ (.restyle [" = 7".toList] ["x=c".toList, "X=a=b".toList] hkey))
    (.rel _ _ (.restyle [" = 7".toList, "Profile-ID=1".toList, "x=c".toList] [] hvalue))

end LaidOut

/-- Both layouts give the key that is carried twice its last value. -/
theorem ofLine_of_layouts_relaid :
    Relation.EqvGen Relaid LaidOut.plain LaidOut.relaid ∧
      ofLine (joined LaidOut.relaid) = ofLine (joined LaidOut.plain) ∧
      (ofLine (joined LaidOut.plain))["x"]? = some "a=b" := by
  have hlayouts := ofLine_of_layouts (by decide +kernel) (by decide +kernel) LaidOut.layouts
  refine ⟨LaidOut.layouts, hlayouts.1, ?_⟩
  rw [hlayouts.2.2 "x"]
  decide +kernel

end MediaNegotiation.Parameters
