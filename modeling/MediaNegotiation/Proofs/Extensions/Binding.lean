import MediaNegotiation.Engine.Negotiation

/-!
# Binding one extension

What an offer can do to the table of bindings: nothing, enable a binding for a further kind, or bind
a registered extension under a free id.

Results:
* `bindExtension_cases`: these are the only effects.
* `binding?_eq_none_iff`: no binding is found for a URI exactly when no entry carries it.
* `getElem?_insert_eq_some_iff`: the entries of a table after an insertion.
-/

namespace MediaNegotiation

/-- The entry that binds a registered extension for a first kind. -/
def HeaderExtension.boundFor (registered : HeaderExtension) (uri : String) (kind : MediaKind) :
    HeaderExtension :=
  { uri, kinds := (PerKind.both false).set kind (registered.kinds.get kind),
    directions := registered.directions }

theorem HeaderExtension.get_boundFor_same (registered : HeaderExtension) (uri : String)
    (kind : MediaKind) :
    (registered.boundFor uri kind).kinds.get kind = registered.kinds.get kind := by
  rw [boundFor, PerKind.get_set, if_pos rfl]

theorem HeaderExtension.get_addKind_same (x : HeaderExtension) (kind : MediaKind) :
    (x.addKind kind).kinds.get kind = true := by
  rw [addKind, PerKind.get_set, if_pos rfl]

namespace BindingTable

variable {t : BindingTable}

theorem binding?_eq_none_iff {uri : String} :
    t.binding? uri = none ↔ ∀ (id : Int) (x : HeaderExtension), t[id]? = some x → x.uri ≠ uri := by
  unfold binding?
  rw [List.find?_eq_none]
  constructor
  · intro h id x hx
    simpa using h (id, x) (Std.ExtTreeMap.mem_toList_iff_getElem?_eq_some.2 hx)
  · rintro h ⟨id, x⟩ hmem
    simpa using h id x (Std.ExtTreeMap.mem_toList_iff_getElem?_eq_some.1 hmem)

/-- An entry of a table after an insertion is the new one or an old one under another id. -/
theorem getElem?_insert_eq_some_iff {id i : Int} {x y : HeaderExtension} :
    (t.insert id y)[i]? = some x ↔ (i = id ∧ x = y) ∨ (i ≠ id ∧ t[i]? = some x) := by
  rw [Std.ExtTreeMap.getElem?_insert]
  by_cases hi : i = id
  · simp [hi, eq_comm]
  · have hcompare : ¬ compare id i = .eq := by simpa using Ne.symm hi
    simp [hi, hcompare]

theorem insert_eq_self_iff {id : Int} {x : HeaderExtension} :
    t.insert id x = t ↔ t[id]? = some x := by
  constructor
  · intro h
    rw [← h, Std.ExtTreeMap.getElem?_insert_self]
  · intro h
    refine Std.ExtTreeMap.ext_getElem? fun i => ?_
    rw [Std.ExtTreeMap.getElem?_insert]
    split
    · rename_i heq
      obtain rfl : id = i := by simpa using heq
      exact h.symm
    · rfl

end BindingTable

section

variable {known : List HeaderExtension} {kind : MediaKind} {t : BindingTable} {uri : String}
  {id : Int} {registered : HeaderExtension}

theorem bindExtension_unknown (h : HeaderExtension.find? known uri = none) :
    (bindExtension known kind t uri id).1 = t := by
  rw [bindExtension, h]

/-- An extension that is bound under the offered id is enabled where it is registered. -/
theorem bindExtension_bound {x : HeaderExtension}
    (h : HeaderExtension.find? known uri = some registered) (hb : t.binding? uri = some (id, x)) :
    (bindExtension known kind t uri id).1 =
      if registered.kinds.get kind then t.insert id (x.addKind kind) else t := by
  rw [bindExtension, h]
  simp only [hb, if_true]

theorem bindExtension_elsewhere {bound : Int} {x : HeaderExtension}
    (h : HeaderExtension.find? known uri = some registered)
    (hb : t.binding? uri = some (bound, x)) (hne : bound ≠ id) :
    (bindExtension known kind t uri id).1 = t := by
  rw [bindExtension, h]
  simp only [hb, if_neg hne]

theorem bindExtension_taken {holder : HeaderExtension}
    (h : HeaderExtension.find? known uri = some registered) (hb : t.binding? uri = none)
    (hid : t[id]? = some holder) : (bindExtension known kind t uri id).1 = t := by
  rw [bindExtension, h]
  simp only [hb, hid]

/-- A registered extension that is not bound takes a free id. -/
theorem bindExtension_free (h : HeaderExtension.find? known uri = some registered)
    (hb : t.binding? uri = none) (hid : t[id]? = none) :
    (bindExtension known kind t uri id).1 = t.insert id (registered.boundFor uri kind) := by
  rw [bindExtension, h]
  simp only [hb, hid]
  rfl

/-- What an offer can do to a table: nothing, enable the binding that it repeats, or bind an
extension under a free id. -/
theorem bindExtension_cases (known : List HeaderExtension) (kind : MediaKind) (t : BindingTable)
    (uri : String) (id : Int) :
    (bindExtension known kind t uri id).1 = t ∨
      (∃ x registered, t[id]? = some x ∧ HeaderExtension.find? known x.uri = some registered ∧
        registered.kinds.get kind = true ∧
        (bindExtension known kind t uri id).1 = t.insert id (x.addKind kind)) ∨
      ∃ registered, t.binding? uri = none ∧ t[id]? = none ∧
        HeaderExtension.find? known uri = some registered ∧
        (bindExtension known kind t uri id).1 = t.insert id (registered.boundFor uri kind) := by
  cases hknown : HeaderExtension.find? known uri with
  | none => exact .inl (bindExtension_unknown hknown)
  | some registered =>
    cases hb : t.binding? uri with
    | none =>
      cases hid : t[id]? with
      | none => exact .inr (.inr ⟨registered, rfl, rfl, rfl, bindExtension_free hknown hb hid⟩)
      | some holder => exact .inl (bindExtension_taken hknown hb hid)
    | some binding =>
      obtain ⟨bound, x⟩ := binding
      obtain ⟨hx, hget⟩ := BindingTable.uri_binding? hb
      by_cases hbound : bound = id
      · subst hbound
        have heq := @bindExtension_bound known kind t uri bound registered x hknown hb
        by_cases happ : registered.kinds.get kind = true
        · rw [if_pos happ] at heq
          exact .inr (.inl ⟨x, registered, hget, by rw [hx, hknown], happ, heq⟩)
        · rw [if_neg happ] at heq
          exact .inl heq
      · exact .inl (bindExtension_elsewhere hknown hb hbound)

end

end MediaNegotiation
