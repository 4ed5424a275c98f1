import MediaNegotiation.Proofs.Negotiation.Growth

/-!
# Offers without effect

A peer offers a header extension as a URI under an id. An offer is settled when the table of
bindings already answers it, be it by holding the same binding or by holding another one that it may
not replace.

Results:
* `bindExtension_eq_self_iff`: binding leaves a table as it is exactly when the offer is settled.
* `bindOffered_eq_self_iff`: binding what a section offers leaves the state as it is exactly when
  all its offers are settled, because no binding can be undone by a later one.
-/

namespace MediaNegotiation

/-! ## Tables -/

/-- An offer that a table already answers: its URI is not registered, or is bound to another id, or
is bound as offered with nothing left to enable, or it is unbound and the id is taken. -/
def BindingTable.Settles (t : BindingTable) (known : List HeaderExtension) (kind : MediaKind)
    (offer : String × Int) : Prop :=
  ∀ registered, HeaderExtension.find? known offer.1 = some registered →
    match t.binding? offer.1 with
    | some (id, x) => id = offer.2 → registered.kinds.get kind = true → x.kinds.get kind = true
    | none => t[offer.2]?.isSome

theorem HeaderExtension.addKind_eq_self_iff {x : HeaderExtension} {kind : MediaKind} :
    x.addKind kind = x ↔ x.kinds.get kind = true := by
  constructor
  · intro h
    rw [← h, x.get_addKind_same]
  · intro h
    refine HeaderExtension.GrowsTo.antisymm ⟨rfl, rfl, fun l hl => ?_⟩ (.addKind x kind)
    rw [HeaderExtension.addKind, PerKind.get_set] at hl
    split at hl
    · rename_i hlk
      rw [hlk, h]
    · exact hl

/-! ## Binding -/

section

variable {known : List HeaderExtension} {kind : MediaKind}

theorem growsTo_bindExtension (t : BindingTable) (uri : String) (id : Int) :
    t.GrowsTo (bindExtension known kind t uri id).1 := by
  rcases bindExtension_cases known kind t uri id with
    heq | ⟨x, registered, hx, -, -, heq⟩ | ⟨registered, -, hid, -, heq⟩
  · rw [heq]
    exact .refl t
  · rw [heq]
    exact .insert_of_growsTo hx (.addKind x kind)
  · rw [heq]
    exact .insert_of_free hid

theorem growsTo_bindExtensions (t : BindingTable) (offered : List (String × Int)) :
    t.GrowsTo (bindExtensions known kind t offered).1 := by
  induction offered generalizing t with
  | nil => exact .refl t
  | cons offer rest ih => exact (growsTo_bindExtension t offer.1 offer.2).trans (ih _)

/-- Binding leaves a table as it is exactly when the offer is settled. -/
theorem bindExtension_eq_self_iff {t : BindingTable} {offer : String × Int} :
    (bindExtension known kind t offer.1 offer.2).1 = t ↔ t.Settles known kind offer := by
  unfold BindingTable.Settles
  cases hknown : HeaderExtension.find? known offer.1 with
  | none => simp [bindExtension_unknown hknown]
  | some registered =>
    simp only [Option.some.injEq, forall_eq']
    cases hb : t.binding? offer.1 with
    | none =>
      cases hid : t[offer.2]? with
      | none => simp [bindExtension_free hknown hb hid, BindingTable.insert_eq_self_iff, hid]
      | some holder => simp [bindExtension_taken hknown hb hid]
    | some binding =>
      obtain ⟨bound, x⟩ := binding
      dsimp only
      by_cases hbound : bound = offer.2
      · have hx : t[offer.2]? = some x := hbound ▸ (BindingTable.uri_binding? hb).2
        rw [bindExtension_bound hknown (hbound ▸ hb)]
        by_cases happ : registered.kinds.get kind = true
        · rw [if_pos happ, BindingTable.insert_eq_self_iff, hx, Option.some.injEq, eq_comm,
            HeaderExtension.addKind_eq_self_iff]
          exact ⟨fun h _ _ => h, fun h => h hbound happ⟩
        · rw [if_neg happ]
          exact ⟨fun _ _ h => absurd h happ, fun _ => rfl⟩
      · rw [bindExtension_elsewhere hknown hb hbound]
        exact ⟨fun _ h => absurd h hbound, fun _ => rfl⟩

/-- Binding in order leaves a table as it is exactly when every offer is settled in it. -/
theorem bindExtensions_eq_self_iff {t : BindingTable} {offered : List (String × Int)} :
    (bindExtensions known kind t offered).1 = t ↔
      ∀ offer ∈ offered, t.Settles known kind offer := by
  induction offered with
  | nil => simp [bindExtensions]
  | cons offer rest ih =>
    rw [List.forall_mem_cons, ← bindExtension_eq_self_iff, ← ih]
    constructor
    · intro h
      rw [bindExtensions] at h
      dsimp only at h
      have hback := @growsTo_bindExtensions known kind
        (bindExtension known kind t offer.1 offer.2).1 rest
      rw [h] at hback
      have hfirst := hback.antisymm (growsTo_bindExtension t offer.1 offer.2)
      exact ⟨hfirst, by rwa [hfirst] at h⟩
    · rintro ⟨hfirst, hrest⟩
      rw [bindExtensions]
      dsimp only
      rw [hfirst, hrest]

/-- Binding what a section offers leaves the state as it is exactly when every offer is settled. -/
theorem bindOffered_eq_self_iff {s : Negotiated} {offered : List (String × Int)} :
    (bindOffered known kind s offered).1 = s ↔
      ∀ t, s.bindings = some t → ∀ offer ∈ offered, t.Settles known kind offer := by
  unfold bindOffered
  cases ht : s.bindings with
  | none => simp
  | some t =>
    simp only [Option.some.injEq, forall_eq']
    rw [← bindExtensions_eq_self_iff]
    constructor
    · intro h
      have hb := congrArg Negotiated.bindings h
      rw [ht] at hb
      simpa using hb
    · intro h
      exact s.withBindings_eq_self _ (by rw [ht, h])

end

end MediaNegotiation
