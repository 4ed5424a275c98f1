import Mathlib.Data.List.Nodup
import MediaNegotiation.Engine.Views
import MediaNegotiation.Proofs.Extensions.Permanence

/-!
# Offering and binding header extensions

What an engine offers of its header extensions is a list of pairs of URI and id in the order of the
ids, in which no URI occurs twice. A peer binds such an offer pair by pair, because no pair stands
in the way of another. If nothing in its table does either, it answers with the part of the offer
that it serves itself.

Results:
* `eq_of_mem_iff`: lists in the order of their ids are equal when they have the same pairs.
* `Takes.bindExtension`: binding one pair of an offer stands in the way of no other pair.
* `mem_serving_bindExtensions`: what is answered to an offer.
* `oneToOne_proposal`, `mem_of_proposal`: what is proposed before negotiation.
* `nodup_uris_extensionsFor`: no URI occurs twice in an offer.
* `Prepared.untouched`: what registration leaves open.
* `mem_extensionsFor_of_taken`: what an engine answers to an offer that it can take in full.
* `mem_extensionsFor_of_untouched`: what a prepared engine answers to an offer.
-/

namespace MediaNegotiation

/-! ## Lists in the order of their ids -/

/-- Lists of pairs in the order of their ids are equal when they have the same pairs. -/
theorem eq_of_mem_iff {l m : List (String × Int)} (hl : (l.map Prod.snd).Pairwise (· < ·))
    (hm : (m.map Prod.snd).Pairwise (· < ·)) (h : ∀ offer, offer ∈ l ↔ offer ∈ m) : l = m := by
  rw [List.pairwise_map] at hl hm
  have hnodup : ∀ {k : List (String × Int)}, k.Pairwise (fun a b => a.2 < b.2) → k.Nodup := by
    intro k hk
    exact hk.imp fun hlt he => by simp [he] at hlt
  have hperm : l.Perm m := (List.perm_ext_iff_of_nodup (hnodup hl) (hnodup hm)).2 h
  refine hperm.eq_of_pairwise (fun a b _ _ hab hba => ?_) hl hm
  omega

/-! ## Serving a kind -/

/-- A first binding serves the kind it was made for where the registered extension does. -/
theorem serves_boundFor (registered : HeaderExtension) (uri : String) (kind : MediaKind)
    (wanted : List Direction) :
    (registered.boundFor uri kind).serves kind wanted = registered.serves kind wanted := by
  unfold HeaderExtension.serves
  rw [registered.get_boundFor_same]
  rfl

/-- A binding that is enabled for a kind serves it in the directions that it is bound with. -/
theorem serves_addKind (x : HeaderExtension) (kind : MediaKind) (wanted : List Direction) :
    (x.addKind kind).serves kind wanted = Direction.overlap x.directions wanted := by
  unfold HeaderExtension.serves
  rw [x.get_addKind_same, Bool.and_true]
  rfl

namespace BindingTable

variable {t : BindingTable} {kind : MediaKind} {wanted : List Direction} {uri : String} {id : Int}
  {x y : HeaderExtension}

theorem mem_serving_iff :
    (uri, id) ∈ t.serving kind wanted ↔
      ∃ x, t[id]? = some x ∧ x.uri = uri ∧ x.serves kind wanted = true := by
  unfold serving
  simp only [List.mem_map, List.mem_filter, Prod.mk.injEq, Prod.exists]
  constructor
  · rintro ⟨i, x, ⟨hmem, hserves⟩, huri, rfl⟩
    exact ⟨x, Std.ExtTreeMap.mem_toList_iff_getElem?_eq_some.1 hmem, huri, hserves⟩
  · rintro ⟨x, hx, huri, hserves⟩
    exact ⟨id, x, ⟨Std.ExtTreeMap.mem_toList_iff_getElem?_eq_some.2 hx, hserves⟩, huri, rfl⟩

/-- What a table serves is listed by increasing id. -/
theorem pairwise_serving (t : BindingTable) (kind : MediaKind) (wanted : List Direction) :
    ((t.serving kind wanted).map Prod.snd).Pairwise (· < ·) := by
  have hordered := (Std.ExtTreeMap.ordered_keys_toList (t := t)).filter fun b =>
    b.2.serves kind wanted
  unfold serving
  rw [List.map_map, List.pairwise_map]
  exact hordered.imp fun h => Std.compare_eq_lt.1 h

/-- A one-to-one table serves no URI twice. -/
theorem OneToOne.nodup_serving (h : t.OneToOne) :
    ((t.serving kind wanted).map Prod.fst).Nodup := by
  have hids := t.pairwise_serving kind wanted
  rw [List.pairwise_map] at hids
  rw [List.Nodup, List.pairwise_map]
  refine hids.imp_of_mem ?_
  rintro ⟨u, i⟩ ⟨v, j⟩ hu hv hlt huv
  obtain ⟨x, hx, hxu, -⟩ := mem_serving_iff.1 hu
  obtain ⟨y, hy, hyv, -⟩ := mem_serving_iff.1 hv
  have hij := h i j x y hx hy (hxu.trans (huv.trans hyv.symm))
  have hlt : i < j := hlt
  omega

/-! ## Inserting a binding -/

theorem mem_serving_insert_iff {v : String} {i : Int} :
    (v, i) ∈ serving (t.insert id y) kind wanted ↔
      ((v, i) = (y.uri, id) ∧ y.serves kind wanted = true) ∨
        (i ≠ id ∧ (v, i) ∈ t.serving kind wanted) := by
  simp only [mem_serving_iff, getElem?_insert_eq_some_iff, Prod.mk.injEq]
  constructor
  · rintro ⟨x, ⟨hi, rfl⟩ | ⟨hi, hx⟩, huri, hserves⟩
    · exact .inl ⟨⟨huri.symm, hi⟩, hserves⟩
    · exact .inr ⟨hi, x, hx, huri, hserves⟩
  · rintro (⟨⟨huri, hi⟩, hserves⟩ | ⟨hi, x, hx, huri, hserves⟩)
    · exact ⟨y, .inl ⟨hi, rfl⟩, huri.symm, hserves⟩
    · exact ⟨x, .inr ⟨hi, hx⟩, huri, hserves⟩

/-- An insertion after which the id serves whatever it served before adds the new entry to what a
table serves. -/
theorem mem_serving_insert
    (hkeep : ∀ v, (v, id) ∈ t.serving kind wanted → v = y.uri ∧ y.serves kind wanted = true)
    {offer : String × Int} :
    offer ∈ serving (t.insert id y) kind wanted ↔
      offer ∈ t.serving kind wanted ∨ (offer = (y.uri, id) ∧ y.serves kind wanted = true) := by
  obtain ⟨v, i⟩ := offer
  rw [mem_serving_insert_iff]
  constructor
  · rintro (hnew | ⟨-, hold⟩)
    · exact .inr hnew
    · exact .inl hold
  · rintro (hold | hnew)
    · by_cases hi : i = id
      · subst hi
        obtain ⟨rfl, hserves⟩ := hkeep v hold
        exact .inl ⟨rfl, hserves⟩
      · exact .inr ⟨hi, hold⟩
    · exact .inl hnew

/-- Enabling a binding for a kind adds it to what a table serves in the directions that it is bound
with. -/
theorem mem_serving_insert_addKind (hx : t[id]? = some x) {offer : String × Int} :
    offer ∈ serving (t.insert id (x.addKind kind)) kind wanted ↔
      offer ∈ t.serving kind wanted ∨
        (offer = (x.uri, id) ∧ Direction.overlap x.directions wanted = true) := by
  rw [mem_serving_insert, serves_addKind]
  · rfl
  · intro v hv
    obtain ⟨y, hy, rfl, hserves⟩ := mem_serving_iff.1 hv
    obtain rfl : x = y := Option.some.inj (hx.symm.trans hy)
    rw [HeaderExtension.serves, Bool.and_eq_true] at hserves
    exact ⟨rfl, by rw [serves_addKind, hserves.1]⟩

/-- Binding an extension under a free id adds it to what a table serves where it is registered. -/
theorem mem_serving_insert_boundFor {registered : HeaderExtension} (hfree : t[id]? = none)
    {offer : String × Int} :
    offer ∈ serving (t.insert id (registered.boundFor uri kind)) kind wanted ↔
      offer ∈ t.serving kind wanted ∨
        (offer = (uri, id) ∧ registered.serves kind wanted = true) := by
  rw [mem_serving_insert, serves_boundFor]
  · rfl
  · intro v hv
    obtain ⟨y, hy, -, -⟩ := mem_serving_iff.1 hv
    simp [hfree] at hy

theorem binding?_insert_eq_none (h : t.binding? uri = none) (hy : y.uri ≠ uri) :
    binding? (t.insert id y) uri = none :=
  binding?_eq_none_iff.2 (forall_insert hy (binding?_eq_none_iff.1 h))

end BindingTable

/-! ## Faithful tables -/

/-- A bound extension has the directions of the extension that is registered under its URI. -/
def HeaderExtension.Follows (known : List HeaderExtension) (x : HeaderExtension) : Prop :=
  ∀ registered, find? known x.uri = some registered → x.directions = registered.directions

/-- A table binds URIs one-to-one and with the directions that they are registered with. -/
structure BindingTable.Faithful (known : List HeaderExtension) (t : BindingTable) : Prop where
  oneToOne : t.OneToOne
  follows : ∀ (id : Int) (x : HeaderExtension), t[id]? = some x → x.Follows known

section

variable {known : List HeaderExtension} {kind : MediaKind} {t : BindingTable}

namespace BindingTable.Faithful

theorem empty : Faithful known ∅ := ⟨by simp [OneToOne], by simp⟩

/-- Enabling a binding for a further kind keeps a table faithful. -/
theorem insert_addKind (h : t.Faithful known) {id : Int} {x : HeaderExtension}
    (hx : t[id]? = some x) : Faithful known (t.insert id (x.addKind kind)) :=
  ⟨h.oneToOne.insert_same hx rfl, forall_insert (h.follows id x hx) h.follows⟩

/-- Binding a registered extension keeps a table faithful. -/
theorem insert_boundFor (h : t.Faithful known) {uri : String} {registered : HeaderExtension}
    (hunbound : t.binding? uri = none) (hknown : HeaderExtension.find? known uri = some registered)
    (id : Int) : Faithful known (t.insert id (registered.boundFor uri kind)) := by
  refine ⟨h.oneToOne.insert_new hunbound rfl, forall_insert (fun other hother => ?_) h.follows⟩
  obtain rfl : registered = other := Option.some.inj (hknown.symm.trans hother)
  rfl

end BindingTable.Faithful

theorem BindingTable.Faithful.bindExtension (h : t.Faithful known) (kind : MediaKind) (uri : String)
    (id : Int) : Faithful known (bindExtension known kind t uri id).1 := by
  rcases bindExtension_cases known kind t uri id with
    heq | ⟨x, registered, hx, -, -, heq⟩ | ⟨registered, hunbound, -, hknown, heq⟩
  · rw [heq]
    exact h
  · rw [heq]
    exact h.insert_addKind hx
  · rw [heq]
    exact h.insert_boundFor hunbound hknown id

/-! ## Binding an offer -/

/-- Nothing in a table stands in the way of an offer: it repeats a binding, or neither its URI nor
its id is bound. -/
def BindingTable.Takes (t : BindingTable) (offer : String × Int) : Prop :=
  (∃ x, t.binding? offer.1 = some (offer.2, x)) ∨ (t.binding? offer.1 = none ∧ t[offer.2]? = none)

theorem BindingTable.takes_empty (offer : String × Int) : Takes ∅ offer :=
  .inr ⟨binding?_eq_none_iff.2 (by simp), by simp⟩

variable {offer other : String × Int}

/-- What is bound under another id than the offered one has another URI. -/
theorem BindingTable.Takes.uri_ne (ht : t.OneToOne) (h : t.Takes offer) {id : Int}
    {x : HeaderExtension} (hx : t[id]? = some x) (hid : offer.2 ≠ id) : x.uri ≠ offer.1 := by
  intro huri
  have hfound := huri ▸ ht.binding?_eq_some hx
  rcases h with ⟨y, hy⟩ | ⟨hunbound, -⟩
  · rw [hy] at hfound
    obtain ⟨rfl, -⟩ : offer.2 = id ∧ y = x := by simpa using hfound
    exact hid rfl
  · simp [hunbound] at hfound

/-- Inserting an entry stands in the way of no offer of another URI under another id. -/
theorem BindingTable.Takes.insert {id : Int} {y : HeaderExtension} (h : t.Takes offer)
    (hone : OneToOne (t.insert id y)) (huri : y.uri ≠ offer.1) (hid : offer.2 ≠ id) :
    Takes (t.insert id y) offer := by
  rcases h with ⟨x, hx⟩ | ⟨hunbound, hfree⟩
  · obtain ⟨hxuri, hget⟩ := uri_binding? hx
    have hheld : (t.insert id y)[offer.2]? = some x :=
      getElem?_insert_eq_some_iff.2 (.inr ⟨hid, hget⟩)
    exact .inl ⟨x, hxuri ▸ hone.binding?_eq_some hheld⟩
  · refine .inr ⟨binding?_insert_eq_none hunbound huri, ?_⟩
    rw [Option.eq_none_iff_forall_ne_some]
    intro x hx
    rcases getElem?_insert_eq_some_iff.1 hx with ⟨he, -⟩ | ⟨-, hold⟩
    · exact hid he
    · simp [hfree] at hold

/-- Binding one offer stands in the way of no offer of another URI under another id. -/
theorem BindingTable.Takes.bindExtension (ht : t.Faithful known) (h : t.Takes offer)
    (huri : offer.1 ≠ other.1) (hid : offer.2 ≠ other.2) :
    Takes (bindExtension known kind t other.1 other.2).1 offer := by
  have hone := (ht.bindExtension kind other.1 other.2).oneToOne
  rcases bindExtension_cases known kind t other.1 other.2 with
    heq | ⟨x, registered, hx, -, -, heq⟩ | ⟨registered, -, -, -, heq⟩
  · rw [heq]
    exact h
  · rw [heq] at hone ⊢
    have huri : x.uri ≠ offer.1 := h.uri_ne ht.oneToOne hx hid
    exact h.insert hone huri hid
  · rw [heq] at hone ⊢
    exact h.insert hone huri.symm hid

/-! ## Serving an offer -/

variable {wanted : List Direction}

/-- To an offer that nothing stands in the way of a faithful table answers with what it has served
before and with the offer, if its extension is registered for the kind. -/
theorem mem_serving_bindExtension (ht : t.Faithful known) (h : t.Takes offer) :
    other ∈ BindingTable.serving (bindExtension known kind t offer.1 offer.2).1 kind wanted ↔
      other ∈ t.serving kind wanted ∨
        (other = offer ∧ ∃ registered, HeaderExtension.find? known offer.1 = some registered ∧
          registered.serves kind wanted = true) := by
  obtain ⟨uri, id⟩ := offer
  cases hknown : HeaderExtension.find? known uri with
  | none => simp [bindExtension_unknown hknown]
  | some registered =>
    simp only [Option.some.injEq, exists_eq_left']
    rcases h with ⟨x, hbound⟩ | ⟨hunbound, hfree⟩
    · obtain ⟨rfl, hx⟩ := BindingTable.uri_binding? hbound
      have hdirections := ht.follows id x hx registered hknown
      rw [bindExtension_bound hknown hbound]
      by_cases happ : registered.kinds.get kind = true
      · rw [if_pos happ, BindingTable.mem_serving_insert_addKind hx, hdirections,
          HeaderExtension.serves, happ, Bool.and_true]
      · rw [if_neg happ]
        simp [HeaderExtension.serves, happ]
    · rw [bindExtension_free hknown hunbound hfree, BindingTable.mem_serving_insert_boundFor hfree]

theorem bindExtensions_cons (offer : String × Int) (rest : List (String × Int)) :
    (bindExtensions known kind t (offer :: rest)).1 =
      (bindExtensions known kind (bindExtension known kind t offer.1 offer.2).1 rest).1 := rfl

variable {offered : List (String × Int)}

/-- To offers without repetitions that nothing stands in the way of, a faithful table answers with
what it has served before and with the offers whose extensions are registered for the kind. -/
theorem mem_serving_bindExtensions (ht : t.Faithful known) (huris : (offered.map Prod.fst).Nodup)
    (hids : (offered.map Prod.snd).Nodup) (htakes : ∀ offer ∈ offered, t.Takes offer) :
    other ∈ BindingTable.serving (bindExtensions known kind t offered).1 kind wanted ↔
      other ∈ t.serving kind wanted ∨
        (other ∈ offered ∧ ∃ registered, HeaderExtension.find? known other.1 = some registered ∧
          registered.serves kind wanted = true) := by
  induction offered generalizing t with
  | nil => simp [bindExtensions]
  | cons offer rest ih =>
    rw [List.map_cons, List.nodup_cons] at huris hids
    rw [List.forall_mem_cons] at htakes
    obtain ⟨hfirst, hrest⟩ := htakes
    have hstill : ∀ later ∈ rest,
        BindingTable.Takes (bindExtension known kind t offer.1 offer.2).1 later :=
      fun later hlater => (hrest later hlater).bindExtension ht
        (fun he => huris.1 (List.mem_map.2 ⟨later, hlater, he⟩))
        fun he => hids.1 (List.mem_map.2 ⟨later, hlater, he⟩)
    rw [bindExtensions_cons, ih (ht.bindExtension kind offer.1 offer.2) huris.2 hids.2 hstill,
      mem_serving_bindExtension ht hfirst, List.mem_cons, or_assoc]
    refine or_congr_right ?_
    constructor
    · rintro (⟨rfl, hserves⟩ | ⟨hmem, hserves⟩)
      · exact ⟨.inl rfl, hserves⟩
      · exact ⟨.inr hmem, hserves⟩
    · rintro ⟨rfl | hmem, hserves⟩
      · exact .inl ⟨rfl, hserves⟩
      · exact .inr ⟨hmem, hserves⟩

end

/-! ## Proposals -/

theorem Proposal.add_cases (bound : BindingTable) (p : Proposal) (x : HeaderExtension) :
    (p.add bound x).table = p.table ∨ ∃ id : Int, (p.add bound x).table = p.table.insert id x := by
  unfold Proposal.add
  dsimp only
  split
  · rename_i id _
    exact .inr ⟨id, rfl⟩
  · exact .inl rfl

/-- Extensions with distinct URIs, none of which is proposed yet, are proposed one-to-one. -/
theorem oneToOne_foldl_add (bound : BindingTable) {known : List HeaderExtension} {p : Proposal}
    (hd : (known.map (·.uri)).Nodup) (hp : p.table.OneToOne)
    (hnew : ∀ x ∈ known, p.table.binding? x.uri = none) :
    (known.foldl (Proposal.add bound) p).table.OneToOne := by
  induction known generalizing p with
  | nil => exact hp
  | cons x rest ih =>
    rw [List.map_cons, List.nodup_cons] at hd
    rw [List.forall_mem_cons] at hnew
    rw [List.foldl_cons]
    rcases p.add_cases bound x with heq | ⟨id, heq⟩
    · exact ih hd.2 (heq ▸ hp) (heq ▸ hnew.2)
    · refine ih hd.2 (heq ▸ hp.insert_new hnew.1 rfl) ?_
      intro y hy
      rw [heq]
      refine BindingTable.binding?_insert_eq_none (hnew.2 y hy) fun he => ?_
      exact hd.1 (List.mem_map.2 ⟨y, hy, he.symm⟩)

/-- Everything that is proposed was proposed before or is one of the extensions. -/
theorem mem_of_foldl_add (bound : BindingTable) {known : List HeaderExtension} {p : Proposal}
    {id : Int} {x : HeaderExtension}
    (h : (known.foldl (Proposal.add bound) p).table[id]? = some x) :
    x ∈ known ∨ ∃ i : Int, p.table[i]? = some x := by
  induction known generalizing p with
  | nil => exact .inr ⟨id, h⟩
  | cons y rest ih =>
    rw [List.foldl_cons] at h
    rcases ih h with hmem | ⟨i, hi⟩
    · exact .inl (List.mem_cons_of_mem _ hmem)
    · rcases p.add_cases bound y with heq | ⟨j, heq⟩
      · exact .inr ⟨i, heq ▸ hi⟩
      · rw [heq] at hi
        rcases BindingTable.getElem?_insert_eq_some_iff.1 hi with ⟨-, rfl⟩ | ⟨-, hold⟩
        · exact .inl List.mem_cons_self
        · exact .inr ⟨i, hold⟩

namespace Engine

variable {e : Engine} {kind : MediaKind} {wanted : List Direction}

theorem oneToOne_proposal (he : e.Described) : e.proposal.table.OneToOne :=
  oneToOne_foldl_add _ he.uris (by simp [BindingTable.OneToOne])
    fun _ _ => BindingTable.binding?_eq_none_iff.2 (by simp)

theorem mem_of_proposal {id : Int} {x : HeaderExtension} (h : e.proposal.table[id]? = some x) :
    x ∈ e.extensions := by
  rcases mem_of_foldl_add _ h with hmem | ⟨i, hi⟩
  · exact hmem
  · simp at hi

/-! ## Offers -/

/-- What an engine offers is listed by increasing id. -/
theorem pairwise_extensionsFor (e : Engine) (kind : MediaKind) (wanted : List Direction) :
    ((e.extensionsFor kind wanted).map Prod.snd).Pairwise (· < ·) := by
  unfold extensionsFor
  split
  · split
    · exact BindingTable.pairwise_serving _ kind wanted
    · exact List.Pairwise.nil
  · exact BindingTable.pairwise_serving _ kind wanted

/-- No id occurs twice in what an engine offers. -/
theorem nodup_ids_extensionsFor (e : Engine) (kind : MediaKind) (wanted : List Direction) :
    ((e.extensionsFor kind wanted).map Prod.snd).Nodup :=
  (e.pairwise_extensionsFor kind wanted).imp fun h => by omega

/-- No URI occurs twice in what an engine offers. -/
theorem nodup_uris_extensionsFor (he : e.BindingsSound) :
    ((e.extensionsFor kind wanted).map Prod.fst).Nodup := by
  unfold extensionsFor
  split
  · split
    · rename_i t ht
      exact (he.oneToOne t ht).nodup_serving
    · exact List.nodup_nil
  · exact (oneToOne_proposal he.toDescribed).nodup_serving

/-- Before a kind has been negotiated only extensions that are registered for it are offered. -/
theorem serves_of_mem_extensionsFor (he : e.Described) (hk : e.negotiated.hasKind kind = false)
    {uri : String} {id : Int} (h : (uri, id) ∈ e.extensionsFor kind wanted) :
    ∃ registered, HeaderExtension.find? e.extensions uri = some registered ∧
      registered.serves kind wanted = true := by
  unfold extensionsFor at h
  rw [hk, if_neg Bool.false_ne_true] at h
  obtain ⟨x, hx, rfl, hserves⟩ := BindingTable.mem_serving_iff.1 h
  exact ⟨x, find?_of_nodup_keys he.uris (mem_of_proposal hx), hserves⟩

end Engine

/-! ## Prepared engines -/

/-- No kind has been negotiated and nothing is bound. Without a table no extension is
registered. -/
structure Engine.Untouched (e : Engine) : Prop where
  fresh : ∀ kind, e.negotiated.hasKind kind = false
  bindings : e.negotiated.bindings = some ∅ ∨ (e.negotiated.bindings = none ∧ e.extensions = [])

/-- Registration leaves an engine untouched. -/
theorem keptByRegistration_untouched : Engine.KeptByRegistration Engine.Untouched where
  registerCodec {e} kind c id he := by
    obtain ⟨hknown, hneg⟩ := e.registerCodec_frame kind c id
    exact ⟨hneg ▸ he.fresh, by rw [hneg, hknown]; exact he.bindings⟩
  registerExtension {e} uri kind directions he := by
    by_cases hall : (Engine.allowedDirections directions).all Direction.isOneWay = true
    · rw [Engine.registerExtension_accepted hall]
      refine ⟨he.fresh, .inl ?_⟩
      rcases he.bindings with hempty | ⟨hnone, -⟩
      · simp [hempty]
      · simp [hnone]
    · rw [Engine.registerExtension_refused hall]
      exact he
  registerFeedback _ _ he := ⟨he.fresh, he.bindings⟩
  setMulti _ he := ⟨he.fresh, he.bindings⟩

theorem Engine.Prepared.untouched {e : Engine} (he : e.Prepared) : e.Untouched :=
  keptByRegistration_untouched.prepared ⟨fun kind => by cases kind <;> rfl, .inr ⟨rfl, rfl⟩⟩ he

theorem Engine.Prepared.bindingsSound {e : Engine} (he : e.Prepared) : e.BindingsSound :=
  kept_bindingsSound.toKeptByRegistration.prepared bindingsSound_new he

section

variable {e later : Engine} {kind : MediaKind} {codecs : List Codec}
  {offered : List (String × Int)} {wanted : List Direction} {offer : String × Int}

theorem hasKind_of_bindOffered
    (hlater : later.negotiated =
      (bindOffered e.extensions kind (e.negotiated.withCodecs kind codecs) offered).1) :
    later.negotiated.hasKind kind = true := by
  rw [hlater, hasKind_bindOffered]
  exact e.negotiated.hasKind_withCodecs_same kind codecs

/-- After the first section of a kind an engine serves what its table has served for the kind, and
those of the offered extensions that are registered for the kind, under the ids they were offered
with. -/
theorem mem_extensionsFor_of_taken {t : BindingTable} (ht : e.negotiated.bindings = some t)
    (hfaithful : t.Faithful e.extensions) (htakes : ∀ offer ∈ offered, t.Takes offer)
    (huris : (offered.map Prod.fst).Nodup) (hids : (offered.map Prod.snd).Nodup)
    (hlater : later.negotiated =
      (bindOffered e.extensions kind (e.negotiated.withCodecs kind codecs) offered).1) :
    offer ∈ later.extensionsFor kind wanted ↔
      offer ∈ t.serving kind wanted ∨
        (offer ∈ offered ∧
          ∃ registered, HeaderExtension.find? e.extensions offer.1 = some registered ∧
            registered.serves kind wanted = true) := by
  rw [Engine.extensionsFor, if_pos (hasKind_of_bindOffered hlater), hlater]
  simp only [bindOffered, Negotiated.bindings_withCodecs, ht]
  exact mem_serving_bindExtensions hfaithful huris hids htakes

/-- Where no extension is registered, none is served after the first section of a kind. -/
theorem extensionsFor_of_untabled (hnone : e.negotiated.bindings = none)
    (hlater : later.negotiated =
      (bindOffered e.extensions kind (e.negotiated.withCodecs kind codecs) offered).1) :
    later.extensionsFor kind wanted = [] := by
  have hbindings : later.negotiated.bindings = none := by
    simp [hlater, bindOffered, hnone]
  rw [Engine.extensionsFor, if_pos (hasKind_of_bindOffered hlater), hbindings]

/-- After the first section of a kind a prepared engine serves those of the offered extensions that
are registered for the kind, under the ids they were offered with. -/
theorem mem_extensionsFor_of_untouched (he : e.Untouched) (huris : (offered.map Prod.fst).Nodup)
    (hids : (offered.map Prod.snd).Nodup)
    (hlater : later.negotiated =
      (bindOffered e.extensions kind (e.negotiated.withCodecs kind codecs) offered).1)
    {uri : String} {id : Int} :
    (uri, id) ∈ later.extensionsFor kind wanted ↔
      (uri, id) ∈ offered ∧ ∃ registered, HeaderExtension.find? e.extensions uri = some registered ∧
        registered.serves kind wanted = true := by
  rcases he.bindings with hempty | ⟨hnone, hknown⟩
  · rw [mem_extensionsFor_of_taken hempty .empty (fun _ _ => BindingTable.takes_empty _) huris hids
      hlater]
    simp [BindingTable.mem_serving_iff]
  · simp [extensionsFor_of_untabled hnone hlater, hknown, HeaderExtension.find?]

end

end MediaNegotiation
