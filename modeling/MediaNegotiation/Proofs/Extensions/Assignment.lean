import Mathlib.Data.List.Induction
import MediaNegotiation.Proofs.Extensions.Identification

/-!
# Which ids are proposed

Before a kind has been negotiated an engine proposes an id for each of its extensions, whatever kind
they are registered for. An extension that is bound keeps its id. The others share the free ids
among them, in the order of their registration and from the lowest id up, until no id is left.

A proposal is made one extension at a time, and looks for a free id beside the bindings and what has
been proposed so far. It is set here against a closed form, in which the id of an extension is found
by the position of the extension among those that are not bound.

Results:
* `mem_freeIds_iff`, `pairwise_freeIds`: the free ids in increasing order.
* `freeId?_eq_getElem?`: the id that is picked when some of the first ones have been proposed.
* `idFor?_of_getElem?`, `idFor?_injective`: who receives which id, and no two receive the same.
* `Proposal.Gives.add`, `Proposal.gives_foldl_add`: a proposal agrees with the closed form.
* `parameters_of_fresh`: what is shown and reported for a kind that has not been negotiated.
-/

namespace MediaNegotiation

/-- An extension serves a kind it is used for where one of its directions is wanted. -/
theorem HeaderExtension.serves_iff {x : HeaderExtension} {kind : MediaKind}
    {wanted : List Direction} :
    x.serves kind wanted = true ↔
      x.kinds.get kind = true ∧ ∃ d ∈ x.directions, d ∈ wanted := by
  simp [serves, Direction.overlap, and_comm]

namespace BindingTable

/-- The ids of one-byte headers that are not bound, in increasing order. -/
def freeIds (t : BindingTable) : List Int :=
  ((List.range' 1 14).map Int.ofNat).filter fun id => !t.contains id

/-- Those of the registered extensions that are not bound, in the order of their registration. -/
def unboundOf (t : BindingTable) (known : List HeaderExtension) : List HeaderExtension :=
  known.filter fun x => (t.binding? x.uri).isNone

/-- The id that a registered extension receives: the one it is bound to, or else the free id at its
position among the extensions that are not bound. -/
def idFor? (t : BindingTable) (known : List HeaderExtension) (x : HeaderExtension) : Option Int :=
  match t.binding? x.uri with
  | some (id, _) => some id
  | none => t.freeIds[(t.unboundOf known).idxOf x]?

variable {t : BindingTable} {known front : List HeaderExtension} {x y z : HeaderExtension}
  {id : Int}

/-! ## Free ids -/

theorem mem_freeIds_iff : id ∈ t.freeIds ↔ 1 ≤ id ∧ id ≤ 14 ∧ id ∉ t := by
  simp only [freeIds, List.mem_filter, List.mem_map, List.mem_range'_1, Int.ofNat_eq_natCast,
    Bool.not_eq_true', ← Bool.not_eq_true, Std.ExtTreeMap.contains_iff_mem]
  rw [← and_assoc]
  refine and_congr_left fun _ => ⟨?_, fun h => ⟨id.toNat, ?_, ?_⟩⟩
  · rintro ⟨n, hn, rfl⟩
    omega
  · omega
  · omega

/-- The free ids are listed in increasing order. -/
theorem pairwise_freeIds (t : BindingTable) : t.freeIds.Pairwise (· < ·) := by
  refine List.Pairwise.filter _ ?_
  rw [List.pairwise_map]
  exact (List.pairwise_lt_range' 1).imp fun h => Int.ofNat_lt.2 h

theorem nodup_freeIds (t : BindingTable) : t.freeIds.Nodup :=
  t.pairwise_freeIds.imp fun h => by omega

/-- When the first free ids have been proposed, and no others, the next one is picked. -/
theorem freeId?_eq_getElem? {proposed : BindingTable} {n : Nat}
    (h : ∀ id ∈ t.freeIds, id ∈ proposed ↔ id ∈ t.freeIds.take n) :
    freeId? t proposed = t.freeIds[n]? := by
  have hsearch : freeId? t proposed = t.freeIds.find? fun id => !proposed.contains id := by
    simp [freeId?, freeIds, List.find?_filter]
  have hfirst : (t.freeIds.take n).find? (fun id => !proposed.contains id) = none := by
    rw [List.find?_eq_none]
    intro id hid
    simpa using (h id (List.mem_of_mem_take hid)).2 hid
  have hsplit := t.freeIds.take_append_drop n
  have hnodup : (t.freeIds.take n ++ t.freeIds.drop n).Nodup := by
    rw [hsplit]
    exact t.nodup_freeIds
  rw [hsearch, ← hsplit, List.find?_append, hfirst, Option.none_or, hsplit, ← List.head?_drop]
  cases hdrop : t.freeIds.drop n with
  | nil => rfl
  | cons next rest =>
    rw [hdrop, List.nodup_append] at hnodup
    have hnext : next ∈ t.freeIds := List.mem_of_mem_drop (hdrop ▸ List.mem_cons_self)
    have hfree : proposed.contains next = false := by
      rw [← Bool.not_eq_true, Std.ExtTreeMap.contains_iff_mem]
      exact fun hmem => hnodup.2.2 next ((h next hnext).1 hmem) next List.mem_cons_self rfl
    rw [List.find?_cons_of_pos (by simp [hfree])]
    rfl

/-! ## Received ids -/

theorem mem_unboundOf : x ∈ t.unboundOf known ↔ x ∈ known ∧ t.binding? x.uri = none := by
  simp [unboundOf]

theorem idFor?_of_bound {b : HeaderExtension} (h : t.binding? x.uri = some (id, b)) :
    t.idFor? known x = some id := by
  rw [idFor?, h]

theorem idFor?_of_unbound (h : t.binding? x.uri = none) :
    t.idFor? known x = t.freeIds[(t.unboundOf known).idxOf x]? := by
  rw [idFor?, h]

/-- The extensions that are not bound receive the free ids in the order of their registration. -/
theorem idFor?_of_getElem? (hd : (known.map (·.uri)).Nodup) {k : Nat}
    (h : (t.unboundOf known)[k]? = some x) : t.idFor? known x = t.freeIds[k]? := by
  have hnodup : (t.unboundOf known).Nodup := hd.of_map.filter _
  obtain ⟨hk, rfl⟩ := List.getElem?_eq_some_iff.1 h
  rw [idFor?_of_unbound (mem_unboundOf.1 (List.getElem_mem hk)).2, hnodup.idxOf_getElem k hk]

/-- A free id is not received by an extension that is bound. -/
theorem binding?_of_idFor?_free (h : t.idFor? known x = some id) (hid : id ∈ t.freeIds) :
    t.binding? x.uri = none := by
  cases hb : t.binding? x.uri with
  | none => rfl
  | some b =>
    rw [idFor?_of_bound hb, Option.some.injEq] at h
    have hheld := (uri_binding? hb).2
    rw [h] at hheld
    have hmem : id ∈ t := Std.ExtTreeMap.mem_iff_isSome_getElem?.2 (by rw [hheld]; rfl)
    exact absurd hmem (mem_freeIds_iff.1 hid).2.2

/-- No two extensions receive one id. -/
theorem idFor?_injective (hd : (known.map (·.uri)).Nodup) (hx : x ∈ known) (hy : y ∈ known)
    (hxid : t.idFor? known x = some id) (hyid : t.idFor? known y = some id) : x = y := by
  cases hbx : t.binding? x.uri with
  | some b =>
    have hnotfree : id ∉ t.freeIds := fun hid => by
      simp [binding?_of_idFor?_free hxid hid] at hbx
    cases hby : t.binding? y.uri with
    | none =>
      rw [idFor?_of_unbound hby] at hyid
      exact absurd (List.mem_of_getElem? hyid) hnotfree
    | some c =>
      rw [idFor?_of_bound hbx, Option.some.injEq] at hxid
      rw [idFor?_of_bound hby, Option.some.injEq] at hyid
      obtain ⟨hxuri, hxheld⟩ := uri_binding? hbx
      obtain ⟨hyuri, hyheld⟩ := uri_binding? hby
      rw [hxid] at hxheld
      rw [hyid, hxheld, Option.some.injEq] at hyheld
      exact List.inj_on_of_nodup_map hd hx hy (by rw [← hxuri, ← hyuri, hyheld])
  | none =>
    have hfree : id ∈ t.freeIds := by
      rw [idFor?_of_unbound hbx] at hxid
      exact List.mem_of_getElem? hxid
    have hby := binding?_of_idFor?_free hyid hfree
    rw [idFor?_of_unbound hbx] at hxid
    rw [idFor?_of_unbound hby] at hyid
    have hposition := (List.getElem?_inj (List.getElem?_eq_some_iff.1 hxid).1 t.nodup_freeIds).1
      (hxid.trans hyid.symm)
    exact (List.idxOf_inj (mem_unboundOf.2 ⟨hx, hbx⟩)).1 hposition

/-- An extension that is registered later leaves the others their ids. -/
theorem idFor?_concat_of_mem (hx : x ∈ front) :
    t.idFor? (front ++ [z]) x = t.idFor? front x := by
  cases hb : t.binding? x.uri with
  | some b => rw [idFor?_of_bound hb, idFor?_of_bound hb]
  | none =>
    have hsplit : t.unboundOf (front ++ [z]) = t.unboundOf front ++ t.unboundOf [z] :=
      List.filter_append ..
    rw [idFor?_of_unbound hb, idFor?_of_unbound hb, hsplit,
      List.idxOf_append_of_mem (mem_unboundOf.2 ⟨hx, hb⟩)]

/-- An extension that is registered last and is not bound receives the free id behind those of the
others. -/
theorem idFor?_concat_self (hz : z ∉ front) (hb : t.binding? z.uri = none) :
    t.idFor? (front ++ [z]) z = t.freeIds[(t.unboundOf front).length]? := by
  have hnew : z ∉ t.unboundOf front := fun hmem => hz (mem_unboundOf.1 hmem).1
  have hlast : t.unboundOf (front ++ [z]) = t.unboundOf front ++ [z] := by
    simp [unboundOf, hb]
  rw [idFor?_of_unbound hb, hlast, List.idxOf_append_of_notMem hnew]
  simp

/-- The free ids that have been received are the first ones, one for each extension that is not
bound. -/
theorem mem_take_freeIds_iff (hd : (known.map (·.uri)).Nodup) (hid : id ∈ t.freeIds) :
    id ∈ t.freeIds.take (t.unboundOf known).length ↔
      ∃ x ∈ known, t.idFor? known x = some id := by
  rw [List.mem_take_iff_getElem]
  constructor
  · rintro ⟨i, hi, hget⟩
    obtain ⟨hunbound, hfree⟩ := Nat.lt_min.1 hi
    obtain ⟨hx, -⟩ := mem_unboundOf.1 (List.getElem_mem hunbound)
    refine ⟨(t.unboundOf known)[i], hx, ?_⟩
    rw [idFor?_of_getElem? hd (List.getElem?_eq_getElem hunbound), List.getElem?_eq_getElem hfree,
      hget]
  · rintro ⟨x, hx, hreceived⟩
    have hb := binding?_of_idFor?_free hreceived hid
    rw [idFor?_of_unbound hb] at hreceived
    obtain ⟨hfree, hget⟩ := List.getElem?_eq_some_iff.1 hreceived
    have hunbound := List.idxOf_lt_length_of_mem (mem_unboundOf.2 ⟨hx, hb⟩)
    exact ⟨_, Nat.lt_min.2 ⟨hunbound, hfree⟩, hget⟩

end BindingTable

/-! ## Proposals -/

/-- A proposal that gives each of some extensions the id that it receives, and leaves those without
one unserved. -/
structure Proposal.Gives (bound : BindingTable) (known : List HeaderExtension) (p : Proposal) :
    Prop where
  table : ∀ (id : Int) (x : HeaderExtension),
    p.table[id]? = some x ↔ x ∈ known ∧ bound.idFor? known x = some id
  unserved : p.unserved = (known.filter fun x => (bound.idFor? known x).isNone).map (·.uri)

section

variable {bound : BindingTable} {front known : List HeaderExtension} {p : Proposal}
  {z : HeaderExtension}

/-- An extension that is added to a proposal is given the id that it receives. -/
theorem Proposal.Gives.add_eq (h : p.Gives bound front) (hd : (front.map (·.uri)).Nodup)
    (hz : z ∉ front) :
    p.add bound z =
      match bound.idFor? (front ++ [z]) z with
      | some id => { p with table := p.table.insert id z }
      | none => { p with unserved := p.unserved ++ [z.uri] } := by
  unfold add
  cases hb : bound.binding? z.uri with
  | some b => rw [BindingTable.idFor?_of_bound hb]
  | none =>
    have hproposed : ∀ id ∈ bound.freeIds,
        id ∈ p.table ↔ id ∈ bound.freeIds.take (bound.unboundOf front).length := by
      intro id hid
      rw [BindingTable.mem_take_freeIds_iff hd hid, Std.ExtTreeMap.mem_iff_isSome_getElem?,
        Option.isSome_iff_exists]
      exact exists_congr fun x => h.table id x
    have hreceived : freeId? bound p.table = bound.idFor? (front ++ [z]) z := by
      rw [BindingTable.idFor?_concat_self hz hb, BindingTable.freeId?_eq_getElem? hproposed]
    exact hreceived ▸ rfl

/-- Adding the next extension to a proposal extends the closed form by that extension. -/
theorem Proposal.Gives.add (h : p.Gives bound front)
    (hd : ((front ++ [z]).map (·.uri)).Nodup) : (p.add bound z).Gives bound (front ++ [z]) := by
  obtain ⟨hfront, hz⟩ := nodup_keys_concat hd
  have hold : ∀ x ∈ front, bound.idFor? (front ++ [z]) x = bound.idFor? front x :=
    fun x hx => BindingTable.idFor?_concat_of_mem hx
  have hmembers : ∀ (id : Int) (x : HeaderExtension),
      (x ∈ front ++ [z] ∧ bound.idFor? (front ++ [z]) x = some id) ↔
        p.table[id]? = some x ∨ (x = z ∧ bound.idFor? (front ++ [z]) z = some id) := by
    intro id x
    rw [h.table, List.mem_append, List.mem_singleton]
    constructor
    · rintro ⟨hx | rfl, hid⟩
      · exact .inl ⟨hx, hold x hx ▸ hid⟩
      · exact .inr ⟨rfl, hid⟩
    · rintro (⟨hx, hid⟩ | ⟨rfl, hid⟩)
      · exact ⟨.inl hx, (hold x hx).trans hid⟩
      · exact ⟨.inr rfl, hid⟩
  rw [h.add_eq hfront hz]
  cases hreceived : bound.idFor? (front ++ [z]) z with
  | some id =>
    -- the id is new to the proposal, so that nothing is overwritten
    have hunproposed : ∀ x, p.table[id]? ≠ some x := by
      intro x hx
      obtain ⟨hmem, -⟩ := (hmembers id x).2 (.inl hx)
      obtain ⟨hxfront, hxid⟩ := (h.table id x).1 hx
      obtain rfl : x = z :=
        BindingTable.idFor?_injective hd hmem (by simp) ((hold x hxfront).trans hxid) hreceived
      exact hz hxfront
    constructor
    · intro i x
      rw [hmembers, BindingTable.getElem?_insert_eq_some_iff, hreceived, Option.some.injEq]
      constructor
      · rintro (⟨rfl, rfl⟩ | ⟨-, hx⟩)
        · exact .inr ⟨rfl, rfl⟩
        · exact .inl hx
      · rintro (hx | ⟨rfl, rfl⟩)
        · exact .inr ⟨fun hi => hunproposed x (hi ▸ hx), hx⟩
        · exact .inl ⟨rfl, rfl⟩
    · rw [List.filter_append, List.filter_congr fun x hx => by rw [hold x hx]]
      simp [hreceived, h.unserved]
  | none =>
    constructor
    · intro i x
      rw [hmembers, hreceived]
      simp
    · rw [List.filter_append, List.filter_congr fun x hx => by rw [hold x hx]]
      simp [hreceived, h.unserved]

/-- A proposal that is made from nothing gives each extension the id that it receives. -/
theorem Proposal.gives_foldl_add (bound : BindingTable) (hd : (known.map (·.uri)).Nodup) :
    (known.foldl (Proposal.add bound) {}).Gives bound known := by
  induction known using List.reverseRecOn with
  | nil => exact ⟨by simp, rfl⟩
  | append_singleton front z ih =>
    rw [List.foldl_concat]
    exact (ih (nodup_keys_concat hd).1).add hd

end

namespace Engine

variable {e : Engine} {kind : MediaKind} {wanted : List Direction} {uri : String} {id : Int}

theorem gives_proposal (he : e.Described) : e.proposal.Gives e.bound e.extensions :=
  Proposal.gives_foldl_add e.bound he.uris

/-- For a kind that has not been negotiated those extensions are shown that serve it and receive an
id. -/
theorem mem_extensionsFor_of_fresh (he : e.Described) (hfresh : e.negotiated.hasKind kind = false) :
    (uri, id) ∈ e.extensionsFor kind wanted ↔
      ∃ x ∈ e.extensions, x.uri = uri ∧ x.serves kind wanted = true ∧
        e.bound.idFor? e.extensions x = some id := by
  rw [extensionsFor, hfresh, if_neg Bool.false_ne_true, BindingTable.mem_serving_iff]
  simp only [(gives_proposal he).table]
  constructor
  · rintro ⟨x, ⟨hx, hid⟩, huri, hserves⟩
    exact ⟨x, hx, huri, hserves, hid⟩
  · rintro ⟨x, hx, huri, hserves, hid⟩
    exact ⟨x, ⟨hx, hid⟩, huri, hserves⟩

/-- For a kind that has not been negotiated the extensions without an id are reported, in the order
of their registration. -/
theorem parametersLog_of_fresh (he : e.Described) (hfresh : e.negotiated.hasKind kind = false) :
    e.parametersLog kind =
      (e.extensions.filter fun x => (e.bound.idFor? e.extensions x).isNone).map
        fun x => .idsExhausted x.uri := by
  rw [parametersLog, hfresh, if_neg Bool.false_ne_true, (gives_proposal he).unserved, List.map_map]
  rfl

end Engine

/-- **Proposed ids.** For a kind that has not been negotiated any reachable engine shows, in the
order of the ids and without repeating a URI, exactly the extensions that are registered for the
kind, have one of the wanted directions and receive an id. An extension that is bound receives the
id it is bound to. Of those that are not bound, whatever kind and directions they are registered
for, the one at a position receives the free id at the same position. The extensions that receive
none are the reported ones. -/
theorem parameters_of_fresh {e : Engine} (he : e.Reachable) {kind : MediaKind}
    (hfresh : e.negotiated.hasKind kind = false) (wanted : List Direction) :
    ((e.parameters kind wanted).extensions.map Prod.snd).Pairwise (· < ·) ∧
      ((e.parameters kind wanted).extensions.map Prod.fst).Nodup ∧
      (∀ uri id, (uri, id) ∈ (e.parameters kind wanted).extensions ↔
        ∃ x ∈ e.extensions, x.uri = uri ∧ x.kinds.get kind = true ∧
          (∃ d ∈ x.directions, d ∈ wanted) ∧ e.bound.idFor? e.extensions x = some id) ∧
      (∀ x ∈ e.extensions, ∀ id b, e.bound[id]? = some b → b.uri = x.uri →
        e.bound.idFor? e.extensions x = some id) ∧
      (∀ (k : Nat) (x : HeaderExtension), (e.bound.unboundOf e.extensions)[k]? = some x →
        e.bound.idFor? e.extensions x = e.bound.freeIds[k]?) ∧
      e.parametersLog kind =
        (e.extensions.filter fun x => (e.bound.idFor? e.extensions x).isNone).map
          fun x => .idsExhausted x.uri := by
  have hsound : e.BindingsSound := kept_bindingsSound.reachable bindingsSound_new he
  have huris : (e.extensions.map (·.uri)).Nodup := hsound.toDescribed.uris
  refine ⟨e.pairwise_extensionsFor kind wanted, Engine.nodup_uris_extensionsFor hsound, ?_, ?_, ?_,
    Engine.parametersLog_of_fresh hsound.toDescribed hfresh⟩
  · intro uri id
    refine (Engine.mem_extensionsFor_of_fresh hsound.toDescribed hfresh).trans ?_
    refine exists_congr fun x => and_congr_right fun _ => and_congr_right fun _ => ?_
    rw [HeaderExtension.serves_iff, and_assoc]
  · intro x _ id b hb huri
    have hfound := (Engine.oneToOne_bound hsound).binding?_eq_some hb
    exact BindingTable.idFor?_of_bound (huri ▸ hfound)
  · intro k x hx
    exact BindingTable.idFor?_of_getElem? huris hx

namespace Crowded

/-- Audio has been negotiated with a peer that binds one extension to an id out of the range of
proposals and another one to the lowest id. Video has not been negotiated, and one of its extensions
has to go without an id. -/
def commands : List Command :=
  [.registerCodec .audio ⟨Mime.opus, 48000, 2, "", [], 111, .given ""⟩,
    .registerExtension "urn:mid" .audio [], .registerExtension "urn:mid" .video [],
    .registerExtension "urn:level" .audio []] ++
  (List.range 14).map (fun i => .registerExtension ("urn:" ++ toString i) .video [.recvonly]) ++
  [.update [{
    media := "audio"
    codecs := [⟨Mime.opus, 48000, 2, "", [], 63, .given ""⟩]
    extensions := [("urn:mid", 20), ("urn:level", 1)] }]]

def engine : Engine := (Bench.run {} commands).engine

end Crowded

/-- The bound extension is shown beyond the free ids, the last one that is not bound finds all of
them taken. -/
theorem parameters_of_fresh_of_crowded :
    ("urn:mid", 20) ∈ (Crowded.engine.parameters .video [.recvonly]).extensions ∧
      ("urn:12", 14) ∈ (Crowded.engine.parameters .video [.recvonly]).extensions ∧
      Crowded.engine.parametersLog .video = [.idsExhausted "urn:13"] := by
  have hfresh : Crowded.engine.negotiated.hasKind .video = false := by decide +kernel
  obtain ⟨-, -, hshown, -, -, hlog⟩ :=
    parameters_of_fresh ⟨0, Crowded.commands, rfl⟩ hfresh [.recvonly]
  refine ⟨(hshown _ _).2 ?_, (hshown _ _).2 ?_, hlog.trans ?_⟩ <;> decide +kernel

end MediaNegotiation
