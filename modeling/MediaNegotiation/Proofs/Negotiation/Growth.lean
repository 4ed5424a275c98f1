import MediaNegotiation.Proofs.Negotiation.Change
import MediaNegotiation.Proofs.Reachability

/-!
# The negotiated state only grows

Negotiated states are ordered by what they hold: a later state keeps every negotiated kind, extends
its list of codecs at the end, and keeps every binding with its URI and its directions, possibly
enabled for further kinds. No operation goes back in this order, so a state that is left and found
again has not been changed in between.

Results:
* `Negotiated.GrowsTo.antisymm`: two states that grow to each other are equal.
* `growsTo_applySections`: a description makes the negotiated state grow.
* `growsTo_run`: so does any sequence of operations.
-/

namespace MediaNegotiation

/-! ## The order -/

/-- The same extension with the same directions, enabled for at least the same kinds. -/
structure HeaderExtension.GrowsTo (x y : HeaderExtension) : Prop where
  uri : y.uri = x.uri
  directions : y.directions = x.directions
  kinds : ∀ kind, x.kinds.get kind = true → y.kinds.get kind = true

/-- Every binding of the first table is held by the second under the same id. -/
def BindingTable.GrowsTo (t u : BindingTable) : Prop :=
  ∀ (id : Int) (x : HeaderExtension), t[id]? = some x → ∃ y, u[id]? = some y ∧ x.GrowsTo y

/-- Whatever is negotiated in the first state is negotiated in the second. -/
structure Negotiated.GrowsTo (s u : Negotiated) : Prop where
  codecs : ∀ kind list, s.codecs.get kind = some list →
    ∃ longer, u.codecs.get kind = some longer ∧ list <+: longer
  bindings : ∀ t, s.bindings = some t → ∃ wider, u.bindings = some wider ∧ t.GrowsTo wider

namespace HeaderExtension.GrowsTo

variable {x y z : HeaderExtension}

theorem refl (x : HeaderExtension) : x.GrowsTo x := ⟨rfl, rfl, fun _ h => h⟩

theorem trans (h : x.GrowsTo y) (h' : y.GrowsTo z) : x.GrowsTo z :=
  ⟨h'.uri.trans h.uri, h'.directions.trans h.directions,
    fun kind hk => h'.kinds kind (h.kinds kind hk)⟩

theorem antisymm (h : x.GrowsTo y) (h' : y.GrowsTo x) : x = y := by
  have hkinds : x.kinds = y.kinds := PerKind.ext_get fun kind =>
    Bool.eq_iff_iff.2 ⟨h.kinds kind, h'.kinds kind⟩
  cases x
  cases y
  simp only [HeaderExtension.mk.injEq]
  exact ⟨h'.uri, hkinds, h'.directions⟩

theorem addKind (x : HeaderExtension) (kind : MediaKind) : x.GrowsTo (x.addKind kind) := by
  refine ⟨rfl, rfl, fun l hl => ?_⟩
  rw [HeaderExtension.addKind, PerKind.get_set]
  split
  · rfl
  · exact hl

end HeaderExtension.GrowsTo

namespace BindingTable.GrowsTo

variable {t u v : BindingTable}

theorem refl (t : BindingTable) : t.GrowsTo t := fun _ x h => ⟨x, h, .refl x⟩

theorem trans (h : t.GrowsTo u) (h' : u.GrowsTo v) : t.GrowsTo v := by
  intro id x hx
  obtain ⟨y, hy, hxy⟩ := h id x hx
  obtain ⟨z, hz, hyz⟩ := h' id y hy
  exact ⟨z, hz, hxy.trans hyz⟩

theorem antisymm (h : t.GrowsTo u) (h' : u.GrowsTo t) : t = u := by
  refine Std.ExtTreeMap.ext_getElem? fun id => ?_
  cases ht : t[id]? with
  | some x =>
    obtain ⟨y, hy, hxy⟩ := h id x ht
    obtain ⟨z, hz, hyz⟩ := h' id y hy
    obtain rfl : z = x := by simpa [ht] using hz.symm
    rw [hy, hxy.antisymm hyz]
  | none =>
    cases hu : u[id]? with
    | none => rfl
    | some y =>
      obtain ⟨z, hz, -⟩ := h' id y hu
      simp [ht] at hz

/-- Replacing a binding by a wider one makes a table grow. -/
theorem insert_of_growsTo {id : Int} {x y : HeaderExtension} (hx : t[id]? = some x)
    (hxy : x.GrowsTo y) : t.GrowsTo (t.insert id y) := by
  intro i z hz
  by_cases hi : i = id
  · subst hi
    obtain rfl : x = z := by simpa [hx] using hz
    exact ⟨y, getElem?_insert_eq_some_iff.2 (.inl ⟨rfl, rfl⟩), hxy⟩
  · exact ⟨z, getElem?_insert_eq_some_iff.2 (.inr ⟨hi, hz⟩), .refl z⟩

/-- Binding a free id makes a table grow. -/
theorem insert_of_free {id : Int} {x : HeaderExtension} (hid : t[id]? = none) :
    t.GrowsTo (t.insert id x) := by
  intro i z hz
  have hi : i ≠ id := by
    rintro rfl
    simp [hid] at hz
  exact ⟨z, getElem?_insert_eq_some_iff.2 (.inr ⟨hi, hz⟩), .refl z⟩

end BindingTable.GrowsTo

namespace Negotiated.GrowsTo

variable {s u v : Negotiated}

theorem refl (s : Negotiated) : s.GrowsTo s :=
  ⟨fun _ list h => ⟨list, h, List.prefix_rfl⟩, fun t h => ⟨t, h, .refl t⟩⟩

theorem trans (h : s.GrowsTo u) (h' : u.GrowsTo v) : s.GrowsTo v := by
  constructor
  · intro kind list hlist
    obtain ⟨longer, hlonger, hpre⟩ := h.codecs kind list hlist
    obtain ⟨longest, hlongest, hpre'⟩ := h'.codecs kind longer hlonger
    exact ⟨longest, hlongest, hpre.trans hpre'⟩
  · intro t ht
    obtain ⟨wider, hwider, htu⟩ := h.bindings t ht
    obtain ⟨widest, hwidest, huv⟩ := h'.bindings wider hwider
    exact ⟨widest, hwidest, htu.trans huv⟩

/-- Two states that grow to each other are equal. -/
theorem antisymm (h : s.GrowsTo u) (h' : u.GrowsTo s) : s = u := by
  have hcodecs : s.codecs = u.codecs := by
    refine PerKind.ext_get fun kind => ?_
    cases hs : s.codecs.get kind with
    | some list =>
      obtain ⟨longer, hlonger, hpre⟩ := h.codecs kind list hs
      obtain ⟨back, hback, hpre'⟩ := h'.codecs kind longer hlonger
      obtain rfl : list = back := by simpa [hs] using hback
      rw [hlonger, hpre.eq_of_length_le hpre'.length_le]
    | none =>
      cases hu : u.codecs.get kind with
      | none => rfl
      | some list =>
        obtain ⟨longer, hlonger, -⟩ := h'.codecs kind list hu
        simp [hs] at hlonger
  have hbindings : s.bindings = u.bindings := by
    cases hs : s.bindings with
    | some t =>
      obtain ⟨wider, hwider, htu⟩ := h.bindings t hs
      obtain ⟨back, hback, hut⟩ := h'.bindings wider hwider
      obtain rfl : t = back := by simpa [hs] using hback
      rw [hwider, htu.antisymm hut]
    | none =>
      cases hu : u.bindings with
      | none => rfl
      | some t =>
        obtain ⟨wider, hwider, -⟩ := h'.bindings t hu
        simp [hs] at hwider
  cases s
  cases u
  simp only at hcodecs hbindings
  rw [hcodecs, hbindings]

/-- A negotiated kind stays negotiated. -/
theorem hasKind (h : s.GrowsTo u) {kind : MediaKind} (hs : s.hasKind kind = true) :
    u.hasKind kind = true := by
  obtain ⟨longer, hlonger, -⟩ := h.codecs kind _ (s.get_of_hasKind kind hs)
  simp [Negotiated.hasKind, hlonger]

/-- The codecs of a kind stay in front. -/
theorem codecsOf (h : s.GrowsTo u) (kind : MediaKind) : s.codecsOf kind <+: u.codecsOf kind := by
  cases hs : s.hasKind kind with
  | false =>
    rw [s.codecsOf_of_fresh kind hs]
    exact List.nil_prefix
  | true =>
    obtain ⟨longer, hlonger, hprefix⟩ := h.codecs kind _ (s.get_of_hasKind kind hs)
    rw [u.codecsOf_of_get kind longer hlonger]
    exact hprefix

/-- Extending the codecs of a kind at the end makes a state grow. -/
theorem withCodecs {kind : MediaKind} {longer : List Codec}
    (h : ∀ list, s.codecs.get kind = some list → list <+: longer) :
    s.GrowsTo (s.withCodecs kind longer) := by
  refine ⟨fun l list hlist => ?_, fun t ht => ⟨t, ht, .refl t⟩⟩
  rw [Negotiated.get_withCodecs]
  split
  · rename_i hl
    subst hl
    exact ⟨longer, rfl, h list hlist⟩
  · exact ⟨list, hlist, List.prefix_rfl⟩

/-- Replacing the table by a wider one makes a state grow. -/
theorem withBindings {t wider : BindingTable} (ht : s.bindings = some t) (h : t.GrowsTo wider) :
    s.GrowsTo (s.withBindings wider) := by
  refine ⟨fun _ list hlist => ⟨list, hlist, List.prefix_rfl⟩, fun t' ht' => ⟨wider, rfl, ?_⟩⟩
  obtain rfl : t = t' := by simpa [ht] using ht'
  exact h

end Negotiated.GrowsTo

/-! ## Negotiation -/

theorem Change.growsTo {e : Engine} {s u : Negotiated} (h : Change e s u) : s.GrowsTo u := by
  cases h with
  | opened fresh =>
    refine .withCodecs fun list hlist => ?_
    simp [Negotiated.hasKind, hlist] at fresh
  | taken held =>
    refine .withCodecs fun list hlist => ?_
    obtain rfl : _ = list := by simpa [held] using hlist
    exact List.prefix_append _ _
  | enabled table bound => exact .withBindings table (.insert_of_growsTo bound (.addKind _ _))
  | bound table _ free => exact .withBindings table (.insert_of_free free)

theorem Changes.growsTo {e : Engine} {s u : Negotiated} (h : Changes e s u) : s.GrowsTo u :=
  h.keeps (P := fun v => s.GrowsTo v) (.refl s) fun hstep hs => hs.trans hstep.growsTo

/-- A description makes the negotiated state grow, whether or not it is stopped. -/
theorem growsTo_applySections (e : Engine) (s : Negotiated) (d : RemoteDescription) :
    s.GrowsTo (applySections e s d).negotiated :=
  (changes_applySections e s d).growsTo

/-! ## Histories -/

/-- Every operation makes the negotiated state grow. -/
theorem kept_growsTo (s : Negotiated) : Engine.Kept fun e => s.GrowsTo e.negotiated where
  registerCodec {e} kind c id he := (e.registerCodec_frame kind c id).2 ▸ he
  registerExtension {e} uri kind directions he := by
    unfold Engine.registerExtension
    dsimp only
    split
    · refine ⟨he.codecs, fun t ht => ?_⟩
      obtain ⟨wider, hwider, htu⟩ := he.bindings t ht
      exact ⟨wider, by simp [hwider], htu⟩
    · exact he
  registerFeedback _ _ he := he
  setMulti _ he := he
  update {e} d he := he.trans (growsTo_applySections e e.negotiated d)

/-- Any sequence of operations makes the negotiated state grow. -/
theorem growsTo_run (b : Bench) (commands : List Command) :
    b.engine.negotiated.GrowsTo (b.run commands).engine.negotiated :=
  (kept_growsTo b.engine.negotiated).run (.refl _) commands

end MediaNegotiation
