import MediaNegotiation.Proofs.Extensions.Registry
import MediaNegotiation.Proofs.Negotiation.Growth

/-!
# Bindings are one-to-one and permanent

The table of bindings exists from the first registration of a header extension on. In every state of
an engine no URI is bound to two ids, and each binding rests on a registered extension, which is
used for no kind that it is not registered for and that has not been negotiated. Once an id is
bound, it keeps its URI and its directions for good.

Results:
* `bindings_run_eq_none_iff`: when there is a table.
* `OneToOne.binding?_eq_some`: what is found in a one-to-one table.
* `Change.bindingsSound`, `kept_bindingsSound`: the invariant of the table.
* `bindings_run`: what holds of the table after any sequence of operations, and what the table keeps
  through any further ones.
-/

namespace MediaNegotiation

/-! ## The invariant -/

/-- A binding rests on a registered extension: it is used only for negotiated kinds for which the
extension is registered, and it is restricted to one-way directions. -/
structure Engine.Backs (e : Engine) (x : HeaderExtension) : Prop where
  kinds : ∃ registered, HeaderExtension.find? e.extensions x.uri = some registered ∧
    ∀ kind, x.kinds.get kind = true →
      registered.kinds.get kind = true ∧ e.negotiated.hasKind kind = true
  directions : Direction.Restricts x.directions

/-- No two ids of a table are bound to one URI. -/
def BindingTable.OneToOne (t : BindingTable) : Prop :=
  ∀ (i j : Int) (x y : HeaderExtension), t[i]? = some x → t[j]? = some y → x.uri = y.uri → i = j

/-- The bindings of an engine are one-to-one and rest on registered extensions. -/
structure Engine.BindingsSound (e : Engine) : Prop extends e.Described where
  oneToOne : ∀ t, e.negotiated.bindings = some t → t.OneToOne
  backed : ∀ t, e.negotiated.bindings = some t →
    ∀ (id : Int) (x : HeaderExtension), t[id]? = some x → e.Backs x

/-- A binding stays backed when more is registered and more kinds are negotiated. -/
theorem Engine.Backs.mono {e f : Engine} {x : HeaderExtension} (h : e.Backs x)
    (hknown : ∀ v registered, HeaderExtension.find? e.extensions v = some registered →
      ∃ wider, HeaderExtension.find? f.extensions v = some wider ∧
        ∀ kind, registered.kinds.get kind = true → wider.kinds.get kind = true)
    (hkinds : ∀ kind, e.negotiated.hasKind kind = true → f.negotiated.hasKind kind = true) :
    f.Backs x := by
  obtain ⟨registered, hfind, hflags⟩ := h.kinds
  obtain ⟨wider, hwider, hmore⟩ := hknown x.uri registered hfind
  refine ⟨⟨wider, hwider, fun kind hk => ?_⟩, h.directions⟩
  obtain ⟨hregistered, hnegotiated⟩ := hflags kind hk
  exact ⟨hmore kind hregistered, hkinds kind hnegotiated⟩

/-! ## Tables -/

namespace BindingTable

variable {t : BindingTable} {id : Int} {x y : HeaderExtension}

/-- Replacing an entry by one with the same URI keeps a table one-to-one. -/
theorem OneToOne.insert_same (h : t.OneToOne) (hx : t[id]? = some x) (huri : y.uri = x.uri) :
    OneToOne (t.insert id y) := by
  -- every entry of the new table has its URI from the entry of the old one at the same id
  have hold : ∀ (i : Int) (z : HeaderExtension), (t.insert id y)[i]? = some z →
      ∃ w, t[i]? = some w ∧ w.uri = z.uri := by
    intro i z hz
    rcases getElem?_insert_eq_some_iff.1 hz with ⟨rfl, rfl⟩ | ⟨-, hz⟩
    · exact ⟨x, hx, huri.symm⟩
    · exact ⟨z, hz, rfl⟩
  intro i j a b ha hb hab
  obtain ⟨c, hc, hca⟩ := hold i a ha
  obtain ⟨d, hd, hdb⟩ := hold j b hb
  exact h i j c d hc hd (by rw [hca, hdb, hab])

/-- Binding a URI that is not bound keeps a table one-to-one. -/
theorem OneToOne.insert_new {uri : String} (h : t.OneToOne) (hunbound : t.binding? uri = none)
    (hy : y.uri = uri) : OneToOne (t.insert id y) := by
  have hnew : ∀ (i : Int) (z : HeaderExtension), t[i]? = some z → z.uri ≠ y.uri :=
    hy ▸ binding?_eq_none_iff.1 hunbound
  intro i j a b ha hb hab
  rcases getElem?_insert_eq_some_iff.1 ha with ⟨rfl, rfl⟩ | ⟨-, hold⟩
  · rcases getElem?_insert_eq_some_iff.1 hb with ⟨rfl, -⟩ | ⟨-, hold⟩
    · rfl
    · exact absurd hab.symm (hnew j b hold)
  · rcases getElem?_insert_eq_some_iff.1 hb with ⟨-, rfl⟩ | ⟨-, hold'⟩
    · exact absurd hab (hnew i a hold)
    · exact h i j a b hold hold' hab

/-- In a one-to-one table the binding found for the URI of an entry is that entry. -/
theorem OneToOne.binding?_eq_some (h : t.OneToOne) (hx : t[id]? = some x) :
    t.binding? x.uri = some (id, x) := by
  cases hb : t.binding? x.uri with
  | none => exact absurd rfl (binding?_eq_none_iff.1 hb id x hx)
  | some binding =>
    obtain ⟨i, y⟩ := binding
    obtain ⟨huri, hy⟩ := uri_binding? hb
    obtain rfl : i = id := h i id y x hy hx huri
    obtain rfl : y = x := by simpa [hy] using hx
    rfl

/-- What holds of the entries of a table and of a further entry holds of all entries once that one
is inserted. -/
theorem forall_insert {P : HeaderExtension → Prop} (hy : P y)
    (ht : ∀ (i : Int) (z : HeaderExtension), t[i]? = some z → P z) :
    ∀ (i : Int) (z : HeaderExtension), (t.insert id y)[i]? = some z → P z := by
  intro i z hz
  rcases getElem?_insert_eq_some_iff.1 hz with ⟨-, rfl⟩ | ⟨-, hz⟩
  · exact hy
  · exact ht i z hz

end BindingTable

/-! ## Negotiation -/

/-- A single change keeps the bindings sound. -/
theorem Change.bindingsSound {e : Engine} {s u : Negotiated} (h : Change e s u)
    (hs : Engine.BindingsSound { e with negotiated := s }) :
    Engine.BindingsSound { e with negotiated := u } := by
  have hgrows := h.growsTo
  have hbacked : ∀ t, s.bindings = some t → ∀ (i : Int) (x : HeaderExtension), t[i]? = some x →
      Engine.Backs { e with negotiated := u } x := fun t ht i x hx =>
    (hs.backed t ht i x hx).mono (fun _ r hr => ⟨r, hr, fun _ hk => hk⟩) fun _ => hgrows.hasKind
  refine ⟨⟨hs.uris, hs.directions⟩, ?_, ?_⟩
  · intro t ht
    cases h with
    | opened => exact hs.oneToOne t ht
    | taken => exact hs.oneToOne t ht
    | enabled table bound =>
      obtain rfl := Option.some.inj ht
      exact (hs.oneToOne _ table).insert_same bound rfl
    | bound table unbound =>
      obtain rfl := Option.some.inj ht
      exact (hs.oneToOne _ table).insert_new unbound rfl
  · intro t ht
    cases h with
    | opened => exact hbacked t ht
    | taken => exact hbacked t ht
    | @enabled kind held id x registered table bound known applies negotiated =>
      obtain rfl := Option.some.inj ht
      refine BindingTable.forall_insert ?_ (hbacked held table)
      have hx := hbacked held table id x bound
      obtain ⟨registered', hfind, hflags⟩ := hx.kinds
      obtain rfl : registered = registered' := by simpa [known] using hfind
      refine ⟨⟨registered, known, fun l hl => ?_⟩, hx.directions⟩
      rw [HeaderExtension.addKind, PerKind.get_set] at hl
      split at hl
      · rename_i hlk
        exact ⟨hlk ▸ applies, hlk ▸ negotiated⟩
      · exact hflags l hl
    | @bound kind held id uri registered table unbound free known negotiated =>
      obtain rfl := Option.some.inj ht
      refine BindingTable.forall_insert ?_ (hbacked held table)
      have hmem := (HeaderExtension.find?_eq_some known).1
      refine ⟨⟨registered, known, fun l hl => ?_⟩, hs.directions registered hmem⟩
      rw [HeaderExtension.boundFor, PerKind.get_set] at hl
      split at hl
      · rename_i hlk
        exact ⟨hlk ▸ hl, hlk ▸ negotiated⟩
      · rw [PerKind.get_both] at hl
        exact absurd hl Bool.false_ne_true

/-- Changes neither open the table of bindings nor close it. -/
theorem Changes.bindings_eq_none_iff {e : Engine} {s u : Negotiated} (h : Changes e s u) :
    u.bindings = none ↔ s.bindings = none := by
  refine h.keeps (P := fun v => v.bindings = none ↔ s.bindings = none) Iff.rfl ?_
  intro a b hstep ha
  rw [← ha]
  cases hstep with
  | opened => rfl
  | taken => rfl
  | enabled table => simp [table]
  | bound table => simp [table]

/-! ## Operations -/

theorem bindingsSound_registerExtension {e : Engine} (uri : String) (kind : MediaKind)
    (directions : List Direction) (he : e.BindingsSound) :
    (e.registerExtension uri kind directions).1.BindingsSound := by
  have hdescribed := Engine.described_registerExtension uri kind directions he.toDescribed
  by_cases hall : (Engine.allowedDirections directions).all Direction.isOneWay = true
  · rw [Engine.registerExtension_accepted hall] at hdescribed ⊢
    -- a table that is opened by the registration has no entries
    have hheld : ∀ (id : Int) (x : HeaderExtension),
        (e.negotiated.bindings.getD ∅)[id]? = some x →
          ∃ t, e.negotiated.bindings = some t ∧ t[id]? = some x := by
      intro id x hx
      cases hb : e.negotiated.bindings with
      | none => simp [hb] at hx
      | some t => exact ⟨t, rfl, by simpa [hb] using hx⟩
    refine ⟨hdescribed, ?_, ?_⟩
    · intro t ht i j x y hx hy
      obtain rfl := Option.some.inj ht
      obtain ⟨held, hs, hx⟩ := hheld i x hx
      obtain ⟨held', hs', hy⟩ := hheld j y hy
      obtain rfl : held = held' := by simpa [hs] using hs'
      exact he.oneToOne held hs i j x y hx hy
    · intro t ht id x hx
      obtain rfl := Option.some.inj ht
      obtain ⟨held, hs, hx⟩ := hheld id x hx
      exact (he.backed held hs id x hx).mono (fun _ _ => HeaderExtension.find?_enable_of_find?)
        fun _ hk => hk
  · rw [Engine.registerExtension_refused hall]
    exact he

/-- Every operation keeps the bindings sound. -/
theorem kept_bindingsSound : Engine.Kept Engine.BindingsSound where
  registerCodec {e} kind c id he := by
    obtain ⟨hknown, hneg⟩ := e.registerCodec_frame kind c id
    refine ⟨Engine.kept_described.registerCodec kind c id he.toDescribed, hneg ▸ he.oneToOne, ?_⟩
    intro t ht i x hx
    rw [hneg] at ht
    refine (he.backed t ht i x hx).mono (fun _ r hr => ⟨r, ?_, fun _ hk => hk⟩) fun _ hk => ?_
    · rw [hknown, hr]
    · rw [hneg, hk]
  registerExtension uri kind directions he :=
    bindingsSound_registerExtension uri kind directions he
  registerFeedback _ _ he := ⟨⟨he.uris, he.directions⟩, he.oneToOne, fun t ht i x hx =>
    ⟨(he.backed t ht i x hx).kinds, (he.backed t ht i x hx).directions⟩⟩
  setMulti _ he := ⟨⟨he.uris, he.directions⟩, he.oneToOne, fun t ht i x hx =>
    ⟨(he.backed t ht i x hx).kinds, (he.backed t ht i x hx).directions⟩⟩
  update d he := Engine.update_keeps he Change.bindingsSound d

theorem bindingsSound_new : Engine.BindingsSound {} :=
  ⟨Engine.described_new, by simp, by simp⟩

/-! ## The table -/

/-- Whether an operation registers a header extension. -/
def Command.registersExtension : Command → Bool
  | .registerExtension .. => true
  | _ => false

/-- An operation leaves an engine without a table exactly when there was none and the operation has
not registered an extension successfully. -/
theorem bindings_step_eq_none_iff {b : Bench} {command : Command} :
    (b.step command).1.engine.negotiated.bindings = none ↔
      (command.registersExtension = true → (b.step command).2 ≠ .ok ()) ∧
        b.engine.negotiated.bindings = none := by
  cases command with
  | registerCodec kind c =>
    have hneg := (b.engine.registerCodec_frame kind c (.issued b.serial)).2
    simp [Bench.step, Command.registersExtension, hneg]
  | registerDefaults =>
    have hneg : (b.engine.registerDefaults b.serial).1.negotiated = b.engine.negotiated :=
      (b.engine.registerCodecs_frame b.serial Defaults.codecs).2
    simp [Bench.step, Command.registersExtension, hneg]
  | registerExtension uri kind directions =>
    by_cases hall : (Engine.allowedDirections directions).all Direction.isOneWay = true
    · simp [Bench.step, Command.registersExtension, Engine.registerExtension_accepted hall]
    · simp [Bench.step, Command.registersExtension, Engine.registerExtension_refused hall]
  | registerFeedback kind f =>
    simp [Bench.step, Command.registersExtension, Engine.registerFeedback]
  | setMulti multi => simp [Bench.step, Command.registersExtension, Engine.setMulti]
  | update d =>
    have hnone := (changes_applySections b.engine b.engine.negotiated d).bindings_eq_none_iff
    simpa [Bench.step, Command.registersExtension, Engine.update, Engine.negotiate] using hnone

/-- There is a table of bindings exactly when some operation has registered an extension. -/
theorem bindings_run_eq_none_iff {b : Bench} {commands : List Command} :
    (b.run commands).engine.negotiated.bindings = none ↔
      (∀ entry ∈ commands.zip (b.results commands),
        entry.1.registersExtension = true → entry.2 ≠ .ok ()) ∧
        b.engine.negotiated.bindings = none := by
  induction commands generalizing b with
  | nil => simp [Bench.run]
  | cons command rest ih =>
    rw [Bench.run_cons, ih, bindings_step_eq_none_iff, Bench.results, List.zip_cons_cons,
      List.forall_mem_cons]
    constructor
    · rintro ⟨h, hfirst, hnone⟩
      exact ⟨⟨hfirst, h⟩, hnone⟩
    · rintro ⟨⟨hfirst, h⟩, hnone⟩
      exact ⟨h, hfirst, hnone⟩

/-- **Bindings.** After any sequence of operations on a new engine there is a table of bindings
exactly when some operation has registered a header extension. No two ids of the table are bound to
one URI. Every bound URI has exactly one registered descriptor, the kinds of its entry are
negotiated ones for which the descriptor is registered, and the entry is restricted to one-way
directions, of which there is at least one. Through any further operations each id keeps its URI and
its directions, and only gains kinds. -/
theorem bindings_run (serial : Nat) (commands more : List Command) :
    let e := (Bench.run { serial } commands).engine
    let later := ((Bench.run { serial } commands).run more).engine
    (e.negotiated.bindings = none ↔
      ∀ entry ∈ commands.zip (Bench.results { serial } commands),
        entry.1.registersExtension = true → entry.2 ≠ .ok ()) ∧
    ∀ t, e.negotiated.bindings = some t →
      t.OneToOne ∧
      (∀ (id : Int) (x : HeaderExtension), t[id]? = some x →
        (∃ registered, e.extensions.filter (·.uri == x.uri) = [registered] ∧
          ∀ kind, x.kinds.get kind = true →
            registered.kinds.get kind = true ∧ e.negotiated.hasKind kind = true) ∧
        x.directions ≠ [] ∧ ∀ d ∈ x.directions, d = .recvonly ∨ d = .sendonly) ∧
      ∃ wider, later.negotiated.bindings = some wider ∧ t.GrowsTo wider := by
  intro e later
  have hsound : e.BindingsSound :=
    kept_bindingsSound.run (b := { serial }) bindingsSound_new commands
  refine ⟨?_, fun t ht => ⟨hsound.oneToOne t ht, fun id x hx => ?_, ?_⟩⟩
  · rw [bindings_run_eq_none_iff]
    simp
  · have hbacked := hsound.backed t ht id x hx
    obtain ⟨registered, hfind, hflags⟩ := hbacked.kinds
    exact ⟨⟨registered, HeaderExtension.filter_uri_eq_singleton hsound.uris hfind, hflags⟩,
      hbacked.directions⟩
  · exact (growsTo_run (Bench.run { serial } commands) more).bindings t ht

end MediaNegotiation
