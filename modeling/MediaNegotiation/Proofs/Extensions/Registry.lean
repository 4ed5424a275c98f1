import MediaNegotiation.Proofs.DistinctKeys
import MediaNegotiation.Proofs.Reachability

/-!
# Registered header extensions

The registered extensions of an engine carry distinct URIs, and each is restricted to one-way
directions. Registering one again keeps its kinds, so that what was registered for a kind once is
registered for it for good.

Results:
* `find?_enable_of_find?`: a registered extension stays registered, for at least the same kinds.
* `filter_uri_eq_singleton`: a registered URI has exactly one descriptor.
* `registerExtension_accepted`, `registerExtension_refused`: the two ways of a registration.
* `kept_described`: the invariant of registration.
-/

namespace MediaNegotiation

/-! ## Directions -/

/-- A restriction to one-way directions, of which there is at least one. -/
def Direction.Restricts (directions : List Direction) : Prop :=
  directions ≠ [] ∧ ∀ d ∈ directions, d = .recvonly ∨ d = .sendonly

theorem Direction.isOneWay_iff {d : Direction} :
    d.isOneWay = true ↔ d = .recvonly ∨ d = .sendonly := by
  cases d <;> simp [isOneWay]

/-- What is registered without directions is restricted to both one-way ones. -/
theorem Engine.restricts_allowedDirections {directions : List Direction}
    (h : (allowedDirections directions).all Direction.isOneWay = true) :
    Direction.Restricts (allowedDirections directions) := by
  refine ⟨?_, fun d hd => Direction.isOneWay_iff.1 (List.all_eq_true.1 h d hd)⟩
  unfold allowedDirections
  split
  · simp
  · rename_i hne
    simpa using hne

/-! ## Enabling an extension -/

namespace HeaderExtension

variable {uri v : String} {kind : MediaKind} {directions : List Direction}
  {known : List HeaderExtension} {x registered : HeaderExtension}

/-- The URI of a registered extension that is found is the one looked for. -/
theorem find?_eq_some (h : find? known uri = some x) : x ∈ known ∧ x.uri = uri :=
  ⟨List.mem_of_find?_eq_some h, by simpa using List.find?_some h⟩

theorem find?_cons (x : HeaderExtension) (rest : List HeaderExtension) :
    find? (x :: rest) uri = if x.uri = uri then some x else find? rest uri := by
  by_cases h : x.uri = uri <;> simp [find?, h]

/-- A registered extension stays registered, for at least the same kinds. -/
theorem find?_enable_of_find? (h : find? known v = some registered) :
    ∃ wider, find? (enable uri kind directions known) v = some wider ∧
      ∀ l, registered.kinds.get l = true → wider.kinds.get l = true := by
  induction known with
  | nil => simp [find?] at h
  | cons y rest ih =>
    rw [find?_cons] at h
    rw [enable]
    by_cases hv : y.uri = v
    · rw [if_pos hv, Option.some.injEq] at h
      subst h
      split
      · refine ⟨{ y.addKind kind with directions }, ?_, fun l hl => ?_⟩
        · rw [find?_cons]
          exact if_pos hv
        · rw [addKind, PerKind.get_set]
          split
          · rfl
          · exact hl
      · exact ⟨y, by rw [find?_cons, if_pos hv], fun _ hl => hl⟩
    · rw [if_neg hv] at h
      split
      · refine ⟨registered, ?_, fun _ hl => hl⟩
        rw [find?_cons, ← h]
        exact if_neg hv
      · rw [find?_cons, if_neg hv]
        exact ih h

/-- Enabling an extension keeps URIs distinct. -/
theorem nodup_enable (h : (known.map (·.uri)).Nodup) :
    ((enable uri kind directions known).map (·.uri)).Nodup := by
  induction known with
  | nil => simp [enable]
  | cons y rest ih =>
    rw [enable]
    rw [List.map_cons, List.nodup_cons] at h
    split
    · rw [List.map_cons, List.nodup_cons]
      exact h
    · rename_i hy
      rw [List.map_cons, List.nodup_cons, uri_mem_enable]
      refine ⟨?_, ih h.2⟩
      rintro (hyu | hmem)
      · exact hy hyu
      · exact h.1 hmem

/-- An extension keeps its directions unless it is the one that is enabled. -/
theorem directions_of_mem_enable (h : x ∈ enable uri kind directions known) :
    x.directions = directions ∨ ∃ y ∈ known, x.directions = y.directions := by
  induction known with
  | nil =>
    rw [enable, List.mem_singleton] at h
    exact .inl (by rw [h])
  | cons y rest ih =>
    rw [enable] at h
    split at h
    · rcases List.mem_cons.1 h with rfl | hrest
      · exact .inl rfl
      · exact .inr ⟨x, List.mem_cons_of_mem _ hrest, rfl⟩
    · rcases List.mem_cons.1 h with rfl | hrest
      · exact .inr ⟨x, List.mem_cons_self, rfl⟩
      · rcases ih hrest with hd | ⟨z, hz, hd⟩
        · exact .inl hd
        · exact .inr ⟨z, List.mem_cons_of_mem _ hz, hd⟩

/-- Where URIs are distinct, a registered one has exactly one descriptor. -/
theorem filter_uri_eq_singleton (hd : (known.map (·.uri)).Nodup)
    (h : find? known uri = some registered) : known.filter (·.uri == uri) = [registered] := by
  obtain ⟨hmem, rfl⟩ := find?_eq_some h
  exact filter_of_nodup_keys hd hmem

end HeaderExtension

/-! ## The invariant -/

/-- The registered extensions of an engine have distinct URIs and are restricted to one-way
directions. -/
structure Engine.Described (e : Engine) : Prop where
  uris : (e.extensions.map (·.uri)).Nodup
  directions : ∀ x ∈ e.extensions, Direction.Restricts x.directions

namespace Engine

/-- An extension with acceptable directions is registered, and there is a table of bindings from
then on. -/
theorem registerExtension_accepted {directions : List Direction}
    (h : (allowedDirections directions).all Direction.isOneWay = true) (e : Engine) (uri : String)
    (kind : MediaKind) :
    e.registerExtension uri kind directions =
      ({ e with
          extensions := HeaderExtension.enable uri kind (allowedDirections directions) e.extensions
          negotiated.bindings := some (e.negotiated.bindings.getD ∅) }, .ok ()) := by
  unfold registerExtension
  dsimp only
  rw [if_pos h]

theorem registerExtension_refused {directions : List Direction}
    (h : ¬ (allowedDirections directions).all Direction.isOneWay = true) (e : Engine) (uri : String)
    (kind : MediaKind) :
    e.registerExtension uri kind directions = (e, .error .invalidExtensionDirection) := by
  unfold registerExtension
  dsimp only
  rw [if_neg h]

theorem described_registerExtension {e : Engine} (uri : String) (kind : MediaKind)
    (directions : List Direction) (he : e.Described) :
    (e.registerExtension uri kind directions).1.Described := by
  by_cases hall : (allowedDirections directions).all Direction.isOneWay = true
  · rw [registerExtension_accepted hall]
    refine ⟨HeaderExtension.nodup_enable he.uris, fun x hx => ?_⟩
    rcases HeaderExtension.directions_of_mem_enable hx with hd | ⟨y, hy, hd⟩
    · rw [hd]
      exact restricts_allowedDirections hall
    · rw [hd]
      exact he.directions y hy
  · rw [registerExtension_refused hall]
    exact he

theorem kept_described : Kept Described where
  registerCodec {e} kind c id he := by
    have hframe := (e.registerCodec_frame kind c id).1
    exact ⟨hframe ▸ he.uris, hframe ▸ he.directions⟩
  registerExtension uri kind directions he := described_registerExtension uri kind directions he
  registerFeedback _ _ he := ⟨he.uris, he.directions⟩
  setMulti _ he := ⟨he.uris, he.directions⟩
  update _ he := ⟨he.uris, he.directions⟩

theorem described_new : Described {} := ⟨List.nodup_nil, by simp⟩

end Engine

end MediaNegotiation
