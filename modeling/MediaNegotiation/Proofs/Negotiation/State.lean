import MediaNegotiation.Engine.Negotiation

/-!
# Parts of the negotiated state

The negotiated state with the codecs of one kind or the table of bindings replaced. Each of the two
is read back where it was replaced and leaves everything else alone.

Results:
* `get_withCodecs`, `bindings_withCodecs`: what is seen after codecs have been replaced.
* `codecs_withBindings`, `bindings_withBindings`: what is seen after bindings have been replaced.
-/

namespace MediaNegotiation

namespace Negotiated

/-- The state with the codecs of a kind replaced, which also marks the kind as negotiated. -/
def withCodecs (s : Negotiated) (kind : MediaKind) (codecs : List Codec) : Negotiated :=
  { s with codecs := s.codecs.set kind (some codecs) }

/-- The state with the table of bindings replaced. -/
def withBindings (s : Negotiated) (t : BindingTable) : Negotiated := { s with bindings := some t }

variable (s : Negotiated) (kind l : MediaKind) (codecs : List Codec) (t : BindingTable)

theorem get_withCodecs :
    (s.withCodecs kind codecs).codecs.get l = if l = kind then some codecs else s.codecs.get l :=
  PerKind.get_set _ _ _ _

@[simp] theorem get_withCodecs_same : (s.withCodecs kind codecs).codecs.get kind = some codecs := by
  simp [get_withCodecs]

theorem codecsOf_withCodecs :
    (s.withCodecs kind codecs).codecsOf l = if l = kind then codecs else s.codecsOf l := by
  by_cases h : l = kind <;> simp [codecsOf, get_withCodecs, h]

@[simp] theorem hasKind_withCodecs_same : (s.withCodecs kind codecs).hasKind kind = true := by
  simp [hasKind]

theorem hasKind_withCodecs (h : s.hasKind l = true) :
    (s.withCodecs kind codecs).hasKind l = true := by
  by_cases hl : l = kind
  · simp [hasKind, hl]
  · simpa [hasKind, get_withCodecs, hl] using h

@[simp] theorem withCodecs_withCodecs (more : List Codec) :
    (s.withCodecs kind codecs).withCodecs kind more = s.withCodecs kind more := by
  simp only [withCodecs, mk.injEq, and_true]
  apply PerKind.ext_get
  intro l
  by_cases h : l = kind <;> simp [PerKind.get_set, h]

theorem withCodecs_eq_self (h : s.codecs.get kind = some codecs) :
    s.withCodecs kind codecs = s := by
  cases s with
  | mk held bindings =>
    simp only [withCodecs, mk.injEq, and_true] at h ⊢
    apply PerKind.ext_get
    intro l
    by_cases hl : l = kind
    · simp [PerKind.get_set, hl, h]
    · simp [PerKind.get_set, hl]

@[simp] theorem bindings_withCodecs : (s.withCodecs kind codecs).bindings = s.bindings := rfl

@[simp] theorem codecs_withBindings : (s.withBindings t).codecs = s.codecs := rfl

@[simp] theorem hasKind_withBindings : (s.withBindings t).hasKind kind = s.hasKind kind := rfl

@[simp] theorem codecsOf_withBindings : (s.withBindings t).codecsOf kind = s.codecsOf kind := rfl

@[simp] theorem bindings_withBindings : (s.withBindings t).bindings = some t := rfl

theorem withBindings_eq_self (h : s.bindings = some t) : s.withBindings t = s := by
  cases s with
  | mk held bindings => simp only at h; rw [withBindings, h]

theorem get_of_hasKind (h : s.hasKind kind = true) :
    s.codecs.get kind = some (s.codecsOf kind) := by
  obtain ⟨held, hk⟩ := Option.isSome_iff_exists.1 h
  simp [codecsOf, hk]

theorem codecsOf_of_get (h : s.codecs.get kind = some codecs) : s.codecsOf kind = codecs := by
  rw [codecsOf, h]
  rfl

theorem codecsOf_of_fresh (h : s.hasKind kind = false) : s.codecsOf kind = [] := by
  rw [hasKind, Option.isSome_eq_false_iff, Option.isNone_iff_eq_none] at h
  rw [codecsOf, h]
  rfl

end Negotiated

end MediaNegotiation
