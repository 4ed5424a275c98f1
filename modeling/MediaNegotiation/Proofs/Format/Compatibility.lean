import MediaNegotiation.Format.Basic

/-!
# Compatibility of formats

Two sides of a session have to come to the same answer about whether their formats can be used
together, so compatibility must not depend on which side asks. Formats of different families are
never compatible. Inside a family with a rule of its own compatibility compares one reading of each
side and is transitive; the general rule is not, because it looks only at what both sides give.

Results:
* `family_read`: the MIME type alone decides the family of a format.
* `compatible_symm`: compatibility is symmetric.
* `family_eq_of_compatible`, `compatible_trans`: it stays inside a family and is transitive there.
* `compatible_self_iff`, `compatible_of_unprofiled`: which formats are compatible with themselves,
  and that the others are compatible with none.
-/

namespace MediaNegotiation

namespace Format

/-! ## Families -/

/-- The families of formats, each with its own rule of compatibility. -/
inductive Family
  | h264
  | vp9
  | av1
  | generic
  deriving DecidableEq, Repr

/-- The MIME types of the families with a rule of their own. -/
def Family.named : List (String × Family) :=
  [(h264Mime, .h264), (vp9Mime, .vp9), (av1Mime, .av1)]

/-- The family that a MIME type selects in any spelling. -/
def Family.ofMime (mime : String) : Family :=
  ((Family.named.find? fun entry => Text.sameSpelling mime entry.1).map Prod.snd).getD .generic

/-- The family of a format. -/
def family : Format → Family
  | .h264 _ => .h264
  | .vp9 _ => .vp9
  | .av1 _ => .av1
  | .generic .. => .generic

/-- The MIME type alone decides the family of a format. -/
theorem family_read (mime : String) (clockRate : UInt32) (channels : UInt16) (line : String) :
    (read mime clockRate channels line).family = Family.ofMime mime := by
  unfold read
  dsimp only
  by_cases hh264 : Text.sameSpelling mime h264Mime = true
  · simp [hh264, family, Family.ofMime, Family.named]
  · by_cases hvp9 : Text.sameSpelling mime vp9Mime = true
    · simp [hh264, hvp9, family, Family.ofMime, Family.named]
    · by_cases hav1 : Text.sameSpelling mime av1Mime = true
      · simp [hh264, hvp9, hav1, family, Family.ofMime, Family.named]
      · simp [hh264, hvp9, hav1, family, Family.ofMime, Family.named]

theorem family_ofCodec (c : Codec) : (ofCodec c).family = Family.ofMime c.mime :=
  family_read ..

/-! ## Symmetry -/

theorem sharedAgree_iff {p q : Parameters} :
    sharedAgree p q = true ↔ ∀ key value other : String, p[key]? = some value →
      q[key]? = some other → Text.sameSpelling value other = true := by
  simp only [sharedAgree, List.all_eq_true, Prod.forall,
    Std.ExtTreeMap.mem_toList_iff_getElem?_eq_some]
  refine forall_congr' fun key => ⟨fun h value other hp hq => ?_, fun h value hp => ?_⟩
  · simpa [hq] using h value hp
  · cases hq : q[key]? with
    | none => rfl
    | some other => exact h value other hp hq

theorem sharedAgree_symm (p q : Parameters) : sharedAgree p q = sharedAgree q p := by
  rw [Bool.eq_iff_iff, sharedAgree_iff, sharedAgree_iff]
  constructor
  all_goals
    intro h key value other hvalue hother
    rw [Text.sameSpelling_symm]
    exact h key other value hother hvalue

/-- Two parameter lists of H.264 agree when they have one packetization mode and one profile. -/
theorem h264Agree_iff {p q : Parameters} :
    h264Agree p q = true ↔ orZero p "packetization-mode" = orZero q "packetization-mode" ∧
      ∃ profile, profile? p = some profile ∧ profile? q = some profile := by
  simp only [h264Agree, Bool.and_eq_true, beq_iff_eq, and_assoc]
  refine and_congr_right fun _ => ?_
  constructor
  · rintro ⟨hsome, heq⟩
    obtain ⟨profile, hp⟩ := Option.isSome_iff_exists.1 hsome
    exact ⟨profile, hp, heq ▸ hp⟩
  · rintro ⟨profile, hp, hq⟩
    exact ⟨by simp [hp], hp.trans hq.symm⟩

theorem h264Agree_symm (p q : Parameters) : h264Agree p q = h264Agree q p := by
  rw [Bool.eq_iff_iff, h264Agree_iff, h264Agree_iff, eq_comm]
  exact and_congr_right fun _ => exists_congr fun _ => and_comm

/-- Compatibility of formats is symmetric. -/
theorem compatible_symm (f g : Format) : f.compatible g = g.compatible f := by
  cases f <;> cases g
  case h264.h264 p q => exact h264Agree_symm p q
  case vp9.vp9 p q => exact Bool.beq_comm
  case av1.av1 p q => exact Bool.beq_comm
  case generic.generic m r c p n s d q =>
    show (_ && _ && _ && _) = (_ && _ && _ && _)
    rw [Text.sameSpelling_symm, clockRatesAgree_symm, channelsAgree_symm, sharedAgree_symm]
  all_goals rfl

/-! ## Transitivity -/

/-- Formats of different families are not compatible. -/
theorem family_eq_of_compatible {f g : Format} (h : f.compatible g = true) :
    f.family = g.family := by
  cases f <;> cases g <;> first | rfl | exact absurd h Bool.false_ne_true

/-- Compatibility is transitive in each family with a rule of its own. -/
theorem compatible_trans {f g h : Format} (hfamily : f.family ≠ .generic)
    (hfg : f.compatible g = true) (hgh : g.compatible h = true) : f.compatible h = true := by
  have hfirst := family_eq_of_compatible hfg
  have hsecond := family_eq_of_compatible hgh
  cases f <;> cases g <;> cases h <;> try contradiction
  case h264 p q r =>
    obtain ⟨hmode, profile, hp, hq⟩ := h264Agree_iff.1 hfg
    obtain ⟨hmode', profile', hq', hr⟩ := h264Agree_iff.1 hgh
    obtain rfl : profile = profile' := Option.some.inj (hq.symm.trans hq')
    exact h264Agree_iff.2 ⟨hmode.trans hmode', profile, hp, hr⟩
  case vp9 p q r =>
    simp only [compatible, beq_iff_eq] at hfg hgh ⊢
    exact hfg.trans hgh
  case av1 p q r =>
    simp only [compatible, beq_iff_eq] at hfg hgh ⊢
    exact hfg.trans hgh

/-! ## Compatibility with itself -/

/-- An H.264 format without a readable profile: its profile level id is missing, or is not
hexadecimal, or has less than two bytes. -/
def Unprofiled (f : Format) : Prop :=
  f.family = .h264 ∧ ∀ id, f.parameter? "profile-level-id" = some id →
    ∀ bytes, Text.hexBytes? id.toList = some bytes → bytes.length < 2

theorem profile?_eq_none_iff {p : Parameters} : profile? p = none ↔ Unprofiled (.h264 p) := by
  unfold profile? Unprofiled
  simp only [family, parameter?, parameters, true_and]
  cases hid : p["profile-level-id"]? with
  | none => simp
  | some id =>
    cases hbytes : Text.hexBytes? id.toList with
    | none => simp [hbytes]
    | some bytes => rcases bytes with _ | ⟨first, _ | ⟨second, more⟩⟩ <;> simp [hbytes]

/-- A format is compatible with itself unless it has no readable profile. -/
theorem compatible_self_iff {f : Format} : f.compatible f = true ↔ ¬ f.Unprofiled := by
  cases f with
  | h264 p =>
    rw [← profile?_eq_none_iff, ← ne_eq, Option.ne_none_iff_exists']
    exact h264Agree_iff.trans (by simp)
  | vp9 p => simp [compatible, Unprofiled, family]
  | av1 p => simp [compatible, Unprofiled, family]
  | generic mime clockRate channels p =>
    have hshared : sharedAgree p p = true :=
      sharedAgree_iff.2 fun key value other hp hq => by simp [Option.some.inj (hp.symm.trans hq)]
    simp [compatible, Unprofiled, family, hshared]

/-- A format without a readable profile is compatible with none. -/
theorem compatible_of_unprofiled {f : Format} (hf : f.Unprofiled) (g : Format) :
    f.compatible g = false := by
  rw [← Bool.not_eq_true]
  intro hfg
  -- otherwise it would be compatible with itself
  have hfamily : f.family ≠ .generic := by simp [hf.1]
  have hgf : g.compatible f = true := by rw [compatible_symm, hfg]
  exact compatible_self_iff.1 (compatible_trans hfamily hfg hgf) hf

/-- **Compatibility.** Whether the formats of two codecs are compatible does not depend on their
order, and they never are when their MIME types select different families. In the families with a
rule of their own compatibility is transitive. Equal formats are compatible, apart from H.264
formats without a readable profile, which are compatible with none. -/
theorem compatible_ofCodec (a b c : Codec) :
    (ofCodec a).compatible (ofCodec b) = (ofCodec b).compatible (ofCodec a) ∧
      (Family.ofMime a.mime ≠ Family.ofMime b.mime →
        (ofCodec a).compatible (ofCodec b) = false) ∧
      (Family.ofMime a.mime ≠ .generic → (ofCodec a).compatible (ofCodec b) = true →
        (ofCodec b).compatible (ofCodec c) = true → (ofCodec a).compatible (ofCodec c) = true) ∧
      (ofCodec a = ofCodec b → ¬ (ofCodec a).Unprofiled →
        (ofCodec a).compatible (ofCodec b) = true) ∧
      ((ofCodec a).Unprofiled → (ofCodec a).compatible (ofCodec b) = false) := by
  refine ⟨compatible_symm _ _, ?_, ?_, ?_, fun hnone => compatible_of_unprofiled hnone _⟩
  · intro hne
    rw [← Bool.not_eq_true]
    intro hab
    have hfamily := family_eq_of_compatible hab
    rw [family_ofCodec, family_ofCodec] at hfamily
    exact hne hfamily
  · intro hfamily hab hbc
    rw [← family_ofCodec] at hfamily
    exact compatible_trans hfamily hab hbc
  · intro heq hprofiled
    rw [← heq]
    exact compatible_self_iff.2 hprofiled

/-- The general rule is not transitive: an unset clock rate agrees with every other. -/
example :
    (read Mime.opus 48000 2 "").compatible (read Mime.opus 0 2 "") = true ∧
      (read Mime.opus 0 2 "").compatible (read Mime.opus 8000 2 "") = true ∧
      (read Mime.opus 48000 2 "").compatible (read Mime.opus 8000 2 "") = false := by
  decide +kernel

end Format

end MediaNegotiation
