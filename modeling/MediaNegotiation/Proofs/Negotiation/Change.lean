import Mathlib.Logic.Relation
import MediaNegotiation.Proofs.Extensions.Binding
import MediaNegotiation.Proofs.Negotiation.Commit
import MediaNegotiation.Proofs.Negotiation.Section

/-!
# Changes to what is negotiated

Everything that a remote description does to the negotiated state of an engine is a sequence of
changes of four sorts: a kind is opened, a matched codec is taken over, a header extension is bound,
and a bound one is enabled for a further kind. A description that is stopped is no exception; it
ends after some of its changes. An invariant of negotiation therefore needs four cases.

Results:
* `changes_applySection`: a section acts by single changes.
* `applySection_report_cases`: where the report of a section comes from.
* `changes_applySections`: so does a description, whether or not it is stopped.
* `Changes.keeps`, `Engine.update_keeps`: what every single change keeps, a description keeps.
-/

namespace MediaNegotiation

/-! ## Single changes -/

/-- One change to the negotiated state of an engine. -/
inductive Change (e : Engine) (s : Negotiated) : Negotiated → Prop
  /-- A kind is negotiated for the first time and has no codecs yet. -/
  | opened {kind : MediaKind} (fresh : s.hasKind kind = false) : Change e s (s.withCodecs kind [])
  /-- A codec of a negotiated kind is taken over under a payload type that is free. -/
  | taken {kind : MediaKind} {codecs : List Codec} {wanted entry : Codec}
      (held : s.codecs.get kind = some codecs)
      (made : MadeFrom (e.registered.get kind) wanted entry)
      (free : Codec.find? codecs entry.payloadType = none) :
      Change e s (s.withCodecs kind (codecs ++ [entry]))
  /-- A bound extension is enabled for a negotiated kind for which it is registered. -/
  | enabled {kind : MediaKind} {t : BindingTable} {id : Int} {x registered : HeaderExtension}
      (table : s.bindings = some t) (bound : t[id]? = some x)
      (known : HeaderExtension.find? e.extensions x.uri = some registered)
      (applies : registered.kinds.get kind = true) (negotiated : s.hasKind kind = true) :
      Change e s (s.withBindings (t.insert id (x.addKind kind)))
  /-- A registered extension is bound, neither the URI nor the id being taken. -/
  | bound {kind : MediaKind} {t : BindingTable} {id : Int} {uri : String}
      {registered : HeaderExtension} (table : s.bindings = some t)
      (unbound : t.binding? uri = none) (free : t[id]? = none)
      (known : HeaderExtension.find? e.extensions uri = some registered)
      (negotiated : s.hasKind kind = true) :
      Change e s (s.withBindings (t.insert id (registered.boundFor uri kind)))

/-- Any number of changes, one after the other. -/
def Changes (e : Engine) : Negotiated → Negotiated → Prop := Relation.ReflTransGen (Change e)

namespace Changes

variable {e : Engine} {s t u : Negotiated}

theorem refl (s : Negotiated) : Changes e s s := Relation.ReflTransGen.refl

theorem single (h : Change e s t) : Changes e s t := Relation.ReflTransGen.single h

theorem trans (h : Changes e s t) (h' : Changes e t u) : Changes e s u :=
  Relation.ReflTransGen.trans h h'

/-- What every single change keeps, any number of changes keeps. -/
theorem keeps {P : Negotiated → Prop} (h : Changes e s t) (hs : P s)
    (step : ∀ {a b : Negotiated}, Change e a b → P a → P b) : P t := by
  induction h with
  | refl => exact hs
  | tail _ hstep ih => exact step hstep ih

/-- A negotiated kind stays negotiated. -/
theorem hasKind {kind : MediaKind} (h : Changes e s t) (hs : s.hasKind kind = true) :
    t.hasKind kind = true := by
  refine h.keeps (P := fun u => u.hasKind kind = true) hs ?_
  intro a b hstep ha
  cases hstep with
  | opened => exact a.hasKind_withCodecs _ _ _ ha
  | taken => exact a.hasKind_withCodecs _ _ _ ha
  | enabled => simpa using ha
  | bound => simpa using ha

end Changes

/-! ## Header extensions -/

section

variable {e : Engine} {s : Negotiated} {kind : MediaKind}

theorem changes_bindExtension {t : BindingTable} (ht : s.bindings = some t)
    (hk : s.hasKind kind = true) (uri : String) (id : Int) :
    Changes e s (s.withBindings (bindExtension e.extensions kind t uri id).1) := by
  rcases bindExtension_cases e.extensions kind t uri id with
    heq | ⟨x, registered, hx, hknown, happ, heq⟩ | ⟨registered, hb, hid, hknown, heq⟩
  · rw [heq, s.withBindings_eq_self t ht]
    exact .refl s
  · rw [heq]
    exact .single (.enabled ht hx hknown happ hk)
  · rw [heq]
    exact .single (.bound ht hb hid hknown hk)

theorem changes_bindExtensions {t : BindingTable} (ht : s.bindings = some t)
    (hk : s.hasKind kind = true) (offered : List (String × Int)) :
    Changes e s (s.withBindings (bindExtensions e.extensions kind t offered).1) := by
  induction offered generalizing s t with
  | nil =>
    rw [bindExtensions, s.withBindings_eq_self t ht]
    exact .refl s
  | cons offer rest ih =>
    have hfirst := changes_bindExtension (e := e) ht hk offer.1 offer.2
    exact hfirst.trans (ih rfl (by simpa using hk))

/-- Binding what a section offers acts by single changes. -/
theorem changes_bindOffered (hk : s.hasKind kind = true) (offered : List (String × Int)) :
    Changes e s (bindOffered e.extensions kind s offered).1 := by
  unfold bindOffered
  cases ht : s.bindings with
  | none => exact .refl s
  | some t => exact changes_bindExtensions ht hk offered

/-! ## Codecs -/

theorem changes_commit {codecs : List Codec} (hs : s.codecs.get kind = some codecs)
    {chosen : List Match}
    (hmade : ∀ m ∈ chosen, ∃ wanted, MadeFrom (e.registered.get kind) wanted m.entry) :
    Changes e s (s.withCodecs kind (commit codecs chosen).1) := by
  induction chosen generalizing s codecs with
  | nil =>
    rw [commit, s.withCodecs_eq_self kind codecs hs]
    exact .refl s
  | cons m rest ih =>
    rw [List.forall_mem_cons] at hmade
    obtain ⟨⟨wanted, hm⟩, hrest⟩ := hmade
    cases hfind : Codec.find? codecs m.entry.payloadType with
    | some held =>
      rw [commit_cons_held (by simp [hfind])]
      exact ih hs hrest
    | none =>
      rw [commit_cons_free hfind]
      have hnext := @ih (s.withCodecs kind (codecs ++ [m.entry])) (codecs ++ [m.entry]) (by simp)
        hrest
      rw [Negotiated.withCodecs_withCodecs] at hnext
      exact (Changes.single (.taken hs hm hfind)).trans hnext

/-! ## Sections -/

theorem changes_takeCodecs (hk : s.hasKind kind = true) (r : RemoteSection) :
    Changes e s (takeCodecs e kind s r).negotiated := by
  by_cases hr : r.Malformed
  · rw [takeCodecs_malformed hr]
    exact .refl s
  · cases hbest : (matchCodecs (e.registered.get kind) {} r.codecs).found.best? with
    | none =>
      rw [takeCodecs_unmatched hbest]
      exact .refl s
    | some best =>
      obtain ⟨tier, chosen⟩ := best
      rw [takeCodecs_matched hr hbest]
      have hcommit : Changes e s (s.withCodecs kind (commit (s.codecsOf kind) chosen).1) :=
        changes_commit (s.get_of_hasKind kind hk) fun m hm =>
          madeFrom_of_mem_matchCodecs (Found.mem_entries_of_best hbest hm)
      exact hcommit.trans (changes_bindOffered (by simp) r.extensions)

end

/-- A section acts by single changes. -/
theorem changes_applySection (e : Engine) (s : Negotiated) (r : RemoteSection) :
    Changes e s (applySection e s r).negotiated := by
  cases h : MediaKind.ofText? r.media with
  | none =>
    rw [applySection_skipped h]
    exact .refl s
  | some kind =>
    cases hk : s.hasKind kind with
    | false =>
      rw [applySection_fresh h hk, Outcome.logged_negotiated]
      exact (Changes.single (.opened hk)).trans (changes_takeCodecs (by simp) r)
    | true =>
      have hbound := changes_bindOffered (e := e) hk r.extensions
      cases hm : e.multi with
      | false =>
        rw [applySection_closed h hk hm]
        exact hbound
      | true =>
        rw [applySection_again h hk hm, Outcome.logged_negotiated]
        exact hbound.trans (changes_takeCodecs (hbound.hasKind hk) r)

/-- A section has nothing to report, or its codecs are taken from a state that single changes lead
to and in which its kind is negotiated. -/
theorem applySection_report_cases (e : Engine) (s : Negotiated) (r : RemoteSection) :
    ((applySection e s r).fault = none ∧ (applySection e s r).conflicts = []) ∨
      ∃ kind start log, Changes e s start ∧ start.hasKind kind = true ∧
        applySection e s r = (takeCodecs e kind start r).logged log := by
  cases h : MediaKind.ofText? r.media with
  | none => exact .inl (by rw [applySection_skipped h]; exact ⟨rfl, rfl⟩)
  | some kind =>
    cases hk : s.hasKind kind with
    | false => exact .inr ⟨kind, _, _, .single (.opened hk), by simp, applySection_fresh h hk⟩
    | true =>
      cases hm : e.multi with
      | false => exact .inl (by rw [applySection_closed h hk hm]; exact ⟨rfl, rfl⟩)
      | true =>
        exact .inr ⟨kind, _, _, changes_bindOffered hk r.extensions,
          by rw [hasKind_bindOffered, hk], applySection_again h hk hm⟩

/-- A description acts by single changes, whether or not it is stopped. -/
theorem changes_applySections (e : Engine) (s : Negotiated) (d : RemoteDescription) :
    Changes e s (applySections e s d).negotiated :=
  applySections_keeps (.refl s) fun r _ _ hlater => hlater.trans (changes_applySection e _ r)

/-- What every single change keeps, an update keeps, whether or not it succeeds. -/
theorem Engine.update_keeps {P : Engine → Prop} {e : Engine} (he : P e)
    (step : ∀ {s t : Negotiated}, Change e s t →
      P { e with negotiated := s } → P { e with negotiated := t })
    (d : RemoteDescription) : P (e.update d).1 :=
  (changes_applySections e e.negotiated d).keeps (P := fun s => P { e with negotiated := s }) he
    step

end MediaNegotiation
