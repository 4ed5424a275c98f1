import MediaNegotiation.Engine.History

/-!
# Invariants of engines

How a property is carried through every history of an engine: it holds of the new engine and each
operation keeps it. Registration comes first, because some properties hold only as long as nothing
has been negotiated.

Results:
* `Engine.run_keeps`: what each operation of a sequence keeps holds after the sequence.
* `Engine.KeptByRegistration.prepared`: what registration keeps holds of every prepared engine.
* `Engine.Kept.run`, `Engine.Kept.reachable`: what every operation keeps holds after any sequence of
  operations.
-/

namespace MediaNegotiation

namespace Engine

/-- A property of engines that every operation of registration keeps. -/
structure KeptByRegistration (P : Engine → Prop) : Prop where
  registerCodec : ∀ {e : Engine} (kind : MediaKind) (c : Codec) (id : StatsId),
    P e → P (e.registerCodec kind c id).1
  registerExtension : ∀ {e : Engine} (uri : String) (kind : MediaKind)
    (directions : List Direction), P e → P (e.registerExtension uri kind directions).1
  registerFeedback : ∀ {e : Engine} (kind : MediaKind) (f : Feedback),
    P e → P (e.registerFeedback kind f)
  setMulti : ∀ {e : Engine} (multi : Bool), P e → P (e.setMulti multi)

/-- A property of engines that every operation keeps. -/
structure Kept (P : Engine → Prop) : Prop extends KeptByRegistration P where
  update : ∀ {e : Engine} (d : RemoteDescription), P e → P (e.update d).1

end Engine

/-- Whether an operation applies a remote description. -/
def Command.isUpdate : Command → Bool
  | .update _ => true
  | _ => false

/-- The engines that registration alone leads to. -/
def Engine.Prepared (e : Engine) : Prop :=
  ∃ (serial : Nat) (commands : List Command),
    (∀ command ∈ commands, command.isUpdate = false) ∧
      (Bench.run { serial } commands).engine = e

namespace Engine

variable {P : Engine → Prop}

/-- Registering several codecs is registering them one by one, up to the first that is refused. -/
theorem registerCodecs_keeps
    (step : ∀ {e : Engine} (kind : MediaKind) (c : Codec) (id : StatsId),
      P e → P (e.registerCodec kind c id).1)
    {e : Engine} (he : P e) (serial : Nat) (list : List (MediaKind × Codec)) :
    P (e.registerCodecs serial list).1 := by
  induction list generalizing e serial with
  | nil => exact he
  | cons entry rest ih =>
    obtain ⟨kind, c⟩ := entry
    have hnext := step kind c (.issued serial) he
    rw [Engine.registerCodecs]
    split
    · rename_i next heq
      rw [heq] at hnext
      exact ih hnext (serial + 1)
    · rename_i next err heq
      rw [heq] at hnext
      exact hnext

/-- What each operation of a sequence keeps holds after the sequence. -/
theorem run_keeps {b : Bench} (hb : P b.engine) {commands : List Command}
    (step : ∀ {now : Bench} {command : Command}, command ∈ commands → P now.engine →
      P (now.step command).1.engine) : P (b.run commands).engine := by
  induction commands generalizing b with
  | nil => exact hb
  | cons command rest ih =>
    exact ih (step List.mem_cons_self hb) fun hmem => step (List.mem_cons_of_mem _ hmem)

/-- Registering a codec touches nothing but the registered codecs. -/
theorem registerCodec_frame (e : Engine) (kind : MediaKind) (c : Codec) (id : StatsId) :
    (e.registerCodec kind c id).1.extensions = e.extensions ∧
      (e.registerCodec kind c id).1.negotiated = e.negotiated := by
  unfold Engine.registerCodec
  split <;> exact ⟨rfl, rfl⟩

/-- Registering several codecs touches nothing but the registered codecs. -/
theorem registerCodecs_frame (e : Engine) (serial : Nat) (list : List (MediaKind × Codec)) :
    (e.registerCodecs serial list).1.extensions = e.extensions ∧
      (e.registerCodecs serial list).1.negotiated = e.negotiated := by
  refine registerCodecs_keeps
    (P := fun now => now.extensions = e.extensions ∧ now.negotiated = e.negotiated) ?_ ⟨rfl, rfl⟩
    serial list
  intro now kind c id hnow
  obtain ⟨hextensions, hnegotiated⟩ := now.registerCodec_frame kind c id
  exact ⟨hextensions.trans hnow.1, hnegotiated.trans hnow.2⟩

/-- Registering a header extension touches no registered codec. -/
theorem registered_registerExtension (e : Engine) (uri : String) (kind : MediaKind)
    (directions : List Direction) :
    (e.registerExtension uri kind directions).1.registered = e.registered := by
  unfold Engine.registerExtension
  dsimp only
  split <;> rfl

theorem KeptByRegistration.step (hP : KeptByRegistration P) {b : Bench} (hb : P b.engine)
    {command : Command} (hc : command.isUpdate = false) : P (b.step command).1.engine := by
  cases command with
  | registerCodec kind c => exact hP.registerCodec kind c _ hb
  | registerDefaults => exact registerCodecs_keeps hP.registerCodec hb b.serial Defaults.codecs
  | registerExtension uri kind directions => exact hP.registerExtension uri kind directions hb
  | registerFeedback kind f => exact hP.registerFeedback kind f hb
  | setMulti multi => exact hP.setMulti multi hb
  | update d => simp [Command.isUpdate] at hc

theorem KeptByRegistration.run (hP : KeptByRegistration P) {b : Bench} (hb : P b.engine)
    {commands : List Command} (hc : ∀ command ∈ commands, command.isUpdate = false) :
    P (b.run commands).engine :=
  run_keeps hb fun hmem hnow => hP.step hnow (hc _ hmem)

/-- What registration keeps holds of every prepared engine. -/
theorem KeptByRegistration.prepared (hP : KeptByRegistration P) (hnew : P {}) {e : Engine}
    (he : e.Prepared) : P e := by
  obtain ⟨serial, commands, hc, rfl⟩ := he
  exact hP.run hnew hc

theorem Kept.step (hP : Kept P) {b : Bench} (hb : P b.engine) (command : Command) :
    P (b.step command).1.engine := by
  by_cases hc : command.isUpdate = false
  · exact hP.toKeptByRegistration.step hb hc
  · cases command with
    | update d => exact hP.update d hb
    | _ => simp [Command.isUpdate] at hc

/-- What every operation keeps holds after any sequence of operations. -/
theorem Kept.run (hP : Kept P) {b : Bench} (hb : P b.engine) (commands : List Command) :
    P (b.run commands).engine :=
  run_keeps hb fun _ hnow => hP.step hnow _

/-- What every operation keeps holds of every reachable engine. -/
theorem Kept.reachable (hP : Kept P) (hnew : P {}) {e : Engine} (he : e.Reachable) : P e := by
  obtain ⟨serial, commands, rfl⟩ := he
  exact hP.run hnew commands

end Engine

end MediaNegotiation
