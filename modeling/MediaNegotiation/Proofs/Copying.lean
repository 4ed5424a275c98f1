import MediaNegotiation.Proofs.Extensions.Registry

/-!
# Copies of an engine

A copy keeps what has been registered and drops what has been negotiated. Registration reads nothing
that a copy drops, so each of its operations does the same to the copy as to the engine itself and
has the same result. An update writes nothing that a copy keeps. Taking a copy therefore comes to
the same as never having applied a description. The table of bindings needs a word: an engine opens
it with the first extension that is registered, a copy tells from the registered extensions whether
that has happened.

Results:
* `step_copy`: an operation of registration does the same to a bench and to its copy.
* `copy_update`: an update does nothing to the copy of a bench.
* `run_copy`, `results_copy`: what a sequence of operations does to a copy and reports of it.
* `copy_run`: the copy of an engine is the engine that its history leads to without the updates.
-/

namespace MediaNegotiation

/-! ## Engines -/

theorem HeaderExtension.enable_ne_nil (uri : String) (kind : MediaKind)
    (directions : List Direction) (known : List HeaderExtension) :
    enable uri kind directions known ≠ [] := by
  cases known with
  | nil => simp [enable]
  | cons x rest =>
    rw [enable]
    split <;> simp

namespace Engine

theorem registerCodec_copy (e : Engine) (kind : MediaKind) (c : Codec) (id : StatsId) :
    e.copy.registerCodec kind c id =
      ((e.registerCodec kind c id).1.copy, (e.registerCodec kind c id).2) := by
  have hregistered : e.copy.registered = e.registered := rfl
  unfold registerCodec
  rw [hregistered]
  cases addCodec (e.registered.get kind) { c with statsId := id } <;> rfl

theorem registerCodecs_copy (e : Engine) (serial : Nat) (list : List (MediaKind × Codec)) :
    e.copy.registerCodecs serial list =
      ((e.registerCodecs serial list).1.copy, (e.registerCodecs serial list).2) := by
  induction list generalizing e serial with
  | nil => rfl
  | cons entry rest ih =>
    obtain ⟨kind, c⟩ := entry
    rw [registerCodecs, registerCodecs, registerCodec_copy]
    cases e.registerCodec kind c (.issued serial) with
    | mk next result =>
      cases result with
      | ok => exact ih next (serial + 1)
      | error err => rfl

/-- The copy of an engine with a new extension has an empty table, which is also what registering
the extension with the copy leaves behind. -/
theorem registerExtension_copy (e : Engine) (uri : String) (kind : MediaKind)
    (directions : List Direction) :
    e.copy.registerExtension uri kind directions =
      ((e.registerExtension uri kind directions).1.copy,
        (e.registerExtension uri kind directions).2) := by
  by_cases hall : (allowedDirections directions).all Direction.isOneWay = true
  · have hnonempty := HeaderExtension.enable_ne_nil uri kind (allowedDirections directions)
      e.extensions
    -- the copy of the engine before has an empty table or none, and the extension opens the latter
    have htable : e.copy.negotiated.bindings.getD ∅ = ∅ := by
      unfold copy
      dsimp only
      split <;> rfl
    rw [registerExtension_accepted hall, registerExtension_accepted hall, htable]
    simp [copy, hnonempty]
  · rw [registerExtension_refused hall, registerExtension_refused hall]

end Engine

/-! ## Benches -/

namespace Bench

/-- The bench with a copy of its engine, which draws the same stats ids. -/
def copy (b : Bench) : Bench := { b with engine := b.engine.copy }

variable (b : Bench) {command : Command}

/-- An operation of registration does the same to a bench and to its copy, with the same result. -/
theorem step_copy (hc : command.isUpdate = false) :
    b.copy.step command = ((b.step command).1.copy, (b.step command).2) := by
  cases command with
  | registerCodec kind c => simp only [step, copy, Engine.registerCodec_copy]
  | registerDefaults => simp only [step, copy, Engine.registerDefaults, Engine.registerCodecs_copy]
  | registerExtension uri kind directions => simp only [step, copy, Engine.registerExtension_copy]
  | registerFeedback kind f => rfl
  | setMulti multi => rfl
  | update d => simp [Command.isUpdate] at hc

/-- An update does nothing to the copy of a bench. -/
theorem copy_update (hc : command.isUpdate = true) : (b.step command).1.copy = b.copy := by
  cases command with
  | update d => rfl
  | _ => simp [Command.isUpdate] at hc

end Bench

/-! ## Histories -/

/-- The operations of a sequence that do not apply a description, in their order. -/
def withoutUpdates (commands : List Command) : List Command := commands.filter (!·.isUpdate)

section

variable {command : Command} {rest : List Command}

theorem withoutUpdates_cons (hc : command.isUpdate = false) :
    withoutUpdates (command :: rest) = command :: withoutUpdates rest :=
  List.filter_cons_of_pos (by simp [hc])

theorem withoutUpdates_cons_update (hc : command.isUpdate = true) :
    withoutUpdates (command :: rest) = withoutUpdates rest :=
  List.filter_cons_of_neg (by simp [hc])

end

namespace Bench

/-- A sequence of operations does to the copy of a bench what its registrations do to it. -/
theorem run_copy (b : Bench) (commands : List Command) :
    b.copy.run (withoutUpdates commands) = (b.run commands).copy := by
  induction commands generalizing b with
  | nil => rfl
  | cons command rest ih =>
    rw [run_cons]
    cases hc : command.isUpdate with
    | true => rw [withoutUpdates_cons_update hc, ← ih, b.copy_update hc]
    | false => rw [withoutUpdates_cons hc, run_cons, b.step_copy hc, ← ih]

/-- On the copy of a bench registrations have the results that they have in the midst of updates. -/
theorem results_copy (b : Bench) (commands : List Command) :
    (withoutUpdates commands).zip (b.copy.results (withoutUpdates commands)) =
      (commands.zip (b.results commands)).filter (!·.1.isUpdate) := by
  induction commands generalizing b with
  | nil => rfl
  | cons command rest ih =>
    rw [results, List.zip_cons_cons]
    cases hc : command.isUpdate with
    | true =>
      rw [withoutUpdates_cons_update hc, List.filter_cons_of_neg (by simp [hc]), ← ih,
        b.copy_update hc]
    | false =>
      rw [withoutUpdates_cons hc, List.filter_cons_of_pos (by simp [hc]), ← ih, results,
        List.zip_cons_cons, b.step_copy hc]

end Bench

/-- **Copies.** Take any sequence of operations on a new engine, and the same sequence without its
updates. The copy of the engine that the first one leads to is the engine that the second one leads
to, with the same registered codecs under the same stats ids, the same registered extensions and
mode, no negotiated kind, and a table of bindings, without entries, exactly if the other one has it.
Both draw as many stats ids, and each operation of the second one has the result that it has in the
first. -/
theorem copy_run (serial : Nat) (commands : List Command) :
    (Bench.run { serial } commands).engine.copy =
        (Bench.run { serial } (withoutUpdates commands)).engine ∧
      (Bench.run { serial } commands).serial =
        (Bench.run { serial } (withoutUpdates commands)).serial ∧
      (commands.zip (Bench.results { serial } commands)).filter (!·.1.isUpdate) =
        (withoutUpdates commands).zip (Bench.results { serial } (withoutUpdates commands)) := by
  have hnew : Bench.copy { serial } = { serial } := rfl
  have hrun := Bench.run_copy { serial } commands
  have hresults := Bench.results_copy { serial } commands
  rw [hnew] at hrun hresults
  rw [hrun]
  exact ⟨rfl, rfl, hresults.symm⟩

end MediaNegotiation
