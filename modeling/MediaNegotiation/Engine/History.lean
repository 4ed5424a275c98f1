import MediaNegotiation.Engine.Defaults
import MediaNegotiation.Engine.Negotiation

/-!
# Histories

The operations on an engine as data, and the engines that a sequence of operations leads to. A bench
keeps the serial number from which the next stats id is drawn, so that no two registered codecs ever
share one. No single definition of the program is modelled here: a history is what the owner of an
engine may do with it.

Results:
* `run_append`: running two sequences is running one after the other.
* `serial_le_run`: serial numbers are never given back.
-/

namespace MediaNegotiation

/-- An operation on an engine. -/
inductive Command
  | registerCodec (kind : MediaKind) (codec : Codec)
  | registerDefaults
  | registerExtension (uri : String) (kind : MediaKind) (directions : List Direction)
  | registerFeedback (kind : MediaKind) (feedback : Feedback)
  | setMulti (multi : Bool)
  | update (description : RemoteDescription)
  deriving DecidableEq, Repr

/-- An engine with the source of stats ids. -/
structure Bench where
  engine : Engine := {}
  /-- The serial number of the next stats id. -/
  serial : Nat := 0
  deriving DecidableEq

namespace Bench

/-- Runs one operation. Registering a codec draws a stats id whether or not the codec is accepted.
The program draws none for the default codecs behind one that is refused, while the serial number
moves past all of them here: the ids passed over name no codec, and later ones stay distinct. -/
def step (b : Bench) : Command → Bench × Except Error Unit
  | .registerCodec kind c =>
    let (engine, result) := b.engine.registerCodec kind c (.issued b.serial)
    ({ engine, serial := b.serial + 1 }, result)
  | .registerDefaults =>
    let (engine, result) := b.engine.registerDefaults b.serial
    ({ engine, serial := b.serial + Defaults.codecs.length }, result)
  | .registerExtension uri kind directions =>
    let (engine, result) := b.engine.registerExtension uri kind directions
    ({ b with engine }, result)
  | .registerFeedback kind f => ({ b with engine := b.engine.registerFeedback kind f }, .ok ())
  | .setMulti multi => ({ b with engine := b.engine.setMulti multi }, .ok ())
  | .update d =>
    let (engine, result) := b.engine.update d
    ({ b with engine }, result)

/-- Runs operations in order; one that fails does not stop those after it. -/
def run (b : Bench) (commands : List Command) : Bench :=
  commands.foldl (fun bench command => (bench.step command).1) b

/-- The results of operations that are run in order. -/
def results (b : Bench) : List Command → List (Except Error Unit)
  | [] => []
  | command :: rest => (b.step command).2 :: (b.step command).1.results rest

theorem run_cons (b : Bench) (command : Command) (rest : List Command) :
    b.run (command :: rest) = (b.step command).1.run rest := rfl

theorem run_append (b : Bench) (first second : List Command) :
    b.run (first ++ second) = (b.run first).run second :=
  List.foldl_append

theorem serial_le_step (b : Bench) (command : Command) : b.serial ≤ (b.step command).1.serial := by
  cases command <;> simp [step]

/-- Serial numbers are never given back. -/
theorem serial_le_run (b : Bench) (commands : List Command) :
    b.serial ≤ (b.run commands).serial := by
  induction commands generalizing b with
  | nil => exact Nat.le_refl _
  | cons command rest ih => exact Nat.le_trans (serial_le_step b command) (ih _)

end Bench

/-- The engines that some sequence of operations leads to. -/
def Engine.Reachable (e : Engine) : Prop :=
  ∃ (serial : Nat) (commands : List Command), (Bench.run { serial } commands).engine = e

end MediaNegotiation
