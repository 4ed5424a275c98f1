import MediaNegotiation.Engine.Negotiation

/-!
# Sessions

A configured engine serves as the template of sessions. Each session negotiates on an engine of its
own, a copy of the template with nothing negotiated, unless the settings say that all sessions share
the template itself. Definitions cite what they model by name and lines, in the module `api` unless
another one is named; handles stand for the shared pointers to engines that it gives out.

Results:
* `engine?_update_same`, `engine?_update_other`: an update is seen through its handle and through no
  handle of another engine.
-/

namespace MediaNegotiation

/-- Settings that hold for all sessions of a configuration (`SettingEngine` of `setting_engine`,
lines 8–11). -/
structure Settings where
  /-- Whether sessions negotiate on the template itself. -/
  shareTemplate : Bool := false
  /-- The mode of negotiation of every copy, where it is to differ from that of the template. -/
  multi : Option Bool := none
  deriving DecidableEq, Repr

/-- A configuration with the engines of the sessions opened so far (`API`, lines 15–18). -/
structure Configuration where
  settings : Settings := {}
  template : Engine := {}
  sessions : List Engine := []
  deriving DecidableEq

/-- Names the engine of a session, or the template. -/
inductive Handle
  | template
  | session (index : Nat)
  deriving DecidableEq, Repr

namespace Configuration

/-- The engine with which a session starts (`new_media_engine`, lines 32–36). -/
def sessionEngine (c : Configuration) : Engine :=
  match c.settings.multi with
  | some multi => { c.template.copy with multi }
  | none => c.template.copy

/-- Opens a session and gives the handle of its engine (`new_media_engine`, lines 26–37). -/
def openSession (c : Configuration) : Configuration × Handle :=
  if c.settings.shareTemplate then (c, .template)
  else
    ({ c with sessions := c.sessions ++ [c.sessionEngine] }, .session c.sessions.length)

/-- What opening a session reports (`new_media_engine`, line 28). -/
def openingLog (c : Configuration) : List Event :=
  if c.settings.shareTemplate then [.templateShared] else []

/-- The engine behind a handle. -/
def engine? (c : Configuration) : Handle → Option Engine
  | .template => some c.template
  | .session index => c.sessions[index]?

/-- Replaces the engine behind a handle. -/
def setEngine (c : Configuration) (e : Engine) : Handle → Configuration
  | .template => { c with template := e }
  | .session index => { c with sessions := c.sessions.set index e }

/-- Applies a remote description to the engine behind a handle. A handle that names no engine
changes nothing. -/
def update (c : Configuration) (h : Handle) (d : RemoteDescription) :
    Configuration × Except Error Unit :=
  match c.engine? h with
  | none => (c, .ok ())
  | some e =>
    let (next, result) := e.update d
    (c.setEngine next h, result)

/-! ## Laws -/

theorem engine?_update_same {c : Configuration} {h : Handle} {e : Engine} (d : RemoteDescription)
    (he : c.engine? h = some e) : (c.update h d).1.engine? h = some (e.update d).1 := by
  unfold update
  rw [he]
  cases h with
  | template => rfl
  | session index =>
    have hlt : index < c.sessions.length := (List.getElem?_eq_some_iff.1 he).1
    simp [setEngine, engine?, hlt]

theorem engine?_update_other {c : Configuration} {h k : Handle} (d : RemoteDescription)
    (hne : h ≠ k) : (c.update h d).1.engine? k = c.engine? k := by
  unfold update
  split
  · rfl
  · cases h with
    | template =>
      cases k with
      | template => exact absurd rfl hne
      | session j => rfl
    | session i =>
      cases k with
      | template => rfl
      | session j =>
        have : i ≠ j := fun e => hne (by rw [e])
        simp [setEngine, engine?, this]

end Configuration

end MediaNegotiation
