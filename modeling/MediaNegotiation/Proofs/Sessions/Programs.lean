import MediaNegotiation.Proofs.Copying
import MediaNegotiation.Session

/-!
# Programs with several sessions

A program asks a configuration for its template and for sessions, in any order and as often as it
likes, and applies descriptions through the handles that it is given. What a handle stands for is
decided when it is handed out, and from then on it changes with the descriptions that go through
handles equal to it, and with no others. A new session starts from what is registered with the
template, whatever the template has negotiated by then, because a copy does not depend on it.

Results:
* `Engine.copy_updateAll`: updates do not show in a copy.
* `Client.Tracks.acquireTemplate`, `Client.Tracks.acquireSession`, `Client.Tracks.update`: what
  every handle stands for, through a single action.
* `Client.Tracks.run`: what every handle stands for, after any number of actions.
-/

namespace MediaNegotiation

/-! ## Programs -/

/-- What a handle was asked for. -/
inductive Origin
  | template
  | session
  deriving DecidableEq, Repr

/-- An action of a program. Handles are referred to by the order in which they were obtained. -/
inductive ClientAction
  | acquire (origin : Origin)
  | update (index : Nat) (description : RemoteDescription)
  deriving DecidableEq, Repr

/-- A configuration in the hands of a program, with the handles the program has obtained. -/
structure Client where
  configuration : Configuration
  handles : List Handle := []
  deriving DecidableEq

namespace Client

/-- The engine behind a handle that has been obtained. -/
def engine? (c : Client) (index : Nat) : Option Engine :=
  c.handles[index]?.bind c.configuration.engine?

/-- Takes one action. An index under which no handle has been obtained yet changes nothing. -/
def step (c : Client) : ClientAction → Client
  | .acquire .template => { c with handles := c.handles ++ [.template] }
  | .acquire .session =>
    let (configuration, handle) := c.configuration.openSession
    { configuration, handles := c.handles ++ [handle] }
  | .update index d =>
    match c.handles[index]? with
    | some handle => { c with configuration := (c.configuration.update handle d).1 }
    | none => c

/-- Takes actions in order. -/
def run (c : Client) (actions : List ClientAction) : Client := actions.foldl step c

end Client

/-- What the handles that actions obtain were asked for, in order. -/
def origins (actions : List ClientAction) : List Origin :=
  actions.filterMap fun
    | .acquire origin => some origin
    | .update _ _ => none

/-- The descriptions that actions apply, each with the index of the handle it goes through, for a
program that has obtained a number of handles before. -/
def appliedFrom (count : Nat) : List ClientAction → List (Nat × RemoteDescription)
  | [] => []
  | .acquire _ :: rest => appliedFrom (count + 1) rest
  | .update index d :: rest =>
    if index < count then (index, d) :: appliedFrom count rest else appliedFrom count rest

/-- The descriptions that actions apply from the beginning, each with the index of its handle. -/
def applied (actions : List ClientAction) : List (Nat × RemoteDescription) := appliedFrom 0 actions

/-! ## Updates in a row -/

/-- Applies descriptions in order. -/
def Engine.updateAll (e : Engine) (descriptions : List RemoteDescription) : Engine :=
  descriptions.foldl (fun now d => (now.update d).1) e

theorem Engine.updateAll_concat (e : Engine) (descriptions : List RemoteDescription)
    (d : RemoteDescription) :
    e.updateAll (descriptions ++ [d]) = ((e.updateAll descriptions).update d).1 := by
  simp [updateAll]

/-- Updates do not show in a copy. -/
theorem Engine.copy_updateAll (e : Engine) (descriptions : List RemoteDescription) :
    (e.updateAll descriptions).copy = e.copy := by
  induction descriptions generalizing e with
  | nil => rfl
  | cons d rest ih =>
    have hfirst : (e.update d).1.copy = e.copy := rfl
    exact (ih (e.update d).1).trans hfirst

theorem Bench.engine_run_updates (b : Bench) (descriptions : List RemoteDescription) :
    (b.run (descriptions.map .update)).engine = b.engine.updateAll descriptions := by
  induction descriptions generalizing b with
  | nil => rfl
  | cons d rest ih => exact ih (b.step (.update d)).1

/-! ## What stands behind a handle -/

/-- The engine that a handle stands for when it is new: the template or the start of a session. -/
def Configuration.startOf (start : Configuration) : Handle → Engine
  | .template => start.template
  | .session _ => start.sessionEngine

/-- The descriptions that have gone through handles equal to a given one. -/
def through (handles : List Handle) (handle : Handle) (done : List (Nat × RemoteDescription)) :
    List RemoteDescription :=
  (done.filter fun use => handles[use.1]? = some handle).map Prod.snd

section

variable {handles : List Handle} {handle : Handle} {done : List (Nat × RemoteDescription)}

/-- A further handle does not change what has gone through the others. -/
theorem through_handles_concat (hdone : ∀ use ∈ done, use.1 < handles.length) (added : Handle) :
    through (handles ++ [added]) handle done = through handles handle done := by
  have hsame : ∀ use ∈ done, decide ((handles ++ [added])[use.1]? = some handle) =
      decide (handles[use.1]? = some handle) := by
    intro use huse
    rw [List.getElem?_append_left (hdone use huse)]
  unfold through
  rw [List.filter_congr hsame]

/-- Nothing has gone through a handle that has not been obtained. -/
theorem through_of_not_mem (h : handle ∉ handles) : through handles handle done = [] := by
  have hnone : done.filter (fun use => handles[use.1]? = some handle) = [] := by
    rw [List.filter_eq_nil_iff]
    intro use _ huse
    exact h (List.mem_of_getElem? (of_decide_eq_true huse))
  unfold through
  rw [hnone, List.map_nil]

theorem through_concat_same {index : Nat} (h : handles[index]? = some handle)
    (d : RemoteDescription) :
    through handles handle (done ++ [(index, d)]) = through handles handle done ++ [d] := by
  unfold through
  rw [List.filter_append, List.map_append, List.filter_cons_of_pos (by simpa using h)]
  rfl

theorem through_concat_other {index : Nat} (h : handles[index]? ≠ some handle)
    (d : RemoteDescription) :
    through handles handle (done ++ [(index, d)]) = through handles handle done := by
  unfold through
  rw [List.filter_append, List.filter_cons_of_neg (by simpa using h), List.filter_nil,
    List.append_nil]

end

namespace Configuration

theorem settings_update (c : Configuration) (handle : Handle) (d : RemoteDescription) :
    (c.update handle d).1.settings = c.settings := by
  unfold update
  split
  · rfl
  · cases handle <;> rfl

/-- Opening a session leaves the engines behind all handles alone. -/
theorem engine?_openSession {c : Configuration} {handle : Handle} {e : Engine}
    (h : c.engine? handle = some e) : c.openSession.1.engine? handle = some e := by
  unfold openSession
  split
  · exact h
  · cases handle with
    | template => exact h
    | session index =>
      have hlt : index < c.sessions.length := (List.getElem?_eq_some_iff.1 h).1
      show (c.sessions ++ [c.sessionEngine])[index]? = some e
      rw [List.getElem?_append_left hlt]
      exact h

end Configuration

namespace Client

/-- A program that has applied some descriptions since it started: the template and every handle it
has obtained stand for the engine they started with, after the descriptions that have gone through
handles equal to them. -/
structure Tracks (start : Configuration) (c : Client) (done : List (Nat × RemoteDescription)) :
    Prop where
  settings : c.configuration.settings = start.settings
  obtained : ∀ use ∈ done, use.1 < c.handles.length
  engine : ∀ handle, handle = .template ∨ handle ∈ c.handles →
    c.configuration.engine? handle =
      some ((start.startOf handle).updateAll (through c.handles handle done))

namespace Tracks

variable {start : Configuration} {c : Client} {done : List (Nat × RemoteDescription)}

theorem template (h : c.Tracks start done) :
    c.configuration.template = start.template.updateAll (through c.handles .template done) :=
  Option.some.inj (h.engine .template (.inl rfl))

/-- A new session starts with the same engine whatever has been applied before. -/
theorem sessionEngine (h : c.Tracks start done) :
    c.configuration.sessionEngine = start.sessionEngine := by
  have hcopy : c.configuration.template.copy = start.template.copy := by
    rw [h.template]
    exact start.template.copy_updateAll _
  unfold Configuration.sessionEngine
  rw [h.settings, hcopy]

/-- A handle for which there is no engine has not been obtained. -/
theorem not_mem (h : c.Tracks start done) {handle : Handle}
    (hnone : c.configuration.engine? handle = none) : handle ∉ c.handles := by
  intro hmem
  have hsome := h.engine handle (.inr hmem)
  rw [hnone] at hsome
  exact absurd hsome (by simp)

theorem obtained_concat (h : c.Tracks start done) (added : Handle) :
    ∀ use ∈ done, use.1 < (c.handles ++ [added]).length := by
  intro use huse
  have hlt : use.1 < c.handles.length := h.obtained use huse
  rw [List.length_append, List.length_singleton]
  omega

/-- A further handle of the template. -/
theorem acquireTemplate (h : c.Tracks start done) :
    Tracks start { c with handles := c.handles ++ [.template] } done where
  settings := h.settings
  obtained := h.obtained_concat .template
  engine := by
    intro handle hhandle
    have hold : handle = .template ∨ handle ∈ c.handles := by
      simpa [or_comm, or_assoc] using hhandle
    show c.configuration.engine? handle = _
    rw [h.engine handle hold, through_handles_concat h.obtained]

/-- The handle of a new session stands for an engine to which nothing has been applied, unless it is
one more handle of the template. -/
theorem acquireSession (h : c.Tracks start done) :
    (c.step (.acquire .session)).Tracks start done := by
  cases hshare : c.configuration.settings.shareTemplate with
  | true =>
    have hopen : c.configuration.openSession = (c.configuration, .template) := by
      simp [Configuration.openSession, hshare]
    have hstep : c.step (.acquire .session) = { c with handles := c.handles ++ [.template] } := by
      simp [step, hopen]
    rw [hstep]
    exact h.acquireTemplate
  | false =>
    have hlast : c.configuration.openSession.2 = .session c.configuration.sessions.length := by
      simp [Configuration.openSession, hshare]
    have hnew : c.configuration.openSession.2 ∉ c.handles := by
      apply h.not_mem
      rw [hlast]
      exact List.getElem?_eq_none (Nat.le_refl _)
    have hstart : c.configuration.openSession.1.engine? c.configuration.openSession.2 =
        some start.sessionEngine := by
      rw [← h.sessionEngine]
      simp [Configuration.openSession, Configuration.engine?, hshare]
    refine ⟨?_, h.obtained_concat _, ?_⟩
    · show c.configuration.openSession.1.settings = _
      rw [← h.settings]
      simp [Configuration.openSession, hshare]
    · intro handle hhandle
      show c.configuration.openSession.1.engine? handle =
        some ((start.startOf handle).updateAll
          (through (c.handles ++ [c.configuration.openSession.2]) handle done))
      rw [through_handles_concat h.obtained]
      by_cases heq : handle = c.configuration.openSession.2
      · rw [heq, through_of_not_mem hnew, hstart, hlast]
        rfl
      · have hold : handle = .template ∨ handle ∈ c.handles := by
          rcases hhandle with htemplate | hmem
          · exact .inl htemplate
          · rcases List.mem_append.1 hmem with hmem | hlast
            · exact .inr hmem
            · exact absurd (List.mem_singleton.1 hlast) heq
        exact Configuration.engine?_openSession (h.engine handle hold)

/-- A description goes to the engine behind its handle, and to every handle equal to it. -/
theorem update (h : c.Tracks start done) {index : Nat} {handle : Handle}
    (hindex : c.handles[index]? = some handle) (d : RemoteDescription) :
    (c.step (.update index d)).Tracks start (done ++ [(index, d)]) := by
  have hstep : c.step (.update index d) =
      { c with configuration := (c.configuration.update handle d).1 } := by
    simp [step, hindex]
  rw [hstep]
  refine ⟨?_, ?_, ?_⟩
  · exact (c.configuration.settings_update handle d).trans h.settings
  · intro use huse
    rcases List.mem_append.1 huse with hold | hnew
    · exact h.obtained use hold
    · rw [List.mem_singleton.1 hnew]
      exact (List.getElem?_eq_some_iff.1 hindex).1
  · intro other hother
    have hengine := h.engine other hother
    by_cases heq : handle = other
    · subst heq
      rw [through_concat_same hindex, Engine.updateAll_concat]
      exact Configuration.engine?_update_same d hengine
    · have hne : c.handles[index]? ≠ some other := by
        rw [hindex]
        exact fun hsome => heq (Option.some.inj hsome)
      rw [through_concat_other hne]
      exact (Configuration.engine?_update_other d heq).trans hengine

/-- The engine behind every handle, after any number of actions. -/
theorem run (h : c.Tracks start done) (actions : List ClientAction) :
    (c.run actions).Tracks start (done ++ appliedFrom c.handles.length actions) := by
  induction actions generalizing c done with
  | nil =>
    rw [appliedFrom, List.append_nil]
    exact h
  | cons action rest ih =>
    cases action with
    | acquire origin =>
      have hnext : (c.step (.acquire origin)).Tracks start done := by
        cases origin with
        | template => exact h.acquireTemplate
        | session => exact h.acquireSession
      have hlength : (c.step (.acquire origin)).handles.length = c.handles.length + 1 := by
        cases origin <;> simp [step]
      rw [appliedFrom, ← hlength]
      exact ih hnext
    | update index d =>
      rw [appliedFrom]
      cases hindex : c.handles[index]? with
      | some handle =>
        have hlt : index < c.handles.length := (List.getElem?_eq_some_iff.1 hindex).1
        have hlength : (c.step (.update index d)).handles.length = c.handles.length := by
          simp [step, hindex]
        have hrest := ih (h.update hindex d)
        rw [if_pos hlt, ← hlength, List.append_cons]
        exact hrest
      | none =>
        have hge : ¬ index < c.handles.length := by
          have := List.getElem?_eq_none_iff.1 hindex
          omega
        have hstep : c.step (.update index d) = c := by simp [step, hindex]
        have hrest := ih h
        rw [if_neg hge]
        show ((c.step (.update index d)).run rest).Tracks start _
        rw [hstep]
        exact hrest

end Tracks

end Client

end MediaNegotiation
