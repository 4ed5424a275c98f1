import MediaNegotiation.Proofs.Sessions.Programs

/-!
# Sessions do not see each other

Which handles of a program are equal depends on the mode of its configuration. Where sessions have
engines of their own, every new session gets a handle that no other one has, and all handles of the
template are the same one. Where sessions share the template, there is no other handle than that of
the template. With what is known of a single handle this says which descriptions an engine has seen.

Results:
* `Client.Separate.run`, `Client.Shared.run`: who has the same handle, in each of the two modes.
* `Client.Separate.through_template`, `Client.Separate.through_session`,
  `Client.Shared.through_template`: what an engine has seen, in each of the two modes.
* `sessionEngine_of_history`: the engine that a session starts with, in terms of histories.
* `isolation_run`: what every handle stands for, in terms of histories.
-/

namespace MediaNegotiation

/-! ## Who has the same handle -/

/-- What a handle was asked for, where sessions have engines of their own. -/
def Handle.origin : Handle → Origin
  | .template => .template
  | .session _ => .session

namespace Client

/-- Where sessions have engines of their own, handles are what they were asked for, and a handle of
a session is obtained once. -/
structure Separate (c : Client) (asked : List Origin) : Prop where
  copies : c.configuration.settings.shareTemplate = false
  asked : c.handles.map Handle.origin = asked
  known : ∀ index, Handle.session index ∈ c.handles → index < c.configuration.sessions.length
  distinct : c.handles.Pairwise fun earlier later => earlier = .template ∨ earlier ≠ later

/-- Where sessions share the template, all handles are that of the template. -/
structure Shared (c : Client) (asked : List Origin) : Prop where
  shares : c.configuration.settings.shareTemplate = true
  handles : c.handles = List.replicate asked.length .template

theorem length_sessions_update (c : Configuration) (handle : Handle) (d : RemoteDescription) :
    (c.update handle d).1.sessions.length = c.sessions.length := by
  unfold Configuration.update
  split
  · rfl
  · cases handle <;> simp [Configuration.setEngine]

variable {c : Client} {asked : List Origin}

/-- An update changes nobody's handle. -/
theorem handles_update (c : Client) (index : Nat) (d : RemoteDescription) :
    (c.step (.update index d)).handles = c.handles ∧
      (c.step (.update index d)).configuration.settings = c.configuration.settings ∧
      (c.step (.update index d)).configuration.sessions.length =
        c.configuration.sessions.length := by
  unfold step
  dsimp only
  split
  · exact ⟨rfl, c.configuration.settings_update _ d, length_sessions_update c.configuration _ d⟩
  · exact ⟨rfl, rfl, rfl⟩

namespace Separate

theorem acquire (h : c.Separate asked) (origin : Origin) :
    (c.step (.acquire origin)).Separate (asked ++ [origin]) := by
  cases origin with
  | template =>
    refine ⟨h.copies, ?_, ?_, ?_⟩
    · show (c.handles ++ [Handle.template]).map Handle.origin = _
      rw [List.map_append, h.asked]
      rfl
    · intro index hmem
      have hold : Handle.session index ∈ c.handles := by simpa [step] using hmem
      exact h.known index hold
    · show (c.handles ++ [Handle.template]).Pairwise _
      rw [List.pairwise_append]
      refine ⟨h.distinct, List.pairwise_singleton _ _, ?_⟩
      intro earlier _ later hlater
      rw [List.mem_singleton.1 hlater]
      exact Classical.em _
  | session =>
    have hstep : c.step (.acquire .session) =
        { configuration := { c.configuration with
            sessions := c.configuration.sessions ++ [c.configuration.sessionEngine] }
          handles := c.handles ++ [.session c.configuration.sessions.length] } := by
      simp [step, Configuration.openSession, h.copies]
    rw [hstep]
    refine ⟨h.copies, ?_, ?_, ?_⟩
    · show (c.handles ++ [Handle.session c.configuration.sessions.length]).map Handle.origin = _
      rw [List.map_append, h.asked]
      rfl
    · intro index hmem
      show index < (c.configuration.sessions ++ [c.configuration.sessionEngine]).length
      rw [List.length_append, List.length_singleton]
      rcases List.mem_append.1 hmem with hold | hnew
      · have := h.known index hold
        omega
      · have heq : index = c.configuration.sessions.length := by simpa using hnew
        omega
    · rw [List.pairwise_append]
      refine ⟨h.distinct, List.pairwise_singleton _ _, ?_⟩
      intro earlier hearlier later hlater
      -- the handles obtained so far name sessions that are open already
      right
      rintro rfl
      have := h.known _ (List.mem_singleton.1 hlater ▸ hearlier)
      omega

theorem run (h : c.Separate asked) (actions : List ClientAction) :
    (c.run actions).Separate (asked ++ origins actions) := by
  induction actions generalizing c asked with
  | nil => simpa [origins, Client.run] using h
  | cons action rest ih =>
    cases action with
    | acquire origin =>
      have hrest := ih (h.acquire origin)
      rw [List.append_assoc] at hrest
      exact hrest
    | update index d =>
      obtain ⟨hhandles, hsettings, hsessions⟩ := c.handles_update index d
      apply ih (c := c.step (.update index d))
      refine ⟨?_, ?_, ?_, ?_⟩
      · rw [hsettings, h.copies]
      · rw [hhandles, h.asked]
      · rw [hhandles, hsessions]
        exact h.known
      · rw [hhandles]
        exact h.distinct

/-- Two handles of sessions are equal only if they are one. -/
theorem eq_of_session (h : c.Separate asked) {i j index : Nat}
    (hi : c.handles[i]? = some (.session index)) (hj : c.handles[j]? = some (.session index)) :
    i = j := by
  obtain ⟨hilt, hi⟩ := List.getElem?_eq_some_iff.1 hi
  obtain ⟨hjlt, hj⟩ := List.getElem?_eq_some_iff.1 hj
  have hpair := List.pairwise_iff_getElem.1 h.distinct
  rcases Nat.lt_trichotomy i j with hlt | heq | hlt
  · simpa [hi, hj] using hpair i j hilt hjlt hlt
  · exact heq
  · simpa [hi, hj] using hpair j i hjlt hilt hlt

theorem template_iff (h : c.Separate asked) (i : Nat) :
    c.handles[i]? = some .template ↔ asked[i]? = some .template := by
  rw [← h.asked, List.getElem?_map, Option.map_eq_some_iff]
  constructor
  · intro hi
    exact ⟨.template, hi, rfl⟩
  · rintro ⟨handle, hi, horigin⟩
    cases handle with
    | template => exact hi
    | session index => simp [Handle.origin] at horigin

theorem session_of_asked (h : c.Separate asked) {i : Nat} (hi : asked[i]? = some .session) :
    ∃ index, c.handles[i]? = some (.session index) := by
  rw [← h.asked, List.getElem?_map, Option.map_eq_some_iff] at hi
  obtain ⟨handle, hi, horigin⟩ := hi
  cases handle with
  | template => simp [Handle.origin] at horigin
  | session index => exact ⟨index, hi⟩

/-- What the template has seen has gone through a handle that was asked for as the template. -/
theorem through_template (h : c.Separate asked) (uses : List (Nat × RemoteDescription)) :
    through c.handles .template uses =
      (uses.filter fun use => asked[use.1]? = some .template).map Prod.snd := by
  have hsame : (fun use : Nat × RemoteDescription =>
      decide (c.handles[use.1]? = some .template)) =
      fun use => decide (asked[use.1]? = some .template) := by
    funext use
    rw [decide_eq_decide]
    exact h.template_iff use.1
  rw [through, hsame]

/-- What the engine of a session has seen has gone through one handle. -/
theorem through_session (h : c.Separate asked) {i index : Nat}
    (hi : c.handles[i]? = some (.session index)) (uses : List (Nat × RemoteDescription)) :
    through c.handles (.session index) uses = (uses.filter fun use => use.1 = i).map Prod.snd := by
  have hsame : (fun use : Nat × RemoteDescription =>
      decide (c.handles[use.1]? = some (.session index))) = fun use => decide (use.1 = i) := by
    funext use
    rw [decide_eq_decide]
    constructor
    · intro huse
      exact h.eq_of_session huse hi
    · intro huse
      rw [huse, hi]
  rw [through, hsame]

end Separate

namespace Shared

theorem acquire (h : c.Shared asked) (origin : Origin) :
    (c.step (.acquire origin)).Shared (asked ++ [origin]) := by
  have hstep : c.step (.acquire origin) = { c with handles := c.handles ++ [.template] } := by
    cases origin with
    | template => rfl
    | session => simp [step, Configuration.openSession, h.shares]
  rw [hstep]
  refine ⟨h.shares, ?_⟩
  show c.handles ++ [Handle.template] = _
  rw [h.handles, List.length_append, List.length_singleton, List.replicate_succ']

theorem run (h : c.Shared asked) (actions : List ClientAction) :
    (c.run actions).Shared (asked ++ origins actions) := by
  induction actions generalizing c asked with
  | nil => simpa [origins, Client.run] using h
  | cons action rest ih =>
    cases action with
    | acquire origin =>
      have hrest := ih (h.acquire origin)
      rw [List.append_assoc] at hrest
      exact hrest
    | update index d =>
      obtain ⟨hhandles, hsettings, -⟩ := c.handles_update index d
      apply ih (c := c.step (.update index d))
      refine ⟨?_, ?_⟩
      · rw [hsettings, h.shares]
      · rw [hhandles, h.handles]

theorem handle_eq (h : c.Shared asked) {i : Nat} (hi : i < asked.length) :
    c.handles[i]? = some .template := by
  rw [h.handles, List.getElem?_replicate, if_pos hi]

/-- The template has seen all that has gone through any handle. -/
theorem through_template (h : c.Shared asked) {uses : List (Nat × RemoteDescription)}
    (hobtained : ∀ use ∈ uses, use.1 < c.handles.length) :
    through c.handles .template uses = uses.map Prod.snd := by
  have hall : uses.filter (fun use => c.handles[use.1]? = some .template) = uses := by
    rw [List.filter_eq_self]
    intro use huse
    have hlt := hobtained use huse
    rw [h.handles, List.length_replicate] at hlt
    simpa using h.handle_eq hlt
  rw [through, hall]

end Shared

end Client

/-! ## Histories -/

/-- What settings do to a session beyond copying the template, as operations. -/
def Settings.overrides (settings : Settings) : List Command :=
  match settings.multi with
  | some multi => [.setMulti multi]
  | none => []

/-- The operations that apply some descriptions. -/
def updates (uses : List (Nat × RemoteDescription)) : List Command :=
  uses.map fun use => .update use.2

theorem Bench.engine_run_append_updates (b : Bench) (commands : List Command)
    (uses : List (Nat × RemoteDescription)) :
    (b.run (commands ++ updates uses)).engine =
      (b.run commands).engine.updateAll (uses.map Prod.snd) := by
  rw [Bench.run_append, ← Bench.engine_run_updates, List.map_map]
  rfl

/-- A new session starts with the engine that the registrations of the template lead to, in the mode
of the settings if they have one. -/
theorem sessionEngine_of_history (serial : Nat) (history : List Command) (settings : Settings) :
    Configuration.sessionEngine { settings, template := (Bench.run { serial } history).engine } =
      (Bench.run { serial } (withoutUpdates history ++ settings.overrides)).engine := by
  have hcopy :
      (Bench.run { serial } history).copy = Bench.run { serial } (withoutUpdates history) :=
    (Bench.run_copy { serial } history).symm
  have hengine : (Bench.run { serial } history).engine.copy =
      (Bench.run { serial } (withoutUpdates history)).engine :=
    congrArg Bench.engine hcopy
  unfold Configuration.sessionEngine Settings.overrides
  dsimp only
  rw [Bench.run_append, hengine]
  cases settings.multi <;> rfl

/-- **Isolation.** A program configures sessions with a template that any operations have led to,
asks for the template and for sessions, and applies descriptions through its handles, all in any
order. Look at what its handles stand for at any time. If sessions have engines of their own, the
template has come from its own history by the descriptions applied through handles of the template,
every handle of the template stands for it, and the handle of a session stands for the engine that
the registrations in the history of the template lead to, in the mode of the settings if they have
one, by the descriptions applied through this handle, in their order. If sessions share the
template, every handle stands for the engine that the history of the template leads to by all
descriptions in their order. -/
theorem isolation_run (serial : Nat) (history : List Command) (settings : Settings)
    (actions : List ClientAction) :
    let template := (Bench.run { serial } history).engine
    let client := Client.run { configuration := { settings, template } } actions
    let asked := origins actions
    let uses := applied actions
    (settings.shareTemplate = false →
      client.configuration.template =
        (Bench.run { serial }
          (history ++ updates (uses.filter fun use => asked[use.1]? = some .template))).engine ∧
      (∀ i, asked[i]? = some .template → client.engine? i = some client.configuration.template) ∧
      (∀ i, asked[i]? = some .session → client.engine? i =
        some (Bench.run { serial } (withoutUpdates history ++ settings.overrides ++
          updates (uses.filter fun use => use.1 = i))).engine)) ∧
    (settings.shareTemplate = true →
      ∀ i < asked.length, client.engine? i =
        some (Bench.run { serial } (history ++ updates uses)).engine) := by
  intro template client asked uses
  have hnew :
      Client.Tracks { settings, template } { configuration := { settings, template } } [] := by
    refine ⟨rfl, by simp, ?_⟩
    intro handle hhandle
    have htemplate : handle = .template := by simpa using hhandle
    subst htemplate
    rfl
  have htracks : client.Tracks { settings, template } uses := hnew.run actions
  constructor
  · intro hcopies
    have hstart : Client.Separate { configuration := { settings, template } } [] :=
      ⟨hcopies, rfl, by simp, List.Pairwise.nil⟩
    have hseparate : client.Separate asked := hstart.run actions
    refine ⟨?_, ?_, ?_⟩
    · rw [Bench.engine_run_append_updates, htracks.template, hseparate.through_template]
    · intro i hi
      have hhandle : client.handles[i]? = some .template := (hseparate.template_iff i).2 hi
      rw [Client.engine?, hhandle]
      rfl
    · intro i hi
      obtain ⟨index, hhandle⟩ := hseparate.session_of_asked hi
      have hengine := htracks.engine (.session index) (.inr (List.mem_of_getElem? hhandle))
      rw [hseparate.through_session hhandle] at hengine
      rw [Bench.engine_run_append_updates, ← sessionEngine_of_history, Client.engine?, hhandle]
      exact hengine
  · intro hshares i hi
    have hstart : Client.Shared { configuration := { settings, template } } [] := ⟨hshares, rfl⟩
    have hshared : client.Shared asked := hstart.run actions
    rw [Bench.engine_run_append_updates, Client.engine?, hshared.handle_eq hi]
    show some client.configuration.template = _
    rw [htracks.template, hshared.through_template htracks.obtained]

namespace TwoSessions

/-- A video codec under a payload type. -/
def vp8 (payloadType : UInt8) : Codec := ⟨Mime.vp8, 90000, 0, "", [], payloadType, .given ""⟩

/-- A peer that offers the codec. -/
def offer : RemoteDescription := [{ media := "video", codecs := [vp8 35] }]

/-- The first session is opened before the template negotiates, the second one afterwards, and only
the second one negotiates. -/
def actions : List ClientAction :=
  [.acquire .template, .acquire .session, .update 0 offer, .acquire .session, .update 2 offer]

/-- The payload types that each handle has negotiated for video. -/
def negotiated (settings : Settings) : List (Option (List UInt8)) :=
  let template := (Bench.run {} [.registerCodec .video (vp8 96)]).engine
  let client := Client.run { configuration := { settings, template } } actions
  (List.range 3).map fun i =>
    (client.engine? i).map fun e => (e.negotiated.codecsOf .video).map (·.payloadType)

end TwoSessions

example : TwoSessions.negotiated {} = [some [96], some [], some [96]] ∧
    TwoSessions.negotiated { shareTemplate := true } = [some [96], some [96], some [96]] := by
  decide +kernel

end MediaNegotiation
