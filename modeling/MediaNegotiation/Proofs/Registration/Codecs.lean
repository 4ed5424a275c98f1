import MediaNegotiation.Proofs.Negotiation.Commit
import MediaNegotiation.Proofs.Reachability

/-!
# The history of registered codecs

Which codecs are registered for a kind follows from the operations on an engine alone. The first
operation that registers a payload type for the kind adds its codec, and no later one replaces it or
moves it. Feedback reaches the codecs that are there when it is registered, so a codec gathers what
is registered after it. Whether a later codec on the same payload type is accepted depends on the
first one only, since neither feedback nor stats ids count when two codecs are compared.

Results:
* `registerCodec_of_free`, `registerCodec_of_held`: the two ways of a registration.
* `Bench.Recalls.step`, `Bench.Recalls.run`: the codec on a payload type stays the first one that
  was registered on it.
* `Bench.Recalls.registered_step`, `Bench.Recalls.registered_run`: what one operation and what a run
  of them add.
* `registered_of_history`: the registered codecs, and the answer to a further registration.
-/

namespace MediaNegotiation

/-! ## Histories -/

namespace Command

/-- The codec that an operation registers for a kind. -/
def codecFor? (kind : MediaKind) : Command → Option Codec
  | .registerCodec l c => if l = kind then some c else none
  | _ => none

/-- The feedback that an operation registers for a kind. -/
def feedbackFor? (kind : MediaKind) : Command → Option Feedback
  | .registerFeedback l f => if l = kind then some f else none
  | _ => none

/-- Whether an operation registers one codec, for which it draws a stats id. -/
def registersCodec : Command → Bool
  | .registerCodec .. => true
  | _ => false

end Command

/-- The codecs that operations register for a kind, in order, refused ones included. -/
def codecsCalled (kind : MediaKind) (commands : List Command) : List Codec :=
  commands.filterMap (·.codecFor? kind)

/-- The feedback that operations register for a kind, in order. -/
def feedbackCalled (kind : MediaKind) (commands : List Command) : List Feedback :=
  commands.filterMap (·.feedbackFor? kind)

/-- A codec with further feedback behind its own. -/
def Codec.extend (c : Codec) (more : List Feedback) : Codec :=
  { c with feedback := c.feedback ++ more }

/-- The codec that an operation adds to those registered for a kind, where `before` are the
operations that came before it and `after` those that follow it: the codec it registers, unless one
before it has registered the payload type, with the feedback of those that follow. -/
def addition? (kind : MediaKind) (serial : Nat) (before after : List Command) (command : Command) :
    Option Codec :=
  match command.codecFor? kind with
  | none => none
  | some c =>
    if c.payloadType ∈ (codecsCalled kind before).map (·.payloadType) then none
    else
      let statsId := .issued (serial + before.countP Command.registersCodec)
      some ({ c with statsId }.extend (feedbackCalled kind after))

/-- The codecs that operations add one after the other to those registered for a kind, where
`before` are the operations that came before them. -/
def additions (kind : MediaKind) (serial : Nat) (before : List Command) :
    List Command → List Codec
  | [] => []
  | command :: after =>
    (addition? kind serial before after command).toList ++
      additions kind serial (before ++ [command]) after

/-! ## One registration -/

namespace Engine

variable {e : Engine} {kind : MediaKind} {c held : Codec}

/-- A codec on a free payload type is appended. -/
theorem registerCodec_of_free (h : Codec.find? (e.registered.get kind) c.payloadType = none)
    (id : StatsId) :
    e.registerCodec kind c id =
      ({ e with
          registered := e.registered.set kind
            (e.registered.get kind ++ [{ c with statsId := id }]) }, .ok ()) := by
  have hadd := addCodec_of_free (c := { c with statsId := id }) h
  rw [registerCodec, hadd]

/-- A codec on a payload type that is held changes nothing. -/
theorem registerCodec_of_held (h : Codec.find? (e.registered.get kind) c.payloadType = some held)
    (id : StatsId) :
    e.registerCodec kind c id =
      (e, if held.sameCodec c then .ok () else .error .codecConflict) := by
  have hset : e.registered.set kind (e.registered.get kind) = e.registered := by
    cases kind <;> rfl
  have hsame : held.sameCodec { c with statsId := id } = held.sameCodec c := rfl
  rw [registerCodec, addCodec, h]
  dsimp only
  rw [hsame]
  cases held.sameCodec c with
  | true => simp only [if_true, hset]
  | false => simp only [Bool.false_eq_true, if_false]

end Engine

/-! ## The first codec on a payload type -/

namespace Codec

theorem find?_append (front back : List Codec) (payloadType : UInt8) :
    find? (front ++ back) payloadType = (find? front payloadType).or (find? back payloadType) :=
  List.find?_append

theorem find?_isSome_iff {codecs : List Codec} {payloadType : UInt8} :
    (find? codecs payloadType).isSome ↔ payloadType ∈ codecs.map (·.payloadType) := by
  simp [find?]

/-- A codec without its stats id and its feedback. -/
def bare (c : Codec) : Codec := { c with feedback := [], statsId := .given "" }

/-- Up to feedback the same codecs are found among those that feedback was passed on to. -/
theorem find?_map_extend (codecs : List Codec) (more : List Feedback) (payloadType : UInt8) :
    (find? (codecs.map (·.extend more)) payloadType).map bare =
      (find? codecs payloadType).map bare := by
  unfold find?
  rw [List.find?_map, Option.map_map]
  rfl

end Codec

/-! ## What operations add -/

/-- What is added with further operations behind it is what is added without, extended by their
feedback. -/
theorem addition?_eq_map (kind : MediaKind) (serial : Nat) (before after : List Command)
    (command : Command) :
    addition? kind serial before after command =
      (addition? kind serial before [] command).map (·.extend (feedbackCalled kind after)) := by
  unfold addition?
  cases command.codecFor? kind with
  | none => rfl
  | some c =>
    dsimp only
    split
    · rfl
    · simp [Codec.extend, feedbackCalled]

/-- Behind the codecs that were registered before, the codec that an operation adds and the one that
it registers are found alike: if it is not added, an earlier one is found on its payload type. -/
theorem find?_addition (kind : MediaKind) (serial : Nat) (before : List Command) (command : Command)
    (t : UInt8) :
    ((Codec.find? (codecsCalled kind before) t).or
        (Codec.find? (addition? kind serial before [] command).toList t)).map Codec.bare =
      (Codec.find? (codecsCalled kind (before ++ [command])) t).map Codec.bare := by
  have hcalled : codecsCalled kind (before ++ [command]) =
      codecsCalled kind before ++ (command.codecFor? kind).toList := by
    cases hc : command.codecFor? kind <;> simp [codecsCalled, hc]
  rw [hcalled, Codec.find?_append]
  cases hc : command.codecFor? kind with
  | none => simp [addition?, hc]
  | some c =>
    by_cases hold : c.payloadType ∈ (codecsCalled kind before).map (·.payloadType)
    · have hnone : addition? kind serial before [] command = none := by
        simp only [addition?, hc, if_pos hold]
      -- whoever looks for the codec that is not added finds an earlier one
      have hfound : (Codec.find? (codecsCalled kind before) t).or (Codec.find? [c] t) =
          Codec.find? (codecsCalled kind before) t := by
        by_cases ht : c.payloadType = t
        · exact Option.or_of_isSome (Codec.find?_isSome_iff.2 (ht ▸ hold))
        · simp [Codec.find?, ht]
      rw [hnone, Option.toList_none, Option.toList_some, hfound]
      simp [Codec.find?]
    · simp only [addition?, hc, if_neg hold, Option.toList_some, Option.map_or]
      congr 1
      by_cases ht : c.payloadType = t <;> simp [Codec.find?, Codec.extend, Codec.bare, ht]

/-- A bench on which the operations `before` have been run. Up to stats id and feedback the codec
that is found on a payload type is the first one that was registered on it. -/
structure Bench.Recalls (b : Bench) (serial : Nat) (before : List Command) : Prop where
  drawn : b.serial = serial + before.countP Command.registersCodec
  first : ∀ kind payloadType,
    (Codec.find? (b.engine.registered.get kind) payloadType).map Codec.bare =
      (Codec.find? (codecsCalled kind before) payloadType).map Codec.bare

namespace Bench

variable {b : Bench} {serial : Nat} {before after : List Command} {command : Command}

theorem recalls_new (serial : Nat) : Recalls { serial } serial [] where
  drawn := rfl
  first kind payloadType := by cases kind <;> rfl

/-- A payload type is registered when an operation has registered a codec on it. -/
theorem Recalls.mem_payloadTypes (h : b.Recalls serial before) {kind : MediaKind} {t : UInt8} :
    t ∈ (codecsCalled kind before).map (·.payloadType) ↔
      (Codec.find? (b.engine.registered.get kind) t).isSome := by
  have hfirst := congrArg Option.isSome (h.first kind t)
  rw [Option.isSome_map, Option.isSome_map] at hfirst
  rw [hfirst, Codec.find?_isSome_iff]

/-- An operation that registers no codec only passes feedback on. -/
theorem registered_step_other (hcodec : command.registersCodec = false)
    (hdefaults : command ≠ .registerDefaults) (kind : MediaKind) :
    (b.step command).1.engine.registered.get kind =
      (b.engine.registered.get kind).map (·.extend (feedbackCalled kind [command])) := by
  have hsame : ∀ codecs : List Codec, codecs = codecs.map (·.extend []) := by
    intro codecs
    simp [Codec.extend]
  cases command with
  | registerCodec l c => exact absurd hcodec (by simp [Command.registersCodec])
  | registerDefaults => exact absurd rfl hdefaults
  | registerExtension uri l directions =>
    show (b.engine.registerExtension uri l directions).1.registered.get kind = _
    rw [b.engine.registered_registerExtension]
    exact hsame _
  | registerFeedback l f =>
    show (b.engine.registerFeedback l f).registered.get kind = _
    unfold Engine.registerFeedback
    dsimp only
    rw [PerKind.get_modify]
    by_cases hl : kind = l
    · subst hl
      simp [feedbackCalled, Command.feedbackFor?, Codec.extend]
    · simp [feedbackCalled, Command.feedbackFor?, Codec.extend, hl, Ne.symm hl]
  | setMulti multi => exact hsame _
  | update d => exact hsame _

/-- Registering a codec adds it unless its payload type was registered before. -/
theorem Recalls.registered_registerCodec (h : b.Recalls serial before) (l : MediaKind) (c : Codec)
    (kind : MediaKind) :
    (b.step (.registerCodec l c)).1.engine.registered.get kind =
      b.engine.registered.get kind ++
        (addition? kind serial before [] (.registerCodec l c)).toList := by
  show (b.engine.registerCodec l c (.issued b.serial)).1.registered.get kind = _
  have htypes : c.payloadType ∈ (codecsCalled l before).map (·.payloadType) ↔
      (Codec.find? (b.engine.registered.get l) c.payloadType).isSome := h.mem_payloadTypes
  cases hfind : Codec.find? (b.engine.registered.get l) c.payloadType with
  | none =>
    have hnew : c.payloadType ∉ (codecsCalled l before).map (·.payloadType) := by
      simp [htypes, hfind]
    rw [Engine.registerCodec_of_free hfind, PerKind.get_set]
    by_cases hl : kind = l
    · subst hl
      simp [addition?, Command.codecFor?, hnew, ← h.drawn, feedbackCalled, Codec.extend]
    · simp [addition?, Command.codecFor?, hl, Ne.symm hl]
  | some held =>
    have hold : c.payloadType ∈ (codecsCalled l before).map (·.payloadType) := by
      simp [htypes, hfind]
    rw [Engine.registerCodec_of_held hfind]
    by_cases hl : kind = l
    · subst hl
      simp [addition?, Command.codecFor?, hold]
    · simp [addition?, Command.codecFor?, Ne.symm hl]

/-- What one operation does to the registered codecs. -/
theorem Recalls.registered_step (h : b.Recalls serial before)
    (hdefaults : command ≠ .registerDefaults) (kind : MediaKind) :
    (b.step command).1.engine.registered.get kind =
      (b.engine.registered.get kind).map (·.extend (feedbackCalled kind [command])) ++
        (addition? kind serial before [] command).toList := by
  cases hcodec : command.registersCodec with
  | false =>
    have hnone : addition? kind serial before [] command = none := by
      cases command <;> first | rfl | exact absurd hcodec (by simp [Command.registersCodec])
    rw [registered_step_other hcodec hdefaults, hnone, Option.toList_none, List.append_nil]
  | true =>
    cases command with
    | registerCodec l c =>
      rw [h.registered_registerCodec]
      simp [feedbackCalled, Command.feedbackFor?, Codec.extend]
    | _ => simp [Command.registersCodec] at hcodec

/-- An operation that is not the registration of the default codecs is recalled. -/
theorem Recalls.step (h : b.Recalls serial before) (hdefaults : command ≠ .registerDefaults) :
    (b.step command).1.Recalls serial (before ++ [command]) where
  drawn := by
    rw [List.countP_append, ← Nat.add_assoc, ← h.drawn]
    cases command <;> first | rfl | exact absurd rfl hdefaults
  first kind t := by
    rw [h.registered_step hdefaults, Codec.find?_append, Option.map_or, Codec.find?_map_extend,
      h.first, ← Option.map_or, find?_addition]

/-- A run without registrations of the default codecs is recalled. -/
theorem Recalls.run (h : b.Recalls serial before) (hdefaults : .registerDefaults ∉ after) :
    (b.run after).Recalls serial (before ++ after) := by
  induction after generalizing b before with
  | nil =>
    rw [List.append_nil]
    exact h
  | cons command rest ih =>
    rw [List.mem_cons, not_or] at hdefaults
    have hnext := ih (h.step (Ne.symm hdefaults.1)) hdefaults.2
    simpa [Bench.run_cons] using hnext

/-- What a run does to the registered codecs: those that are there gain its feedback, and behind
them stand those that its operations add. -/
theorem Recalls.registered_run (h : b.Recalls serial before) (hdefaults : .registerDefaults ∉ after)
    (kind : MediaKind) :
    (b.run after).engine.registered.get kind =
      (b.engine.registered.get kind).map (·.extend (feedbackCalled kind after)) ++
        additions kind serial before after := by
  induction after generalizing b before with
  | nil => simp [Bench.run, additions, feedbackCalled, Codec.extend]
  | cons command rest ih =>
    rw [List.mem_cons, not_or] at hdefaults
    have hcommand := Ne.symm hdefaults.1
    have hextend : ∀ c : Codec, (c.extend (feedbackCalled kind [command])).extend
        (feedbackCalled kind rest) = c.extend (feedbackCalled kind (command :: rest)) := by
      intro c
      have hsplit : feedbackCalled kind (command :: rest) =
          feedbackCalled kind [command] ++ feedbackCalled kind rest :=
        List.filterMap_append (l := [command])
      simp [Codec.extend, hsplit]
    rw [Bench.run_cons, ih (h.step hcommand) hdefaults.2, h.registered_step hcommand,
      List.map_append, List.map_map, additions, addition?_eq_map kind serial before rest command,
      List.append_assoc]
    congr 2
    · funext c
      exact hextend c
    · cases addition? kind serial before [] command <;> rfl

/-- What a codec meets on its payload type. -/
theorem Recalls.first_of_find? (h : b.Recalls serial before) {kind : MediaKind} {t : UInt8}
    {held : Codec} (hheld : Codec.find? (b.engine.registered.get kind) t = some held) :
    ∃ first, Codec.find? (codecsCalled kind before) t = some first ∧
      ∀ c, first.sameCodec c = held.sameCodec c := by
  have hfirst := h.first kind t
  rw [hheld, Option.map_some, eq_comm, Option.map_eq_some_iff] at hfirst
  obtain ⟨first, hfind, hbare⟩ := hfirst
  refine ⟨first, hfind, fun c => ?_⟩
  show first.bare.sameCodec c = held.bare.sameCodec c
  rw [hbare]

end Bench

/-- **The history of the codecs.** After any operations on a new engine that do not register the
default codecs, the codecs that are registered for a kind are, in order, those that the operations
add: each operation the codec that it registers for the kind, unless one before it has registered
its payload type, with the feedback that those behind it register for the kind. A further codec is
refused exactly when the first one that was registered on its payload type is not the same codec,
and whether it is refused then or not, it changes nothing. -/
theorem registered_of_history (serial : Nat) {commands : List Command}
    (hdefaults : .registerDefaults ∉ commands) (kind : MediaKind) :
    let b := Bench.run { serial } commands
    b.engine.registered.get kind = additions kind serial [] commands ∧
      ∀ c : Codec,
        let first? := Codec.find? (codecsCalled kind commands) c.payloadType
        let after := b.step (.registerCodec kind c)
        (after.2 = .error .codecConflict ↔
          ∃ first, first? = some first ∧ first.sameCodec c = false) ∧
        (after.2 = .ok () ∨ after.2 = .error .codecConflict) ∧
        (first?.isSome → after.1.engine = b.engine) := by
  intro b
  have hrecalls : b.Recalls serial commands := (Bench.recalls_new serial).run hdefaults
  refine ⟨?_, fun c => ?_⟩
  · have hrun := (Bench.recalls_new serial).registered_run hdefaults kind
    have hempty : ({} : Engine).registered.get kind = [] := by
      cases kind <;> rfl
    rw [hempty, List.map_nil, List.nil_append] at hrun
    exact hrun
  · intro first? after
    have hafter : (after.1.engine, after.2) =
        b.engine.registerCodec kind c (.issued b.serial) := rfl
    cases hfind : Codec.find? (b.engine.registered.get kind) c.payloadType with
    | none =>
      have hnone : first? = none := by
        simpa [hfind] using (hrecalls.first kind c.payloadType).symm
      rw [Engine.registerCodec_of_free hfind, Prod.mk.injEq] at hafter
      simp [hafter.2, hnone]
    | some held =>
      obtain ⟨first, hfirst, hsame⟩ := hrecalls.first_of_find? hfind
      have hsome : first? = some first := hfirst
      rw [Engine.registerCodec_of_held hfind, Prod.mk.injEq, ← hsame] at hafter
      rw [hafter.1, hafter.2, hsome]
      cases hc : first.sameCodec c <;> simp [hc]

namespace Recorded

/-- A VP8 codec is registered between two mechanisms of feedback. After it its payload type is
registered for the same codec under another spelling and without a rate, and for H.264. -/
def commands : List Command := [
  .registerFeedback .video ⟨"nack", ""⟩,
  .registerCodec .video ⟨Mime.vp8, 90000, 0, "", [⟨"goog-remb", ""⟩], 96, .given ""⟩,
  .registerFeedback .video ⟨"nack", "pli"⟩,
  .registerCodec .audio ⟨Mime.opus, 48000, 2, "", [], 96, .given ""⟩,
  .registerCodec .video ⟨"VIDEO/vp8", 0, 1, "max-fr=30", [], 96, .given ""⟩,
  .registerCodec .video ⟨Mime.h264, 90000, 0, "", [], 96, .given ""⟩,
  .registerExtension "urn:mid" .video [],
  .update [{ media := "video", codecs := [⟨Mime.vp8, 90000, 0, "", [], 100, .given ""⟩] }],
  .registerCodec .video ⟨Mime.vp9, 90000, 0, "profile-id=0", [], 98, .given ""⟩,
  .registerFeedback .video ⟨"ccm", "fir"⟩]

end Recorded

/-- The entry of VP8 is neither replaced nor moved, and a codec on its payload type that is the same
as a later one only is refused. -/
theorem registered_of_history_of_duplicates :
    .registerDefaults ∉ Recorded.commands ∧
      (Bench.run {} Recorded.commands).engine.registered.get .video = [
        ⟨Mime.vp8, 90000, 0, "", [⟨"goog-remb", ""⟩, ⟨"nack", "pli"⟩, ⟨"ccm", "fir"⟩], 96,
          .issued 0⟩,
        ⟨Mime.vp9, 90000, 0, "profile-id=0", [⟨"ccm", "fir"⟩], 98, .issued 4⟩] ∧
      ((Bench.run {} Recorded.commands).step
        (.registerCodec .video ⟨Mime.vp8, 8000, 0, "", [], 96, .given ""⟩)).2 =
          .error .codecConflict := by
  have hdefaults : .registerDefaults ∉ Recorded.commands := by decide +kernel
  obtain ⟨hlist, hresult⟩ := registered_of_history 0 hdefaults .video
  refine ⟨hdefaults, hlist.trans (by decide +kernel), (hresult _).1.2 ⟨_, rfl, ?_⟩⟩
  decide +kernel

end MediaNegotiation
