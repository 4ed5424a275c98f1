import MediaNegotiation.Proofs.Extensions.Permanence

/-!
# The history of registered header extensions

Which header extensions are registered follows from the registrations that were accepted, and these
can be told from their directions. A URI has its place from the first of them, it has the kinds of
all of them, and it has the directions of the last one. A registration that is refused leaves no
trace, and the table of bindings is opened by the first one that is not.

Results:
* `HeaderExtension.enable_of_mem`, `HeaderExtension.enable_of_not_mem`: the two ways of enabling.
* `enable_descriptors`: one more registration extends the closed form.
* `extensions_step`, `extensions_run`: what one operation and what a run of them registers.
* `extensions_of_history`: the registered extensions, and the answer to a further registration.
-/

namespace MediaNegotiation

/-! ## Histories -/

/-- An accepted registration of a header extension, with the directions it restricts it to. -/
structure Enabling where
  uri : String
  kind : MediaKind
  directions : List Direction
  deriving DecidableEq, Repr

/-- The accepted registration that an operation is. Only one-way directions are accepted, and an
empty list stands for both of them. -/
def Command.enabling? : Command → Option Enabling
  | .registerExtension uri kind directions =>
    if ∀ d ∈ directions, d = .recvonly ∨ d = .sendonly then
      some ⟨uri, kind, if directions = [] then [.recvonly, .sendonly] else directions⟩
    else none
  | _ => none

/-- The accepted registrations among operations. -/
def enablings (commands : List Command) : List Enabling := commands.filterMap Command.enabling?

/-- The descriptor of a URI: it has the kinds of all its registrations and the directions of the
last one. -/
def descriptor (history : List Enabling) (uri : String) : HeaderExtension :=
  let own := history.filter (·.uri == uri)
  { uri
    kinds := { audio := own.any (·.kind == .audio), video := own.any (·.kind == .video) }
    directions := (own.getLast?.map (·.directions)).getD [] }

/-- The descriptors of all URIs, in the order of their first registrations. -/
def descriptors (history : List Enabling) : List HeaderExtension :=
  (history.map (·.uri)).eraseDups.map (descriptor history)

/-! ## Enabling an extension -/

namespace HeaderExtension

variable {uri : String} {kind : MediaKind} {directions : List Direction}

/-- An extension that is enabled again keeps its place and its kinds. -/
theorem enable_of_mem {f : String → HeaderExtension} (hf : ∀ v, (f v).uri = v) {uris : List String}
    (hd : uris.Nodup) (hmem : uri ∈ uris) :
    enable uri kind directions (uris.map f) =
      uris.map fun v => if v = uri then { (f v).addKind kind with directions } else f v := by
  induction uris with
  | nil => simp at hmem
  | cons v rest ih =>
    rw [List.nodup_cons] at hd
    rw [List.map_cons, List.map_cons, enable, hf]
    by_cases hv : v = uri
    · subst hv
      -- no other entry has the URI
      have hrest : ∀ w ∈ rest, w ≠ v := fun w hw heq => hd.1 (heq ▸ hw)
      rw [if_pos rfl, if_pos rfl, List.map_congr_left fun w hw => (if_neg (hrest w hw)).symm]
    · have hmem : uri ∈ rest := (List.mem_cons.1 hmem).resolve_left (Ne.symm hv)
      rw [if_neg hv, if_neg hv, ih hd.2 hmem]

/-- An extension that is enabled for the first time is the last one. -/
theorem enable_of_not_mem {known : List HeaderExtension} (hnew : uri ∉ known.map (·.uri)) :
    enable uri kind directions known =
      known ++ [{ uri, kinds := (PerKind.both false).set kind true, directions }] := by
  induction known with
  | nil => rfl
  | cons x rest ih =>
    rw [List.map_cons, List.mem_cons, not_or] at hnew
    rw [enable, if_neg (Ne.symm hnew.1), ih hnew.2, List.cons_append]

end HeaderExtension

/-! ## Descriptors -/

section

variable {history : List Enabling} {x : Enabling} {uri : String}

theorem descriptor_concat_same :
    descriptor (history ++ [x]) x.uri =
      { (descriptor history x.uri).addKind x.kind with directions := x.directions } := by
  unfold descriptor HeaderExtension.addKind
  rw [List.filter_append]
  cases hkind : x.kind <;> simp [hkind, PerKind.set, PerKind.modify]

theorem descriptor_concat_other (h : x.uri ≠ uri) :
    descriptor (history ++ [x]) uri = descriptor history uri := by
  unfold descriptor
  rw [List.filter_append]
  simp [h]

theorem descriptor_of_not_mem (h : uri ∉ history.map (·.uri)) :
    descriptor history uri = { uri, kinds := .both false, directions := [] } := by
  have hnone : history.filter (·.uri == uri) = [] := by
    rw [List.filter_eq_nil_iff]
    intro x hx heq
    exact h (List.mem_map.2 ⟨x, hx, by simpa using heq⟩)
  simp [descriptor, hnone, PerKind.both]

/-- One more accepted registration extends the closed form. -/
theorem enable_descriptors (history : List Enabling) (x : Enabling) :
    HeaderExtension.enable x.uri x.kind x.directions (descriptors history) =
      descriptors (history ++ [x]) := by
  have hother : ∀ v, v ≠ x.uri → descriptor (history ++ [x]) v = descriptor history v :=
    fun v hv => descriptor_concat_other (Ne.symm hv)
  unfold descriptors
  rw [List.map_append, List.map_singleton, eraseDups_concat]
  by_cases hmem : x.uri ∈ history.map (·.uri)
  · rw [if_pos hmem, HeaderExtension.enable_of_mem (fun _ => rfl) (nodup_eraseDups _)
      (List.mem_eraseDups.2 hmem)]
    refine List.map_congr_left fun v _ => ?_
    split
    · rename_i hv
      rw [hv, descriptor_concat_same]
    · rename_i hv
      rw [hother v hv]
  · have hnew : x.uri ∉ (history.map (·.uri)).eraseDups := by rwa [List.mem_eraseDups]
    have huris : ((history.map (·.uri)).eraseDups.map (descriptor history)).map (·.uri) =
        (history.map (·.uri)).eraseDups := by
      rw [List.map_map]
      exact List.map_id _
    rw [if_neg hmem, HeaderExtension.enable_of_not_mem (by rwa [huris]), List.map_append,
      List.map_singleton, descriptor_concat_same, descriptor_of_not_mem hmem]
    congr 1
    refine List.map_congr_left fun v hv => (hother v ?_).symm
    exact fun heq => hnew (heq ▸ hv)

end

/-! ## Operations -/

/-- The directions of an accepted registration are one-way ones. -/
theorem Engine.allowedDirections_all_iff {directions : List Direction} :
    (allowedDirections directions).all Direction.isOneWay = true ↔
      ∀ d ∈ directions, d = .recvonly ∨ d = .sendonly := by
  unfold allowedDirections
  split
  · rename_i hempty
    simp [List.isEmpty_iff.1 hempty, Direction.isOneWay]
  · simp only [List.all_eq_true, Direction.isOneWay_iff]

/-- An accepted registration enables its extension and opens the table of bindings. -/
theorem step_of_enabling {command : Command} {x : Enabling} (h : command.enabling? = some x)
    (b : Bench) :
    command.registersExtension = true ∧
      b.step command =
        ({ b with
            engine := { b.engine with
              extensions :=
                HeaderExtension.enable x.uri x.kind x.directions b.engine.extensions
              negotiated.bindings := some (b.engine.negotiated.bindings.getD ∅) } }, .ok ()) := by
  cases command with
  | registerExtension uri kind directions =>
    refine ⟨rfl, ?_⟩
    rw [Command.enabling?] at h
    split at h
    · rename_i hall
      cases h
      rw [Bench.step, Engine.registerExtension_accepted (Engine.allowedDirections_all_iff.2 hall)]
      simp only [Engine.allowedDirections, List.isEmpty_iff]
    · simp at h
  | _ => simp [Command.enabling?] at h

/-- A refused registration changes nothing. -/
theorem step_of_refused {uri : String} {kind : MediaKind} {directions : List Direction}
    (h : (Command.registerExtension uri kind directions).enabling? = none) (b : Bench) :
    b.step (.registerExtension uri kind directions) = (b, .error .invalidExtensionDirection) := by
  rw [Command.enabling?] at h
  split at h
  · simp at h
  · rename_i hall
    rw [Bench.step, Engine.registerExtension_refused
      fun hone => hall (Engine.allowedDirections_all_iff.1 hone)]

/-- An operation changes the registered extensions if it is an accepted registration of one. -/
theorem extensions_step (b : Bench) (command : Command) :
    (b.step command).1.engine.extensions =
      match command.enabling? with
      | some x => HeaderExtension.enable x.uri x.kind x.directions b.engine.extensions
      | none => b.engine.extensions := by
  cases hx : command.enabling? with
  | some x => rw [(step_of_enabling hx b).2]
  | none =>
    cases command with
    | registerCodec kind c => exact (b.engine.registerCodec_frame kind c (.issued b.serial)).1
    | registerDefaults => exact (b.engine.registerCodecs_frame b.serial Defaults.codecs).1
    | registerExtension uri kind directions => rw [step_of_refused hx]
    | registerFeedback kind f => rfl
    | setMulti multi => rfl
    | update d => rfl

/-- An operation opens the table of bindings if it is an accepted registration. -/
theorem bindings_step_iff_enabling (b : Bench) (command : Command) :
    (b.step command).1.engine.negotiated.bindings = none ↔
      command.enabling? = none ∧ b.engine.negotiated.bindings = none := by
  rw [bindings_step_eq_none_iff]
  refine and_congr_left fun _ => ?_
  cases hx : command.enabling? with
  | some x =>
    obtain ⟨hregisters, hstep⟩ := step_of_enabling hx b
    simp [hregisters, hstep]
  | none =>
    cases command with
    | registerExtension uri kind directions => simp [step_of_refused hx]
    | _ => simp [Command.registersExtension]

/-- The registered extensions after a run, and when there is a table of bindings. -/
theorem extensions_run (serial : Nat) (commands : List Command) :
    (Bench.run { serial } commands).engine.extensions = descriptors (enablings commands) ∧
      ((Bench.run { serial } commands).engine.negotiated.bindings = none ↔
        enablings commands = []) := by
  induction commands using List.reverseRecOn with
  | nil => exact ⟨rfl, by simp [Bench.run, enablings]⟩
  | append_singleton front command ih =>
    obtain ⟨hextensions, hbindings⟩ := ih
    have hrun : Bench.run { serial } (front ++ [command]) =
        ((Bench.run { serial } front).step command).1 := Bench.run_append _ front [command]
    have hhistory : enablings (front ++ [command]) =
        enablings front ++ command.enabling?.toList := by
      cases hx : command.enabling? <;> simp [enablings, hx]
    rw [hrun, extensions_step, bindings_step_iff_enabling, hhistory, hextensions, hbindings]
    cases command.enabling? with
    | none => simp
    | some x => exact ⟨enable_descriptors _ x, by simp⟩

/-- **The history of the header extensions.** After any operations on a new engine the registered
extensions are, in the order of their first accepted registrations, one for each URI with such a
registration, with the kinds of all of them and the directions of the last one. There is a table of
bindings once a registration has been accepted. A further registration is refused exactly when its
directions include one that is not one-way, and then it changes nothing at all. -/
theorem extensions_of_history (serial : Nat) (commands : List Command) :
    let b := Bench.run { serial } commands
    b.engine.extensions = descriptors (enablings commands) ∧
      (b.engine.negotiated.bindings = none ↔ enablings commands = []) ∧
      ∀ (uri : String) (kind : MediaKind) (directions : List Direction),
        let after := b.step (.registerExtension uri kind directions)
        (after.2 = .error .invalidExtensionDirection ↔
          ∃ d ∈ directions, d ≠ .recvonly ∧ d ≠ .sendonly) ∧
        (after.2 = .ok () ∨ after = (b, .error .invalidExtensionDirection)) := by
  intro b
  obtain ⟨hextensions, hbindings⟩ := extensions_run serial commands
  refine ⟨hextensions, hbindings, fun uri kind directions => ?_⟩
  intro after
  have hcondition : (Command.registerExtension uri kind directions).enabling? = none ↔
      ∃ d ∈ directions, d ≠ .recvonly ∧ d ≠ .sendonly := by
    simp [Command.enabling?]
  rw [← hcondition]
  cases hx : (Command.registerExtension uri kind directions).enabling? with
  | some x =>
    have hok : after.2 = .ok () := congrArg Prod.snd (step_of_enabling hx b).2
    simp [hok]
  | none =>
    have hrefused : after = (b, .error .invalidExtensionDirection) := step_of_refused hx b
    simp [hrefused]

/-- A URI keeps the place of its first registration and takes the directions of its last one, while
a refused registration in between counts for neither. -/
example :
    (Bench.run {} [
      .registerExtension "urn:level" .audio [.sendrecv],
      .registerExtension "urn:mid" .audio [.sendonly],
      .registerExtension "urn:level" .audio [],
      .registerExtension "urn:mid" .video [.inactive],
      .registerExtension "urn:mid" .video [.recvonly]]).engine.extensions =
      [⟨"urn:mid", ⟨true, true⟩, [.recvonly]⟩,
        ⟨"urn:level", ⟨true, false⟩, [.recvonly, .sendonly]⟩] := by
  decide +kernel

end MediaNegotiation
