import MediaNegotiation.Engine.Basic
import MediaNegotiation.Engine.Matching
import MediaNegotiation.Engine.Registration
import MediaNegotiation.Description.Basic

/-!
# Negotiation

How a remote description changes what an engine has negotiated. The sections of a description are
applied in order. The first section of a kind opens that kind; later ones bind further header
extensions and, where the engine allows it, add codecs. A malformed codec stops the description at
once and leaves in place what came before it, while conflicts over payload types are collected and
reported at the end. Definitions cite what they model in the module `media_engine`, by name and
lines.

Results:
* `applySections_append`: applying two runs of sections is applying one after the other, unless the
  first one is stopped.
-/

namespace MediaNegotiation

/-! ## Header extensions -/

/-- Binds a header extension that a section of a kind offers under an id (`update_header_extension`,
lines 637–677). A URI keeps the first id it is bound to and an id keeps its first URI. Extensions
that are not registered are passed over. -/
def bindExtension (known : List HeaderExtension) (kind : MediaKind) (t : BindingTable)
    (uri : String) (id : Int) : BindingTable × List Event :=
  match HeaderExtension.find? known uri with
  | none => (t, [])
  | some registered =>
    match t.binding? uri with
    | some (bound, x) =>
      if bound = id then (if registered.kinds.get kind then t.insert id (x.addKind kind) else t, [])
      else (t, [.uriHeld uri bound id])
    | none =>
      match t[id]? with
      | some holder => (t, [.idHeld id uri holder.uri])
      | none =>
        let kinds := (PerKind.both false).set kind (registered.kinds.get kind)
        (t.insert id { uri, kinds, directions := registered.directions },
          [.extensionBound uri id kind])

/-- Binds the header extensions of a section in order (`update_header_extension_from_media_section`,
lines 680–689). -/
def bindExtensions (known : List HeaderExtension) (kind : MediaKind) (t : BindingTable) :
    List (String × Int) → BindingTable × List Event
  | [] => (t, [])
  | (uri, id) :: rest =>
    let (next, log) := bindExtension known kind t uri id
    let (last, more) := bindExtensions known kind next rest
    (last, log ++ more)

/-- Binds the header extensions of a section, if any extension has been registered at all
(`update_header_extension`, lines 633–636). -/
def bindOffered (known : List HeaderExtension) (kind : MediaKind) (s : Negotiated)
    (offered : List (String × Int)) : Negotiated × List Event :=
  match s.bindings with
  | none => (s, [])
  | some t =>
    let (table, log) := bindExtensions known kind t offered
    ({ s with bindings := some table }, log)

/-! ## Codecs -/

/-- Takes matches over into the negotiated codecs (`push_codecs`, lines 137–151). An entry that
conflicts is left out, and the others are taken over all the same. -/
def commit (codecs : List Codec) : List Match → List Codec × List Error
  | [] => (codecs, [])
  | m :: rest =>
    match addCodec codecs m.entry with
    | .ok extended => commit extended rest
    | .error err =>
      let (last, errors) := commit codecs rest
      (last, err :: errors)

/-! ## Sections -/

/-- What applying media sections gives. -/
structure Outcome where
  negotiated : Negotiated
  /-- The conflicts over payload types, in the order in which they arose. -/
  conflicts : List Error := []
  /-- The malformed number that stopped the description, if one did. -/
  fault : Option NumeralFault := none
  log : List Event := []

namespace Outcome

/-- The same outcome with earlier events in front. -/
def logged (o : Outcome) (log : List Event) : Outcome := { o with log := log ++ o.log }

/-- An outcome followed by another that starts from where it ended. -/
def andThen (o p : Outcome) : Outcome :=
  { p with conflicts := o.conflicts ++ p.conflicts, log := o.log ++ p.log }

/-- The result that the owner of the engine sees (`update_from_remote_description`, lines 728 and
755). -/
def result (o : Outcome) : Except Error Unit :=
  match o.fault with
  | some fault => .error (.numeral fault)
  | none => joinErrors o.conflicts

end Outcome

/-- Matches the codecs of a section of an open kind, takes the best tier over and binds the header
extensions of the section (`update_from_remote_description`, lines 723–752). A section without a
match changes nothing. -/
def takeCodecs (e : Engine) (kind : MediaKind) (s : Negotiated) (r : RemoteSection) : Outcome :=
  let matched := matchCodecs (e.registered.get kind) {} r.codecs
  match matched.fault with
  | some fault => { negotiated := s, fault := some fault, log := matched.log }
  | none =>
    match matched.found.best? with
    | none => { negotiated := s, log := matched.log ++ [.nothingMatched kind] }
    | some (tier, chosen) =>
      let (codecs, conflicts) := commit (s.codecsOf kind) chosen
      let committed := { s with codecs := s.codecs.set kind (some codecs) }
      let (negotiated, log) := bindOffered e.extensions kind committed r.extensions
      { negotiated, conflicts
        log := matched.log ++ .tierTaken chosen.length tier kind :: log }

/-- Applies one media section (`update_from_remote_description`, lines 702–752). -/
def applySection (e : Engine) (s : Negotiated) (r : RemoteSection) : Outcome :=
  match MediaKind.ofText? r.media with
  | none => { negotiated := s, log := [.sectionSkipped r.media] }
  | some kind =>
    if s.hasKind kind then
      let (bound, log) := bindOffered e.extensions kind s r.extensions
      if e.multi then (takeCodecs e kind bound r).logged log
      else { negotiated := bound, log }
    else
      let opened := { s with codecs := s.codecs.set kind (some []) }
      (takeCodecs e kind opened r).logged [.kindNegotiating kind]

/-- Applies media sections in order, up to one with a malformed codec
(`update_from_remote_description`, lines 701–753). -/
def applySections (e : Engine) (s : Negotiated) : List RemoteSection → Outcome
  | [] => { negotiated := s }
  | r :: rest =>
    let o := applySection e s r
    if o.fault.isSome then o else o.andThen (applySections e o.negotiated rest)

namespace Engine

/-- What applying a remote description to an engine gives. -/
def negotiate (e : Engine) (d : RemoteDescription) : Outcome := applySections e e.negotiated d

/-- Applies a remote description to an engine (`update_from_remote_description`, lines 696–756). -/
def update (e : Engine) (d : RemoteDescription) : Engine × Except Error Unit :=
  let o := e.negotiate d
  ({ e with negotiated := o.negotiated }, o.result)

end Engine

/-! ## Laws -/

namespace Outcome

theorem andThen_assoc (o p q : Outcome) : (o.andThen p).andThen q = o.andThen (p.andThen q) := by
  simp [andThen]

end Outcome

/-- Applying two runs of sections is applying one after the other, unless the first one is
stopped. -/
theorem applySections_append (e : Engine) (s : Negotiated) (first second : List RemoteSection) :
    applySections e s (first ++ second) =
      let o := applySections e s first
      if o.fault.isSome then o else o.andThen (applySections e o.negotiated second) := by
  induction first generalizing s with
  | nil => simp [applySections, Outcome.andThen]
  | cons r rest ih =>
    simp only [List.cons_append, applySections]
    by_cases h : (applySection e s r).fault.isSome
    · simp [h]
    · simp only [h, if_false, ih, Bool.false_eq_true]
      by_cases hr : (applySections e (applySection e s r).negotiated rest).fault.isSome
      · simp [hr, Outcome.andThen]
      · simp only [hr, if_false, Bool.false_eq_true]
        rw [← Outcome.andThen_assoc]
        simp [Outcome.andThen, hr]

end MediaNegotiation
