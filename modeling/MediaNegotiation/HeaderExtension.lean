import Std.Data.ExtTreeMap
import MediaNegotiation.Direction
import MediaNegotiation.MediaKind

/-!
# Header extensions

A header extension is named by a URI. It is registered for media kinds and one-way directions, and
negotiation binds it to a number that stands for it in packets. Definitions cite what they model in
the module `media_engine`, by name and lines.

Results:
* `uri_binding?`: the binding found for a URI carries that URI and stands in the table.
* `uri_mem_enable`: enabling an extension registers its URI and keeps all others.
-/

namespace MediaNegotiation

/-- An extension with the kinds it is used for and the directions it is restricted to
(`MediaEngineHeaderExtension`, lines 84–90). -/
structure HeaderExtension where
  uri : String
  kinds : PerKind Bool
  directions : List Direction
  deriving DecidableEq, Repr

/-- The extensions bound by negotiation, each under its id (`NegotiationState`, line 119). -/
abbrev BindingTable := Std.ExtTreeMap Int HeaderExtension

namespace HeaderExtension

/-- Whether an extension is used for a kind on transceivers with one of the wanted directions
(`get_rtp_parameters_by_kind`, lines 783–784). -/
def serves (x : HeaderExtension) (kind : MediaKind) (wanted : List Direction) : Bool :=
  Direction.overlap x.directions wanted && x.kinds.get kind

/-- Adds a kind to the kinds of an extension (`set_kind`, lines 100–105). -/
def addKind (x : HeaderExtension) (kind : MediaKind) : HeaderExtension :=
  { x with kinds := x.kinds.set kind true }

/-- The registered extension of a URI (`update_header_extension`, line 637). -/
def find? (extensions : List HeaderExtension) (uri : String) : Option HeaderExtension :=
  extensions.find? (·.uri == uri)

/-- Registers an extension for a kind (`register_header_extension`, lines 377–394). A URI keeps its
place and its kinds; its directions are replaced. -/
def enable (uri : String) (kind : MediaKind) (directions : List Direction) :
    List HeaderExtension → List HeaderExtension
  | [] => [{ uri, kinds := (PerKind.both false).set kind true, directions }]
  | x :: rest =>
    if x.uri = uri then { x.addKind kind with directions } :: rest
    else x :: enable uri kind directions rest

theorem uri_mem_enable {uri v : String} {kind : MediaKind} {directions : List Direction}
    {extensions : List HeaderExtension} :
    v ∈ (enable uri kind directions extensions).map (·.uri) ↔
      v = uri ∨ v ∈ extensions.map (·.uri) := by
  induction extensions with
  | nil => simp [enable]
  | cons x rest ih =>
    by_cases h : x.uri = uri
    · simp [enable, h, addKind]
    · simp only [enable, h, if_false, List.map_cons, List.mem_cons, ih]
      grind

end HeaderExtension

namespace BindingTable

/-- The binding of a URI with the lowest id (`header_extension_id`, lines 153–159). -/
def binding? (t : BindingTable) (uri : String) : Option (Int × HeaderExtension) :=
  t.toList.find? (·.2.uri == uri)

/-- The URIs and ids of the extensions that serve a kind and direction, by increasing id
(`get_rtp_parameters_by_kind`, lines 782–791). -/
def serving (t : BindingTable) (kind : MediaKind) (wanted : List Direction) :
    List (String × Int) :=
  (t.toList.filter (·.2.serves kind wanted)).map fun b => (b.2.uri, b.1)

theorem uri_binding? {t : BindingTable} {uri : String} {id : Int} {x : HeaderExtension}
    (h : t.binding? uri = some (id, x)) : x.uri = uri ∧ t[id]? = some x := by
  constructor
  · simpa using List.find?_some h
  · exact Std.ExtTreeMap.mem_toList_iff_getElem?_eq_some.1 (List.mem_of_find?_eq_some h)

end BindingTable

end MediaNegotiation
