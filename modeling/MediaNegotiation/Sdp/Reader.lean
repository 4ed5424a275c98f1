import MediaNegotiation.Sdp.Fault
import MediaNegotiation.Sdp.Lines
import MediaNegotiation.Sdp.Session
import MediaNegotiation.Url.Reader

/-!
# Reading session descriptions

The lines of a session description come in a fixed order: version, origin and name, then optional
lines, the times, session attributes, and the media sections. A stage says which types may follow.
The value of every line is checked, but only media sections and their attributes are kept. The
stages and checks are those of the package `sdp`.
-/

namespace MediaNegotiation.Sdp

/-! ## Stages -/

/-- What has been read last, as far as it decides what may follow. -/
inductive Stage
  | start
  | version
  | origin
  | name
  | bandwidth
  | email
  | information
  | phone
  | time
  | uri
  | attributes
  | zones
  | media
  deriving DecidableEq, Repr

namespace Stage

/-- The line types that may follow, each with the stage it leads to. -/
def follows : Stage → List (Char × Stage)
  | .start => [('v', .version)]
  | .version => [('o', .origin)]
  | .origin => [('s', .name)]
  | .name =>
    [('i', .information), ('u', .uri), ('e', .email), ('p', .phone), ('c', .bandwidth),
      ('b', .bandwidth), ('t', .time)]
  | .bandwidth => [('b', .bandwidth), ('t', .time)]
  | .email => [('p', .phone), ('c', .bandwidth), ('b', .bandwidth), ('t', .time)]
  | .information =>
    [('u', .uri), ('e', .email), ('p', .phone), ('c', .bandwidth), ('b', .bandwidth), ('t', .time)]
  | .phone => [('c', .bandwidth), ('b', .bandwidth), ('t', .time)]
  | .time =>
    [('z', .zones), ('k', .attributes), ('a', .attributes), ('r', .time), ('t', .time),
      ('m', .media)]
  | .uri => [('e', .email), ('p', .phone), ('c', .bandwidth), ('b', .bandwidth), ('t', .time)]
  | .attributes => [('a', .attributes), ('m', .media)]
  | .zones => [('a', .attributes), ('k', .attributes), ('m', .media)]
  | .media =>
    [('a', .media), ('k', .media), ('b', .media), ('c', .media), ('i', .media), ('m', .media)]

/-- Whether a description may end here. -/
def mayEnd : Stage → Bool
  | .time | .attributes | .zones | .media => true
  | _ => false

end Stage

/-! ## Values -/

/-- A line that is cited with its type and between backquotes. -/
def citedLine (type : String) (value : List Char) : Fault :=
  .malformed ("`" ++ type ++ "=" ++ String.ofList value ++ "`")

/-- Checks that a field is one of the allowed words. -/
def checkWord (allowed : List String) (field : List Char) : Except Fault Unit :=
  if allowed.contains (String.ofList field) then .ok ()
  else .error (.invalidValue (String.ofList field))

/-- Checks that a field is a number up to a limit. -/
def checkNatural (limit : Nat) (field : List Char) : Except Fault Unit :=
  match Numeral.readNatural limit field with
  | .ok _ => .ok ()
  | .error fault => .error (.numeral fault)

/-- Checks that a field is a signed number up to a limit. -/
def checkInteger (limit : Nat) (field : List Char) : Except Fault Unit :=
  match Numeral.readInteger limit field with
  | .ok _ => .ok ()
  | .error fault => .error (.numeral fault)

/-- Checks that a field is a number of 64 bits without a sign. -/
def checkNatural64 (field : List Char) : Except Fault Unit := checkNatural Numeral.maxNat64 field

/-- The unit a time may end with, in seconds. -/
def timeUnit? : Char → Option Int
  | 'd' => some 86400
  | 'h' => some 3600
  | 'm' => some 60
  | 's' => some 1
  | _ => none

/-- Checks that a field is a span of time which, in seconds, is a number of 64 bits. -/
def checkTime (field : List Char) : Except Fault Unit :=
  let (digits, unit) := match field.getLast?.bind timeUnit? with
    | some unit => (field.dropLast, unit)
    | none => (field, 1)
  match Numeral.readInteger Numeral.maxInt64 digits with
  | .error fault => .error (.numeral fault)
  | .ok n =>
    let limit := Int.ofNat Numeral.maxInt64
    if -limit - 1 ≤ n * unit ∧ n * unit ≤ limit then .ok ()
    else .error (.invalidValue (String.ofList field))

/-- Checks the net type and the address type of an address. -/
def checkAddress (net address : List Char) : Except Fault Unit := do
  checkWord ["IN"] net
  checkWord ["IP4", "IP6"] address

/-- Checks a version. -/
def checkVersion (value : List Char) : Except Fault Unit :=
  match Numeral.readUInt32 value with
  | .error fault => .error (.numeral fault)
  | .ok n => if n = 0 then .ok () else .error (.malformed (String.ofList value))

/-- Checks an origin. -/
def checkOrigin (value : List Char) : Except Fault Unit :=
  match Text.words value with
  | [_, session, version, net, address, _] => do
    checkNatural64 session
    checkNatural64 version
    checkAddress net address
  | _ => .error (citedLine "o" value)

/-- Checks the connection data. -/
def checkConnection (value : List Char) : Except Fault Unit :=
  match Text.words value with
  | net :: address :: _ => checkAddress net address
  | _ => .error (citedLine "c" value)

/-- Checks a bandwidth. -/
def checkBandwidth (value : List Char) : Except Fault Unit :=
  match value.splitOn ':' with
  | [_, rate] => checkNatural64 rate
  | _ => .error (citedLine "b" value)

/-- Checks the times of a session. -/
def checkTimes (value : List Char) : Except Fault Unit :=
  match Text.words value with
  | start :: stop :: _ => do
    checkNatural64 start
    checkNatural64 stop
  | _ => .error (citedLine "t" value)

/-- Checks the times at which a session repeats. -/
def checkRepeats (value : List Char) : Except Fault Unit :=
  let fields := Text.words value
  if fields.length < 3 then .error (citedLine "r" value) else fields.forM checkTime

/-- Checks pairs of a time and an offset. -/
def checkOffsets : List (List Char) → Except Fault Unit
  | time :: offset :: rest => do
    checkNatural64 time
    checkTime offset
    checkOffsets rest
  | _ => .ok ()

/-- Checks the offsets of time zones. -/
def checkZones (value : List Char) : Except Fault Unit :=
  let fields := Text.words value
  if fields.length % 2 = 1 then .error (citedLine "t" value) else checkOffsets fields

/-- Checks the value of a line that is not kept. -/
def checkValue (type : Char) (value : List Char) : Except Fault Unit :=
  match type with
  | 'v' => checkVersion value
  | 'o' => checkOrigin value
  | 'c' => checkConnection value
  | 'b' => checkBandwidth value
  | 't' => checkTimes value
  | 'r' => checkRepeats value
  | 'z' => checkZones value
  | 'u' =>
    match Url.read value with
    | .ok _ => .ok ()
    | .error fault => .error (.url fault)
  | _ => .ok ()

/-! ## Media sections -/

/-- The names of media. -/
def mediaNames : List String := ["audio", "video", "text", "application", "message", "image"]

/-- The parts that a transport protocol is made of. -/
def protocolParts : List String :=
  ["UDP", "RTP", "AVP", "SAVP", "SAVPF", "TLS", "DTLS", "SCTP", "AVPF", "udptl"]

/-- Checks the number at which media arrives, with the count of such numbers if one is given behind
a slash. -/
def checkTransportNumber (field : List Char) : Except Fault Unit :=
  match field.splitOn '/' with
  | [] => .ok ()
  | [number] => checkNatural 65535 number
  | number :: count :: _ => do
    checkNatural 65535 number
    checkInteger Numeral.maxInt32 count

/-- Checks a transport protocol. -/
def checkProtocol (field : List Char) : Except Fault Unit :=
  if (field.splitOn '/').all fun part => protocolParts.contains (String.ofList part) then .ok ()
  else .error (.invalidValue (String.ofList field))

/-- Reads the line that opens a media section. -/
def readMedia (value : List Char) : Except Fault Media :=
  match Text.words value with
  | name :: number :: protocol :: format :: more => do
    checkWord mediaNames name
    checkTransportNumber number
    checkProtocol protocol
    return { name := String.ofList name, formats := (format :: more).map String.ofList }
  | _ => .error (citedLine "m" value)

/-- Reads the value of an attribute line. -/
def readAttribute (value : List Char) : Attribute :=
  match Text.cutAt ':' value with
  | some (key, value) => { key := String.ofList key, value := some (String.ofList value) }
  | none => { key := String.ofList value }

/-! ## Descriptions -/

/-- What has been read so far; the newest media section comes first. -/
structure Reading where
  stage : Stage := .start
  opened : List Media := []

/-- Adds an attribute to the newest media section. Attributes before the first one are not kept. -/
def addAttribute (a : Attribute) : List Media → List Media
  | [] => []
  | m :: rest => { m with attributes := m.attributes ++ [a] } :: rest

/-- Reads one line. -/
def Reading.step (r : Reading) (line : Line) : Except Fault Reading :=
  let next? := match line.type with
    | [type, '='] => (r.stage.follows.lookup type).map fun stage => (type, stage)
    | _ => none
  match next? with
  | none => .error (.malformed (String.ofList line.type))
  | some ('m', stage) =>
    (readMedia line.value).map fun m => { stage, opened := m :: r.opened }
  | some ('a', stage) =>
    .ok { stage, opened := addAttribute (readAttribute line.value) r.opened }
  | some (type, stage) => (checkValue type line.value).map fun _ => { r with stage }

/-- Reads lines up to the end of the description. -/
def Reading.run (r : Reading) : List Line → Except Fault Session
  | [] => if r.stage.mayEnd then .ok r.opened.reverse else .error (.malformed "")
  | line :: rest =>
    match r.step line with
    | .error fault => .error fault
    | .ok next => next.run rest

/-- Reads the text of a session description. -/
def Session.read (text : String) : Except Fault Session := Reading.run {} (lines text)

end MediaNegotiation.Sdp
