import MediaNegotiation.Codec
import MediaNegotiation.Description.Basic
import MediaNegotiation.Description.OfSession
import MediaNegotiation.Direction
import MediaNegotiation.Domain.Composition
import MediaNegotiation.Domain.CompositionTable
import MediaNegotiation.Domain.Label
import MediaNegotiation.Domain.LabelTable
import MediaNegotiation.Domain.Mapping
import MediaNegotiation.Domain.MappingTable
import MediaNegotiation.Domain.Name
import MediaNegotiation.Domain.Punycode
import MediaNegotiation.Engine.Basic
import MediaNegotiation.Engine.Defaults
import MediaNegotiation.Engine.Event
import MediaNegotiation.Engine.History
import MediaNegotiation.Engine.Matching
import MediaNegotiation.Engine.Negotiation
import MediaNegotiation.Engine.Registration
import MediaNegotiation.Engine.Views
import MediaNegotiation.Error
import MediaNegotiation.Feedback
import MediaNegotiation.Format.Basic
import MediaNegotiation.Format.Parameters
import MediaNegotiation.HeaderExtension
import MediaNegotiation.MediaKind
import MediaNegotiation.Payload
import MediaNegotiation.Sdp.ExtMap
import MediaNegotiation.Sdp.Fault
import MediaNegotiation.Sdp.FormatFacts
import MediaNegotiation.Sdp.Lines
import MediaNegotiation.Sdp.Reader
import MediaNegotiation.Sdp.Session
import MediaNegotiation.Session
import MediaNegotiation.Stats
import MediaNegotiation.Text.Blank
import MediaNegotiation.Text.Case
import MediaNegotiation.Text.CaseTable
import MediaNegotiation.Text.CharRange
import MediaNegotiation.Text.Cut
import MediaNegotiation.Text.Hex
import MediaNegotiation.Text.Numeral
import MediaNegotiation.Text.Search
import MediaNegotiation.Text.TableText
import MediaNegotiation.Url.Address
import MediaNegotiation.Url.Basic
import MediaNegotiation.Url.Fault
import MediaNegotiation.Url.Host
import MediaNegotiation.Url.Path
import MediaNegotiation.Url.Percent
import MediaNegotiation.Url.Reader
import MediaNegotiation.Proofs.Negotiation.Change
import MediaNegotiation.Proofs.Reachability
import MediaNegotiation.Proofs.Negotiation.Grounding
import MediaNegotiation.Proofs.Negotiation.Growth
import MediaNegotiation.Proofs.Extensions.Settled
import MediaNegotiation.Proofs.Negotiation.Stopped
import MediaNegotiation.Proofs.Extensions.Registry
import MediaNegotiation.Proofs.Extensions.Permanence
import MediaNegotiation.Proofs.Format.Retargeting
import MediaNegotiation.Proofs.Extensions.Offers
import MediaNegotiation.Proofs.Negotiation.Answering
import MediaNegotiation.Proofs.Negotiation.Agreement
import MediaNegotiation.Proofs.Negotiation.Association
import MediaNegotiation.Proofs.Extensions.Identification
import MediaNegotiation.Proofs.Negotiation.Repetition
import MediaNegotiation.Proofs.Negotiation.Acceptance
import MediaNegotiation.Proofs.Negotiation.Conflicts
import MediaNegotiation.Proofs.Negotiation.Independence
import MediaNegotiation.Proofs.Extensions.Proposals
import MediaNegotiation.Proofs.Negotiation.Spelling
import MediaNegotiation.Proofs.Negotiation.Respelling
import MediaNegotiation.Proofs.Copying
import MediaNegotiation.Proofs.Negotiation.Composition
import MediaNegotiation.Proofs.Extensions.Lookup
import MediaNegotiation.Proofs.Separation
import MediaNegotiation.Proofs.Sessions.Programs
import MediaNegotiation.Proofs.Sessions.Isolation
import MediaNegotiation.Proofs.Statistics
import MediaNegotiation.Proofs.Negotiation.Takeover
import MediaNegotiation.Proofs.Negotiation.Recognition
import MediaNegotiation.Proofs.Negotiation.Classification
import MediaNegotiation.Proofs.PayloadTypes
import MediaNegotiation.Proofs.Extensions.Assignment
import MediaNegotiation.Proofs.Negotiation.Reordering
import MediaNegotiation.Proofs.Format.Compatibility
import MediaNegotiation.Proofs.Registration.Codecs
import MediaNegotiation.Proofs.Registration.Extensions
import MediaNegotiation.Proofs.Description
import MediaNegotiation.Proofs.Negotiation.Packetization
import MediaNegotiation.Proofs.Extensions.Provenance
import MediaNegotiation.Proofs.Format.Layout
