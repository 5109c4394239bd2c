import QueryGuard.Demo.Fill
import QueryGuard.Json.Printer
import QueryGuard.Json.Reader
import QueryGuard.Main
import QueryGuard.Pattern.Lemmas
import QueryGuard.Reading.Scripted
import QueryGuard.Server.Listing
import QueryGuard.Proofs.Pattern.Composite
import QueryGuard.Proofs.Pattern.Locality
import QueryGuard.Proofs.Query.Token
import QueryGuard.Proofs.Query.Acceptance
import QueryGuard.Proofs.Query.EngineText
import QueryGuard.Proofs.Query.HiddenWord
import QueryGuard.Proofs.Query.SingleRead
import QueryGuard.Proofs.Query.CaseBlind
import QueryGuard.Proofs.Query.CommentFree
import QueryGuard.Proofs.Query.SpanShape
import QueryGuard.Proofs.Query.Discarded
import QueryGuard.Proofs.Query.CallShape
import QueryGuard.Proofs.Query.FirstRule
import QueryGuard.Proofs.Query.NextLine
import QueryGuard.Proofs.Query.Seam
import QueryGuard.Proofs.Query.Projection
import QueryGuard.Proofs.Query.Union
import QueryGuard.Proofs.Settings.RecordLimit
import QueryGuard.Proofs.Settings.FixedPoint
import QueryGuard.Proofs.Engine.Emits
import QueryGuard.Proofs.Engine.Reads
import QueryGuard.Proofs.Engine.Rows
import QueryGuard.Proofs.Engine.Lifetime
import QueryGuard.Proofs.Engine.Calls
import QueryGuard.Proofs.Engine.Writing
import QueryGuard.Proofs.Engine.RowMaps
import QueryGuard.Proofs.Reading.Outcome
import QueryGuard.Proofs.Session.Requests
import QueryGuard.Proofs.Session.Mediation
import QueryGuard.Proofs.Session.Protection
import QueryGuard.Proofs.Session.Closing
import QueryGuard.Proofs.Session.Gates
import QueryGuard.Proofs.Session.Coherence
import QueryGuard.Proofs.Session.Discretion
import QueryGuard.Proofs.Session.Truncation
import QueryGuard.Proofs.Session.Writing
import QueryGuard.Proofs.Session.Envelopes
import QueryGuard.Proofs.Session.Describing
import QueryGuard.Proofs.Reading.Note
import QueryGuard.Proofs.Query.NormalForm
import QueryGuard.Proofs.Demo.Seeding
import QueryGuard.Proofs.Demo.Rows
