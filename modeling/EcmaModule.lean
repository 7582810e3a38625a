import EcmaModule.Main
import EcmaModule.Session
import EcmaModule.Proofs.SourceMap.LineTable
import EcmaModule.Proofs.SourceMap.Cursor
import EcmaModule.Proofs.SourceMap.Registry
import EcmaModule.Proofs.Diagnostic.Pipeline
import EcmaModule.Proofs.Engine.Transcript
import EcmaModule.Proofs.Engine.Outcome
import EcmaModule.Proofs.Comment
import EcmaModule.Proofs.Session.Isolation
import EcmaModule.Proofs.Text.Utf8
import EcmaModule.Proofs.Json.Quote
import EcmaModule.Proofs.Operation.Envelope
import EcmaModule.Proofs.Session.Client
import EcmaModule.Proofs.Session.Accounting
import EcmaModule.Proofs.Engine.Placement
import EcmaModule.Proofs.Session.Spans
import EcmaModule.Proofs.Json.Numeral
import EcmaModule.Proofs.Number.Text
import EcmaModule.Proofs.Json.Document
import EcmaModule.Proofs.Number.Order
import EcmaModule.Proofs.Ranking
import EcmaModule.Proofs.Dependency.Reference
import EcmaModule.Proofs.Dependency.Listing
import EcmaModule.Proofs.Dependency.Dynamic
import EcmaModule.Proofs.Operation.Answer
import EcmaModule.Proofs.Engine.Location
import EcmaModule.Proofs.Session.Delivery
import EcmaModule.Proofs.Engine.Recovery
import EcmaModule.Proofs.Engine.DynamicImport
import EcmaModule.Proofs.Engine.Continuation
import EcmaModule.Proofs.Engine.FileName
import EcmaModule.Proofs.Json.Bytes
import EcmaModule.Proofs.Operation.Agreement
import EcmaModule.Proofs.Session.Scope
import EcmaModule.Proofs.Session.Frame
import EcmaModule.Proofs.Session.Interning
import EcmaModule.Proofs.Value.Holds
import EcmaModule.Proofs.Tree.Path
import EcmaModule.Proofs.Value.Reordered
import EcmaModule.Proofs.Tree.Reordered
import EcmaModule.Proofs.Dependency.FieldOrder
import EcmaModule.Proofs.SourceMap.Position
import EcmaModule.Proofs.Number.Whole
import EcmaModule.Proofs.Operation.Serialize
import EcmaModule.Proofs.CommandLine.Agreement
import EcmaModule.Proofs.Session.Rereading
import EcmaModule.Proofs.Diagnostic.Caret
import EcmaModule.Proofs.Operation.Request
import EcmaModule.Proofs.CommandLine.Accepted
import EcmaModule.Proofs.CommandLine.Reporting
