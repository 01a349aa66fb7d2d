import RowSink.Batch.Report
import RowSink.Configuration
import RowSink.Proofs.Message.Undeclared
import RowSink.Proofs.Protocol.RoundTrip
import RowSink.Proofs.Row.FiniteNumbers
import RowSink.Proofs.Row.Injection
import RowSink.Proofs.Row.Integers
import RowSink.Proofs.Row.Noninterference
import RowSink.Proofs.Row.RequiredColumns
import RowSink.Proofs.Row.Timestamps
import RowSink.Proofs.Settings
import RowSink.Proofs.Stream.Answers
import RowSink.Proofs.Stream.Closing
import RowSink.Proofs.Stream.Counters
import RowSink.Proofs.Stream.Delivery
import RowSink.Proofs.Stream.LatePush
import RowSink.Proofs.Stream.Recreation
import RowSink.Proofs.Stream.Requests
import RowSink.Proofs.Stream.RowAgreement
import RowSink.Proofs.Stream.Succession
import RowSink.Proofs.Table.Acceptance
import RowSink.Protocol.Messages
import RowSink.Rehearsal.Arrangement
import RowSink.Rehearsal.ClientSteps
import RowSink.Rehearsal.StreamSteps
import RowSink.Rehearsal.WriterSteps
import RowSink.Table.Descriptor
