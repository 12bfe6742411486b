import MeshTelemetry.Message.Traffic
import MeshTelemetry.Node.Delivery
import MeshTelemetry.Node.Relay
import MeshTelemetry.Version
import MeshTelemetry.Proofs.Bytes
import MeshTelemetry.Proofs.Capture
import MeshTelemetry.Proofs.Message.UintValue
import MeshTelemetry.Proofs.Result
import MeshTelemetry.Proofs.Storage.SlotHistory
import MeshTelemetry.Proofs.Message.HeaderForm
import MeshTelemetry.Proofs.Message.ItemForm
import MeshTelemetry.Proofs.Message.ItemRow
import MeshTelemetry.Proofs.Text
import MeshTelemetry.Proofs.Message.OptionValues
import MeshTelemetry.Proofs.Message.Grammar
import MeshTelemetry.Proofs.Message.OptionRow
import MeshTelemetry.Proofs.Message.Reachable
import MeshTelemetry.Proofs.Message.BlockLimits
import MeshTelemetry.Proofs.Message.Encoding
import MeshTelemetry.Proofs.Message.RoundTrip
import MeshTelemetry.Proofs.Message.CanonicalValue
import MeshTelemetry.Proofs.Message.ShortestUint
import MeshTelemetry.Proofs.Message.Canonical
import MeshTelemetry.Proofs.Storage.SlotPool
import MeshTelemetry.Proofs.Storage.RecordStore
import MeshTelemetry.Proofs.Storage.QueueAndStack
import MeshTelemetry.Proofs.Telemetry.Budget
import MeshTelemetry.Proofs.Telemetry.Content
import MeshTelemetry.Proofs.Node.Invariant
import MeshTelemetry.Proofs.Node.Admission
import MeshTelemetry.Proofs.Frame
import MeshTelemetry.Proofs.Node.Carriage
import MeshTelemetry.Proofs.Element.Walk
import MeshTelemetry.Proofs.Telemetry.RoundTrip
import MeshTelemetry.Proofs.Node.Relay
import MeshTelemetry.Proofs.Node.Delivery
import MeshTelemetry.Proofs.Node.Reachable
import MeshTelemetry.Proofs.Node.FrameBudget
import MeshTelemetry.Proofs.Node.Piggyback
import MeshTelemetry.Proofs.Node.Consistency
import MeshTelemetry.Proofs.Node.Transparency
import MeshTelemetry.Proofs.Node.Extension
import MeshTelemetry.Proofs.Node.PathReport
import MeshTelemetry.Proofs.Element.Listing
import MeshTelemetry.Proofs.Telemetry.Reading
import MeshTelemetry.Proofs.Node.Extraction
import MeshTelemetry.Proofs.Message.OfferedBlock
import MeshTelemetry.Proofs.Node.Transfer
import MeshTelemetry.Proofs.Node.CarrierLife
import MeshTelemetry.Proofs.Node.CarrierWay
import MeshTelemetry.Proofs.Node.StickyOverflow
import MeshTelemetry.Proofs.Node.RecordJourney
import MeshTelemetry.Proofs.Element.Tiling
import MeshTelemetry.Proofs.Frame.Regions
import MeshTelemetry.Proofs.Message.TrafficLedger
import MeshTelemetry.Proofs.Node.CounterLedger
import MeshTelemetry.Proofs.Node.Upkeep
import MeshTelemetry.Proofs.Node.CapturedTraffic
import MeshTelemetry.Proofs.Message.WrittenSize
import MeshTelemetry.Proofs.Message.BlockRoom
import MeshTelemetry.Proofs.Node.ExactAdmission
import MeshTelemetry.Proofs.Node.SequenceCount
import MeshTelemetry.Proofs.Telemetry.BudgetRule
import MeshTelemetry.Proofs.Node.FreshStart
import MeshTelemetry.Proofs.Node.Reception
import MeshTelemetry.Proofs.Element.Search
import MeshTelemetry.Proofs.Telemetry.ContentCodec
import MeshTelemetry.Proofs.Node.Embedding
import MeshTelemetry.Proofs.Node.Withdrawal
import MeshTelemetry.Proofs.Node.Shortage
import MeshTelemetry.Proofs.Node.OverflowEvents
import MeshTelemetry.Proofs.Message.ForwardReader
import MeshTelemetry.Proofs.Message.ReaderRun
import MeshTelemetry.Proofs.Message.AppendedInput
import MeshTelemetry.Proofs.Message.InputFault
import MeshTelemetry.Proofs.Message.StoredLength
import MeshTelemetry.Proofs.Message.Variables
