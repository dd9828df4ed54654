import SensorLog.Device.Characteristic
import SensorLog.Frame.Encode
import SensorLog.Main
import SensorLog.Transfer.Schedule
import SensorLog.Proofs.Packet.Stream
import SensorLog.Proofs.Frame.Reading
import SensorLog.Proofs.Frame.Reorder
import SensorLog.Proofs.Frame.Front
import SensorLog.Proofs.Row.Calls
import SensorLog.Proofs.Transfer.OnePass
import SensorLog.Proofs.Transfer.Turn
import SensorLog.Proofs.Transfer.Chunking
import SensorLog.Proofs.Wire.RoundTrip
import SensorLog.Proofs.Entry.RoundTrip
import SensorLog.Proofs.Record.Columns
import SensorLog.Proofs.Transfer.LogRoundTrip
import SensorLog.Proofs.Transfer.Invariant
import SensorLog.Proofs.Transfer.Retrying
import SensorLog.Proofs.Transfer.RetryOrder
import SensorLog.Proofs.Frame.Ledger
import SensorLog.Proofs.Transfer.Settling
import SensorLog.Proofs.Transfer.LifeCycle
import SensorLog.Proofs.Transfer.Swap
import SensorLog.Proofs.Transfer.Lockstep
import SensorLog.Proofs.Transfer.EntryLimit
import SensorLog.Proofs.Record.Lookup
import SensorLog.Proofs.Transfer.Conversion
import SensorLog.Proofs.Transfer.Driving
import SensorLog.Proofs.Transfer.DriverSink
import SensorLog.Proofs.Transfer.Schedule
import SensorLog.Proofs.Row.Writer
import SensorLog.Proofs.Text.Utf8
import SensorLog.Proofs.Bytes.HexText
import SensorLog.Proofs.Capture.Layout
import SensorLog.Proofs.Capture.Agreement
import SensorLog.Proofs.Transfer.Faults
import SensorLog.Proofs.Transfer.Waiting
import SensorLog.Proofs.Entry.Truncation
import SensorLog.Proofs.Wire.Grammar
import SensorLog.Proofs.Record.Carried
import SensorLog.Proofs.Transfer.EndOfLog
import SensorLog.Proofs.Row.Rendering
import SensorLog.Proofs.Capture.Outcome
import SensorLog.Proofs.Packet.InPlace
import SensorLog.Proofs.Packet.ByteQueue
import SensorLog.Proofs.Frame.StepErrors
import SensorLog.Proofs.Record.Placement
import SensorLog.Proofs.Frame.Journal
import SensorLog.Proofs.Transfer.Headers
import SensorLog.Proofs.Transfer.LastRecord
import SensorLog.Proofs.Transfer.FailureReport
import SensorLog.Proofs.Schema.Index
import SensorLog.Proofs.Device.Sensors
import SensorLog.Proofs.Row.Pieces
import SensorLog.Proofs.Row.Filling
import SensorLog.Proofs.Decimal.Reading
import SensorLog.Proofs.Text.Words
import SensorLog.Proofs.Schema.Figures
import SensorLog.Proofs.Row.Alignment
import SensorLog.Proofs.Transfer.Offered
import SensorLog.Proofs.Transfer.Alignment
import SensorLog.Proofs.Wire.Taken
import SensorLog.Proofs.Entry.Merge
import SensorLog.Proofs.Bytes.HexExact
import SensorLog.Proofs.Capture.ReadBack
import SensorLog.Proofs.Row.CsvReading
import SensorLog.Proofs.Transfer.CsvRecovery
import SensorLog.Proofs.Packet.BareOrder
