import VirtualPrinter.Gcode.Arguments
import VirtualPrinter.Link.Endpoint
import VirtualPrinter.Link.Messages
import VirtualPrinter.Machine.Settings
import VirtualPrinter.Proofs.Machine.Bounds
import VirtualPrinter.Proofs.Service.Reading
import VirtualPrinter.Proofs.Service.Refused
import VirtualPrinter.Proofs.Service.Shutdown
import VirtualPrinter.Service.Bench
import VirtualPrinter.Service.Blueprint
import VirtualPrinter.Service.Desk
import VirtualPrinter.Proofs.Machine.Pausing
import VirtualPrinter.Proofs.Service.Pausing
import VirtualPrinter.Proofs.Machine.Lifesign
import VirtualPrinter.Proofs.Service.Hearing
import VirtualPrinter.Proofs.Service.Consumer
import VirtualPrinter.Proofs.Service.Queued
import VirtualPrinter.Proofs.Decimal.Shortest
import VirtualPrinter.Proofs.Json.Floats
import VirtualPrinter.Proofs.Json.Quoting
import VirtualPrinter.Proofs.Json.Fitting
import VirtualPrinter.Proofs.Json.Printed
import VirtualPrinter.Proofs.Json.Admission
import VirtualPrinter.Proofs.Json.Records
import VirtualPrinter.Proofs.Machine.Document
import VirtualPrinter.Proofs.Machine.Properties
import VirtualPrinter.Proofs.Wire.Messages
import VirtualPrinter.Proofs.Service.Registration
import VirtualPrinter.Proofs.Service.Streaming
import VirtualPrinter.Proofs.Service.Custody
import VirtualPrinter.Proofs.Wire.Envelope
import VirtualPrinter.Proofs.Wire.RoundTrip
import VirtualPrinter.Proofs.Text.Utf8
import VirtualPrinter.Proofs.Link.Framing
import VirtualPrinter.Proofs.Link.Sizes
import VirtualPrinter.Proofs.Json.Plain
import VirtualPrinter.Proofs.Wire.Lines
import VirtualPrinter.Proofs.Number.Whole
import VirtualPrinter.Proofs.Decimal.Large
import VirtualPrinter.Proofs.Json.Integers
import VirtualPrinter.Proofs.Wire.Naming
import VirtualPrinter.Proofs.Service.Isolation
import VirtualPrinter.Proofs.Number.Order
import VirtualPrinter.Proofs.Service.Blueprint
import VirtualPrinter.Proofs.Service.Silence
import VirtualPrinter.Proofs.Service.Parallel
import VirtualPrinter.Proofs.Text.Case
import VirtualPrinter.Proofs.Gcode.Token
import VirtualPrinter.Proofs.Gcode.Octets
import VirtualPrinter.Proofs.Decimal.Plain
import VirtualPrinter.Proofs.Gcode.Words
import VirtualPrinter.Proofs.Gcode.Spelling
import VirtualPrinter.Proofs.Service.Spelling
import VirtualPrinter.Proofs.Number.Sign
import VirtualPrinter.Proofs.Machine.Landing
import VirtualPrinter.Proofs.Service.Landing
import VirtualPrinter.Proofs.Number.Quotient
import VirtualPrinter.Proofs.Machine.Fields
import VirtualPrinter.Proofs.Machine.Footprint
import VirtualPrinter.Proofs.Service.Independence
import VirtualPrinter.Proofs.Wire.Grammar
import VirtualPrinter.Proofs.Decimal.Rereading
import VirtualPrinter.Proofs.Text.Lines
import VirtualPrinter.Proofs.Gcode.Written
import VirtualPrinter.Proofs.Machine.Report
import VirtualPrinter.Proofs.Service.Replay
import VirtualPrinter.Proofs.Machine.Endings
import VirtualPrinter.Proofs.Service.Batch
import VirtualPrinter.Proofs.Wire.Codec
import VirtualPrinter.Proofs.Wire.Unended
import VirtualPrinter.Proofs.Link.Backoff
import VirtualPrinter.Proofs.Json.Lookup
import VirtualPrinter.Proofs.Service.Entries
import VirtualPrinter.Proofs.Service.HardwareId
import VirtualPrinter.Proofs.Wire.Apostrophes
import VirtualPrinter.Proofs.Machine.Heating
import VirtualPrinter.Proofs.Service.Heating
import VirtualPrinter.Proofs.Decimal.Nearest
import VirtualPrinter.Proofs.Number.Value
import VirtualPrinter.Proofs.Gcode.Interval
import VirtualPrinter.Proofs.Service.Toggle
import VirtualPrinter.Proofs.Decimal.Columns
import VirtualPrinter.Proofs.Machine.StatusLine
import VirtualPrinter.Proofs.Service.Sampling
