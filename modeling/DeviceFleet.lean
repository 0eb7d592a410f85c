import DeviceFleet.Build
import DeviceFleet.BuildFault
import DeviceFleet.Configuration
import DeviceFleet.Connections.ControlDir
import DeviceFleet.Connections.Scope
import DeviceFleet.Connections.Statuses
import DeviceFleet.Creation
import DeviceFleet.Decimal.Binary64
import DeviceFleet.Decimal.Shortest
import DeviceFleet.Environment
import DeviceFleet.Fault
import DeviceFleet.FileSystem
import DeviceFleet.Instance.Connection
import DeviceFleet.Instance.Identity
import DeviceFleet.Instance.RemoteRecord
import DeviceFleet.Instance.Summary
import DeviceFleet.Instant
import DeviceFleet.Inventory.Listing
import DeviceFleet.Inventory.Report
import DeviceFleet.IoFault
import DeviceFleet.Json.Failure
import DeviceFleet.Json.Number
import DeviceFleet.Json.Reader
import DeviceFleet.Json.Record
import DeviceFleet.Json.Skip
import DeviceFleet.Json.Space
import DeviceFleet.Json.Text
import DeviceFleet.Json.Writer
import DeviceFleet.LocalBuild.BuildEnvironment
import DeviceFleet.LocalBuild.HostPackage
import DeviceFleet.LocalBuild.Manifest
import DeviceFleet.LocalBuild.Staging
import DeviceFleet.LogEvent
import DeviceFleet.Path
import DeviceFleet.Proofs.Configuration.Loading
import DeviceFleet.Proofs.Connections.Load
import DeviceFleet.Proofs.Connections.Port
import DeviceFleet.Proofs.Connections.Statuses
import DeviceFleet.Proofs.Connections.TornFile
import DeviceFleet.Proofs.Connections.WrittenFile
import DeviceFleet.Proofs.Creation.Faults
import DeviceFleet.Proofs.Creation.Protocol
import DeviceFleet.Proofs.Creation.RequestText
import DeviceFleet.Proofs.Fault.Attribution
import DeviceFleet.Proofs.Fault.Carried
import DeviceFleet.Proofs.Fault.Notes
import DeviceFleet.Proofs.Fault.ReadBack
import DeviceFleet.Proofs.Instance.Decoding
import DeviceFleet.Proofs.Instance.SummaryText
import DeviceFleet.Proofs.Instance.Written
import DeviceFleet.Proofs.Inventory.Agreement
import DeviceFleet.Proofs.Inventory.Attachment
import DeviceFleet.Proofs.Inventory.FailedLoad
import DeviceFleet.Proofs.Inventory.FleetListing
import DeviceFleet.Proofs.Inventory.Progress
import DeviceFleet.Proofs.Inventory.Schedule
import DeviceFleet.Proofs.Inventory.Warnings
import DeviceFleet.Proofs.Json.Decoding
import DeviceFleet.Proofs.Json.Fields
import DeviceFleet.Proofs.Json.FullRecord
import DeviceFleet.Proofs.Json.Literal
import DeviceFleet.Proofs.Json.Lookup
import DeviceFleet.Proofs.Json.Numeral
import DeviceFleet.Proofs.Json.Parts
import DeviceFleet.Proofs.Json.Reading
import DeviceFleet.Proofs.Json.RecordLocality
import DeviceFleet.Proofs.Json.ScalarLocality
import DeviceFleet.Proofs.Json.Spelling
import DeviceFleet.Proofs.Json.StringText
import DeviceFleet.Proofs.Json.WrittenRecord
import DeviceFleet.Proofs.Json.WrittenScalar
import DeviceFleet.Proofs.Json.WrittenValue
import DeviceFleet.Proofs.LocalBuild.Containment
import DeviceFleet.Proofs.LocalBuild.FirstFault
import DeviceFleet.Proofs.LocalBuild.ManifestLines
import DeviceFleet.Proofs.Text.PrefixFree
import DeviceFleet.Request
import DeviceFleet.Text.Blank
import DeviceFleet.Text.Combining
import DeviceFleet.Text.Hexadecimal
import DeviceFleet.Text.Printable
import DeviceFleet.Text.Quoted
import DeviceFleet.Workspace.Tree
import DeviceFleet.Yaml.Glyph
import DeviceFleet.Yaml.Grammar
import DeviceFleet.Yaml.Layout
import DeviceFleet.Yaml.Node
import DeviceFleet.Yaml.Scalar
import DeviceFleet.Yaml.Token
