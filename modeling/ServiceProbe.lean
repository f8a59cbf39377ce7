import ServiceProbe.Main
import ServiceProbe.Proofs.Database.Printed
import ServiceProbe.Proofs.Orchestrator.Sharing
import ServiceProbe.Proofs.Orchestrator.Snapshot
import ServiceProbe.Proofs.Probe.Rejection
import ServiceProbe.Proofs.Program.CrossProduct
import ServiceProbe.Proofs.Report.Csv
import ServiceProbe.Proofs.Scan.Appended
import ServiceProbe.Proofs.Scan.Permitted
import ServiceProbe.Proofs.Address.Composed
import ServiceProbe.Proofs.Port.Equality
import ServiceProbe.Proofs.Port.Words
import ServiceProbe.Proofs.Port.History
import ServiceProbe.Proofs.Report.Table
import ServiceProbe.Proofs.Exchange.Reading
import ServiceProbe.Proofs.Json.Documents
import ServiceProbe.Proofs.Discovery.Completion
import ServiceProbe.Proofs.Scan.Fallback
import ServiceProbe.Proofs.Database.Warnings
import ServiceProbe.Proofs.Database.Layout
import ServiceProbe.Proofs.Probe.Order
import ServiceProbe.Proofs.Template.Numbers
import ServiceProbe.Proofs.Template.Written
import ServiceProbe.Proofs.Text.Slices
import ServiceProbe.Proofs.Rule.Filling
import ServiceProbe.Proofs.Payload.Items
import ServiceProbe.Proofs.Rule.Arranged
import ServiceProbe.Proofs.Listing.Dispatch
import ServiceProbe.Proofs.Template.Offsets
import ServiceProbe.Proofs.Rule.Offsets
