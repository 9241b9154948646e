import SignalHub.CommandLine.WorkingDirectory
import SignalHub.Delivery
import SignalHub.Main
import SignalHub.Proofs.Foreign
import SignalHub.Proofs.Session.Conservation
import SignalHub.Proofs.Session.Handover
import SignalHub.Proofs.Session.Gate
import SignalHub.Proofs.Session.Reach
import SignalHub.Proofs.Session.ForeignCalls
import SignalHub.Proofs.Delivery.ExactlyOnce
import SignalHub.Proofs.Acting
import SignalHub.Proofs.Delivery.Buffer
import SignalHub.Proofs.Delivery.Waking
import SignalHub.Proofs.Carrying
import SignalHub.Proofs.Session.Printing
import SignalHub.Proofs.Fatal
import SignalHub.Proofs.Session.Fatal
import SignalHub.Proofs.Locking
import SignalHub.Proofs.Nesting
import SignalHub.Proofs.Session.Emitting
import SignalHub.Proofs.Session.Nesting
import SignalHub.Proofs.Separation
import SignalHub.Proofs.Session.Separation
import SignalHub.Proofs.Recording
import SignalHub.Proofs.Session.Recording
import SignalHub.Proofs.CommandLine.Gating
import SignalHub.Proofs.Truncation
import SignalHub.Proofs.Category.Lists
import SignalHub.Proofs.Session.Failing
import SignalHub.Proofs.CommandLine.Completeness
import SignalHub.Proofs.Category.Membership
import SignalHub.Proofs.Version.Description
import SignalHub.Proofs.Session.ForeignPrinting
import SignalHub.Proofs.Output.Hosted
import SignalHub.Proofs.Fallback
import SignalHub.Proofs.Session.Fallback
import SignalHub.Proofs.Installed
import SignalHub.Proofs.Session.Installed
import SignalHub.Proofs.Session.StandardOutput
import SignalHub.Proofs.Bounded.Safety
import SignalHub.Proofs.CrashDump
import SignalHub.Proofs.Forwarding
import SignalHub.Proofs.Session.Forwarding
import SignalHub.Proofs.Text.Grid
import SignalHub.Proofs.Version.Report
