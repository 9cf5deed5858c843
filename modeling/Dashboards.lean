import Dashboards.Main
import Dashboards.Session.World
import Dashboards.Store.Memory
import Dashboards.Proofs.Except
import Dashboards.Proofs.Text.Digits
import Dashboards.Proofs.Text.Blank
import Dashboards.Proofs.Json.Literal
import Dashboards.Proofs.Json.Rounding
import Dashboards.Proofs.Json.Shortest
import Dashboards.Proofs.Json.Members
import Dashboards.Proofs.Json.RoundTrip
import Dashboards.Proofs.Json.Depth
import Dashboards.Proofs.Json.Spelling
import Dashboards.Proofs.Json.Reading
import Dashboards.Proofs.Json.Occurrence
import Dashboards.Proofs.Document.Signals
import Dashboards.Proofs.Json.Access
import Dashboards.Proofs.Record.Envelope
import Dashboards.Proofs.Record.ObjectText
import Dashboards.Proofs.Files.Folder
import Dashboards.Proofs.Files.Entry
import Dashboards.Proofs.Files.Tree
import Dashboards.Proofs.Store.Effect
import Dashboards.Proofs.Store.Memory
import Dashboards.Proofs.Store.Backend
import Dashboards.Proofs.Service.Call
import Dashboards.Proofs.Service.ReadBack
import Dashboards.Proofs.Document.Removal
import Dashboards.Proofs.Service.Policy
import Dashboards.Proofs.Store.Holding
import Dashboards.Proofs.Store.Agreement
import Dashboards.Proofs.Service.Interleaving
import Dashboards.Proofs.Store.Writing
import Dashboards.Proofs.Service.Failing
import Dashboards.Proofs.Store.Listing
import Dashboards.Proofs.Store.Envelope
import Dashboards.Proofs.Service.Confinement
import Dashboards.Proofs.Store.Tidy
import Dashboards.Proofs.Service.Lifetime
import Dashboards.Proofs.Store.Sound
import Dashboards.Proofs.Store.Interruption
import Dashboards.Proofs.Service.Settling
import Dashboards.Proofs.Store.Contents
import Dashboards.Proofs.Session.Outcome
import Dashboards.Proofs.Session.Host
import Dashboards.Proofs.Analytics.MetricUsage
import Dashboards.Proofs.Analytics.Report
import Dashboards.Proofs.Analytics.Traversal
import Dashboards.Proofs.Service.Readable
import Dashboards.Proofs.Service.Overview
import Dashboards.Proofs.Json.Prune
import Dashboards.Proofs.Document.Recognised
import Dashboards.Proofs.Files.Path
import Dashboards.Proofs.Store.Containment
import Dashboards.Proofs.Store.Numbering
import Dashboards.Proofs.Session.Preview
import Dashboards.Proofs.CommandLine.Variables
import Dashboards.Proofs.Settings
import Dashboards.Proofs.Session.Resolution
import Dashboards.Proofs.Session.Failing
import Dashboards.Proofs.Settings.Layering
import Dashboards.Proofs.Service.Shown
import Dashboards.Proofs.Output.Table
import Dashboards.Proofs.CommandLine.Placement
