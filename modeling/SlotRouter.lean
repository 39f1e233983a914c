import SlotRouter.Address
import SlotRouter.Client
import SlotRouter.Command
import SlotRouter.Count
import SlotRouter.Error.Cause
import SlotRouter.Error.Classify
import SlotRouter.Error.Client
import SlotRouter.Error.Cluster
import SlotRouter.Error.Kind
import SlotRouter.Error.Redirect
import SlotRouter.Error.Stable
import SlotRouter.Info
import SlotRouter.Network.Exchange
import SlotRouter.Network.Leases
import SlotRouter.Network.Run
import SlotRouter.Network.World
import SlotRouter.Node
import SlotRouter.Properties
import SlotRouter.Reply
import SlotRouter.Reply.Decode
import SlotRouter.Router.Administration
import SlotRouter.Router.Basic
import SlotRouter.Router.Discovery
import SlotRouter.Router.Execute
import SlotRouter.Router.FanOut
import SlotRouter.Router.Keys
import SlotRouter.Router.Local
import SlotRouter.Router.Redirects
import SlotRouter.Router.Server
import SlotRouter.Scripted.Layout
import SlotRouter.Scripted.Rules
import SlotRouter.Seed
import SlotRouter.Seed.Ipv6
import SlotRouter.Seed.Url
import SlotRouter.Slot.Checksum
import SlotRouter.Slot.Key
import SlotRouter.Slot.Range
import SlotRouter.Slot.Table
import SlotRouter.Text.Binary64
import SlotRouter.Text.Blank
import SlotRouter.Text.Decimal
import SlotRouter.Text.Hex
import SlotRouter.Text.Milliseconds
import SlotRouter.Text.Percent
import SlotRouter.Text.Printable
import SlotRouter.Text.Quoted
import SlotRouter.Text.Replace
import SlotRouter.Text.Split
import SlotRouter.Text.Utf8
import SlotRouter.Topology
import SlotRouter.Topology.Report
import SlotRouter.Proofs.Network.Conversation
import SlotRouter.Proofs.Router.Freshness
import SlotRouter.Proofs.Router.KeyTasks
import SlotRouter.Proofs.Router.LeaseBrackets
import SlotRouter.Proofs.Router.RedirectChain
import SlotRouter.Proofs.Router.SharedStore
import SlotRouter.Proofs.Router.SlotMasters
import SlotRouter.Proofs.Router.SourceRuns
import SlotRouter.Proofs.Router.UsageErrors
import SlotRouter.Proofs.Topology.SlotResolution
import SlotRouter.Proofs.Text.Columns
import SlotRouter.Proofs.Topology.ReportText
import SlotRouter.Proofs.Topology.SameAnswers
import SlotRouter.Proofs.Scripted.LayoutReport
import SlotRouter.Proofs.Router.SameSlot
import SlotRouter.Proofs.Router.TaskResults
import SlotRouter.Proofs.Router.TaskIsolation
import SlotRouter.Proofs.Topology.FullCoverage
import SlotRouter.Proofs.Router.Gathering
import SlotRouter.Proofs.Router.TargetResolution
import SlotRouter.Proofs.Router.TolerantCalls
import SlotRouter.Proofs.Router.StrictCalls
import SlotRouter.Proofs.Topology.Descriptors
import SlotRouter.Proofs.Router.Forget
import SlotRouter.Proofs.Router.NamedNodes
import SlotRouter.Proofs.Router.Redescription
import SlotRouter.Proofs.Scripted.LayoutMembers
import SlotRouter.Proofs.Text.Utf8
import SlotRouter.Proofs.Scripted.ReplicaViews
import SlotRouter.Proofs.Slot.CanonicalRange
import SlotRouter.Proofs.Info.Entries
import SlotRouter.Proofs.Router.QualifiedNames
import SlotRouter.Proofs.Router.RandomKey
import SlotRouter.Proofs.Client.SeedAgreement
import SlotRouter.Proofs.Client.WrittenSeeds
import SlotRouter.Proofs.Topology.ReportFaults
import SlotRouter.Proofs.Topology.AddressReaders
import SlotRouter.Proofs.Slot.HashTag
import SlotRouter.Proofs.Router.ArbitraryNode
import SlotRouter.Proofs.Error.Likeness
import SlotRouter.Proofs.Error.StableReports
import SlotRouter.Proofs.Command.WireForm
import SlotRouter.Proofs.Scripted.ReportRequests
import SlotRouter.Proofs.Router.ResultNodes
import SlotRouter.Proofs.Topology.FirstNodes
import SlotRouter.Proofs.Info.Lines
