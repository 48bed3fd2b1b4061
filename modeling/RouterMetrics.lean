import RouterMetrics.Collector.Basic
import RouterMetrics.Collector.Conntrack
import RouterMetrics.Collector.Dhcp
import RouterMetrics.Collector.DhcpLease
import RouterMetrics.Collector.Firmware
import RouterMetrics.Collector.Health
import RouterMetrics.Collector.Interface
import RouterMetrics.Collector.Monitor
import RouterMetrics.Collector.Netwatch
import RouterMetrics.Collector.Optics
import RouterMetrics.Collector.Poe
import RouterMetrics.Collector.Pool
import RouterMetrics.Collector.Queue
import RouterMetrics.Collector.Registry
import RouterMetrics.Collector.Resource
import RouterMetrics.Collector.Routes
import RouterMetrics.Collector.WirelessInterface
import RouterMetrics.Collector.WirelessStation
import RouterMetrics.CommandLine.Arguments
import RouterMetrics.CommandLine.Help
import RouterMetrics.CommandLine.Reading
import RouterMetrics.Config.Basic
import RouterMetrics.Config.Device
import RouterMetrics.Config.Directory
import RouterMetrics.Config.Environment
import RouterMetrics.Config.Fault
import RouterMetrics.Config.Features
import RouterMetrics.Config.File
import RouterMetrics.Config.Outline
import RouterMetrics.Config.Shape
import RouterMetrics.Decimal.Binary64
import RouterMetrics.Decimal.Notation
import RouterMetrics.Decimal.Numeral
import RouterMetrics.Decimal.Shortest
import RouterMetrics.Digest.Md5
import RouterMetrics.Exposition
import RouterMetrics.Fleet.Basic
import RouterMetrics.Fleet.Member
import RouterMetrics.Fleet.Visit
import RouterMetrics.Journal
import RouterMetrics.Main
import RouterMetrics.Metric.Converter
import RouterMetrics.Metric.Descriptor
import RouterMetrics.Metric.Duration
import RouterMetrics.Metric.Property
import RouterMetrics.Metric.Sink
import RouterMetrics.Network
import RouterMetrics.OrderedMap
import RouterMetrics.Program
import RouterMetrics.Proofs.Text.CodePage
import RouterMetrics.Proofs.Wire.Framing
import RouterMetrics.Proofs.Wire.Length
import RouterMetrics.Service
import RouterMetrics.Session.Client
import RouterMetrics.Session.Dial
import RouterMetrics.Session.Peer
import RouterMetrics.Session.Reply
import RouterMetrics.Text.Base64
import RouterMetrics.Text.Blank
import RouterMetrics.Text.Case
import RouterMetrics.Text.Channel
import RouterMetrics.Text.CharRange
import RouterMetrics.Text.CodePage
import RouterMetrics.Text.DecimalDigit
import RouterMetrics.Text.Hex
import RouterMetrics.Text.Line
import RouterMetrics.Text.Printable
import RouterMetrics.Text.Quoted
import RouterMetrics.Text.Split
import RouterMetrics.Text.Utf8
import RouterMetrics.Web.Address
import RouterMetrics.Web.Host
import RouterMetrics.Web.Server
import RouterMetrics.Web.Target
import RouterMetrics.Wire.Fault
import RouterMetrics.Wire.Inbox
import RouterMetrics.Wire.Length
import RouterMetrics.Wire.Sentence
import RouterMetrics.Wire.Word
import RouterMetrics.Wire.Writer
import RouterMetrics.Yaml.Block
import RouterMetrics.Yaml.Building
import RouterMetrics.Yaml.Cursor
import RouterMetrics.Yaml.Document
import RouterMetrics.Yaml.Fault
import RouterMetrics.Yaml.Moment
import RouterMetrics.Yaml.Node
import RouterMetrics.Yaml.Plain
import RouterMetrics.Yaml.Quoted
import RouterMetrics.Yaml.ScalarText
import RouterMetrics.Yaml.Tag
import RouterMetrics.Yaml.Token
import RouterMetrics.Yaml.Value
import RouterMetrics.Proofs.OrderedMap
import RouterMetrics.Proofs.Wire.Sentence
import RouterMetrics.Proofs.Metric.Emitting
import RouterMetrics.Proofs.Session.Exchange
import RouterMetrics.Proofs.Session.Ready
import RouterMetrics.Proofs.Collector.Conduct
import RouterMetrics.Proofs.Collector.Scripted
import RouterMetrics.Proofs.Collector.Sampled
import RouterMetrics.Proofs.Collector.SeveralRequests
import RouterMetrics.Proofs.Collector.SingleRequest
import RouterMetrics.Proofs.Session.Login
import RouterMetrics.Proofs.Collector.Routine
import RouterMetrics.Proofs.Fleet.History
import RouterMetrics.Proofs.Fleet.OwnReplies
import RouterMetrics.Proofs.Collector.Hindering
import RouterMetrics.Proofs.Fleet.Turns
import RouterMetrics.Proofs.Collector.Course
import RouterMetrics.Proofs.Collector.Anonymous
import RouterMetrics.Proofs.Collector.Group
import RouterMetrics.Proofs.Metric.Sink
import RouterMetrics.Proofs.Exposition
import RouterMetrics.Proofs.Fleet.Round
import RouterMetrics.Proofs.Service
import RouterMetrics.Proofs.Fleet.Connections
import RouterMetrics.Proofs.Fleet.Caching
import RouterMetrics.Proofs.Fleet.Parallel
import RouterMetrics.Proofs.Fleet.Reports
import RouterMetrics.Proofs.Collector.LabelCount
import RouterMetrics.Proofs.Fleet.Description
import RouterMetrics.Proofs.Yaml.Building
import RouterMetrics.Proofs.Config.Features
import RouterMetrics.Proofs.Config.Loading
import RouterMetrics.Proofs.Fleet.Assembly
import RouterMetrics.Proofs.Fleet.Dealings
import RouterMetrics.Proofs.Wire.Sent
import RouterMetrics.Proofs.Collector.Requests
import RouterMetrics.Proofs.Fleet.Dialling
import RouterMetrics.Proofs.Fleet.Permitted
import RouterMetrics.Proofs.Session.Challenge
import RouterMetrics.Proofs.Fleet.LoginFirst
import RouterMetrics.Proofs.Wire.Received
import RouterMetrics.Proofs.Session.Received
import RouterMetrics.Proofs.Collector.FollowUp
import RouterMetrics.Proofs.Config.Reported
import RouterMetrics.Proofs.Config.Shapes
import RouterMetrics.Proofs.Program
import RouterMetrics.Proofs.Wire.Utterance
import RouterMetrics.Proofs.Session.Conclusion
import RouterMetrics.Proofs.Session.Traceless
import RouterMetrics.Proofs.Metric.Offer
import RouterMetrics.Proofs.Collector.Conversions
import RouterMetrics.Proofs.Collector.Plan
import RouterMetrics.Proofs.Collector.Planned
import RouterMetrics.Proofs.Collector.Isolation
import RouterMetrics.Proofs.Metric.Duration
import RouterMetrics.Proofs.Collector.Rows
import RouterMetrics.Proofs.Collector.Sensors
import RouterMetrics.Proofs.Config.Checks
import RouterMetrics.Proofs.Config.Defects
import RouterMetrics.Proofs.Wire.PrefixCode
import RouterMetrics.Proofs.Session.Answering
import RouterMetrics.Proofs.Collector.ChannelParts
import RouterMetrics.Proofs.Config.Disabled
import RouterMetrics.Proofs.CommandLine.Numbers
import RouterMetrics.Proofs.Config.Numbers
import RouterMetrics.Proofs.Web.Address
import RouterMetrics.Proofs.Settings
import RouterMetrics.Proofs.Metric.Grouping
