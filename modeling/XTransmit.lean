import XTransmit.Shared.Bytes
import XTransmit.Shared.FileStream
import XTransmit.Shared.StdString
import XTransmit.Shared.Stoi
import XTransmit.Shared.PathNames
import XTransmit.Shared.Multimap
import XTransmit.Shared.StreamParts
import XTransmit.Shared.Transition
import XTransmit.Shared.Csv
import XTransmit.Shared.Effects
import XTransmit.Shared.Records
import XTransmit.Metrics.Payload
import XTransmit.Metrics.PayloadFormat
import XTransmit.Metrics.Estimators
import XTransmit.Metrics.Validator
import XTransmit.Metrics.Bounds
import XTransmit.Metrics.Channel
import XTransmit.Metrics.Corruption
import XTransmit.Metrics.Reordering
import XTransmit.Metrics.LatencyPeriods
import XTransmit.Metrics.JitterRecursion
import XTransmit.Metrics.DelayFactorPeriods
import XTransmit.Metrics.MetricsWriter
import XTransmit.Metrics.Reception
import XTransmit.Metrics.Passes
import XTransmit.Metrics.MetricsTable
import XTransmit.Addresses.CreateAddr
import XTransmit.Addresses.BindOption
import XTransmit.Addresses.GroupBind
import XTransmit.Connections.Pipes
import XTransmit.Connections.CommonRun
import XTransmit.Connections.Exits
import XTransmit.Connections.Accounting
import XTransmit.Connections.Limits
import XTransmit.Connections.Reconnect
import XTransmit.Connections.Pace
import XTransmit.Connections.Shutdown
import XTransmit.Connections.CreateConnection
import XTransmit.Connections.Listening
import XTransmit.Connections.Scheduler
import XTransmit.Connections.TimerLoop
import XTransmit.Connections.TimerProgress
import XTransmit.Connections.GroupRegistry
import XTransmit.Connections.GroupLifetime
import XTransmit.Connections.GroupReconnections
import XTransmit.Connections.GroupConstruction
import XTransmit.Connections.Monitoring
import XTransmit.Pacing.Pacer
import XTransmit.Pacing.Rate
import XTransmit.Pacing.CsvPacer
import XTransmit.Streams.Generate
import XTransmit.Streams.Source
import XTransmit.Streams.Relay
import XTransmit.Streams.RouteRun
import XTransmit.Streams.RelayChain
import XTransmit.Statistics.Reports
import XTransmit.Statistics.StatsWriter
import XTransmit.Statistics.Encoders
import XTransmit.FileTransfer.Segment
import XTransmit.FileTransfer.Send
import XTransmit.FileTransfer.SendRounds
import XTransmit.FileTransfer.SendSegments
import XTransmit.FileTransfer.Truthful
import XTransmit.FileTransfer.Folders
import XTransmit.FileTransfer.Subfolders
import XTransmit.FileTransfer.SubfolderScan
import XTransmit.FileTransfer.ReadDirectory
import XTransmit.FileTransfer.Destination
import XTransmit.FileTransfer.Assembly
import XTransmit.FileTransfer.Receive
import XTransmit.FileTransfer.Ranges
import XTransmit.FileTransfer.Framing
import XTransmit.FileTransfer.RoundTrip
import XTransmit.FileTransfer.Malformed
import XTransmit.FileTransfer.Replication
import XTransmit.Forwarding.Node
import XTransmit.Forwarding.Routes
import XTransmit.Forwarding.Delivery
import XTransmit.Forwarding.Rounds
