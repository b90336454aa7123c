import LatencyExporter.Core.Bpf.Common
import LatencyExporter.Core.Bpf.Block
import LatencyExporter.Core.Bpf.Nfs
import LatencyExporter.Core.Ebpf.Histogram
import LatencyExporter.Lib.Stopwatch
import LatencyExporter.Theory.Bits
import LatencyExporter.Theory.Histogram
import LatencyExporter.Theory.Tracing
import LatencyExporter.Lib.MapTotal
import LatencyExporter.Theory.Ignored
import LatencyExporter.Theory.Provenance
import LatencyExporter.Theory.Threads
import LatencyExporter.Theory.Counters
import LatencyExporter.Core.Bpf.Concurrent
import LatencyExporter.Theory.Concurrent
import LatencyExporter.Theory.Alone
import LatencyExporter.Core.Prometheus
import LatencyExporter.Core.Qmp.Types
import LatencyExporter.Core.Qmp.Collector
import LatencyExporter.Lib.Tagged
import LatencyExporter.Theory.QmpSeries
import LatencyExporter.Core.Qga.Collector
import LatencyExporter.Theory.Claims
import LatencyExporter.Core.Device.Mounts
import LatencyExporter.Core.Device.Resolver
import LatencyExporter.Core.Ebpf.Collector
import LatencyExporter.Theory.Armed
import LatencyExporter.Theory.DeviceNumbers
import LatencyExporter.Theory.EbpfSeries
import LatencyExporter.Theory.Conservation
import LatencyExporter.Lib.Overwrite
import LatencyExporter.Theory.MountOrder
import LatencyExporter.Core.Ebpf.Loader
import LatencyExporter.Theory.Loader
import LatencyExporter.Core.Poll
import LatencyExporter.Core.Qga.Poll
import LatencyExporter.Core.Qmp.Poll
import LatencyExporter.Theory.Polling
import LatencyExporter.Theory.Lifecycle
import LatencyExporter.Theory.PollErrors
import LatencyExporter.Theory.Exclusion
import LatencyExporter.Theory.QgaSeries
import LatencyExporter.Theory.DeviceTable
import LatencyExporter.Lib.Retry
import LatencyExporter.Theory.CounterWrap
import LatencyExporter.Theory.Retries
import LatencyExporter.Core.Qga.DiskMap
import LatencyExporter.Theory.LatencySum
import LatencyExporter.Theory.DiskLabels
import LatencyExporter.Theory.Hotplug
import LatencyExporter.Core.Config
import LatencyExporter.Core.Startup
import LatencyExporter.Theory.Boundaries
import LatencyExporter.Theory.Startup
import LatencyExporter.Core.Qga.Wmi
import LatencyExporter.Theory.WmiCsv
import LatencyExporter.Lib.RunningTotals
import LatencyExporter.Theory.Buckets
import LatencyExporter.Theory.MountLine
import LatencyExporter.Core.Device.Patterns
import LatencyExporter.Lib.Paths
import LatencyExporter.Theory.KubeletPaths
import LatencyExporter.Core.Goroutines
import LatencyExporter.Theory.Goroutines
import LatencyExporter.Lib.Simulation
import LatencyExporter.Theory.Histories
import LatencyExporter.Core.Bpf.Lru
import LatencyExporter.Lib.Eviction
import LatencyExporter.Theory.Eviction
import LatencyExporter.Theory.NestedCalls
import LatencyExporter.Theory.EndToEnd
import LatencyExporter.Core.Scrapes
import LatencyExporter.Theory.Scrapes
import LatencyExporter.Lib.Json
import LatencyExporter.Lib.Marshal
import LatencyExporter.Lib.Base64
import LatencyExporter.Lib.Unmarshal
import LatencyExporter.Core.Qmp.Client
import LatencyExporter.Theory.Wire
import LatencyExporter.Core.Qga.Client
import LatencyExporter.Theory.GuestAgent
import LatencyExporter.Theory.Drives
import LatencyExporter.Theory.Replugging
