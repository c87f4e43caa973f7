import Graftx.Protocol.CodecLaws
import Graftx.Handles.Runs
import Graftx.Handles.WellFormed
import Graftx.Handles.Contents
import Graftx.Handles.Bulk
import Graftx.Server.NullHandle
import Graftx.Server.Parents
import Graftx.Server.Vulkan
import Graftx.Server.Compute
import Graftx.Server.Media
import Graftx.Server.Optix
import Graftx.Server.Isolation
import Graftx.Server.Dangling
import Graftx.Server.VkRefinement
import Graftx.Server.OptixDestroy
import Graftx.Server.Replies
import Graftx.Server.HandshakeGate
import Graftx.Server.ApiIsolation
import Graftx.Server.FrameCap
import Graftx.Server.AcceptedFrames
import Graftx.Server.KindGate
import Graftx.Client.Versions
import Graftx.Transport.StreamLaws
import Graftx.Server.Metrics
import Graftx.Server.Pipeline
import Graftx.Trace.Fidelity
import Graftx.Client.Agreement
import Graftx.Client.Correlation
import Graftx.Client.LengthChecks
import Graftx.Client.Ids
import Graftx.Protocol.Reservation
import Graftx.Server.BufferBinding
import Graftx.Server.Progress
import Graftx.Obs.OrderFree
import Graftx.Obs.JsonText
import Graftx.Xtask.Lock
import Graftx.Xtask.Report
import Graftx.Xtask.Extraction
import Graftx.Loadtest.Counts
import Graftx.Server.Meters
import Graftx.Trace.Offline
import Graftx.Fuzz.Exercise
import Graftx.Handles.HighWater
import Graftx.Server.Conservation
import Graftx.Server.Routing
import Graftx.Server.Listener
import Graftx.Obs.Guards
import Graftx.Obs.LatencyText
import Graftx.Xtask.Coverage
import Graftx.Xtask.Lint
import Graftx.Xtask.Runner
