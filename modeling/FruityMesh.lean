import FruityMesh.Library.Cells
import FruityMesh.Library.Loops
import FruityMesh.Library.OrderedMap
import FruityMesh.Library.LittleEndian
import FruityMesh.Library.NumberText
import FruityMesh.Library.RecordRing
import FruityMesh.Library.Forest
import FruityMesh.Library.Ports
import FruityMesh.Library.Flood
import FruityMesh.Library.Streams
import FruityMesh.Library.Spread
import FruityMesh.Library.Runs
import FruityMesh.Library.Endings
import FruityMesh.Library.Reads
import FruityMesh.Types
import FruityMesh.PacketQueue
import FruityMesh.PacketQueueFifo
import FruityMesh.SimpleQueue
import FruityMesh.SimpleQueueFifo
import FruityMesh.SimpleBuffer
import FruityMesh.ConnPackets
import FruityMesh.Logger
import FruityMesh.MainLoop
import FruityMesh.Terminal
import FruityMesh.Storage
import FruityMesh.StorageTasks
import FruityMesh.StorageRoom
import FruityMesh.StorageSteps
import FruityMesh.Transport.Connection
import FruityMesh.Transport.Frames
import FruityMesh.Transport.LongPackets
import FruityMesh.Transport.Sender
import FruityMesh.Transport.Link
import FruityMesh.Transport.Edits
import FruityMesh.Transport.Flow
import FruityMesh.Transport.Filling
import FruityMesh.Transport.Room
import FruityMesh.Transport.Reassembly
import FruityMesh.Mesh.Node
import FruityMesh.Mesh.Net
import FruityMesh.Mesh.Receive
import FruityMesh.Mesh.Protocol
import FruityMesh.Mesh.Effects
import FruityMesh.Mesh.Accounting
import FruityMesh.Mesh.Tree
import FruityMesh.Mesh.Relay
import FruityMesh.Mesh.Streams
import FruityMesh.Mesh.Clocks
import FruityMesh.Mesh.Air
import FruityMesh.Mesh.SinkRouting
import FruityMesh.Mesh.HopLimit
import FruityMesh.Mesh.LightToggle
import FruityMesh.Mesh.Sizes
import FruityMesh.Mesh.Stages
import FruityMesh.Mesh.HopTables
import FruityMesh.Mesh.HopRuns
import FruityMesh.Mesh.ClusterIds
import FruityMesh.Mesh.GeneratedIds
import FruityMesh.Mesh.Handshake
import FruityMesh.Mesh.Phone
import FruityMesh.Mesh.Feign
import FruityMesh.Mesh.Slots
import FruityMesh.Mesh.Discovery
import FruityMesh.Mesh.StateChanges
import FruityMesh.Mesh.DiscoveryModes
import FruityMesh.Mesh.JoinMe
import FruityMesh.Mesh.Neighbours
import FruityMesh.Mesh.RetryStorage
import FruityMesh.Modules.Module
import FruityMesh.Modules.Packet
import FruityMesh.Modules.Sending
import FruityMesh.Modules.RemoteConfiguration
import FruityMesh.Modules.VotingModule
import FruityMesh.Modules.EnrollmentModule
import FruityMesh.Modules.Configuration
import FruityMesh.Modules.Restarts
import FruityMesh.Modules.TagId
import FruityMesh.Modules.NFCModule
import FruityMesh.Modules.RssiMeasurement
import FruityMesh.Modules.GatewayModule
import FruityMesh.Modules.DebugModule
import FruityMesh.Modules.Stations
import FruityMesh.Modules.LightButton
import FruityMesh.Modules.ScanningModule
import FruityMesh.Modules.HeartbeatModule
import FruityMesh.Modules.Answers
import FruityMesh.Modules.Votes
import FruityMesh.Mesh.Inbound
import FruityMesh.Mesh.Bounds
import FruityMesh.Mesh.ScanResponse
