import CasperSidecar.Lib.RingBuffer
import CasperSidecar.Lib.PullStream
import CasperSidecar.Lib.UniqueIndex
import CasperSidecar.Lib.Transition
import CasperSidecar.Lib.Records
import CasperSidecar.Lib.Decimal
import CasperSidecar.Lib.Route
import CasperSidecar.Types.SseData
import CasperSidecar.EventStreamServer.SseServer
import CasperSidecar.EventStreamServer.EventIndexer
import CasperSidecar.EventStreamServer.HttpServer
import CasperSidecar.EventStreamServer.Replay
import CasperSidecar.EventStreamServer.Server
import CasperSidecar.EventStreamServer.Buffer
import CasperSidecar.EventStreamServer.Versions
import CasperSidecar.EventStreamServer.Handover
import CasperSidecar.EventStreamServer.Startup
import CasperSidecar.EventStreamServer.Request
import CasperSidecar.EventStreamServer.Provenance
import CasperSidecar.Database.Types
import CasperSidecar.Database.MigrationManager
import CasperSidecar.Database.MigrationHistory
import CasperSidecar.Database.MigrationFailures
import CasperSidecar.Database.EventStore
import CasperSidecar.Database.Reader
import CasperSidecar.RestServer.Filters
import CasperSidecar.Sidecar.EventHandling
import CasperSidecar.Sidecar.Consumers
import CasperSidecar.Sidecar.Broadcasting
import CasperSidecar.Listener.EventListener
import CasperSidecar.Listener.LastEventId
import CasperSidecar.Listener.ConnectionTasks
import CasperSidecar.Listener.SseConnector
import CasperSidecar.Listener.KeepAlive
import CasperSidecar.Listener.AttemptLoop
import CasperSidecar.Listener.ConnectionManager
import CasperSidecar.Listener.Wire
