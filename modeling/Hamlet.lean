import Hamlet.Lib.Runs
import Hamlet.Lib.KeyedTable
import Hamlet.Lib.BoundedQueue
import Hamlet.Ca
import Hamlet.Config
import Hamlet.BeaconManagement.Handlers
import Hamlet.BeaconManagement.MessageLoop
import Hamlet.BeaconManagement.KeyManagement
import Hamlet.BroadcastLoop
import Hamlet.CloudGateway.ConnectionTask
import Hamlet.Properties.KeyLifecycle
import Hamlet.Services
import Hamlet.Properties.Transport
import Hamlet.Properties.TopicOwnership
import Hamlet.Properties.GatewayOwnership
import Hamlet.Properties.Handshake
import Hamlet.Properties.IdentityFiles
import Hamlet.Properties.Registration
import Hamlet.Properties.Restart
import Hamlet.Properties.Supervision
import Hamlet.Properties.FailedStart
import Hamlet.Properties.Subscriptions
import Hamlet.Properties.CircularWait
import Hamlet.Properties.GatewaySession
import Hamlet.GatewayMqtt.ConnectionTask
import Hamlet.Properties.GatewayPublishes
import Hamlet.Properties.Pacing
import Hamlet.Properties.Sweep
import Hamlet.Properties.Timeouts
import Hamlet.Properties.Interference
import Hamlet.Properties.LoginDiscipline
import Hamlet.Properties.GatewayPacing
import Hamlet.Properties.GatewayExclusion
import Hamlet.Properties.GatewayAddresses
import Hamlet.Properties.DeviceCerts
import Hamlet.CaIdentity
import Hamlet.Properties.StableIdentity
import Hamlet.GatewayMqtt.Login
import Hamlet.Lib.UriHost
import Hamlet.Properties.LoginUrl
import Hamlet.Properties.DialledHost
import Hamlet.Properties.TokenSlots
import Hamlet.Properties.BroadcastConfig
import Hamlet.Lib.ActorRuns
import Hamlet.Properties.SupervisorCalls
import Hamlet.Properties.ClientShutdown
import Hamlet.Properties.Broadcasts
import Hamlet.Properties.Staleness
import Hamlet.Properties.MissingBroker
import Hamlet.Properties.StartupServes
import Hamlet.Properties.GatewayPort
import Hamlet.Properties.PointOfNoReturn
import Hamlet.BeaconManagement.GatewayLinks
import Hamlet.Properties.AdvertDelivery
