import Hamlet.Config
import Hamlet.Supervisor

/-!
# The managed services

The five implementations of `ManagedService`, reduced to the fields that `start`, `stop`
and `is_running` read and write. A channel end or a shutdown sender held in an `Option` is
present or absent.
-/

namespace Hamlet

open UnixPath

/-- What the outside world answers while one command is processed. -/
structure World where
  bind : Except String Unit
  localAddr : Except String Unit
  /-- `build_tls_config` of the HTTPS gateway. -/
  tlsConfig : Except String Unit
  readFile : AbsPath → Except String Unit
  /-- Parsing a pinned gateway CA and adding it to the root store. -/
  gatewayCa : Except String Unit
  fileExists : AbsPath → Bool
  /-- The spawned child and its process id, if it has one. -/
  spawn : Except String (Option UInt32)
  /-- `try_wait` reports that the child is alive. -/
  childAlive : Bool

/-- Every external operation succeeds. -/
structure World.Healthy (world : World) : Prop where
  bind : world.bind = .ok ()
  localAddr : world.localAddr = .ok ()
  tlsConfig : world.tlsConfig = .ok ()
  readFile : ∀ file, world.readFile file = .ok ()
  gatewayCa : world.gatewayCa = .ok ()
  fileExists : ∀ file, world.fileExists file
  spawn : ∃ pid, world.spawn = .ok (some pid)

/-! ### The HTTP gateway -/

structure GatewayService where
  config : HttpConfig
  shutdownTx : Bool
  deriving DecidableEq

namespace GatewayService

def new (config : HttpConfig) : GatewayService := ⟨config, false⟩

/-- `GatewayService::initialize`. -/
def bindGateway (world : World) (svc : GatewayService) : Except String Unit :=
  let addr := svc.config.host ++ ":" ++ toString svc.config.port.toNat
  match world.bind with
  | .error e => .error ("Failed to bind listener on " ++ addr ++ ": " ++ e)
  | .ok () =>
    match world.localAddr with
    | .error e => .error ("Failed to get local address: " ++ e)
    | .ok () => .ok ()

/-- The shutdown sender is stored before the TLS configuration is built. -/
def start (world : World) (svc : GatewayService) : Except String UInt32 × GatewayService :=
  if svc.shutdownTx then (.error "GatewayService is already running", svc)
  else
    match svc.bindGateway world with
    | .error e => (.error e, svc)
    | .ok () =>
      -- from here on `is_running` reports true, also when the call fails
      let svc := { svc with shutdownTx := true }
      if svc.config.tlsEnabled then
        match world.tlsConfig with
        | .error e => (.error e, svc)
        | .ok () => (.ok 0, svc)
      else (.ok 0, svc)

def stop (_ : World) (svc : GatewayService) : Except String Unit × GatewayService :=
  if svc.shutdownTx then (.ok (), { svc with shutdownTx := false })
  else (.error "GatewayService is not running", svc)

def isRunning (_ : World) (svc : GatewayService) : Bool × GatewayService := (svc.shutdownTx, svc)

end GatewayService

/-! ### The broker process -/

structure MosquittoBrokerageService where
  config : MqttBrokerageConfig
  /-- The child's process id. -/
  child : Option UInt32
  deriving DecidableEq

namespace MosquittoBrokerageService

def new (config : MqttBrokerageConfig) : MosquittoBrokerageService := ⟨config, none⟩

def start (world : World) (svc : MosquittoBrokerageService) :
    Except String UInt32 × MosquittoBrokerageService :=
  if svc.child.isSome then (.error "Mosquitto is already running", svc)
  else if world.fileExists svc.config.configFile then
    match world.spawn with
    | .error e => (.error ("Failed to spawn mosquitto: " ++ e), svc)
    | .ok none => (.error "Failed to get mosquitto PID", svc)
    | .ok (some pid) => (.ok pid, { svc with child := some pid })
  else
    (.error ("Config file not found at " ++ svc.config.configFile.display ++
      ". Call write_config() first."), svc)

/-- However waiting for the child ends, it is taken out and the call succeeds. -/
def stop (_ : World) (svc : MosquittoBrokerageService) :
    Except String Unit × MosquittoBrokerageService :=
  if svc.child.isSome then (.ok (), { svc with child := none })
  else (.error "Mosquitto is not running", svc)

def isRunning (world : World) (svc : MosquittoBrokerageService) :
    Bool × MosquittoBrokerageService :=
  if svc.child.isSome then
    if world.childAlive then (true, svc) else (false, { svc with child := none })
  else (false, svc)

end MosquittoBrokerageService

/-! ### The local MQTT client -/

/-- `build_mqtt_opts`, as far as it can fail. -/
def buildMqttOpts (config : MqttClientConfig) (world : World) : Except String Unit :=
  match config.tlsMode with
  | .none => .ok ()
  | .serverOnly =>
    match config.cafile with
    | none => .ok ()
    | some cafile =>
      match world.readFile cafile with
      | .error e => .error ("Failed to read gateway CA '" ++ cafile.display ++ "': " ++ e)
      | .ok () => world.gatewayCa
  | .mutual =>
    match config.cafile, config.certfile, config.keyfile with
    | none, _, _ => .error "Mutual TLS requires a CA file"
    | some _, none, _ => .error "Mutual TLS requires a client cert"
    | some _, some _, none => .error "Mutual TLS requires a client key"
    | some cafile, some certfile, some keyfile =>
      match world.readFile cafile, world.readFile certfile, world.readFile keyfile with
      | .error e, _, _ => .error ("Failed to read CA cert '" ++ cafile.display ++ "': " ++ e)
      | .ok (), .error e, _ =>
        .error ("Failed to read client cert '" ++ certfile.display ++ "': " ++ e)
      | .ok (), .ok (), .error e =>
        .error ("Failed to read client key '" ++ keyfile.display ++ "': " ++ e)
      | .ok (), .ok (), .ok () => .ok ()

structure MqttClientService where
  config : MqttClientConfig
  cmdRx : Bool
  outRx : Bool
  connectedTx : Bool
  shutdownTx : Bool
  cmdShutdownTx : Bool
  deriving DecidableEq

namespace MqttClientService

def new (config : MqttClientConfig) : MqttClientService where
  config := config
  cmdRx := true
  outRx := true
  connectedTx := true
  shutdownTx := false
  cmdShutdownTx := false

/-- The three ends are taken one after the other; what was taken before a missing one is
gone. -/
def takeChannels (svc : MqttClientService) : Except String Unit × MqttClientService :=
  if !svc.cmdRx then (.error "MqttClientService command receiver already consumed", svc)
  else
    let svc := { svc with cmdRx := false }
    if !svc.outRx then (.error "MqttClientService outbound receiver already consumed", svc)
    else
      let svc := { svc with outRx := false }
      if !svc.connectedTx then
        (.error "MqttClientService connected sender already consumed", svc)
      else (.ok (), { svc with connectedTx := false })

def start (world : World) (svc : MqttClientService) : Except String UInt32 × MqttClientService :=
  if svc.shutdownTx then (.error "MqttClientService is already running", svc)
  else
    match svc.takeChannels with
    | (.error e, svc) => (.error e, svc)
    | (.ok (), svc) =>
      -- the channel ends are gone before the options can fail
      match buildMqttOpts svc.config world with
      | .error e => (.error e, svc)
      | .ok () => (.ok 0, { svc with shutdownTx := true, cmdShutdownTx := true })

def stop (_ : World) (svc : MqttClientService) : Except String Unit × MqttClientService :=
  if svc.shutdownTx then (.ok (), { svc with shutdownTx := false, cmdShutdownTx := false })
  else (.error "MqttClientService is not running", svc)

def isRunning (_ : World) (svc : MqttClientService) : Bool × MqttClientService :=
  (svc.shutdownTx, svc)

end MqttClientService

/-! ### The two cloud gateway clients

`GatewayMqttService` and `CloudGatewayService` share their lifecycle: `start` consumes the
receiver of the outbound queue, `stop` never fails. -/

structure OutboundService where
  name : String
  outboundRx : Bool
  shutdownTx : Bool
  deriving DecidableEq

namespace OutboundService

def gatewayMqttService : OutboundService := ⟨"GatewayMqttService", true, false⟩

def cloudGatewayService : OutboundService := ⟨"CloudGatewayService", true, false⟩

def start (_ : World) (svc : OutboundService) : Except String UInt32 × OutboundService :=
  if svc.outboundRx then (.ok 0, { svc with outboundRx := false, shutdownTx := true })
  else (.error (svc.name ++ " already started"), svc)

def stop (_ : World) (svc : OutboundService) : Except String Unit × OutboundService :=
  -- the outbound receiver went to the task and does not come back
  (.ok (), { svc with shutdownTx := false })

def isRunning (_ : World) (svc : OutboundService) : Bool × OutboundService := (svc.shutdownTx, svc)

end OutboundService

/-! ### All of them -/

/-- `Box<dyn ManagedService>`. -/
inductive Service where
  | gateway (svc : GatewayService)
  | mosquitto (svc : MosquittoBrokerageService)
  | mqttClient (svc : MqttClientService)
  | outbound (svc : OutboundService)
  deriving DecidableEq

namespace Service

def start (world : World) : Service → Except String UInt32 × Service
  | .gateway svc => (svc.start world).map id .gateway
  | .mosquitto svc => (svc.start world).map id .mosquitto
  | .mqttClient svc => (svc.start world).map id .mqttClient
  | .outbound svc => (svc.start world).map id .outbound

def stop (world : World) : Service → Except String Unit × Service
  | .gateway svc => (svc.stop world).map id .gateway
  | .mosquitto svc => (svc.stop world).map id .mosquitto
  | .mqttClient svc => (svc.stop world).map id .mqttClient
  | .outbound svc => (svc.stop world).map id .outbound

def isRunning (world : World) : Service → Bool × Service
  | .gateway svc => (svc.isRunning world).map id .gateway
  | .mosquitto svc => (svc.isRunning world).map id .mosquitto
  | .mqttClient svc => (svc.isRunning world).map id .mqttClient
  | .outbound svc => (svc.isRunning world).map id .outbound

def managed : ManagedService Service World := ⟨start, stop, isRunning⟩

/-- The service that the managers register under an id. -/
def new (config : Config) : ServiceId → Service
  | .gateway => .gateway (.new config.http)
  | .mosquitto => .mosquitto (.new config.mqttBrokerage)
  | .mqttClient => .mqttClient (.new config.mqttClient)
  | .cloudGateway => .outbound .cloudGatewayService
  | .gatewayMqttClient => .outbound .gatewayMqttService

end Service

end Hamlet
