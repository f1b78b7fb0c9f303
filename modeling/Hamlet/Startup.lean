import Hamlet.Lib.LastWrite
import Hamlet.Services

/-!
# Startup

`App::initialize` and what it calls, in its order: detecting mosquitto, the CA, the broker's
certificate, `mosquitto.conf` and the password file, the node's identity, the registrations, and
the starts. Between the starts it waits for the first `ConnAck` of the local broker. The two
subscriptions after that are left out: they fit into the request queue, and a failure is logged.
Files lie at locations, so that two spellings of one path are one file. Mosquitto is a parameter:
it answers the client by the files that it finds.
-/

namespace Hamlet

open UnixPath

/-- What lies at a location. -/
abbrev Disk : Type := List String → Option String

def Disk.has (disk : Disk) (file : AbsPath) (text : String) : Bool := disk file.resolve == some text

/-- Users and passwords of a password file, by its location. -/
abbrev PasswordFiles : Type := List String → List (String × String)

structure NodeFiles where
  disk : Disk
  passwords : PasswordFiles

/-- What the outside world answers. -/
structure StartupWorld where
  /-- Where `which` finds a binary. -/
  which : String → Option String
  /-- `CaService::register`, then `ca_cert_pem`. -/
  caCertPem : Except String String
  /-- `generate_broker_cert`: certificate and key. -/
  brokerCert : Except String (String × String)
  /-- `ensure_node_identity`: certificate and key. -/
  nodeIdentity : Except String (String × String)
  createDirAll : AbsPath → Except String Unit
  write : AbsPath → Except String Unit
  /-- Running `mosquitto_passwd`. -/
  passwd : Except String Unit
  start : ServiceId → World
  /-- Whether mosquitto, started with this configuration file, acknowledges the client. -/
  connAck : AbsPath → MqttClientConfig → NodeFiles → Bool

namespace StartupWorld

variable (w : StartupWorld)

/-- `is_available` of the capabilities for `mosquitto`. -/
def available : Bool := (w.which "mosquitto").isSome

def writeFile (disk : Disk) (file : AbsPath) (text : String) : Except String Disk :=
  (w.write file).map fun _ => LastWrite.write disk file.resolve text

def createParent (file : AbsPath) : Except String Unit :=
  match file.parent with
  | some dir => w.createDirAll dir
  | none => .ok ()

/-- `provision_mqtt_broker_cert`. -/
def provisionMqttBrokerCert (cfg : MqttBrokerageConfig) (disk : Disk) : Except String Disk := do
  (w.createParent cfg.certfile).mapError ("Failed to create broker cert dir: " ++ ·)
  let caCertPem ← w.caCertPem
  let disk ← (w.writeFile disk cfg.cafile caCertPem).mapError
    ("Failed to write broker CA cert: " ++ ·)
  let (certPem, keyPem) ← w.brokerCert
  let disk ← (w.writeFile disk cfg.certfile certPem).mapError ("Failed to write broker cert: " ++ ·)
  (w.writeFile disk cfg.keyfile keyPem).mapError ("Failed to write broker key: " ++ ·)

/-- `provision_node_identity`. -/
def provisionNodeIdentity (cfg : MqttClientConfig) (disk : Disk) : Except String Disk :=
  match cfg.certfile, cfg.keyfile with
  | none, _ => .error "provision_node_identity requires a client cert path"
  | some _, none => .error "provision_node_identity requires a client key path"
  | some certfile, some keyfile => do
    let (certPem, keyPem) ← w.nodeIdentity
    (w.createParent certfile).mapError ("Failed to create cert dir: " ++ ·)
    let disk ← (w.writeFile disk certfile certPem).mapError ("Failed to write node cert: " ++ ·)
    (w.writeFile disk keyfile keyPem).mapError ("Failed to write node key: " ++ ·)

/-- `set_password`. -/
def setPassword (cfg : MqttBrokerageConfig) (passwords : PasswordFiles) :
    Except String PasswordFiles :=
  match w.which "mosquitto_passwd" with
  | none => .error "mosquitto_passwd is not installed"
  | some _ => w.passwd.map fun _ =>
    let file := cfg.passwordFile.resolve
    Function.update passwords file
      ((cfg.username, cfg.password) :: (passwords file).filter (·.1 ≠ cfg.username))

/-- What the file system answers to `write_config`. -/
def configDisk (cfg : MqttBrokerageConfig) : MqttBrokerageConfig.ConfigDisk where
  createDirAll := w.createParent cfg.configFile
  write := w.write cfg.configFile

/-- The files that `register_onto` of the broker writes. Failures are logged. -/
def configureBroker (cfg : MqttBrokerageConfig) (files : NodeFiles) : NodeFiles :=
  if w.available then
    let files := match cfg.writeConfig (w.configDisk cfg) with
      | .ok (file, text) => { files with disk := LastWrite.write files.disk file.resolve text }
      | .error _ => files
    if cfg.tlsEnabled then files
    else match w.setPassword cfg files.passwords with
      | .ok passwords => { files with passwords }
      | .error _ => files
  else files

/-- What a service meets when it is started. -/
def meets (files : NodeFiles) (id : ServiceId) : World :=
  { w.start id with
    fileExists := fun file => (files.disk file.resolve).isSome
    readFile := fun file =>
      if (files.disk file.resolve).isSome then (w.start id).readFile file
      else .error "No such file or directory (os error 2)" }

end StartupWorld

/-! ### The whole of it -/

/-- `register_onto` of the gateway client registers nothing without a URL and credentials. -/
def GatewayRegistrationConfig.enabled (cfg : GatewayRegistrationConfig) : Bool :=
  cfg.gatewayUrl.isSome && cfg.username ≠ "" && cfg.password ≠ ""

inductive Startup where
  /-- `std::process::exit(1)`. -/
  | exited (reason : String)
  /-- In `mqtt_connected_rx.await`, for ever. -/
  | waiting (sup : Supervisor Service)
  | ready (sup : Supervisor Service)

namespace App

variable (w : StartupWorld)

/-- The services as they are registered. -/
def registered (config : Config) : Supervisor Service :=
  let sup := Supervisor.new
  let sup := sup.register .mosquitto (.new config .mosquitto) w.available
  let sup := sup.register .gateway (.new config .gateway) true
  let sup := sup.register .mqttClient (.new config .mqttClient) w.available
  if config.gatewayRegistration.enabled then
    sup.register .gatewayMqttClient (.new config .gatewayMqttClient) true
  else sup

def startService (files : NodeFiles) (sup : Supervisor Service) (id : ServiceId) :
    Except String Unit × Supervisor Service :=
  sup.handleStart Service.managed id (w.meets files id)

/-- `start_gateway` and `start_gateway_mqtt`. -/
def startGateways (config : Config) (files : NodeFiles) (sup : Supervisor Service) : Startup :=
  let (_, sup) := startService w files sup .gateway
  if config.gatewayRegistration.enabled then
    .ready (startService w files sup .gatewayMqttClient).2
  else .ready sup

/-- From the spawn of the supervisor on. -/
def startAll (config : Config) (files : NodeFiles) (sup : Supervisor Service) : Startup :=
  if w.available then
    let (_, sup) := startService w files sup .mosquitto
    -- also after a failure
    let (started, sup) := startService w files sup .mqttClient
    match started with
    | .error _ =>
      -- `start` has dropped the sender
      startGateways w config files sup
    | .ok () =>
      if (sup.statuses .mosquitto matches some (.running _)) &&
          w.connAck config.mqttBrokerage.configFile config.mqttClient files then
        startGateways w config files sup
      else .waiting sup
  else startGateways w config files sup

/-- The files at that point, or the error with which the process exits. -/
def provision (config : Config) (files : NodeFiles) : Except String NodeFiles := do
  let _ ← w.caCertPem
  let disk ← if config.mqttBrokerage.tlsEnabled then
      w.provisionMqttBrokerCert config.mqttBrokerage files.disk
    else pure files.disk
  let files := w.configureBroker config.mqttBrokerage { files with disk }
  let disk ← if config.mqttClient.tlsMode = .mutual then
      w.provisionNodeIdentity config.mqttClient files.disk
    else pure files.disk
  pure { files with disk }

/-- `App::initialize`. -/
def initializeApp (config : Config) (files : NodeFiles) : Startup :=
  match provision w config files with
  | .error e => .exited e
  | .ok files => startAll w config files (registered w config)

end App

end Hamlet
