import Hamlet.Lib.RustStr
import Hamlet.Lib.UnixPath

/-!
# Configuration from the environment

`Config::from_env` and the `mosquitto.conf` that `MqttBrokerageConfig::write_config`
generates. Broker and local client read the same variables independently, each with
its own defaults, so every reader below keeps the default text of its own source.
-/

namespace Hamlet

open UnixPath RustStr

/-- `std::env::var`: `none` for a variable that is unset or not valid Unicode. -/
abbrev Env := String → Option String

namespace Env

def text (env : Env) (name default : String) : String := (env name).getD default

/-- `.trim().eq_ignore_ascii_case("true")`. -/
def flag (env : Env) (name default : String) : Bool :=
  eqIgnoreAsciiCase (trim (env.text name default)) "true"

/-- `.parse().unwrap_or(fallback)`, without trimming. -/
def port (env : Env) (name default : String) (fallback : UInt16) : UInt16 :=
  (parseU16 (env.text name default)).getD fallback

def path (env : Env) (configDir : AbsPath) (name default : String) : AbsPath :=
  configDir.join (env.text name default)

end Env

/-- How an MQTT client authenticates its transport to a broker. -/
inductive MqttTlsMode where
  /-- Plaintext transport; the client authenticates with username and password. -/
  | none
  /-- Server-authenticated TLS; the client authenticates with username and password. -/
  | serverOnly
  /-- Mutual TLS; the client certificate is the identity. -/
  | mutual
  deriving DecidableEq, Repr

structure MqttClientConfig where
  clientId : String
  host : String
  port : UInt16
  tlsMode : MqttTlsMode
  cafile : Option AbsPath
  certfile : Option AbsPath
  keyfile : Option AbsPath
  username : String
  password : String
  deriving DecidableEq

def MqttClientConfig.fromEnv (configDir : AbsPath) (env : Env) : MqttClientConfig :=
  let isMutual := env.flag "MQTT_TLS_ENABLED" "false"
  { clientId := env.text "MQTT_CLIENT_ID" "hamlet"
    host := "localhost"
    tlsMode := if isMutual then .mutual else .none
    port := if isMutual then env.port "MQTTS_PORT" "8883" 8883 else env.port "MQTT_PORT" "1883" 1883
    cafile := some (env.path configDir "MQTT_CAFILE" "certs/ca.crt")
    certfile := some (env.path configDir "MQTT_CLIENT_CERTFILE" "certs/client.crt")
    keyfile := some (env.path configDir "MQTT_CLIENT_KEYFILE" "certs/client.key")
    username := env.text "MQTT_USERNAME" "placenet"
    password := env.text "MQTT_PASSWORD" "changeme" }

/-- The broker's settings. The certificate's subject alternative names are left out:
they reach nothing but the generated broker certificate. -/
structure MqttBrokerageConfig where
  port : UInt16
  clientId : String
  configFile : AbsPath
  passwordFile : AbsPath
  username : String
  password : String
  tlsEnabled : Bool
  mqttsPort : UInt16
  cafile : AbsPath
  certfile : AbsPath
  keyfile : AbsPath
  deriving DecidableEq

def MqttBrokerageConfig.fromEnv (configDir : AbsPath) (env : Env) : MqttBrokerageConfig where
  port := env.port "MQTT_PORT" "1883" 1883
  mqttsPort := env.port "MQTTS_PORT" "8883" 8883
  clientId := env.text "MQTT_CLIENT_ID" "hamlet"
  username := env.text "MQTT_USERNAME" "placenet"
  password := env.text "MQTT_PASSWORD" "changeme"
  tlsEnabled := env.flag "MQTT_TLS_ENABLED" "true"
  cafile := env.path configDir "MQTT_CAFILE" "certs/ca.crt"
  certfile := env.path configDir "MQTT_CERTFILE" "certs/broker.crt"
  keyfile := env.path configDir "MQTT_KEYFILE" "certs/broker.key"
  configFile := configDir.join "mosquitto.conf"
  passwordFile := configDir.join "passwd"

structure HttpConfig where
  host : String
  port : UInt16
  tlsEnabled : Bool
  upstreamPort : UInt16
  deriving DecidableEq

def HttpConfig.fromEnv (env : Env) : HttpConfig where
  host := env.text "HTTP_HOST" "0.0.0.0"
  port := env.port "HTTP_PORT" "8080" 8080
  tlsEnabled := env.flag "HTTP_TLS_ENABLED" "true"
  upstreamPort := env.port "HTTP_UPSTREAM_PORT" "3000" 3000

/-- Settings of the cloud gateway link. -/
structure GatewayRegistrationConfig where
  serverUrl : String
  gatewayUrl : Option String
  username : String
  password : String
  /-- Text of the pinned CA's path, which may be relative. -/
  brokerCafile : Option String
  brokerTls : Bool
  deriving DecidableEq

def GatewayRegistrationConfig.fromEnv (env : Env) : GatewayRegistrationConfig where
  serverUrl := env.text "PLACENET_SERVER_URL" "http://localhost:8080"
  gatewayUrl := env "PLACENET_GATEWAY_URL"
  username := env.text "PLACENET_GATEWAY_USERNAME" ""
  password := env.text "PLACENET_GATEWAY_PASSWORD" ""
  brokerCafile := env "PLACENET_GATEWAY_MQTT_CAFILE"
  brokerTls := ((env "PLACENET_GATEWAY_MQTT_TLS").map
    fun v => eqIgnoreAsciiCase (trim v) "true").getD true

/-- Broadcast settings, in seconds. Unlike ports, these texts are trimmed before parsing. -/
structure BeaconManagementConfig where
  useJitter : Bool
  broadcastInterval : UInt16
  keyRotationInterval : UInt32
  keyExpiry : UInt32
  deriving DecidableEq

def BeaconManagementConfig.fromEnv (env : Env) : BeaconManagementConfig where
  useJitter := env.flag "USE_NETWORK_JITTER" "false"
  broadcastInterval := (parseU16 (trim (env.text "BROADCAST_INTERVAL" "60"))).getD 60
  keyRotationInterval := (parseU32 (trim (env.text "KEY_ROTATION_INTERVAL" "3600"))).getD 3600
  keyExpiry := (parseU32 (trim (env.text "KEY_EXPIRY" "7200"))).getD 7200

structure Config where
  mqttBrokerage : MqttBrokerageConfig
  mqttClient : MqttClientConfig
  http : HttpConfig
  gatewayRegistration : GatewayRegistrationConfig
  beaconManagement : BeaconManagementConfig
  configDir : AbsPath
  deriving DecidableEq

/-- `PLACENET_CONFIG_DIR`, made absolute from the current directory. -/
def configDirFromEnv (cwd : AbsPath) (env : Env) : AbsPath :=
  let raw := env.text "PLACENET_CONFIG_DIR" "config"
  match raw.toList with
  | '/' :: rest => .ofRest rest
  | _ => cwd.join raw

def Config.fromEnv (cwd : AbsPath) (env : Env) : Config :=
  let configDir := configDirFromEnv cwd env
  { mqttBrokerage := .fromEnv configDir env
    mqttClient := .fromEnv configDir env
    http := .fromEnv env
    gatewayRegistration := .fromEnv env
    beaconManagement := .fromEnv env
    configDir }

/-! ### The generated `mosquitto.conf` -/

/-- One line of the generated file. -/
inductive Directive where
  | comment (text : String)
  | blank
  | persistence (on : Bool)
  | logDest (sink : String)
  | listener (port : UInt16)
  | protocol (name : String)
  | cafile (file : AbsPath)
  | certfile (file : AbsPath)
  | keyfile (file : AbsPath)
  | tlsVersion (version : String)
  | requireCertificate (on : Bool)
  | useIdentityAsUsername (on : Bool)
  | allowAnonymous (on : Bool)
  | passwordFile (file : AbsPath)
  deriving DecidableEq

def Directive.line : Directive → String
  | comment text => "# " ++ text
  | blank => ""
  | persistence on => "persistence " ++ toString on
  | logDest sink => "log_dest " ++ sink
  | listener port => "listener " ++ toString port
  | protocol name => "protocol " ++ name
  | cafile file => "cafile " ++ file.display
  | certfile file => "certfile " ++ file.display
  | keyfile file => "keyfile " ++ file.display
  | tlsVersion version => "tls_version " ++ version
  | requireCertificate on => "require_certificate " ++ toString on
  | useIdentityAsUsername on => "use_identity_as_username " ++ toString on
  | allowAnonymous on => "allow_anonymous " ++ toString on
  | passwordFile file => "password_file " ++ file.display

def renderConf (conf : List Directive) : String :=
  conf.foldr (fun d rest => d.line ++ "\n" ++ rest) ""

def listenerPorts (conf : List Directive) : List UInt16 :=
  conf.filterMap fun
    | .listener port => some port
    | _ => none

namespace MqttBrokerageConfig

/-- The directives `write_config` emits. With TLS the plain listener is omitted and the
client certificate is the credential; without it the password file is. -/
def mosquittoConf (c : MqttBrokerageConfig) : List Directive :=
  [.comment "Auto-generated by hamlet", .persistence false, .logDest "stderr", .blank] ++
    if c.tlsEnabled then
      [.listener c.mqttsPort, .protocol "mqtt", .cafile c.cafile, .certfile c.certfile,
        .keyfile c.keyfile, .tlsVersion "tlsv1.2", .requireCertificate true,
        .useIdentityAsUsername true]
    else
      [.listener c.port, .allowAnonymous false, .passwordFile c.passwordFile]

/-- What the file system answers to `write_config`. -/
structure ConfigDisk where
  createDirAll : Except String Unit
  write : Except String Unit

/-- `write_config`: the file it writes and its text, or its error. -/
def writeConfig (c : MqttBrokerageConfig) (disk : ConfigDisk) :
    Except String (AbsPath × String) :=
  match c.configFile.parent with
  | none => .error "config_file has no parent directory"
  | some _ =>
    match disk.createDirAll with
    | .error e => .error ("Failed to create config dir: " ++ e)
    | .ok () =>
      match disk.write with
      | .error e => .error ("Failed to write mosquitto.conf: " ++ e)
      | .ok () => .ok (c.configFile, renderConf c.mosquittoConf)

end MqttBrokerageConfig

end Hamlet
