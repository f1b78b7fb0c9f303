import Hamlet.Startup
import Hamlet.Properties.Restart
import Hamlet.Properties.Transport

/-!
# When a node comes to serve

`App::initialize` starts the HTTP gateway after the local broker has acknowledged the client, and
waits for that without a limit. Where nothing else goes wrong this depends on the environment
alone: on `MQTT_TLS_ENABLED`, which broker and client take differently when it is unset, and with
TLS on the paths, since a file that is written twice keeps the last text.
-/

namespace Hamlet

open UnixPath RustStr

/-- The texts that startup writes beside the configuration. -/
structure Pems where
  ca : String
  brokerCert : String
  brokerKey : String
  nodeCert : String
  nodeKey : String

def Pems.texts (p : Pems) : List String := [p.ca, p.brokerCert, p.brokerKey, p.nodeCert, p.nodeKey]

/-- The broker finds its own three files. -/
def Pems.serves (p : Pems) (conf : List Directive) (disk : Disk) : Bool :=
  conf.all fun
    | .cafile file => disk.has file p.ca
    | .certfile file => disk.has file p.brokerCert
    | .keyfile file => disk.has file p.brokerKey
    | _ => true

/-- The client finds the CA and the identity that was made for it. -/
def Pems.presents (p : Pems) (client : MqttClientConfig) (disk : Disk) : Bool :=
  client.cafile.any (disk.has · p.ca) && client.certfile.any (disk.has · p.nodeCert) &&
    client.keyfile.any (disk.has · p.nodeKey)

/-- The password file has the client's user, with its password. -/
def admits (conf : List Directive) (client : MqttClientConfig) (passwords : PasswordFiles) : Bool :=
  conf.any fun
    | .passwordFile file => (client.username, client.password) ∈ passwords file.resolve
    | _ => false

/-- What mosquitto asks of a client: the port of a listener, and the transport and the
credentials of its configuration. -/
def Accepts (parseConf : String → Option (List Directive)) (p : Pems) (configFile : AbsPath)
    (client : MqttClientConfig) (files : NodeFiles) : Prop :=
  ∃ conf ∈ (files.disk configFile.resolve).bind parseConf,
    client.port ∈ listenerPorts conf ∧
    if .requireCertificate true ∈ conf then
      client.tlsMode = .mutual ∧ p.serves conf files.disk ∧ p.presents client files.disk
    else client.tlsMode = .none ∧ admits conf client files.passwords

instance (parseConf : String → Option (List Directive)) (p : Pems) (configFile : AbsPath)
    (client : MqttClientConfig) (files : NodeFiles) :
    Decidable (Accepts parseConf p configFile client files) :=
  inferInstanceAs (Decidable (∃ conf ∈ (files.disk configFile.resolve).bind parseConf, _))

/-- The location and the text of `mosquitto.conf`. -/
def confWrite (config : Config) : List String × String :=
  (config.mqttBrokerage.configFile.resolve, renderConf config.mqttBrokerage.mosquittoConf)

/-- Mosquitto reads the generated configuration. A PEM text is none. -/
structure Reads (config : Config) (p : Pems) (parseConf : String → Option (List Directive)) :
    Prop where
  conf : parseConf (confWrite config).2 = some config.mqttBrokerage.mosquittoConf
  pem : ∀ text ∈ p.texts, parseConf text = none

/-- Every operation of startup succeeds, and mosquitto reads what `write_config` writes. -/
structure StartupWorld.Healthy (w : StartupWorld) (config : Config) (p : Pems) : Prop where
  caCertPem : w.caCertPem = .ok p.ca
  brokerCert : w.brokerCert = .ok (p.brokerCert, p.brokerKey)
  nodeIdentity : w.nodeIdentity = .ok (p.nodeCert, p.nodeKey)
  createDirAll : ∀ dir, w.createDirAll dir = .ok ()
  write : ∀ file, w.write file = .ok ()
  passwdFound : (w.which "mosquitto_passwd").isSome
  passwd : w.passwd = .ok ()
  start : ∀ id, (w.start id).Healthy
  distinct : (p.ca :: p.brokerCert :: p.brokerKey :: renderConf config.mqttBrokerage.mosquittoConf ::
    [p.nodeCert, p.nodeKey]).Nodup
  connAck : ∃ parseConf, Reads config p parseConf ∧
    ∀ files, w.connAck config.mqttBrokerage.configFile config.mqttClient files = true ↔
      Accepts parseConf p config.mqttBrokerage.configFile config.mqttClient files

/-- Where a startup with TLS writes, in order. -/
def tlsLocations (config : Config) : List (List String) :=
  [config.mqttBrokerage.cafile, config.mqttBrokerage.certfile, config.mqttBrokerage.keyfile,
    config.mqttBrokerage.configFile].map AbsPath.resolve ++
    config.mqttClient.certfile.toList.map AbsPath.resolve ++
    config.mqttClient.keyfile.toList.map AbsPath.resolve

section

variable {w : StartupWorld} {config : Config} {p : Pems}

theorem createParent_ok (healthy : w.Healthy config p) (file : AbsPath) :
    w.createParent file = .ok () := by
  unfold StartupWorld.createParent
  cases file.parent with
  | none => rfl
  | some dir => exact healthy.createDirAll dir

theorem writeFile_ok (healthy : w.Healthy config p) (disk : Disk) (file : AbsPath) (text : String) :
    w.writeFile disk file text = .ok (LastWrite.write disk file.resolve text) := by
  rw [StartupWorld.writeFile, healthy.write]
  rfl

theorem provisionMqttBrokerCert_ok (healthy : w.Healthy config p) (cfg : MqttBrokerageConfig)
    (disk : Disk) : w.provisionMqttBrokerCert cfg disk = .ok (LastWrite.writeAll disk
      [(cfg.cafile.resolve, p.ca), (cfg.certfile.resolve, p.brokerCert),
        (cfg.keyfile.resolve, p.brokerKey)]) := by
  simp only [StartupWorld.provisionMqttBrokerCert, createParent_ok healthy, writeFile_ok healthy,
    healthy.caCertPem, healthy.brokerCert]
  rfl

theorem provisionNodeIdentity_ok (healthy : w.Healthy config p) (cfg : MqttClientConfig)
    (disk : Disk) {certfile keyfile : AbsPath} (cert : cfg.certfile = some certfile)
    (key : cfg.keyfile = some keyfile) :
    w.provisionNodeIdentity cfg disk = .ok (LastWrite.writeAll disk
      [(certfile.resolve, p.nodeCert), (keyfile.resolve, p.nodeKey)]) := by
  simp only [StartupWorld.provisionNodeIdentity, cert, key, createParent_ok healthy,
    writeFile_ok healthy, healthy.nodeIdentity]
  rfl

/-! ### The files -/

/-- The broker's files and `mosquitto.conf`. -/
def brokerWrites (config : Config) (p : Pems) : List (List String × String) :=
  [(config.mqttBrokerage.cafile.resolve, p.ca), (config.mqttBrokerage.certfile.resolve, p.brokerCert),
    (config.mqttBrokerage.keyfile.resolve, p.brokerKey), confWrite config]

/-- The client's files. -/
def nodeWrites (certfile keyfile : AbsPath) (p : Pems) : List (List String × String) :=
  [(certfile.resolve, p.nodeCert), (keyfile.resolve, p.nodeKey)]

theorem writeConfig_ok (healthy : w.Healthy config p)
    (parent : config.mqttBrokerage.configFile.parent.isSome) :
    config.mqttBrokerage.writeConfig (w.configDisk config.mqttBrokerage) =
      .ok (config.mqttBrokerage.configFile, renderConf config.mqttBrokerage.mosquittoConf) := by
  obtain ⟨dir, found⟩ := Option.isSome_iff_exists.mp parent
  simp only [MqttBrokerageConfig.writeConfig, found, StartupWorld.configDisk,
    createParent_ok healthy, healthy.write]

theorem configureBroker_tls (healthy : w.Healthy config p) (available : w.available = true)
    (parent : config.mqttBrokerage.configFile.parent.isSome)
    (tls : config.mqttBrokerage.tlsEnabled = true) (files : NodeFiles) :
    w.configureBroker config.mqttBrokerage files =
      { files with disk := LastWrite.writeAll files.disk [confWrite config] } := by
  simp only [StartupWorld.configureBroker, available, if_true, writeConfig_ok healthy parent, tls]
  rfl

theorem configureBroker_plain (healthy : w.Healthy config p) (available : w.available = true)
    (parent : config.mqttBrokerage.configFile.parent.isSome)
    (plain : config.mqttBrokerage.tlsEnabled = false) (files : NodeFiles) :
    ∃ passwords, w.configureBroker config.mqttBrokerage files =
        ⟨LastWrite.writeAll files.disk [confWrite config], passwords⟩ ∧
      (config.mqttBrokerage.username, config.mqttBrokerage.password) ∈
        passwords config.mqttBrokerage.passwordFile.resolve := by
  obtain ⟨binary, found⟩ := Option.isSome_iff_exists.mp healthy.passwdFound
  simp only [StartupWorld.configureBroker, available, if_true, writeConfig_ok healthy parent, plain,
    StartupWorld.setPassword, found, healthy.passwd]
  exact ⟨_, rfl, by simp⟩

/-! ### What is provisioned -/

theorem provision_mutual (healthy : w.Healthy config p) (available : w.available = true)
    (parent : config.mqttBrokerage.configFile.parent.isSome)
    (tls : config.mqttBrokerage.tlsEnabled = true) (mode : config.mqttClient.tlsMode = .mutual)
    {certfile keyfile : AbsPath} (cert : config.mqttClient.certfile = some certfile)
    (key : config.mqttClient.keyfile = some keyfile) (files : NodeFiles) :
    App.provision w config files = .ok { files with
      disk := LastWrite.writeAll files.disk
        (brokerWrites config p ++ nodeWrites certfile keyfile p) } := by
  simp only [App.provision, healthy.caCertPem, tls, if_true, mode,
    provisionMqttBrokerCert_ok healthy, provisionNodeIdentity_ok healthy _ _ cert key, bind, pure,
    Except.bind, Except.pure, configureBroker_tls healthy available parent tls,
    ← LastWrite.writeAll_append]
  rfl

theorem provision_one_sided (healthy : w.Healthy config p) (available : w.available = true)
    (parent : config.mqttBrokerage.configFile.parent.isSome)
    (tls : config.mqttBrokerage.tlsEnabled = true) (mode : config.mqttClient.tlsMode = .none)
    (files : NodeFiles) :
    App.provision w config files = .ok { files with
      disk := LastWrite.writeAll files.disk (brokerWrites config p) } := by
  simp only [App.provision, healthy.caCertPem, tls, if_true, mode, reduceCtorEq, if_false,
    provisionMqttBrokerCert_ok healthy, bind, pure,
    Except.bind, Except.pure, configureBroker_tls healthy available parent tls,
    ← LastWrite.writeAll_append]
  rfl

theorem provision_plain (healthy : w.Healthy config p) (available : w.available = true)
    (parent : config.mqttBrokerage.configFile.parent.isSome)
    (plain : config.mqttBrokerage.tlsEnabled = false) (mode : config.mqttClient.tlsMode = .none)
    (files : NodeFiles) :
    ∃ passwords, App.provision w config files =
        .ok ⟨LastWrite.writeAll files.disk [confWrite config], passwords⟩ ∧
      (config.mqttBrokerage.username, config.mqttBrokerage.password) ∈
        passwords config.mqttBrokerage.passwordFile.resolve := by
  obtain ⟨passwords, configured, user⟩ := configureBroker_plain healthy available parent plain files
  refine ⟨passwords, ?_, user⟩
  simp only [App.provision, healthy.caCertPem, plain, Bool.false_eq_true, mode, reduceCtorEq,
    if_false, bind, pure, Except.bind, Except.pure, configured]

/-- Without mosquitto too, nothing stops the provisioning. -/
theorem provision_unavailable (healthy : w.Healthy config p) {certfile keyfile : AbsPath}
    (cert : config.mqttClient.certfile = some certfile)
    (key : config.mqttClient.keyfile = some keyfile) (files : NodeFiles) :
    ∃ files', App.provision w config files = .ok files' := by
  simp only [App.provision, healthy.caCertPem, provisionMqttBrokerCert_ok healthy,
    provisionNodeIdentity_ok healthy _ _ cert key, bind, pure, Except.bind, Except.pure]
  split <;> split <;> exact ⟨_, rfl⟩

/-! ### The starts -/

/-- A start leaves the other services as they are. -/
theorem startService_other (files : NodeFiles) (sup : Supervisor Service) {id other : ServiceId}
    (differs : other ≠ id) {status : ServiceStatus} {svc : Service}
    (there : sup.At other status svc) :
    (App.startService w files sup id).2.At other status svc := by
  obtain ⟨statuses, services⟩ :=
    Supervisor.handleStart_other Service.managed sup id other (w.meets files id) differs
  exact ⟨statuses.trans there.1, services.trans there.2⟩

theorem gateway_starts (healthy : w.Healthy config p) (files : NodeFiles)
    {sup : Supervisor Service} (here : sup.At .gateway .stopped (.new config .gateway)) :
    (App.startService w files sup .gateway).2.statuses .gateway = some (.running 0) := by
  have world := healthy.start .gateway
  have started : Service.managed.start (w.meets files .gateway) (.new config .gateway) =
      (.ok 0, .gateway { config := config.http, shutdownTx := true }) := by
    simp [Service.managed, Service.start, Service.new, GatewayService.new, GatewayService.start,
      GatewayService.bindGateway, StartupWorld.meets, world.bind, world.localAddr, world.tlsConfig]
  exact (Supervisor.handleStart_ok here started).2.1

theorem startGateways_serves (healthy : w.Healthy config p) (files : NodeFiles)
    {sup : Supervisor Service} (here : sup.At .gateway .stopped (.new config .gateway)) :
    ∃ sup', App.startGateways w config files sup = .ready sup' ∧
      sup'.statuses .gateway = some (.running 0) := by
  have serving := gateway_starts healthy files here
  simp only [App.startGateways]
  split
  next =>
    refine ⟨_, rfl, ?_⟩
    rw [← serving]
    exact (Supervisor.handleStart_other _ _ _ _ _ (by decide)).1
  next => exact ⟨_, rfl, serving⟩

theorem mosquitto_starts (healthy : w.Healthy config p) {files : NodeFiles}
    (written : (files.disk config.mqttBrokerage.configFile.resolve).isSome)
    {sup : Supervisor Service} (here : sup.At .mosquitto .stopped (.new config .mosquitto)) :
    ∃ pid, (App.startService w files sup .mosquitto).2.statuses .mosquitto =
      some (.running pid) := by
  obtain ⟨pid, spawned⟩ := (healthy.start .mosquitto).spawn
  have started : Service.managed.start (w.meets files .mosquitto) (.new config .mosquitto) =
      (.ok pid, .mosquitto { config := config.mqttBrokerage, child := some pid }) := by
    simp [Service.managed, Service.start, Service.new, MosquittoBrokerageService.new,
      MosquittoBrokerageService.start, StartupWorld.meets, spawned, written]
  exact ⟨pid, (Supervisor.handleStart_ok here started).2.1⟩

/-- The client finds the files that its options name. -/
def ClientFilesExist (client : MqttClientConfig) (disk : Disk) : Prop :=
  client.tlsMode = .none ∨ ∃ cafile certfile keyfile, client.cafile = some cafile ∧
    client.certfile = some certfile ∧ client.keyfile = some keyfile ∧ client.tlsMode = .mutual ∧
    ∀ file ∈ [cafile, certfile, keyfile], (disk file.resolve).isSome

theorem mqttClient_starts (healthy : w.Healthy config p) {files : NodeFiles}
    (exist : ClientFilesExist config.mqttClient files.disk)
    {sup : Supervisor Service} (here : sup.At .mqttClient .stopped (.new config .mqttClient)) :
    (App.startService w files sup .mqttClient).1 = .ok () := by
  have world := healthy.start .mqttClient
  have builds : buildMqttOpts config.mqttClient (w.meets files .mqttClient) = .ok () := by
    rcases exist with plain | ⟨cafile, certfile, keyfile, ca, cert, key, mode, found⟩
    · simp [buildMqttOpts, plain]
    · simp only [List.forall_mem_cons, List.not_mem_nil, false_imp_iff, implies_true,
        and_true] at found
      simp [buildMqttOpts, mode, ca, cert, key, StartupWorld.meets, found, world.readFile]
  have started : Service.managed.start (w.meets files .mqttClient) (.new config .mqttClient) =
      (.ok 0, .mqttClient ⟨config.mqttClient, false, false, false, true, true⟩) := by
    simp [Service.managed, Service.start, Service.new, MqttClientService.new,
      MqttClientService.start, MqttClientService.takeChannels, builds]
  exact (Supervisor.handleStart_ok here started).1

/-- Registered and not yet started. -/
theorem registered_at (config : Config) (id : ServiceId)
    (available : id = .gateway ∨ (id = .mosquitto ∨ id = .mqttClient) ∧ w.available = true) :
    (App.registered w config).At id .stopped (.new config id) := by
  unfold App.registered
  rcases available with rfl | ⟨rfl | rfl, available⟩ <;>
    split <;> simp [Supervisor.At, Supervisor.register, *]

/-- With the broker started, the client's first `ConnAck` decides. -/
theorem startAll_available (healthy : w.Healthy config p) (available : w.available = true)
    {files : NodeFiles} (written : (files.disk config.mqttBrokerage.configFile.resolve).isSome)
    (exist : ClientFilesExist config.mqttClient files.disk) :
    ∃ sup : Supervisor Service, sup.At .gateway .stopped (.new config .gateway) ∧
      App.startAll w config files (App.registered w config) =
        if w.connAck config.mqttBrokerage.configFile config.mqttClient files then
          App.startGateways w config files sup
        else .waiting sup := by
  have gateway := registered_at (w := w) config .gateway (.inl rfl)
  have mosquitto := registered_at (w := w) config .mosquitto (.inr ⟨.inl rfl, available⟩)
  have client := registered_at (w := w) config .mqttClient (.inr ⟨.inr rfl, available⟩)
  obtain ⟨pid, broker⟩ := mosquitto_starts healthy written mosquitto
  set sup := App.registered w config
  set withBroker := (App.startService w files sup .mosquitto).2 with startedBroker
  have clientStill : withBroker.At .mqttClient .stopped (.new config .mqttClient) :=
    startService_other _ _ (by decide) client
  have gatewayStill : withBroker.At .gateway .stopped (.new config .gateway) :=
    startService_other _ _ (by decide) gateway
  have started := mqttClient_starts healthy exist clientStill
  set withClient := (App.startService w files withBroker .mqttClient).2 with startedClient
  have brokerStill : withClient.statuses .mosquitto = some (.running pid) := by
    rw [← broker]
    exact (Supervisor.handleStart_other _ _ _ _ _ (by decide)).1
  refine ⟨withClient, startService_other _ _ (by decide) gatewayStill, ?_⟩
  simp only [App.startAll, available, if_true, ← startedBroker, started, ← startedClient,
    brokerStill, Bool.true_and]

/-! ### The acknowledgement -/

variable {parseConf : String → Option (List Directive)}

/-- If mosquitto can read its configuration, no PEM text has replaced it. -/
theorem conf_intact (reads : Reads config p parseConf) (disk : Disk)
    (writes : List (List String × String)) (written : confWrite config ∈ writes)
    (texts : ∀ other ∈ writes, other.2 ∈ p.texts ∨ other = confWrite config)
    {conf : List Directive}
    (read : (LastWrite.writeAll disk writes (confWrite config).1).bind parseConf = some conf) :
    LastWrite.writeAll disk writes (confWrite config).1 = some (confWrite config).2 ∧
      conf = config.mqttBrokerage.mosquittoConf := by
  obtain ⟨text, member, kept⟩ :=
    LastWrite.writeAll_written disk writes _ (List.mem_map_of_mem (f := Prod.fst) written)
  rw [kept, Option.bind_some] at read
  rcases texts _ member with pem | conf
  · rw [reads.pem text pem] at read
    cases read
  · obtain rfl : text = (confWrite config).2 := congrArg Prod.snd conf
    rw [reads.conf, Option.some.injEq] at read
    exact ⟨kept, read.symm⟩

theorem requireCertificate_mosquittoConf (cfg : MqttBrokerageConfig) :
    .requireCertificate true ∈ cfg.mosquittoConf ↔ cfg.tlsEnabled = true := by
  cases tls : cfg.tlsEnabled <;> simp [MqttBrokerageConfig.mosquittoConf, tls]

/-- A broker with TLS never acknowledges a client without. -/
theorem not_accepts_one_sided (reads : Reads config p parseConf)
    (tls : config.mqttBrokerage.tlsEnabled = true) (mode : config.mqttClient.tlsMode = .none)
    (files : NodeFiles) :
    ¬Accepts parseConf p config.mqttBrokerage.configFile config.mqttClient { files with
      disk := LastWrite.writeAll files.disk (brokerWrites config p) } := by
  rintro ⟨conf, read, _, asked⟩
  obtain ⟨_, rfl⟩ := conf_intact reads files.disk (brokerWrites config p)
    (by simp [brokerWrites]) (by simp [brokerWrites, Pems.texts]) read
  rw [if_pos ((requireCertificate_mosquittoConf _).mpr tls), mode] at asked
  cases asked.1

/-- Without TLS on both sides the password is the one that startup has set. -/
theorem accepts_plain (reads : Reads config p parseConf)
    (plain : config.mqttBrokerage.tlsEnabled = false) (mode : config.mqttClient.tlsMode = .none)
    (port : config.mqttClient.port = config.mqttBrokerage.port)
    (user : config.mqttClient.username = config.mqttBrokerage.username)
    (secret : config.mqttClient.password = config.mqttBrokerage.password)
    (disk : Disk) {passwords : PasswordFiles}
    (known : (config.mqttBrokerage.username, config.mqttBrokerage.password) ∈
      passwords config.mqttBrokerage.passwordFile.resolve) :
    Accepts parseConf p config.mqttBrokerage.configFile config.mqttClient
      ⟨LastWrite.writeAll disk [confWrite config], passwords⟩ := by
  have written : LastWrite.writeAll disk [confWrite config]
      config.mqttBrokerage.configFile.resolve = some (confWrite config).2 :=
    Function.update_self ..
  refine ⟨config.mqttBrokerage.mosquittoConf, ?_, ?_, ?_⟩
  · dsimp only
    rw [written, Option.bind_some, reads.conf, Option.mem_some_iff]
  · rw [listenerPorts_mosquittoConf _ "", List.mem_singleton, port]
    simp [buildBrokerageInfo, plain]
  · have noCertificate : .requireCertificate true ∉ config.mqttBrokerage.mosquittoConf := by
      rw [requireCertificate_mosquittoConf, plain]
      exact Bool.false_ne_true
    rw [if_neg noCertificate]
    refine ⟨mode, ?_⟩
    simp [admits, MqttBrokerageConfig.mosquittoConf, plain, user, secret, known]

/-- With TLS on both sides all six files must be the ones that startup has written. -/
theorem accepts_mutual_iff (reads : Reads config p parseConf)
    (tls : config.mqttBrokerage.tlsEnabled = true) (mode : config.mqttClient.tlsMode = .mutual)
    (port : config.mqttClient.port = config.mqttBrokerage.mqttsPort)
    (ca : config.mqttClient.cafile = some config.mqttBrokerage.cafile)
    {certfile keyfile : AbsPath} (cert : config.mqttClient.certfile = some certfile)
    (key : config.mqttClient.keyfile = some keyfile) (files : NodeFiles)
    (readable : ∀ conf, (files.disk (confWrite config).1).bind parseConf = some conf →
      files.disk (confWrite config).1 = some (confWrite config).2 ∧
        conf = config.mqttBrokerage.mosquittoConf) :
    Accepts parseConf p config.mqttBrokerage.configFile config.mqttClient files ↔
      ∀ write ∈ brokerWrites config p ++ nodeWrites certfile keyfile p,
        files.disk write.1 = some write.2 := by
  have certificate : .requireCertificate true ∈ config.mqttBrokerage.mosquittoConf :=
    (requireCertificate_mosquittoConf _).mpr tls
  have serves : p.serves config.mqttBrokerage.mosquittoConf files.disk ↔
      files.disk config.mqttBrokerage.cafile.resolve = some p.ca ∧
      files.disk config.mqttBrokerage.certfile.resolve = some p.brokerCert ∧
      files.disk config.mqttBrokerage.keyfile.resolve = some p.brokerKey := by
    simp [Pems.serves, MqttBrokerageConfig.mosquittoConf, tls, Disk.has]
  have presents : p.presents config.mqttClient files.disk ↔
      files.disk config.mqttBrokerage.cafile.resolve = some p.ca ∧
      files.disk certfile.resolve = some p.nodeCert ∧
      files.disk keyfile.resolve = some p.nodeKey := by
    simp [Pems.presents, ca, cert, key, Disk.has, and_assoc]
  simp only [brokerWrites, nodeWrites, List.forall_mem_append, List.forall_mem_cons,
    List.not_mem_nil, false_imp_iff, implies_true, and_true]
  constructor
  · rintro ⟨conf, read, _, asked⟩
    obtain ⟨hasConf, rfl⟩ := readable conf read
    rw [if_pos certificate] at asked
    obtain ⟨-, served, presented⟩ := asked
    obtain ⟨hasCa, hasBrokerCert, hasBrokerKey⟩ := serves.mp served
    exact ⟨⟨hasCa, hasBrokerCert, hasBrokerKey, hasConf⟩, (presents.mp presented).2⟩
  · rintro ⟨⟨hasCa, hasBrokerCert, hasBrokerKey, hasConf⟩, hasIdentity⟩
    refine ⟨config.mqttBrokerage.mosquittoConf, ?_, ?_, ?_⟩
    · exact (congrArg (Option.bind · parseConf) hasConf).trans reads.conf
    · rw [listenerPorts_mosquittoConf _ "", List.mem_singleton, port]
      simp [buildBrokerageInfo, tls]
    · rw [if_pos certificate]
      exact ⟨mode, serves.mpr ⟨hasCa, hasBrokerCert, hasBrokerKey⟩,
        presents.mpr ⟨hasCa, hasIdentity⟩⟩

end

/-! ### Over every environment -/

section

variable {cwd : AbsPath} {env : Env} {w : StartupWorld} {p : Pems}

theorem configFile_parent (cwd : AbsPath) (env : Env) :
    (Config.fromEnv cwd env).mqttBrokerage.configFile.parent.isSome :=
  AbsPath.parent_join_name _ _ (by decide) (by decide)

/-- The gateway serves. -/
def Startup.Serves (outcome : Startup) : Prop :=
  ∃ sup, outcome = .ready sup ∧ sup.statuses .gateway = some (.running 0)

/-- The gateway is never started. -/
def Startup.Waits (outcome : Startup) : Prop :=
  ∃ sup, outcome = .waiting sup ∧ sup.statuses .gateway = some .stopped

/-- After the provisioning everything depends on the acknowledgement. -/
theorem initializeApp_available (healthy : w.Healthy (Config.fromEnv cwd env) p)
    (available : w.available = true) {files files' : NodeFiles}
    (provisioned : App.provision w (Config.fromEnv cwd env) files = .ok files')
    (written : (files'.disk (confWrite (Config.fromEnv cwd env)).1).isSome)
    (exist : ClientFilesExist (Config.fromEnv cwd env).mqttClient files'.disk) :
    (w.connAck (Config.fromEnv cwd env).mqttBrokerage.configFile
        (Config.fromEnv cwd env).mqttClient files' = true →
      (App.initializeApp w (Config.fromEnv cwd env) files).Serves) ∧
    (w.connAck (Config.fromEnv cwd env).mqttBrokerage.configFile
        (Config.fromEnv cwd env).mqttClient files' = false →
      (App.initializeApp w (Config.fromEnv cwd env) files).Waits) := by
  obtain ⟨sup, gateway, started⟩ := startAll_available healthy available written exist
  simp only [App.initializeApp, provisioned, started]
  constructor
  · intro acknowledged
    rw [if_pos acknowledged]
    exact startGateways_serves healthy files' gateway
  · intro refused
    rw [if_neg (by simp [refused])]
    exact ⟨sup, rfl, gateway.1⟩

/-- TLS on both sides: the gateway serves exactly if no two files share a location. -/
theorem initializeApp_mutual (healthy : w.Healthy (Config.fromEnv cwd env) p)
    (available : w.available = true)
    (tls : (Config.fromEnv cwd env).mqttBrokerage.tlsEnabled = true)
    (mode : (Config.fromEnv cwd env).mqttClient.tlsMode = .mutual)
    (port : (Config.fromEnv cwd env).mqttClient.port =
      (Config.fromEnv cwd env).mqttBrokerage.mqttsPort) (files : NodeFiles) :
    ((tlsLocations (Config.fromEnv cwd env)).Nodup →
      (App.initializeApp w (Config.fromEnv cwd env) files).Serves) ∧
    (¬(tlsLocations (Config.fromEnv cwd env)).Nodup →
      (App.initializeApp w (Config.fromEnv cwd env) files).Waits) := by
  obtain ⟨parseConf, reads, acknowledges⟩ := healthy.connAck
  set config := Config.fromEnv cwd env
  obtain ⟨certfile, cert⟩ : ∃ file, config.mqttClient.certfile = some file := ⟨_, rfl⟩
  obtain ⟨keyfile, key⟩ : ∃ file, config.mqttClient.keyfile = some file := ⟨_, rfl⟩
  have ca : config.mqttClient.cafile = some config.mqttBrokerage.cafile := rfl
  have provisioned := provision_mutual healthy available (configFile_parent cwd env) tls mode
    cert key files
  obtain ⟨writes, all⟩ : ∃ writes, writes = brokerWrites config p ++ nodeWrites certfile keyfile p :=
    ⟨_, rfl⟩
  rw [← all] at provisioned
  have locations : writes.map Prod.fst = tlsLocations config := by
    simp [all, brokerWrites, nodeWrites, tlsLocations, cert, key, confWrite]
  have texts : (writes.map Prod.snd).Nodup := by
    rw [all]
    exact healthy.distinct
  have present (file : List String) (member : file ∈ writes.map Prod.fst) :
      (LastWrite.writeAll files.disk writes file).isSome := by
    obtain ⟨text, -, kept⟩ := LastWrite.writeAll_written files.disk writes _ member
    simp [kept]
  have exist : ClientFilesExist config.mqttClient (LastWrite.writeAll files.disk writes) := by
    refine .inr ⟨_, certfile, keyfile, ca, cert, key, mode, ?_⟩
    simp only [List.forall_mem_cons, List.not_mem_nil, false_imp_iff, implies_true, and_true]
    exact ⟨present _ (by simp [all, brokerWrites]), present _ (by simp [all, nodeWrites]),
      present _ (by simp [all, nodeWrites])⟩
  have conf : confWrite config ∈ writes := by simp [all, brokerWrites]
  have decides := initializeApp_available healthy available provisioned
    (present _ (List.mem_map_of_mem conf)) exist
  have accepts := accepts_mutual_iff reads tls mode port ca cert key
    { files with disk := LastWrite.writeAll files.disk writes }
    fun _ read => conf_intact reads files.disk writes conf
      (by simp [all, brokerWrites, nodeWrites, Pems.texts]) read
  rw [← acknowledges, ← all, LastWrite.writeAll_intact_iff _ _ texts, locations] at accepts
  exact ⟨fun distinct => decides.1 (accepts.mpr distinct),
    fun clash => decides.2 (Bool.eq_false_iff.mpr (mt accepts.mp clash))⟩

theorem initializeApp_unavailable (healthy : w.Healthy (Config.fromEnv cwd env) p)
    (absent : w.available = false) (files : NodeFiles) :
    (App.initializeApp w (Config.fromEnv cwd env) files).Serves := by
  obtain ⟨files', provisioned⟩ := provision_unavailable healthy rfl rfl files
  simp only [App.initializeApp, provisioned, App.startAll, absent, Bool.false_eq_true, if_false]
  exact startGateways_serves healthy files' (registered_at _ _ (.inl rfl))

/-- Without TLS on both sides nothing stands in the way. -/
theorem initializeApp_plain (healthy : w.Healthy (Config.fromEnv cwd env) p)
    (available : w.available = true)
    (plain : (Config.fromEnv cwd env).mqttBrokerage.tlsEnabled = false)
    (mode : (Config.fromEnv cwd env).mqttClient.tlsMode = .none)
    (port : (Config.fromEnv cwd env).mqttClient.port =
      (Config.fromEnv cwd env).mqttBrokerage.port) (files : NodeFiles) :
    (App.initializeApp w (Config.fromEnv cwd env) files).Serves := by
  obtain ⟨parseConf, reads, acknowledges⟩ := healthy.connAck
  obtain ⟨passwords, provisioned, known⟩ :=
    provision_plain healthy available (configFile_parent cwd env) plain mode files
  have decides := initializeApp_available healthy available provisioned
    (by simp [LastWrite.writeAll, LastWrite.write]) (.inl mode)
  exact decides.1 ((acknowledges _).mpr
    (accepts_plain reads plain mode port rfl rfl files.disk known))

/-- A broker with TLS and a client without: the client is never acknowledged. -/
theorem initializeApp_one_sided (healthy : w.Healthy (Config.fromEnv cwd env) p)
    (available : w.available = true)
    (tls : (Config.fromEnv cwd env).mqttBrokerage.tlsEnabled = true)
    (mode : (Config.fromEnv cwd env).mqttClient.tlsMode = .none) (files : NodeFiles) :
    (App.initializeApp w (Config.fromEnv cwd env) files).Waits := by
  obtain ⟨parseConf, reads, acknowledges⟩ := healthy.connAck
  have provisioned :=
    provision_one_sided healthy available (configFile_parent cwd env) tls mode files
  obtain ⟨text, -, kept⟩ := LastWrite.writeAll_written files.disk
    (brokerWrites (Config.fromEnv cwd env) p) (confWrite (Config.fromEnv cwd env)).1
    (by simp [brokerWrites])
  have decides := initializeApp_available healthy available provisioned (by simp [kept])
    (.inl mode)
  refine decides.2 (Bool.eq_false_iff.mpr fun acknowledged => ?_)
  exact not_accepts_one_sided reads tls mode files ((acknowledges _).mp acknowledged)

/-- For every environment in which nothing else fails: the gateway serves if mosquitto is not
installed, or if `MQTT_TLS_ENABLED` is set and with TLS no two of the six files share a location.
Otherwise `initialize` waits for the broker's acknowledgement and the gateway is not started. -/
theorem startup_serves_iff (cwd : AbsPath) (env : Env) (w : StartupWorld) (p : Pems)
    (healthy : w.Healthy (Config.fromEnv cwd env) p) (files : NodeFiles) :
    (w.available = false ∨ (∃ value, env "MQTT_TLS_ENABLED" = some value) ∧
        ((Config.fromEnv cwd env).mqttBrokerage.tlsEnabled = true →
          (tlsLocations (Config.fromEnv cwd env)).Nodup) →
      (App.initializeApp w (Config.fromEnv cwd env) files).Serves) ∧
    (¬(w.available = false ∨ (∃ value, env "MQTT_TLS_ENABLED" = some value) ∧
        ((Config.fromEnv cwd env).mqttBrokerage.tlsEnabled = true →
          (tlsLocations (Config.fromEnv cwd env)).Nodup)) →
      (App.initializeApp w (Config.fromEnv cwd env) files).Waits) := by
  cases available : w.available with
  | false =>
    simpa using initializeApp_unavailable healthy available files
  | true =>
    simp only [Bool.true_eq_false, false_or]
    cases setting : env "MQTT_TLS_ENABLED" with
    | none =>
      -- the defaults differ
      have tls : (Config.fromEnv cwd env).mqttBrokerage.tlsEnabled = true := by
        simp only [Config.fromEnv, MqttBrokerageConfig.fromEnv, Env.flag, Env.text, setting]
        decide
      have mode : (Config.fromEnv cwd env).mqttClient.tlsMode = .none := by
        simp only [Config.fromEnv, MqttClientConfig.fromEnv, Env.flag, Env.text, setting]
        decide
      simpa using initializeApp_one_sided healthy available tls mode files
    | some value =>
      have flag (default : String) : env.flag "MQTT_TLS_ENABLED" default =
          eqIgnoreAsciiCase (trim value) "true" := by
        simp only [Env.flag, Env.text, setting, Option.getD_some]
      cases tls : eqIgnoreAsciiCase (trim value) "true" with
      | false =>
        have serves := initializeApp_plain healthy available ((flag _).trans tls)
          (by simp [Config.fromEnv, MqttClientConfig.fromEnv, flag, tls])
          (by simp [Config.fromEnv, MqttClientConfig.fromEnv, MqttBrokerageConfig.fromEnv, flag, tls])
          files
        have off : (Config.fromEnv cwd env).mqttBrokerage.tlsEnabled = false := (flag _).trans tls
        simpa [off] using serves
      | true =>
        have decides := initializeApp_mutual healthy available ((flag _).trans tls)
          (by simp [Config.fromEnv, MqttClientConfig.fromEnv, flag, tls])
          (by simp [Config.fromEnv, MqttClientConfig.fromEnv, MqttBrokerageConfig.fromEnv, flag, tls])
          files
        have on : (Config.fromEnv cwd env).mqttBrokerage.tlsEnabled = true := (flag _).trans tls
        simpa [on] using decides

end

/-! ### Three environments -/

def samplePems : Pems := ⟨"CA", "broker certificate", "broker key", "certificate", "key"⟩

/-- A machine on which everything works. -/
def sampleWorld (config : Config) : StartupWorld where
  which binary := some ("/usr/bin/" ++ binary)
  caCertPem := .ok samplePems.ca
  brokerCert := .ok (samplePems.brokerCert, samplePems.brokerKey)
  nodeIdentity := .ok (samplePems.nodeCert, samplePems.nodeKey)
  createDirAll _ := .ok ()
  write _ := .ok ()
  passwd := .ok ()
  start _ := healthyWorld
  connAck configFile client files := decide (Accepts
    (fun text => if text = (confWrite config).2 then some config.mqttBrokerage.mosquittoConf else none)
    samplePems configFile client files)

theorem renderConf_comment (text : String) (rest : List Directive) :
    (renderConf (.comment text :: rest)).toList.head? = some '#' := by
  have hash : "# ".toList = ['#', ' '] := by decide +kernel
  change ("# " ++ text ++ "\n" ++ renderConf rest).toList.head? = _
  simp only [String.toList_append, hash, List.cons_append, List.head?_cons]

theorem mosquittoConf_comment (cfg : MqttBrokerageConfig) :
    ∃ text rest, cfg.mosquittoConf = .comment text :: rest := ⟨_, _, List.cons_append ..⟩

/-- The generated text begins like no PEM text. -/
theorem confWrite_notMem (config : Config) : (confWrite config).2 ∉ samplePems.texts := by
  have others : ∀ text ∈ samplePems.texts, text.toList.head? ≠ some '#' := by decide +kernel
  obtain ⟨text, rest, first⟩ := mosquittoConf_comment config.mqttBrokerage
  intro pem
  refine others _ pem ?_
  rw [confWrite, first, renderConf_comment]

theorem sampleWorld_healthy (config : Config) : (sampleWorld config).Healthy config samplePems where
  caCertPem := rfl
  brokerCert := rfl
  nodeIdentity := rfl
  createDirAll _ := rfl
  write _ := rfl
  passwdFound := rfl
  passwd := rfl
  start _ := healthyWorld_healthy
  distinct := by
    have noPem := confWrite_notMem config
    simp only [Pems.texts, samplePems, confWrite, List.mem_cons, List.not_mem_nil, or_false,
      not_or] at noPem
    simp [samplePems, noPem, Ne.symm]
  connAck := by
    refine ⟨_, ⟨if_pos rfl, fun text pem => if_neg ?_⟩, fun files => decide_eq_true_iff⟩
    rintro rfl
    exact confWrite_notMem config pem

def sampleStartup (env : Env) : Startup :=
  let config := Config.fromEnv (.ofRest "opt/hamlet".toList) env
  App.initializeApp (sampleWorld config) config ⟨fun _ => none, fun _ => []⟩

/-- TLS, with this path for the client's certificate. -/
def tlsEnv (certfile : String) : Env
  | "MQTT_TLS_ENABLED" => some "true"
  | "MQTT_CLIENT_CERTFILE" => some certfile
  | _ => none

theorem sampleWorld_available (config : Config) : (sampleWorld config).available = true := rfl

/-- The client's certificate beside the broker's, in its place, and nothing set at all. -/
theorem sample_startups : (sampleStartup (tlsEnv "certs/hamlet.crt")).Serves ∧
    (sampleStartup (tlsEnv "/opt/hamlet/config/certs/broker.crt")).Waits ∧
    (sampleStartup fun _ => none).Waits := by
  have outcome (env : Env) := startup_serves_iff (.ofRest "opt/hamlet".toList) env _ samplePems
    (sampleWorld_healthy _) ⟨fun _ => none, fun _ => []⟩
  simp only [sampleWorld_available, Bool.true_eq_false, false_or] at outcome
  have beside := (outcome (tlsEnv "certs/hamlet.crt")).1 ⟨⟨"true", rfl⟩, fun _ => by decide +kernel⟩
  have inPlace := (outcome (tlsEnv "/opt/hamlet/config/certs/broker.crt")).2 fun ⟨_, distinct⟩ =>
    absurd (distinct (by decide)) (by decide +kernel)
  have unset := (outcome fun _ => none).2 fun ⟨⟨_, isSet⟩, _⟩ => nomatch isSet
  exact ⟨beside, inPlace, unset⟩

end Hamlet
