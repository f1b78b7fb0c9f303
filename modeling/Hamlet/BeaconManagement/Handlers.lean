import Hamlet.Ca
import Hamlet.BeaconManagement.Types

/-!
# HTTP handlers of the beacon gateway

Request parsing, `handle_device_init`, `handle_client_register` and the header
dispatch in front of them. Each handler is a function from the node's state to a
response and the new state, with an early return wherever the source has one.
-/

namespace Hamlet

open UnixPath

abbrev supportedVersion : String := "0.0.1"
abbrev headerInit : String := "x-placenet-init"
abbrev headerRegister : String := "x-placenet-register"
abbrev headerHealth : String := "x-placenet-health"
abbrev headerHost : String := "host"
abbrev proxyBodyLimit : Nat := 64 * 1024

/-- Header names are lower case, as `hyper` keeps them. The body is what reading the
stream to its end gives. -/
structure Request where
  headers : List (String × List UInt8)
  body : Except String (List UInt8)

namespace Request

def header? (req : Request) (name : String) : Option (List UInt8) :=
  (req.headers.find? fun h => h.1 = name).map Prod.snd

/-- `HeaderValue::to_str`: visible ASCII only. -/
def toStr? (value : List UInt8) : Option String :=
  if value.all fun b => (32 ≤ b && b < 127) || b == 9 then
    some (String.ofList (value.map fun b => Char.ofNat b.toNat))
  else none

/-- `Limited::new(body, PROXY_BODY_LIMIT).collect()`. -/
def collectBody (req : Request) : Except String (List UInt8) :=
  match req.body with
  | .error e => .error e
  | .ok bytes => if bytes.length ≤ proxyBodyLimit then .ok bytes else .error "length limit exceeded"

end Request

inductive ResponseBody where
  | text (msg : String)
  | deviceInit (certPem : String) (brokerage : MqttBrokerageInfo) (beaconId : String)
  | clientRegister (clientId certPem caCertPem : String)
  | proxied (bytes : List UInt8)
  deriving DecidableEq, Repr

structure Response where
  status : Nat
  contentType : Option String
  body : ResponseBody
  deriving DecidableEq, Repr

def Response.IsSuccess (r : Response) : Prop := 200 ≤ r.status ∧ r.status < 300

instance (r : Response) : Decidable r.IsSuccess :=
  inferInstanceAs (Decidable (200 ≤ r.status ∧ r.status < 300))

def textResponse (status : Nat) (msg : String) : Response := ⟨status, none, .text msg⟩

def jsonResponse (status : Nat) (body : ResponseBody) : Response :=
  ⟨status, some "application/json", body⟩

@[simp] theorem isSuccess_textResponse (status : Nat) (msg : String) :
    (textResponse status msg).IsSuccess ↔ 200 ≤ status ∧ status < 300 := Iff.rfl

@[simp] theorem isSuccess_jsonResponse (status : Nat) (body : ResponseBody) :
    (jsonResponse status body).IsSuccess ↔ 200 ≤ status ∧ status < 300 := Iff.rfl

/-- `serde_json::from_slice` at the two payload types. -/
structure Serde where
  deviceInfo : List UInt8 → Except String DeviceInfo
  csrPem : List UInt8 → Except String String

/-! ### Parsing -/

/-- Strip the port of a `Host` header: `192.168.2.39:8080` becomes `192.168.2.39`. -/
def stripPort (host : String) : String :=
  let cs := host.toList
  -- an IPv6 literal keeps whatever follows it
  if ':' ∈ cs ∧ cs.head? ≠ some '[' then
    String.ofList (cs.rdropWhile (· ≠ ':')).dropLast
  else host

structure DeviceInitRequest where
  version : String
  brokerHost : String
  device : DeviceInfo
  deriving DecidableEq, Repr

def DeviceInitRequest.processRequest (serde : Serde) (req : Request) :
    Except Response DeviceInitRequest :=
  match (req.header? headerInit).bind Request.toStr? with
  | none => .error (textResponse 400 "Invalid X-PlaceNet-Init header")
  | some version =>
    if version ≠ supportedVersion then .error (textResponse 400 "Unsupported version")
    else
      -- the address the device dialled is the address it is told to use
      let brokerHost :=
        (((req.header? headerHost).bind Request.toStr?).map stripPort).getD "localhost"
      match req.collectBody with
      | .error _ => .error (textResponse 400 "Failed to read request body")
      | .ok bytes =>
        match serde.deviceInfo bytes with
        | .error _ => .error (textResponse 422 "Invalid JSON body")
        | .ok device => .ok { version, brokerHost, device }

structure DeviceRegisterRequest where
  csrPem : String
  deriving DecidableEq, Repr

def DeviceRegisterRequest.processRequest (serde : Serde) (req : Request) :
    Except Response DeviceRegisterRequest :=
  match req.collectBody with
  | .error _ => .error (textResponse 400 "Failed to read request body")
  | .ok bytes =>
    match serde.csrPem bytes with
    | .error _ => .error (textResponse 422 "Invalid JSON body")
    | .ok csrPem => .ok { csrPem }

/-! ### The node a request acts on -/

/-- The part of `AppState` that no request changes. -/
structure AppState where
  brokerageInfo : MqttBrokerageInfo
  /-- The handle's configuration; `none` when mosquitto is not installed. -/
  brokerage : Option MqttBrokerageConfig
  upstreamPort : UInt16

structure Node where
  ca : CaService
  /-- Files written by `register_cert_identity`, oldest first. -/
  identityFiles : List (AbsPath × String)
  beaconTopicTx : Option TopicSender
  deriving DecidableEq

/-- What the outside world answers while one request is handled. -/
structure RequestEnv where
  signing : SigningEnv
  writeFile : Except String Unit
  uuid : String
  upstream : Except String Response

/-- `register_cert_identity`: the file it targets, `{certs_dir}/{hostname}.crt`. -/
def certPath (config : MqttBrokerageConfig) (hostname : String) : Option AbsPath :=
  config.cafile.parent.map fun certsDir => certsDir.join (hostname ++ ".crt")

def registerCertIdentity (config : MqttBrokerageConfig) (writeFile : Except String Unit)
    (hostname certPem : String) (node : Node) : Except String Unit × Node :=
  match certPath config hostname with
  | none => (.error "cafile has no parent directory", node)
  | some path =>
    match writeFile with
    | .error e => (.error ("Failed to write device cert '" ++ path.display ++ "': " ++ e), node)
    | .ok () => (.ok (), { node with identityFiles := node.identityFiles ++ [(path, certPem)] })

/-- The identity step of the handshake; without a brokerage there is nothing to do. -/
def registerIdentity (app : AppState) (env : RequestEnv) (hostname certPem : String)
    (node : Node) : Except String Unit × Node :=
  match app.brokerage with
  | none => (.ok (), node)
  | some config => registerCertIdentity config env.writeFile hostname certPem node

/-- Hand both channels of a new beacon to the message loop; a refused one is only logged. -/
def announceBeacon (beaconId : String) (node : Node) : Node :=
  { node with beaconTopicTx := node.beaconTopicTx.map fun tx =>
      (tx.offer (listenChannel beaconId)).offer (broadcastChannel beaconId) }

section Handlers

variable (rcgen : Rcgen) (serde : Serde) (app : AppState) (env : RequestEnv)

/-- `handle_device_init`. -/
def handleDeviceInit (req : Request) (node : Node) : Response × Node :=
  match DeviceInitRequest.processRequest serde req with
  | .error response => (response, node)
  | .ok request =>
    let device := request.device
    -- the hostname is the identity under which the certificate is stored
    match node.ca.signCsr rcgen env.signing device.mdns.hostname device.csrPem with
    | (.error _, ca) => (textResponse 500 "Failed to sign device certificate", { node with ca })
    | (.ok certPem, ca) =>
      -- from here on the row is in the table, whatever the identity step returns
      match registerIdentity app env device.mdns.hostname certPem { node with ca } with
      | (.error _, node) => (textResponse 500 "Failed to register device MQTT identity", node)
      | (.ok (), node) =>
        -- the answer does not depend on what the topic queue accepts
        let brokerage := { app.brokerageInfo with address := request.brokerHost }
        (jsonResponse 200 (.deviceInit certPem brokerage env.uuid), announceBeacon env.uuid node)

/-- `handle_client_register`. -/
def handleClientRegister (req : Request) (node : Node) : Response × Node :=
  match DeviceRegisterRequest.processRequest serde req with
  | .error response => (response, node)
  | .ok request =>
    -- a client gets a fresh identity
    match node.ca.signCsr rcgen env.signing env.uuid request.csrPem with
    | (.error _, ca) => (textResponse 500 "Failed to sign client certificate", { node with ca })
    | (.ok certPem, ca) =>
      match ca.caCertPem with
      | .error _ => (textResponse 500 "Failed to retrieve CA certificate", { node with ca })
      | .ok caCertPem =>
        (jsonResponse 201 (.clientRegister env.uuid certPem caCertPem), { node with ca })

/-- `proxy::dispatch`: the first PlaceNet header decides, anything else is forwarded. -/
def dispatch (req : Request) (node : Node) : Response × Node :=
  if (req.header? headerHealth).isSome then (textResponse 200 "OK", node)
  else if (req.header? headerInit).isSome then handleDeviceInit rcgen serde app env req node
  else if (req.header? headerRegister).isSome then handleClientRegister rcgen serde env req node
  else
    -- no PlaceNet header: the request goes to the upstream server
    match env.upstream with
    | .ok response => (response, node)
    | .error _ => (textResponse 502 "Bad Gateway", node)

/-! ### What a handler can do -/

/-- The identity step fails: there is a brokerage, and the target has no directory or
cannot be written. -/
def IdentityFails (hostname : String) : Prop :=
  ∃ config, app.brokerage = some config ∧
    (certPath config hostname = none ∨ env.writeFile ≠ .ok ())

/-- What the identity step writes when it succeeds. -/
def identityWrites (hostname certPem : String) : List (AbsPath × String) :=
  ((app.brokerage.bind (certPath · hostname)).map (·, certPem)).toList

theorem registerIdentity_cases (hostname certPem : String) (node : Node) :
    (IdentityFails app env hostname ∧
      ∃ e, registerIdentity app env hostname certPem node = (.error e, node)) ∨
    (¬IdentityFails app env hostname ∧
      registerIdentity app env hostname certPem node = (.ok (),
        { node with
          identityFiles := node.identityFiles ++ identityWrites app hostname certPem })) := by
  unfold IdentityFails identityWrites
  -- no brokerage, no directory, write refused, written
  cases brokerage : app.brokerage with
  | none => exact .inr ⟨by simp, by simp [registerIdentity, brokerage]⟩
  | some config =>
    cases path : certPath config hostname with
    | none =>
      have failed : registerIdentity app env hostname certPem node =
          (.error "cafile has no parent directory", node) := by
        simp [registerIdentity, registerCertIdentity, brokerage, path]
      exact .inl ⟨⟨config, rfl, .inl path⟩, _, failed⟩
    | some file =>
      cases write : env.writeFile with
      | error e =>
        have failed : registerIdentity app env hostname certPem node =
            (.error ("Failed to write device cert '" ++ file.display ++ "': " ++ e), node) := by
          simp [registerIdentity, registerCertIdentity, brokerage, path, write]
        exact .inl ⟨⟨config, rfl, .inr (by simp)⟩, _, failed⟩
      | ok u =>
        refine .inr ⟨by simp [path], ?_⟩
        simp [registerIdentity, registerCertIdentity, brokerage, path, write]

theorem handleDeviceInit_cases (req : Request) (node : Node) :
    (∃ response, DeviceInitRequest.processRequest serde req = .error response ∧
      handleDeviceInit rcgen serde app env req node = (response, node)) ∨
    ∃ request, DeviceInitRequest.processRequest serde req = .ok request ∧
      ((CaService.storedRow rcgen env.signing node.ca.state request.device.mdns.hostname
          request.device.csrPem = none ∧
        handleDeviceInit rcgen serde app env req node =
          (textResponse 500 "Failed to sign device certificate", node)) ∨
      ∃ row, CaService.storedRow rcgen env.signing node.ca.state request.device.mdns.hostname
          request.device.csrPem = some row ∧
        ((IdentityFails app env request.device.mdns.hostname ∧
          handleDeviceInit rcgen serde app env req node =
            (textResponse 500 "Failed to register device MQTT identity",
              { node with ca := node.ca.store row })) ∨
        (¬IdentityFails app env request.device.mdns.hostname ∧
          handleDeviceInit rcgen serde app env req node =
            (jsonResponse 200 (.deviceInit row.certPem
              { app.brokerageInfo with address := request.brokerHost } env.uuid),
              announceBeacon env.uuid { node with
                ca := node.ca.store row
                identityFiles := node.identityFiles ++
                  identityWrites app request.device.mdns.hostname row.certPem })))) := by
  unfold handleDeviceInit
  cases DeviceInitRequest.processRequest serde req with
  | error response => exact .inl ⟨response, rfl, rfl⟩
  | ok request =>
    refine .inr ⟨request, rfl, ?_⟩
    dsimp only
    rcases CaService.signCsr_cases rcgen env.signing node.ca request.device.mdns.hostname
      request.device.csrPem with ⟨unsigned, e, failed⟩ | ⟨row, stored, signed⟩
    · rw [failed]
      exact .inl ⟨unsigned, rfl⟩
    · rw [signed]
      refine .inr ⟨row, stored, ?_⟩
      dsimp only
      rcases registerIdentity_cases app env request.device.mdns.hostname row.certPem
        { node with ca := node.ca.store row } with ⟨fails, e, failed⟩ | ⟨succeeds, written⟩
      · rw [failed]
        exact .inl ⟨fails, rfl⟩
      · rw [written]
        exact .inr ⟨succeeds, rfl⟩

/-- A client registration has no failure after its certificate is stored: retrieving the
CA certificate needs only the initialised CA that signing already needed. -/
theorem handleClientRegister_cases (req : Request) (node : Node) :
    (∃ response, DeviceRegisterRequest.processRequest serde req = .error response ∧
      handleClientRegister rcgen serde env req node = (response, node)) ∨
    ∃ request, DeviceRegisterRequest.processRequest serde req = .ok request ∧
      ((CaService.storedRow rcgen env.signing node.ca.state env.uuid request.csrPem = none ∧
        handleClientRegister rcgen serde env req node =
          (textResponse 500 "Failed to sign client certificate", node)) ∨
      ∃ row ca, CaService.storedRow rcgen env.signing node.ca.state env.uuid
          request.csrPem = some row ∧ node.ca.state = some ca ∧
        handleClientRegister rcgen serde env req node =
          (jsonResponse 201 (.clientRegister env.uuid row.certPem ca.certPem),
            { node with ca := node.ca.store row })) := by
  unfold handleClientRegister
  cases DeviceRegisterRequest.processRequest serde req with
  | error response => exact .inl ⟨response, rfl, rfl⟩
  | ok request =>
    refine .inr ⟨request, rfl, ?_⟩
    dsimp only
    rcases CaService.signCsr_cases rcgen env.signing node.ca env.uuid request.csrPem with
      ⟨unsigned, e, failed⟩ | ⟨row, stored, signed⟩
    · rw [failed]
      exact .inl ⟨unsigned, rfl⟩
    · rw [signed]
      obtain ⟨_, _, ca, ready⟩ := CaService.storedRow_spec rcgen env.signing node.ca.state
        env.uuid request.csrPem row stored
      refine .inr ⟨row, ca, stored, ready, ?_⟩
      have retrieved : (node.ca.store row).caCertPem = .ok ca.certPem := by
        simp [CaService.caCertPem, CaService.store, ready]
      dsimp only
      rw [retrieved]

end Handlers

end Hamlet
