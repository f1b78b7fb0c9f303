import Hamlet.Lib.Backoff
import Hamlet.Lib.BoundedQueue
import Hamlet.Lib.Runs
import Hamlet.MqttClient.Types
import Hamlet.Services

/-!
# The MQTT connection task of the cloud gateway

`spawn_connection_task` of the gateway's MQTT client: log in, build a client from the
credentials, then serve the outbound queue, the event loop and the shutdown signal until the
connection breaks. A step ends where the task awaits something; what the network and the
choice of `select!` yield is part of the action.

Of `rumqttc` the model takes this: a client has its own request queue, on which `publish`,
`subscribe` and `disconnect` wait for a slot; a request with an invalid topic is refused before
it waits; only `poll` takes requests out, once the `ConnAck` of the connection has come; a publish
that it writes is in flight until its `PubAck`; and what is queued in a dropped event loop, or in
flight on it, is gone.
-/

namespace Hamlet

open UnixPath

structure BrokerInfo where
  host : String
  port : UInt16
  deriving DecidableEq, Repr

/-- The topics of this device, fully qualified. -/
structure DeviceTopics where
  cmds : String
  connect : String
  notify : String
  deriving DecidableEq, Repr

structure LoginResponse where
  protocolVersion : String
  deviceId : String
  mqttUsername : String
  mqttPassword : String
  broker : BrokerInfo
  topics : DeviceTopics
  deriving DecidableEq, Repr

inductive LoginError where
  /-- The gateway answered 401. -/
  | unauthorized
  | transient (e : String)
  deriving DecidableEq, Repr

inductive Envelope where
  | alive (deviceId : String)
  deriving DecidableEq, Repr

structure GatewayMqttConfig where
  loginUrl : String
  username : String
  password : String
  brokerCafile : Option AbsPath
  brokerTls : Bool
  deriving DecidableEq

/-- The client that the task builds from a login. -/
def GatewayMqttConfig.clientConfig (config : GatewayMqttConfig) (creds : LoginResponse) :
    MqttClientConfig where
  clientId := creds.deviceId
  host := creds.broker.host
  port := creds.broker.port
  tlsMode := if config.brokerTls then .serverOnly else .none
  cafile := config.brokerCafile
  certfile := none
  keyfile := none
  username := creds.mqttUsername
  password := creds.mqttPassword

/-- What the task puts on the request queue. -/
inductive GatewayRequest where
  /-- A message of the outbound queue, published `AtLeastOnce`. -/
  | publish (msg : MqttMessage)
  /-- `AtLeastOnce`, too. -/
  | subscribe (topic : String)
  | notify (topic : String) (envelope : Envelope)
  | disconnect
  deriving DecidableEq, Repr

/-- The broker owes the request a `PubAck`, until which the event loop keeps it. -/
def GatewayRequest.awaitsPubAck : GatewayRequest → Bool
  | .publish _ | .notify _ _ => true
  | .subscribe _ | .disconnect => false

/-- The requests of `on_connected`, in order. -/
def onConnected (creds : LoginResponse) : List GatewayRequest :=
  [.subscribe creds.topics.cmds, .subscribe creds.topics.connect,
    .notify creds.topics.notify (.alive creds.deviceId)]

inductive PollEvent where
  | connAck
  /-- `handle_inbound` logs it. -/
  | publish (msg : MqttMessage)
  /-- A request has been written to the connection. -/
  | outgoing
  /-- The broker acknowledges the publish at this place of those in flight. -/
  | pubAck (slot : Nat)
  | other
  deriving DecidableEq, Repr

inductive PollError where
  | connectionRefused (code : String)
  | other (e : String)
  deriving DecidableEq, Repr

inductive GatewayMqttPhase where
  /-- At the head of the `'reconnect` loop. -/
  | reconnecting
  | loggingIn
  /-- In `build_mqtt_opts`. -/
  | building (creds : LoginResponse)
  /-- At the inner `select!`. -/
  | selecting (creds : LoginResponse)
  /-- In `client.publish` with a message of the outbound queue. -/
  | publishing (creds : LoginResponse) (msg : MqttMessage)
  /-- In `on_connected`, with the requests still to issue. -/
  | connecting (creds : LoginResponse) (request : GatewayRequest) (rest : List GatewayRequest)
  /-- In `client.disconnect`. -/
  | disconnecting
  | backingOff
  | stopped
  deriving DecidableEq, Repr

/-- What the task has done. -/
inductive GatewayMqttEvent where
  /-- A pass through the `'reconnect` loop begins. -/
  | pass
  | login
  | loggedIn (creds : LoginResponse)
  /-- `AsyncClient::new`. -/
  | built (creds : LoginResponse) (config : MqttClientConfig)
  | connAck
  | refused (creds : LoginResponse)
  /-- A backoff that was not interrupted. -/
  | waited (secs : Nat)
  deriving DecidableEq

inductive GatewayMqttAction where
  /-- `GatewayMqttHandle::publish`. -/
  | enqueue (msg : MqttMessage)
  | signalShutdown
  | beginPass
  | login (result : Except LoginError LoginResponse)
  | buildOpts (world : World)
  | takeShutdown
  | takeMessage
  /-- The awaited call of the client returns. -/
  | issue
  | poll (result : Except PollError PollEvent)
  | wake

namespace GatewayMqtt

abbrev outboundCapacity : Nat := 64

/-- In seconds. -/
abbrev initialReconnectDelay : Nat := 2

/-- In seconds. -/
abbrev maxReconnectDelay : Nat := 60

end GatewayMqtt

structure GatewayMqtt where
  phase : GatewayMqttPhase
  delay : Nat
  cached : Option LoginResponse
  outbound : BoundedQueue MqttMessage GatewayMqtt.outboundCapacity
  /-- The shutdown sender was used or dropped. -/
  shutdown : Bool
  /-- The request queue of the client in use. -/
  requests : BoundedQueue GatewayRequest requestCapacity
  /-- Publishes that the client in use has written and that its broker has not acknowledged. -/
  inFlight : List GatewayRequest
  /-- The client in use has got its `ConnAck`. -/
  connected : Bool
  /-- Messages that `GatewayMqttHandle::publish` has put on the queue. -/
  accepted : List MqttMessage
  /-- Messages taken out of the queue. -/
  taken : List MqttMessage
  /-- Publishes that a broker has acknowledged, over all connections. -/
  acknowledged : List GatewayRequest
  log : List GatewayMqttEvent

namespace GatewayMqtt

def init : GatewayMqtt where
  phase := .reconnecting
  delay := initialReconnectDelay
  cached := none
  outbound := .empty
  shutdown := false
  requests := .empty
  inFlight := []
  connected := false
  accepted := []
  taken := []
  acknowledged := []
  log := []

/-- The connection has ended: its client and event loop are not used again. -/
def abandon (s : GatewayMqtt) : GatewayMqtt :=
  { s with phase := .backingOff, requests := .empty, inFlight := [], connected := false }

/-- Where `on_connected` goes on. -/
def connectingWith (creds : LoginResponse) : List GatewayRequest → GatewayMqttPhase
  | [] => .selecting creds
  | request :: rest => .connecting creds request rest

def handlePoll (s : GatewayMqtt) (creds : LoginResponse) :
    Except PollError PollEvent → Option GatewayMqtt
  | .ok .connAck =>
    -- a connection has one
    if s.connected then none
    else
      some { s with
        phase := connectingWith creds (onConnected creds)
        delay := initialReconnectDelay
        connected := true
        log := s.log ++ [.connAck] }
  | .ok (.publish _) | .ok .other => some s
  | .ok .outgoing =>
    -- what was queued earlier waits for the `ConnAck`
    if s.connected then
      s.requests.pop.map fun (request, requests) =>
        { s with
          requests
          inFlight := s.inFlight ++ [request].filter GatewayRequest.awaitsPubAck }
    else none
  | .ok (.pubAck slot) =>
    s.inFlight[slot]?.map fun request =>
      { s with
        inFlight := s.inFlight.eraseIdx slot
        acknowledged := s.acknowledged ++ [request] }
  -- the broker refused the credentials: force a fresh login
  | .error (.connectionRefused _) =>
    some { s.abandon with cached := none, log := s.log ++ [.refused creds] }
  | .error (.other _) => some s.abandon

/-- `publish` and `subscribe` wait for a slot unless the client refuses the request. -/
def callClient (accepts : GatewayRequest → Bool)
    (requests : BoundedQueue GatewayRequest requestCapacity) (request : GatewayRequest) :
    Option (BoundedQueue GatewayRequest requestCapacity) :=
  -- an invalid topic takes no slot
  if accepts request then requests.push request else some requests

def step (config : GatewayMqttConfig) (accepts : GatewayRequest → Bool) (s : GatewayMqtt) :
    GatewayMqttAction → Option GatewayMqtt
  | .enqueue msg =>
    match s.phase with
    -- the receiver is gone with the task
    | .stopped => none
    | _ =>
      (s.outbound.push msg).map fun outbound =>
        { s with outbound, accepted := s.accepted ++ [msg] }
  | .signalShutdown => some { s with shutdown := true }
  | .beginPass =>
    match s.phase with
    | .reconnecting =>
      match s.cached with
      | some creds => some { s with phase := .building creds, log := s.log ++ [.pass] }
      | none => some { s with phase := .loggingIn, log := s.log ++ [.pass, .login] }
    | _ => none
  | .login result =>
    match s.phase, result with
    | .loggingIn, .ok creds =>
      some { s with
        phase := .building creds
        cached := some creds
        log := s.log ++ [.loggedIn creds] }
    | .loggingIn, .error _ => some { s with phase := .backingOff }
    | _, _ => none
  | .buildOpts world =>
    match s.phase with
    | .building creds =>
      match buildMqttOpts (config.clientConfig creds) world with
      | .error _ => some { s with phase := .backingOff }
      | .ok () =>
        -- `AsyncClient::new`: nothing is queued or in flight yet
        some { s with
          phase := .selecting creds
          requests := .empty
          inFlight := []
          connected := false
          log := s.log ++ [.built creds (config.clientConfig creds)] }
    | _ => none
  | .takeShutdown =>
    -- in the other phases nobody looks at the signal
    if s.shutdown then
      match s.phase with
      | .loggingIn => some { s with phase := .stopped }
      | .selecting _ => some { s with phase := .disconnecting }
      | .backingOff =>
        some { s with phase := .stopped, delay := Backoff.next maxReconnectDelay s.delay }
      | _ => none
    else none
  | .takeMessage =>
    match s.phase with
    | .selecting creds =>
      s.outbound.pop.map fun (msg, outbound) =>
        { s with phase := .publishing creds msg, outbound, taken := s.taken ++ [msg] }
    | _ => none
  | .issue =>
    match s.phase with
    | .publishing creds msg =>
      -- a refused publish is logged
      (callClient accepts s.requests (.publish msg)).map fun requests =>
        { s with phase := .selecting creds, requests }
    | .connecting creds request rest =>
      (callClient accepts s.requests request).map fun requests =>
        { s with phase := connectingWith creds rest, requests }
    | .disconnecting =>
      -- the event loop is dropped before it can send the request
      (s.requests.push .disconnect).map fun _ => { s.abandon with phase := .stopped }
    | _ => none
  | .poll result =>
    match s.phase with
    | .selecting creds => s.handlePoll creds result
    | _ => none
  | .wake =>
    match s.phase with
    | .backingOff =>
      some { s with
        phase := .reconnecting
        delay := Backoff.next maxReconnectDelay s.delay
        log := s.log ++ [.waited s.delay] }
    | _ => none

/-! ### What a step can do -/

/-- The request queue after a call that has returned. -/
def Called (accepts : GatewayRequest → Bool) (s : GatewayMqtt) (request : GatewayRequest)
    (requests : BoundedQueue GatewayRequest requestCapacity) : Prop :=
  (accepts request ∧ ¬s.requests.Full ∧ requests.buffer = s.requests.buffer ++ [request]) ∨
    (¬accepts request ∧ requests = s.requests)

theorem called_of_callClient {accepts : GatewayRequest → Bool} {s : GatewayMqtt}
    {request : GatewayRequest} {requests : BoundedQueue GatewayRequest requestCapacity}
    (returned : callClient accepts s.requests request = some requests) :
    Called accepts s request requests := by
  simp only [callClient] at returned
  split at returned
  next accepted =>
    obtain ⟨room, queued⟩ := (BoundedQueue.push_iff ..).mp returned
    exact .inl ⟨accepted, room, queued⟩
  next refused =>
    cases returned
    exact .inr ⟨refused, rfl⟩

inductive Steps (config : GatewayMqttConfig) (accepts : GatewayRequest → Bool) (s : GatewayMqtt) :
    GatewayMqttAction → GatewayMqtt → Prop where
  | enqueued (msg : MqttMessage) (outbound : BoundedQueue MqttMessage outboundCapacity)
      (live : s.phase ≠ .stopped) (queued : outbound.buffer = s.outbound.buffer ++ [msg]) :
      Steps config accepts s (.enqueue msg)
        { s with outbound, accepted := s.accepted ++ [msg] }
  | signalled : Steps config accepts s .signalShutdown { s with shutdown := true }
  | reusedLogin (creds : LoginResponse) (phase : s.phase = .reconnecting)
      (cached : s.cached = some creds) :
      Steps config accepts s .beginPass { s with phase := .building creds, log := s.log ++ [.pass] }
  | beganLogin (phase : s.phase = .reconnecting) (cached : s.cached = none) :
      Steps config accepts s .beginPass
        { s with phase := .loggingIn, log := s.log ++ [.pass, .login] }
  | loggedIn (creds : LoginResponse) (phase : s.phase = .loggingIn) :
      Steps config accepts s (.login (.ok creds))
        { s with
          phase := .building creds
          cached := some creds
          log := s.log ++ [.loggedIn creds] }
  | loginFailed (e : LoginError) (phase : s.phase = .loggingIn) :
      Steps config accepts s (.login (.error e)) { s with phase := .backingOff }
  | built (world : World) (creds : LoginResponse) (phase : s.phase = .building creds)
      (ok : buildMqttOpts (config.clientConfig creds) world = .ok ()) :
      Steps config accepts s (.buildOpts world)
        { s with
          phase := .selecting creds
          requests := .empty
          inFlight := []
          connected := false
          log := s.log ++ [.built creds (config.clientConfig creds)] }
  | buildFailed (world : World) (creds : LoginResponse) (phase : s.phase = .building creds)
      (e : String) (failed : buildMqttOpts (config.clientConfig creds) world = .error e) :
      Steps config accepts s (.buildOpts world) { s with phase := .backingOff }
  | abandonedLogin (signalled : s.shutdown) (phase : s.phase = .loggingIn) :
      Steps config accepts s .takeShutdown { s with phase := .stopped }
  | shuttingDown (creds : LoginResponse) (signalled : s.shutdown)
      (phase : s.phase = .selecting creds) :
      Steps config accepts s .takeShutdown { s with phase := .disconnecting }
  | abandonedWait (signalled : s.shutdown) (phase : s.phase = .backingOff) :
      Steps config accepts s .takeShutdown
        { s with phase := .stopped, delay := Backoff.next maxReconnectDelay s.delay }
  | took (creds : LoginResponse) (msg : MqttMessage)
      (outbound : BoundedQueue MqttMessage outboundCapacity)
      (phase : s.phase = .selecting creds) (popped : s.outbound.buffer = msg :: outbound.buffer) :
      Steps config accepts s .takeMessage
        { s with phase := .publishing creds msg, outbound, taken := s.taken ++ [msg] }
  | published (creds : LoginResponse) (msg : MqttMessage)
      (requests : BoundedQueue GatewayRequest requestCapacity)
      (phase : s.phase = .publishing creds msg)
      (called : Called accepts s (.publish msg) requests) :
      Steps config accepts s .issue { s with phase := .selecting creds, requests }
  | requested (creds : LoginResponse) (request : GatewayRequest) (rest : List GatewayRequest)
      (requests : BoundedQueue GatewayRequest requestCapacity)
      (phase : s.phase = .connecting creds request rest)
      (called : Called accepts s request requests) :
      Steps config accepts s .issue { s with phase := connectingWith creds rest, requests }
  | disconnected (phase : s.phase = .disconnecting) (room : ¬s.requests.Full) :
      Steps config accepts s .issue { s.abandon with phase := .stopped }
  | connected (creds : LoginResponse) (phase : s.phase = .selecting creds)
      (fresh : s.connected = false) :
      Steps config accepts s (.poll (.ok .connAck))
        { s with
          phase := connectingWith creds (onConnected creds)
          delay := initialReconnectDelay
          connected := true
          log := s.log ++ [.connAck] }
  | polled (creds : LoginResponse) (event : PollEvent) (phase : s.phase = .selecting creds)
      (inert : event = .other ∨ ∃ msg, event = .publish msg) :
      Steps config accepts s (.poll (.ok event)) s
  | sent (creds : LoginResponse) (request : GatewayRequest)
      (requests : BoundedQueue GatewayRequest requestCapacity)
      (phase : s.phase = .selecting creds) (connected : s.connected)
      (popped : s.requests.buffer = request :: requests.buffer) :
      Steps config accepts s (.poll (.ok .outgoing))
        { s with
          requests
          inFlight := s.inFlight ++ [request].filter GatewayRequest.awaitsPubAck }
  | acknowledged (creds : LoginResponse) (slot : Nat) (request : GatewayRequest)
      (phase : s.phase = .selecting creds) (written : s.inFlight[slot]? = some request) :
      Steps config accepts s (.poll (.ok (.pubAck slot)))
        { s with
          inFlight := s.inFlight.eraseIdx slot
          acknowledged := s.acknowledged ++ [request] }
  | refused (creds : LoginResponse) (code : String) (phase : s.phase = .selecting creds) :
      Steps config accepts s (.poll (.error (.connectionRefused code)))
        { s.abandon with cached := none, log := s.log ++ [.refused creds] }
  | broken (creds : LoginResponse) (e : String) (phase : s.phase = .selecting creds) :
      Steps config accepts s (.poll (.error (.other e))) s.abandon
  | woke (phase : s.phase = .backingOff) :
      Steps config accepts s .wake
        { s with
          phase := .reconnecting
          delay := Backoff.next maxReconnectDelay s.delay
          log := s.log ++ [.waited s.delay] }

section

variable (config : GatewayMqttConfig) (accepts : GatewayRequest → Bool) (s s' : GatewayMqtt)

theorem handlePoll_cases (creds : LoginResponse) (result : Except PollError PollEvent)
    (phase : s.phase = .selecting creds) (polled : s.handlePoll creds result = some s') :
    Steps config accepts s (.poll result) s' := by
  simp only [handlePoll] at polled
  split at polled
  next =>
    obtain ⟨fresh, shape⟩ := Option.ite_none_left_eq_some.mp polled
    cases shape
    exact .connected creds phase (Bool.eq_false_iff.mpr fresh)
  next msg =>
    cases polled
    exact .polled creds _ phase (.inr ⟨msg, rfl⟩)
  next =>
    cases polled
    exact .polled creds _ phase (.inl rfl)
  next =>
    obtain ⟨connected, shape⟩ := Option.ite_none_right_eq_some.mp polled
    obtain ⟨⟨request, requests⟩, popped, rfl⟩ := Option.map_eq_some_iff.mp shape
    exact .sent creds request requests phase connected ((BoundedQueue.pop_iff ..).mp popped)
  next slot =>
    obtain ⟨request, written, rfl⟩ := Option.map_eq_some_iff.mp polled
    exact .acknowledged creds slot request phase written
  next code =>
    cases polled
    exact .refused creds code phase
  next e =>
    cases polled
    exact .broken creds e phase

theorem step_cases (action : GatewayMqttAction)
    (stepped : s.step config accepts action = some s') : Steps config accepts s action s' := by
  cases action with
  | enqueue msg =>
    simp only [step] at stepped
    split at stepped
    next => cases stepped
    next live =>
      obtain ⟨outbound, pushed, rfl⟩ := Option.map_eq_some_iff.mp stepped
      exact .enqueued msg outbound live ((BoundedQueue.push_iff ..).mp pushed).2
  | signalShutdown =>
    cases stepped
    exact .signalled
  | beginPass =>
    simp only [step] at stepped
    split at stepped
    next phase =>
      split at stepped
      next creds cached =>
        cases stepped
        exact .reusedLogin creds phase cached
      next cached =>
        cases stepped
        exact .beganLogin phase cached
    next => cases stepped
  | login result =>
    simp only [step] at stepped
    split at stepped
    next creds phase =>
      cases stepped
      exact .loggedIn creds phase
    next e phase =>
      cases stepped
      exact .loginFailed e phase
    next => cases stepped
  | buildOpts world =>
    simp only [step] at stepped
    split at stepped
    next creds phase =>
      split at stepped
      next e failed =>
        cases stepped
        exact .buildFailed world creds phase e failed
      next ok =>
        cases stepped
        exact .built world creds phase ok
    next => cases stepped
  | takeShutdown =>
    simp only [step] at stepped
    obtain ⟨signalled, stepped⟩ := Option.ite_none_right_eq_some.mp stepped
    split at stepped
    next phase =>
      cases stepped
      exact .abandonedLogin signalled phase
    next creds phase =>
      cases stepped
      exact .shuttingDown creds signalled phase
    next phase =>
      cases stepped
      exact .abandonedWait signalled phase
    next => cases stepped
  | takeMessage =>
    simp only [step] at stepped
    split at stepped
    next creds phase =>
      obtain ⟨⟨msg, outbound⟩, popped, rfl⟩ := Option.map_eq_some_iff.mp stepped
      exact .took creds msg outbound phase ((BoundedQueue.pop_iff ..).mp popped)
    next => cases stepped
  | issue =>
    simp only [step] at stepped
    split at stepped
    next creds msg phase =>
      obtain ⟨requests, returned, rfl⟩ := Option.map_eq_some_iff.mp stepped
      exact .published creds msg requests phase (called_of_callClient returned)
    next creds request rest phase =>
      obtain ⟨requests, returned, rfl⟩ := Option.map_eq_some_iff.mp stepped
      exact .requested creds request rest requests phase (called_of_callClient returned)
    next phase =>
      obtain ⟨requests, pushed, rfl⟩ := Option.map_eq_some_iff.mp stepped
      exact .disconnected phase ((BoundedQueue.push_iff ..).mp pushed).1
    next => cases stepped
  | poll result =>
    simp only [step] at stepped
    split at stepped
    next creds phase => exact handlePoll_cases config accepts s s' creds result phase stepped
    next => cases stepped
  | wake =>
    simp only [step] at stepped
    split at stepped
    next phase =>
      cases stepped
      exact .woke phase
    next => cases stepped

end

end GatewayMqtt

end Hamlet
