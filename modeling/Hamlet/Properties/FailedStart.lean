import Hamlet.Properties.Restart

/-!
# A start that fails

A failed `start` should leave the service as it was, not running and ready for the next
attempt. The broker works that way: its child is stored last. The gateway stores its shutdown
sender before the TLS configuration can fail, the MQTT client takes its channel ends before the
connection options can fail, and the two cloud clients cannot be started a second time at all.
-/

namespace Hamlet

/-- If `start` fails, the service's fields are as before, it does not run, and any later start
in a healthy world succeeds. -/
def LeavesStartable (world : World) (svc : Service) : Prop :=
  ∀ e after, svc.start world = (.error e, after) →
    after = svc ∧ (after.isRunning world).1 = false ∧
      ∀ later : World, later.Healthy → ∃ pid started, after.start later = (.ok pid, started)

/-- The files that the connection options need are configured and readable. -/
def MqttOptsAvailable (config : MqttClientConfig) (world : World) : Prop :=
  match config.tlsMode with
  | .none => True
  | .serverOnly => ∀ cafile, config.cafile = some cafile →
      world.readFile cafile = .ok () ∧ world.gatewayCa = .ok ()
  | .mutual => ∃ cafile certfile keyfile,
      (config.cafile = some cafile ∧ config.certfile = some certfile ∧
        config.keyfile = some keyfile) ∧
      world.readFile cafile = .ok () ∧ world.readFile certfile = .ok () ∧
        world.readFile keyfile = .ok ()

/-- When a start leaves no trace if it fails. -/
def Service.StartsCleanly (world : World) : Service → Prop
  | .gateway svc => world.bind = .ok () → world.localAddr = .ok () → svc.config.tlsEnabled →
      world.tlsConfig = .ok ()
  | .mosquitto svc => svc.child = none
  | .mqttClient svc => svc.cmdRx ∧ svc.outRx ∧ svc.connectedTx ∧
      MqttOptsAvailable svc.config world
  | .outbound svc => svc.outboundRx

theorem buildMqttOpts_ok_iff (config : MqttClientConfig) (world : World) :
    buildMqttOpts config world = .ok () ↔ MqttOptsAvailable config world := by
  simp only [buildMqttOpts, MqttOptsAvailable]
  cases config.tlsMode
  · simp
  · cases config.cafile with
    | none => simp
    | some cafile => cases read : world.readFile cafile <;> simp [read]
  · cases config.cafile with
    | none => simp
    | some cafile =>
      cases config.certfile with
      | none => simp
      | some certfile =>
        cases config.keyfile with
        | none => simp
        | some keyfile =>
          cases readCa : world.readFile cafile with
          | error e => simp [readCa]
          | ok u =>
            cases readCert : world.readFile certfile with
            | error e => simp [readCa, readCert]
            | ok u => cases readKey : world.readFile keyfile <;> simp [readCa, readCert, readKey]

theorem bindGateway_ok_iff (world : World) (svc : GatewayService) :
    svc.bindGateway world = .ok () ↔ world.bind = .ok () ∧ world.localAddr = .ok () := by
  simp only [GatewayService.bindGateway]
  cases world.bind with
  | error e => simp
  | ok u => cases world.localAddr <;> simp

/-- A start that succeeds has nothing to leave behind. -/
theorem leavesStartable_of_ok {world : World} {svc after : Service} {pid : UInt32}
    (started : svc.start world = (.ok pid, after)) : LeavesStartable world svc := by
  intro e after' failed
  rw [started] at failed
  cases failed

/-- A failed start that changed the service breaks the law. -/
theorem not_leavesStartable_of_changed {world : World} {svc after : Service} {e : String}
    (failed : svc.start world = (.error e, after)) (changed : after ≠ svc) :
    ¬LeavesStartable world svc :=
  fun leaves => changed (leaves e after failed).1

/-- So does one that the healthiest world repeats. -/
theorem not_leavesStartable_of_spent {world : World} {svc after : Service} {e : String}
    (failed : svc.start world = (.error e, after))
    (spent : ∃ e' after', after.start healthyWorld = (.error e', after')) :
    ¬LeavesStartable world svc := by
  intro leaves
  obtain ⟨pid, started, again⟩ := (leaves e after failed).2.2 healthyWorld healthyWorld_healthy
  obtain ⟨e', after', refused⟩ := spent
  rw [refused] at again
  cases again

/-! ### The five services -/

section

variable (world : World)

/-- The gateway fails cleanly as long as it fails before it stores the shutdown sender. -/
theorem gateway_leavesStartable_iff (svc : GatewayService) (idle : svc.shutdownTx = false) :
    LeavesStartable world (.gateway svc) ↔ (Service.gateway svc).StartsCleanly world := by
  simp only [Service.StartsCleanly]
  cases bound : svc.bindGateway world with
  | error e =>
    have unbound : ¬(world.bind = .ok () ∧ world.localAddr = .ok ()) := by
      rw [← bindGateway_ok_iff world svc, bound]
      simp
    refine iff_of_true ?_ fun bind localAddr => absurd ⟨bind, localAddr⟩ unbound
    intro e' after failed
    simp only [Service.start, GatewayService.start, idle, bound, Bool.false_eq_true, if_false,
      Prod.map, id_eq, Prod.mk.injEq] at failed
    obtain ⟨_, rfl⟩ := failed
    refine ⟨rfl, idle, fun later healthy => ?_⟩
    obtain ⟨pid, started, ok, _⟩ :=
      lifecycle_reusable.start later (.gateway svc) healthy ⟨trivial, idle⟩
    exact ⟨pid, started, ok⟩
  | ok u =>
    obtain ⟨bind, localAddr⟩ := (bindGateway_ok_iff world svc).mp bound
    by_cases secure : svc.config.tlsEnabled
    · cases configured : world.tlsConfig with
      | error e =>
        -- the sender is stored and stays
        have failed : (Service.gateway svc).start world =
            (.error e, .gateway { svc with shutdownTx := true }) := by
          simp [Service.start, GatewayService.start, idle, bound, secure, configured]
        have changed : Service.gateway { svc with shutdownTx := true } ≠ .gateway svc := by
          intro same
          have sent := congrArg GatewayService.shutdownTx (Service.gateway.inj same)
          rw [idle] at sent
          cases sent
        refine iff_of_false (not_leavesStartable_of_changed failed changed) ?_
        exact fun clean => absurd (clean bind localAddr secure) (by simp)
      | ok u =>
        have started : (Service.gateway svc).start world =
            (.ok 0, .gateway { svc with shutdownTx := true }) := by
          simp [Service.start, GatewayService.start, idle, bound, secure, configured]
        exact iff_of_true (leavesStartable_of_ok started) fun _ _ _ => rfl
    · have started : (Service.gateway svc).start world =
          (.ok 0, .gateway { svc with shutdownTx := true }) := by
        simp [Service.start, GatewayService.start, idle, bound, secure]
      exact iff_of_true (leavesStartable_of_ok started) fun _ _ enabled => absurd enabled secure

/-- A child that died unnoticed makes the broker refuse every start. -/
theorem mosquitto_leavesStartable_iff (svc : MosquittoBrokerageService) :
    LeavesStartable world (.mosquitto svc) ↔ (Service.mosquitto svc).StartsCleanly world := by
  simp only [Service.StartsCleanly]
  cases child : svc.child with
  | some pid =>
    have refuses : ∀ world, (Service.mosquitto svc).start world =
        (.error "Mosquitto is already running", .mosquitto svc) := by
      intro world
      simp [Service.start, MosquittoBrokerageService.start, child]
    refine iff_of_false ?_ (by simp)
    exact not_leavesStartable_of_spent (refuses world) ⟨_, _, refuses healthyWorld⟩
  | none =>
    refine iff_of_true ?_ rfl
    intro e after failed
    -- the child is stored by the last step only
    have same : after = .mosquitto svc := by
      simp only [Service.start, MosquittoBrokerageService.start, child, Option.isSome_none,
        Bool.false_eq_true, if_false] at failed
      split at failed
      · split at failed
        all_goals cases failed
        all_goals rfl
      · cases failed
        rfl
    subst same
    refine ⟨rfl, by simp [Service.isRunning, MosquittoBrokerageService.isRunning, child], ?_⟩
    intro later healthy
    obtain ⟨pid, started, ok, _⟩ :=
      lifecycle_reusable.start later (.mosquitto svc) healthy ⟨trivial, child⟩
    exact ⟨pid, started, ok⟩

/-- The MQTT client never fails cleanly: its law is that it does not fail. -/
theorem mqttClient_leavesStartable_iff (svc : MqttClientService) (idle : svc.shutdownTx = false) :
    LeavesStartable world (.mqttClient svc) ↔ (Service.mqttClient svc).StartsCleanly world := by
  simp only [Service.StartsCleanly]
  rw [← buildMqttOpts_ok_iff]
  cases cmdRx : svc.cmdRx with
  | false =>
    have refuses : ∀ world, (Service.mqttClient svc).start world =
        (.error "MqttClientService command receiver already consumed", .mqttClient svc) := by
      intro world
      simp [Service.start, MqttClientService.start, MqttClientService.takeChannels, idle, cmdRx]
    refine iff_of_false ?_ (by simp)
    exact not_leavesStartable_of_spent (refuses world) ⟨_, _, refuses healthyWorld⟩
  | true =>
    -- from here on the command receiver is taken
    have changed : ∀ after : MqttClientService, after.cmdRx = false →
        Service.mqttClient after ≠ .mqttClient svc := by
      intro after taken same
      rw [Service.mqttClient.inj same, cmdRx] at taken
      cases taken
    cases outRx : svc.outRx with
    | false =>
      have failed : (Service.mqttClient svc).start world =
          (.error "MqttClientService outbound receiver already consumed",
            .mqttClient { svc with cmdRx := false }) := by
        simp [Service.start, MqttClientService.start, MqttClientService.takeChannels, idle, cmdRx,
          outRx]
      exact iff_of_false (not_leavesStartable_of_changed failed (changed _ rfl)) (by simp)
    | true =>
      cases connectedTx : svc.connectedTx with
      | false =>
        have failed : (Service.mqttClient svc).start world =
            (.error "MqttClientService connected sender already consumed",
              .mqttClient { svc with cmdRx := false, outRx := false }) := by
          simp [Service.start, MqttClientService.start, MqttClientService.takeChannels, idle, cmdRx,
            outRx, connectedTx]
        exact iff_of_false (not_leavesStartable_of_changed failed (changed _ rfl)) (by simp)
      | true =>
        cases built : buildMqttOpts svc.config world with
        | error e =>
          have failed : (Service.mqttClient svc).start world =
              (.error e, .mqttClient { svc with
                cmdRx := false
                outRx := false
                connectedTx := false }) := by
            simp [Service.start, MqttClientService.start, MqttClientService.takeChannels, idle,
              cmdRx, outRx, connectedTx, built]
          exact iff_of_false (not_leavesStartable_of_changed failed (changed _ rfl)) (by simp)
        | ok u =>
          have started : (Service.mqttClient svc).start world =
              (.ok 0, .mqttClient { svc with
                cmdRx := false
                outRx := false
                connectedTx := false
                shutdownTx := true
                cmdShutdownTx := true }) := by
            simp [Service.start, MqttClientService.start, MqttClientService.takeChannels, idle,
              cmdRx, outRx, connectedTx, built]
          exact iff_of_true (leavesStartable_of_ok started) (by simp)

theorem outbound_leavesStartable_iff (svc : OutboundService) :
    LeavesStartable world (.outbound svc) ↔ (Service.outbound svc).StartsCleanly world := by
  simp only [Service.StartsCleanly]
  cases outboundRx : svc.outboundRx with
  | false =>
    have refuses : ∀ world, (Service.outbound svc).start world =
        (.error (svc.name ++ " already started"), .outbound svc) := by
      intro world
      simp [Service.start, OutboundService.start, outboundRx]
    refine iff_of_false ?_ (by simp)
    exact not_leavesStartable_of_spent (refuses world) ⟨_, _, refuses healthyWorld⟩
  | true =>
    have started : (Service.outbound svc).start world =
        (.ok 0, .outbound { svc with outboundRx := false, shutdownTx := true }) := by
      simp [Service.start, OutboundService.start, outboundRx]
    exact iff_of_true (leavesStartable_of_ok started) rfl

end

/-- For each service, in every state in which it does not run and in every world: a failing
`start` leaves it as it was, not running and startable in a healthy world, exactly when the
gateway does not fail in its TLS configuration, the broker has no child, the MQTT client has
its channel ends and its files, and a cloud client has not been started before. -/
theorem failed_start_leaves_startable_iff (world : World) (svc : Service)
    (idle : (svc.isRunning world).1 = false) :
    LeavesStartable world svc ↔ svc.StartsCleanly world := by
  cases svc with
  | gateway svc => exact gateway_leavesStartable_iff world svc idle
  | mosquitto svc => exact mosquitto_leavesStartable_iff world svc
  | mqttClient svc => exact mqttClient_leavesStartable_iff world svc idle
  | outbound svc => exact outbound_leavesStartable_iff world svc

/-- The gateway that the default configuration builds. -/
def defaultGateway : Service :=
  Service.new (Config.fromEnv (.ofRest "opt/hamlet".toList) fun _ => none) .gateway

/-- A port that is taken: the next start finds the gateway as it was. -/
theorem gateway_startable_after_failed_bind :
    LeavesStartable { healthyWorld with bind := .error "address in use" } defaultGateway :=
  (failed_start_leaves_startable_iff _ defaultGateway rfl).mpr fun bound => by cases bound

/-- The CA gives no TLS configuration. -/
def tlsFails : World := { healthyWorld with tlsConfig := .error "CA not initialised" }

/-- The gateway that failed there reports that it is running. -/
theorem gateway_stuck_after_failed_tls :
    (defaultGateway.isRunning tlsFails).1 = false ∧ ¬LeavesStartable tlsFails defaultGateway := by
  refine ⟨rfl, fun leaves => ?_⟩
  have stopped := (leaves _ _ rfl).2.1
  cases stopped

end Hamlet
