import Hamlet.Services

/-!
# Restarting services

The law that the supervisor's tests state for a mock: a restart succeeds, and so does a
start of a stopped service. A lifecycle says how a service moves between the states in
which it is ready, up and down; the law then depends on what a service that is down can do.
The gateway and the broker are ready again. The other three have consumed a channel end
and can never be started a second time.
-/

namespace Hamlet

inductive Operation where
  | start
  | stop
  | restart
  deriving DecidableEq, Repr

def SupervisorCommand.operationOn (id : ServiceId) : SupervisorCommand → Option Operation
  | .start target => if target = id then some .start else none
  | .stop target => if target = id then some .stop else none
  | .restart target => if target = id then some .restart else none
  | .status => none

theorem SupervisorCommand.cases_on (id : ServiceId) (command : SupervisorCommand) :
    (command.target ≠ some id ∧ command.operationOn id = none) ∨
      command = .start id ∨ command = .stop id ∨ command = .restart id := by
  cases command with
  | status => exact .inl ⟨by simp [target], rfl⟩
  | start other | stop other | restart other =>
    by_cases same : other = id
    · subst same
      simp
    · exact .inl ⟨by simpa [target] using same, by simp [operationOn, same]⟩

section

variable {S E : Type} (m : ManagedService S E) (id : ServiceId)

/-- The operations on one service in a command history. -/
def operationsOn (commands : List (E × SupervisorCommand)) : List Operation :=
  commands.filterMap fun command => command.2.operationOn id

/-- Along the commands every restart of `id` replies `Ok` and leaves it running, and every
start of it while it is stopped replies `Ok`. -/
def RestartLaw : Supervisor S → List (E × SupervisorCommand) → Prop
  | _, [] => True
  | sup, (env, command) :: rest =>
    (command = .restart id → (sup.execute m env command).1 = .result (.ok ()) ∧
      ∃ pid, (sup.execute m env command).2.statuses id = some (.running pid)) ∧
    (command = .start id → sup.statuses id = some .stopped →
      (sup.execute m env command).1 = .result (.ok ())) ∧
    RestartLaw (sup.execute m env command).2 rest

variable {m id} {sup : Supervisor S} {env : E} {rest : List (E × SupervisorCommand)}

theorem restartLaw_start : RestartLaw m id sup ((env, .start id) :: rest) ↔
    (sup.statuses id = some .stopped → (sup.handleStart m id env).1 = .ok ()) ∧
      RestartLaw m id (sup.handleStart m id env).2 rest := by
  simp [RestartLaw, Supervisor.execute]

theorem restartLaw_stop : RestartLaw m id sup ((env, .stop id) :: rest) ↔
    RestartLaw m id (sup.handleStop m id env).2 rest := by
  simp [RestartLaw, Supervisor.execute]

theorem restartLaw_restart : RestartLaw m id sup ((env, .restart id) :: rest) ↔
    ((sup.handleRestart m id env).1 = .ok () ∧
      ∃ pid, (sup.handleRestart m id env).2.statuses id = some (.running pid)) ∧
      RestartLaw m id (sup.handleRestart m id env).2 rest := by
  simp [RestartLaw, Supervisor.execute]

theorem restartLaw_other {command : SupervisorCommand} (elsewhere : command.target ≠ some id) :
    RestartLaw m id sup ((env, command) :: rest) ↔
      RestartLaw m id (sup.execute m env command).2 rest := by
  have notRestart : command ≠ .restart id := by
    rintro rfl
    exact elsewhere rfl
  have notStart : command ≠ .start id := by
    rintro rfl
    exact elsewhere rfl
  simp [RestartLaw, notRestart, notStart]

theorem at_execute_other {command : SupervisorCommand} {status : ServiceStatus} {svc : S}
    (elsewhere : command.target ≠ some id) (here : sup.At id status svc) :
    (sup.execute m env command).2.At id status svc := by
  obtain ⟨sameStatus, sameService⟩ := sup.execute_other m id env command elsewhere
  exact ⟨sameStatus.trans here.1, sameService.trans here.2⟩

/-! ### Lifecycles -/

/-- In a good environment a service that is ready starts and is up, and one that is up
stops and is down. -/
structure Lifecycle (m : ManagedService S E) (Good : E → Prop) (Ready Up Down : S → Prop) :
    Prop where
  start : ∀ env svc, Good env → Ready svc → ∃ pid svc', m.start env svc = (.ok pid, svc') ∧ Up svc'
  stop : ∀ env svc, Up svc → ∃ svc', m.stop env svc = (.ok (), svc') ∧ Down svc'

variable {Good : E → Prop} {Ready Up Down : S → Prop}

/-- A service that is ready again once it is down can be restarted for ever. -/
theorem restartLaw_of_reusable (life : Lifecycle m Good Ready Up Ready)
    (commands : List (E × SupervisorCommand)) (good : ∀ command ∈ commands, Good command.1)
    (svc : S) (here : (sup.At id .stopped svc ∧ Ready svc) ∨
      ∃ pid, sup.At id (.running pid) svc ∧ Up svc) :
    RestartLaw m id sup commands := by
  induction commands generalizing sup svc with
  | nil => trivial
  | cons head rest ih =>
    obtain ⟨env, command⟩ := head
    have goodEnv : Good env := good _ (List.mem_cons_self ..)
    have goodRest : ∀ command ∈ rest, Good command.1 :=
      fun command member => good command (List.mem_cons_of_mem _ member)
    rcases command.cases_on id with ⟨elsewhere, _⟩ | rfl | rfl | rfl
    · rw [restartLaw_other elsewhere]
      refine ih goodRest svc ?_
      rcases here with ⟨here, ready⟩ | ⟨pid, here, up⟩
      · exact .inl ⟨at_execute_other elsewhere here, ready⟩
      · exact .inr ⟨pid, at_execute_other elsewhere here, up⟩
    · rw [restartLaw_start]
      rcases here with ⟨here, ready⟩ | ⟨pid, here, up⟩
      · -- stopped: the start succeeds
        obtain ⟨pid, svc', started, up⟩ := life.start env svc goodEnv ready
        obtain ⟨ok, here'⟩ := Supervisor.handleStart_ok here started
        exact ⟨fun _ => ok, ih goodRest svc' (.inr ⟨pid, here', up⟩)⟩
      · -- running: refused, which the law allows
        refine ⟨fun stopped => ?_, ?_⟩
        · rw [here.1] at stopped
          cases stopped
        · rw [Supervisor.handleStart_running here]
          exact ih goodRest svc (.inr ⟨pid, here, up⟩)
    · rw [restartLaw_stop]
      rcases here with ⟨here, ready⟩ | ⟨pid, here, up⟩
      · rw [Supervisor.handleStop_stopped here]
        exact ih goodRest svc (.inl ⟨here, ready⟩)
      · obtain ⟨svc', stopped, ready⟩ := life.stop env svc up
        exact ih goodRest svc' (.inl ⟨Supervisor.handleStop_ok here stopped, ready⟩)
    · rw [restartLaw_restart]
      rcases here with ⟨here, ready⟩ | ⟨pid, here, up⟩
      · obtain ⟨pid, svc', started, up⟩ := life.start env svc goodEnv ready
        obtain ⟨ok, here'⟩ := Supervisor.handleStart_ok here started
        rw [Supervisor.handleRestart_stopped here]
        exact ⟨⟨ok, pid, here'.1⟩, ih goodRest svc' (.inr ⟨pid, here', up⟩)⟩
      · -- running: stop, then start what is ready again
        obtain ⟨svc₁, stopped, ready⟩ := life.stop env svc up
        obtain ⟨pid', svc₂, started, up'⟩ := life.start env svc₁ goodEnv ready
        obtain ⟨ok, here'⟩ :=
          Supervisor.handleStart_ok (Supervisor.handleStop_ok here stopped) started
        rw [Supervisor.handleRestart_running here]
        exact ⟨⟨ok, pid', here'.1⟩, ih goodRest svc₂ (.inr ⟨pid', here', up'⟩)⟩

/-! ### Services that start once -/

/-- After the first start or restart comes no restart, and no start after a stop. -/
def StartedOnce (operations : List Operation) : Prop :=
  match operations.dropWhile (· = .stop) with
  | [] => True
  | _ :: rest => .restart ∉ rest ∧ .start ∉ rest.dropWhile (· ≠ .stop)

instance (operations : List Operation) : Decidable (StartedOnce operations) := by
  unfold StartedOnce
  split <;> infer_instance

/-- No start succeeds once the service is down. -/
def StaysDown (m : ManagedService S E) (Down : S → Prop) : Prop :=
  ∀ env svc, Down svc → ∃ e svc', m.start env svc = (.error e, svc')

theorem operationsOn_cons (env : E) (command : SupervisorCommand) :
    operationsOn id ((env, command) :: rest) =
      (command.operationOn id).toList ++ operationsOn id rest := by
  unfold operationsOn
  rw [List.filterMap_cons]
  cases command.operationOn id <;> rfl

/-- A service that is down obeys the law only as long as nobody wants it back. -/
theorem restartLaw_down_iff (spent : StaysDown m Down) (commands : List (E × SupervisorCommand))
    (svc : S) (here : sup.At id .stopped svc) (down : Down svc) :
    RestartLaw m id sup commands ↔ ∀ operation ∈ operationsOn id commands, operation = .stop := by
  induction commands generalizing sup with
  | nil => simp [RestartLaw, operationsOn]
  | cons head rest ih =>
    obtain ⟨env, command⟩ := head
    obtain ⟨e, svc', refused⟩ := spent env svc down
    -- a start or restart here is the violation itself
    have failed := Supervisor.handleStart_error here refused
    rw [operationsOn_cons]
    rcases command.cases_on id with ⟨elsewhere, other⟩ | rfl | rfl | rfl
    · rw [restartLaw_other elsewhere, ih (at_execute_other elsewhere here), other]
      rfl
    · rw [restartLaw_start, failed]
      simp [SupervisorCommand.operationOn, here.1]
    · rw [restartLaw_stop, Supervisor.handleStop_stopped here, ih here]
      simp [SupervisorCommand.operationOn]
    · rw [restartLaw_restart, Supervisor.handleRestart_stopped here, failed]
      simp [SupervisorCommand.operationOn]

theorem all_stop_iff (operations : List Operation) :
    (∀ operation ∈ operations, operation = .stop) ↔
      .restart ∉ operations ∧ .start ∉ operations := by
  constructor
  · intro all
    constructor <;> intro member <;> cases all _ member
  · rintro ⟨noRestart, noStart⟩ operation member
    cases operation with
    | stop => rfl
    | start => exact absurd member noStart
    | restart => exact absurd member noRestart

theorem restartLaw_up_iff (life : Lifecycle m Good Ready Up Down) (spent : StaysDown m Down)
    (commands : List (E × SupervisorCommand)) (svc : S) (pid : UInt32)
    (here : sup.At id (.running pid) svc) (up : Up svc) :
    RestartLaw m id sup commands ↔ .restart ∉ operationsOn id commands ∧
      .start ∉ (operationsOn id commands).dropWhile (· ≠ .stop) := by
  induction commands generalizing sup with
  | nil => simp [RestartLaw, operationsOn]
  | cons head rest ih =>
    obtain ⟨env, command⟩ := head
    obtain ⟨svc', stopped, down⟩ := life.stop env svc up
    have here' := Supervisor.handleStop_ok here stopped
    rw [operationsOn_cons]
    rcases command.cases_on id with ⟨elsewhere, other⟩ | rfl | rfl | rfl
    · rw [restartLaw_other elsewhere, ih (at_execute_other elsewhere here), other]
      rfl
    · rw [restartLaw_start, Supervisor.handleStart_running here, ih here]
      simp [SupervisorCommand.operationOn, here.1]
    · rw [restartLaw_stop, restartLaw_down_iff spent rest svc' here' down]
      simp only [SupervisorCommand.operationOn, if_pos, Option.toList_some, List.singleton_append,
        List.mem_cons, reduceCtorEq, false_or, ne_eq, not_true_eq_false, decide_false,
        Bool.false_eq_true, not_false_eq_true, List.dropWhile_cons_of_neg]
      exact all_stop_iff _
    · -- the restart stops the service and then cannot start it
      obtain ⟨e, svc₂, refused⟩ := spent env svc' down
      rw [restartLaw_restart, Supervisor.handleRestart_running here,
        Supervisor.handleStart_error here' refused]
      simp [SupervisorCommand.operationOn]

theorem restartLaw_ready_iff (life : Lifecycle m Good Ready Up Down) (spent : StaysDown m Down)
    (commands : List (E × SupervisorCommand)) (good : ∀ command ∈ commands, Good command.1)
    (svc : S) (here : sup.At id .stopped svc) (ready : Ready svc) :
    RestartLaw m id sup commands ↔ StartedOnce (operationsOn id commands) := by
  induction commands generalizing sup with
  | nil => simp [RestartLaw, operationsOn, StartedOnce]
  | cons head rest ih =>
    obtain ⟨env, command⟩ := head
    have goodEnv : Good env := good _ (List.mem_cons_self ..)
    have goodRest : ∀ command ∈ rest, Good command.1 :=
      fun command member => good command (List.mem_cons_of_mem _ member)
    obtain ⟨pid, svc', started, up⟩ := life.start env svc goodEnv ready
    obtain ⟨ok, here'⟩ := Supervisor.handleStart_ok here started
    rw [operationsOn_cons]
    rcases command.cases_on id with ⟨elsewhere, other⟩ | rfl | rfl | rfl
    · rw [restartLaw_other elsewhere, ih goodRest (at_execute_other elsewhere here), other]
      rfl
    · -- the first start uses up the one the service has
      rw [restartLaw_start, ok, restartLaw_up_iff life spent rest svc' pid here' up]
      simp [SupervisorCommand.operationOn, StartedOnce]
    · rw [restartLaw_stop, Supervisor.handleStop_stopped here, ih goodRest here]
      simp [SupervisorCommand.operationOn, StartedOnce]
    · rw [restartLaw_restart, Supervisor.handleRestart_stopped here, ok,
        restartLaw_up_iff life spent rest svc' pid here' up]
      simp [SupervisorCommand.operationOn, StartedOnce, here'.1]

end

/-! ### The five services -/

/-- In a healthy world the next start succeeds. -/
def Service.IsReady : Service → Prop
  | .gateway svc => svc.shutdownTx = false
  | .mosquitto svc => svc.child = none
  | .mqttClient svc =>
    svc.cmdRx ∧ svc.outRx ∧ svc.connectedTx ∧ svc.shutdownTx = false ∧
      ∀ world : World, world.Healthy → buildMqttOpts svc.config world = .ok ()
  | .outbound svc => svc.outboundRx

def Service.IsUp : Service → Prop
  | .gateway svc => svc.shutdownTx
  | .mosquitto svc => svc.child.isSome
  | .mqttClient svc => svc.cmdRx = false ∧ svc.shutdownTx
  | .outbound svc => svc.outboundRx = false

/-- The command receiver or the outbound receiver is gone. -/
def Service.IsConsumed : Service → Prop
  | .mqttClient svc => svc.cmdRx = false ∧ svc.shutdownTx = false
  | .outbound svc => svc.outboundRx = false
  | .gateway _ | .mosquitto _ => False

/-- `start` keeps the gateway and the broker reusable. -/
def Service.IsReusable : Service → Prop
  | .gateway _ | .mosquitto _ => True
  | .mqttClient _ | .outbound _ => False

theorem lifecycle_reusable : Lifecycle Service.managed World.Healthy
    (fun svc => svc.IsReusable ∧ svc.IsReady) (fun svc => svc.IsReusable ∧ svc.IsUp)
    (fun svc => svc.IsReusable ∧ svc.IsReady) where
  start := by
    rintro world (svc | svc | svc | svc) healthy ⟨reusable, ready⟩
    · refine ⟨0, .gateway { svc with shutdownTx := true }, ?_, trivial, rfl⟩
      have idle : svc.shutdownTx = false := ready
      simp [Service.managed, Service.start, GatewayService.start, GatewayService.bindGateway, idle,
        healthy.bind, healthy.localAddr, healthy.tlsConfig]
    · obtain ⟨pid, spawned⟩ := healthy.spawn
      refine ⟨pid, .mosquitto { svc with child := some pid }, ?_, trivial, rfl⟩
      have idle : svc.child = none := ready
      simp [Service.managed, Service.start, MosquittoBrokerageService.start, idle, spawned,
        healthy.fileExists]
    · cases reusable
    · cases reusable
  stop := by
    rintro world (svc | svc | svc | svc) ⟨reusable, up⟩
    · refine ⟨.gateway { svc with shutdownTx := false }, ?_, trivial, rfl⟩
      have running : svc.shutdownTx = true := up
      simp [Service.managed, Service.stop, GatewayService.stop, running]
    · refine ⟨.mosquitto { svc with child := none }, ?_, trivial, rfl⟩
      have running : svc.child.isSome = true := up
      simp [Service.managed, Service.stop, MosquittoBrokerageService.stop, running]
    · cases reusable
    · cases reusable

theorem lifecycle_oneShot : Lifecycle Service.managed World.Healthy
    (fun svc => ¬svc.IsReusable ∧ svc.IsReady) (fun svc => ¬svc.IsReusable ∧ svc.IsUp)
    Service.IsConsumed where
  start := by
    rintro world (svc | svc | svc | svc) healthy ⟨oneShot, ready⟩
    · exact absurd trivial oneShot
    · exact absurd trivial oneShot
    · obtain ⟨cmdRx, outRx, connectedTx, idle, builds⟩ := ready
      refine ⟨0, .mqttClient { svc with
        cmdRx := false, outRx := false, connectedTx := false, shutdownTx := true,
        cmdShutdownTx := true }, ?_, oneShot, rfl, rfl⟩
      simp [Service.managed, Service.start, MqttClientService.start,
        MqttClientService.takeChannels, cmdRx, outRx, connectedTx, idle, builds world healthy]
    · refine ⟨0, .outbound { svc with outboundRx := false, shutdownTx := true }, ?_, oneShot, rfl⟩
      have present : svc.outboundRx = true := ready
      simp [Service.managed, Service.start, OutboundService.start, present]
  stop := by
    rintro world (svc | svc | svc | svc) ⟨oneShot, up⟩
    · exact absurd trivial oneShot
    · exact absurd trivial oneShot
    · obtain ⟨cmdRx, running⟩ := up
      refine ⟨.mqttClient { svc with shutdownTx := false, cmdShutdownTx := false }, ?_, cmdRx, rfl⟩
      simp [Service.managed, Service.stop, MqttClientService.stop, running]
    · exact ⟨.outbound { svc with shutdownTx := false }, rfl, up⟩

theorem consumed_staysDown : StaysDown Service.managed Service.IsConsumed := by
  rintro world (svc | svc | svc | svc) consumed
  · cases consumed
  · cases consumed
  · obtain ⟨cmdRx, idle⟩ := consumed
    refine ⟨"MqttClientService command receiver already consumed", .mqttClient svc, ?_⟩
    simp [Service.managed, Service.start, MqttClientService.start, MqttClientService.takeChannels,
      cmdRx, idle]
  · have gone : svc.outboundRx = false := consumed
    refine ⟨svc.name ++ " already started", .outbound svc, ?_⟩
    simp [Service.managed, Service.start, OutboundService.start, gone]

/-- A configuration from the environment names all three files of mutual TLS. -/
theorem buildMqttOpts_fromEnv (configDir : UnixPath.AbsPath) (env : Env) (world : World)
    (healthy : world.Healthy) :
    buildMqttOpts (MqttClientConfig.fromEnv configDir env) world = .ok () := by
  unfold buildMqttOpts MqttClientConfig.fromEnv
  dsimp only
  split
  next => rfl
  next mode =>
    -- the environment yields plaintext or mutual TLS only
    split at mode
    all_goals cases mode
  next => simp [healthy.readFile]

theorem isReady_new (cwd : UnixPath.AbsPath) (env : Env) (id : ServiceId) :
    (Service.new (Config.fromEnv cwd env) id).IsReady := by
  cases id with
  | gateway => rfl
  | mosquitto => rfl
  | mqttClient => exact ⟨rfl, rfl, rfl, rfl, buildMqttOpts_fromEnv _ _⟩
  | cloudGateway => rfl
  | gatewayMqttClient => rfl

/-- For every environment, every supervisor around it and every command history whose
external operations succeed, a service obeys the restart law if and only if it is the
gateway or the broker, or it is started only once. -/
theorem restart_law_iff (cwd : UnixPath.AbsPath) (env : Env) (sup : Supervisor Service)
    (id : ServiceId) (commands : List (World × SupervisorCommand))
    (healthy : ∀ command ∈ commands, command.1.Healthy) :
    RestartLaw Service.managed id
        (sup.register id (Service.new (Config.fromEnv cwd env) id) true) commands ↔
      id = .gateway ∨ id = .mosquitto ∨ StartedOnce (operationsOn id commands) := by
  have ready := isReady_new cwd env id
  have here := sup.at_register id (Service.new (Config.fromEnv cwd env) id)
  by_cases reusable : (Service.new (Config.fromEnv cwd env) id).IsReusable
  · -- the gateway and the broker
    have law := restartLaw_of_reusable lifecycle_reusable commands healthy _
      (.inl ⟨here, reusable, ready⟩)
    refine iff_of_true law ?_
    cases id <;> simp_all [Service.new, Service.IsReusable]
  · -- the three clients
    rw [restartLaw_ready_iff lifecycle_oneShot consumed_staysDown commands healthy _ here
      ⟨reusable, ready⟩]
    cases id <;> simp_all [Service.new, Service.IsReusable]

/-- A world in which everything works. -/
def healthyWorld : World where
  bind := .ok ()
  localAddr := .ok ()
  tlsConfig := .ok ()
  readFile _ := .ok ()
  gatewayCa := .ok ()
  fileExists _ := true
  spawn := .ok (some 4711)
  childAlive := true

theorem healthyWorld_healthy : healthyWorld.Healthy :=
  ⟨rfl, rfl, rfl, fun _ => rfl, rfl, fun _ => rfl, 4711, rfl⟩

theorem mqtt_client_obeys_when_started_once :
    RestartLaw Service.managed .mqttClient
      (Supervisor.new.register .mqttClient
        (Service.new (Config.fromEnv (.ofRest "opt/hamlet".toList) fun _ => none) .mqttClient) true)
      [(healthyWorld, .restart .mqttClient), (healthyWorld, .start .mqttClient),
       (healthyWorld, .stop .mqttClient)] :=
  (restart_law_iff _ _ _ _ _ (by simp [healthyWorld_healthy])).mpr (.inr (.inr (by decide)))

/-- The MQTT client cannot be restarted: `Start`, then `Restart`. -/
theorem mqtt_client_restart_fails :
    ¬RestartLaw Service.managed .mqttClient
      (Supervisor.new.register .mqttClient
        (Service.new (Config.fromEnv (.ofRest "opt/hamlet".toList) fun _ => none) .mqttClient) true)
      [(healthyWorld, .start .mqttClient), (healthyWorld, .restart .mqttClient)] := by
  intro law
  have reply := (law.2.2.1 rfl).1
  cases reply

end Hamlet
