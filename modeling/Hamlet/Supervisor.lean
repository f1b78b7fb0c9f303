import Mathlib.Logic.Function.Basic

/-!
# The supervisor

`Supervisor` over any kind of managed service. The commands are processed one after the
other; each comes with what the outside world answers to the calls it leads to.
-/

namespace Hamlet

inductive ServiceId where
  | gateway
  | mosquitto
  | mqttClient
  | cloudGateway
  | gatewayMqttClient
  deriving DecidableEq, Repr

/-- The `Debug` text, as the error messages show it. -/
def ServiceId.debug : ServiceId → String
  | .gateway => "Gateway"
  | .mosquitto => "Mosquitto"
  | .mqttClient => "MqttClient"
  | .cloudGateway => "CloudGateway"
  | .gatewayMqttClient => "GatewayMqttClient"

inductive ServiceStatus where
  | unavailable
  | stopped
  | starting
  | running (pid : UInt32)
  | failed (reason : String)
  deriving DecidableEq, Repr

/-- The trait, for services with states `S` in a world that answers `E`. -/
structure ManagedService (S E : Type) where
  start : E → S → Except String UInt32 × S
  stop : E → S → Except String Unit × S
  isRunning : E → S → Bool × S

structure Supervisor (S : Type) where
  services : ServiceId → Option S
  statuses : ServiceId → Option ServiceStatus

inductive SupervisorCommand where
  | start (service : ServiceId)
  | stop (service : ServiceId)
  | restart (service : ServiceId)
  | status
  deriving DecidableEq, Repr

/-- The service that a command addresses. -/
def SupervisorCommand.target : SupervisorCommand → Option ServiceId
  | .start id | .stop id | .restart id => some id
  | .status => none

inductive SupervisorReply where
  | result (outcome : Except String Unit)
  | statuses (snapshot : ServiceId → Option ServiceStatus)

namespace Supervisor

variable {S E : Type}

def new : Supervisor S where
  services _ := none
  statuses _ := none

def setStatus (sup : Supervisor S) (id : ServiceId) (status : ServiceStatus) : Supervisor S :=
  { sup with statuses := Function.update sup.statuses id (some status) }

def setService (sup : Supervisor S) (id : ServiceId) (svc : S) : Supervisor S :=
  { sup with services := Function.update sup.services id (some svc) }

def register (sup : Supervisor S) (id : ServiceId) (service : S) (available : Bool) :
    Supervisor S :=
  (sup.setStatus id (if available then .stopped else .unavailable)).setService id service

variable (m : ManagedService S E)

/-- The call to the service's `start`, and the status after it. -/
def callStart (sup : Supervisor S) (id : ServiceId) (env : E) :
    Except String Unit × Supervisor S :=
  match sup.services id with
  | none => (.error (id.debug ++ " not registered"), sup)
  | some svc =>
    match m.start env svc with
    | (.ok pid, svc) => (.ok (), (sup.setService id svc).setStatus id (.running pid))
    | (.error e, svc) => (.error e, (sup.setService id svc).setStatus id (.failed e))

def handleStart (sup : Supervisor S) (id : ServiceId) (env : E) :
    Except String Unit × Supervisor S :=
  match sup.statuses id with
  | some .unavailable => (.error (id.debug ++ " is not installed on this system"), sup)
  | some (.running _) => (.error (id.debug ++ " is already running"), sup)
  | some .starting => (.error (id.debug ++ " is already starting"), sup)
  | none => (.error (id.debug ++ " is not registered"), sup)
  | some .stopped | some (.failed _) =>
    -- if no service is found now, the status stays `starting`
    (sup.setStatus id .starting).callStart m id env

/-- The call to the service's `stop`; a failure leaves the status as it was. -/
def callStop (sup : Supervisor S) (id : ServiceId) (env : E) :
    Except String Unit × Supervisor S :=
  match sup.services id with
  | none => (.error (id.debug ++ " not registered"), sup)
  | some svc =>
    match m.stop env svc with
    | (.ok (), svc) => (.ok (), (sup.setService id svc).setStatus id .stopped)
    | (.error e, svc) => (.error e, sup.setService id svc)

/-- A failed service is stopped like a running one. -/
def handleStop (sup : Supervisor S) (id : ServiceId) (env : E) :
    Except String Unit × Supervisor S :=
  match sup.statuses id with
  | some .stopped => (.error (id.debug ++ " is already stopped"), sup)
  | some .unavailable => (.error (id.debug ++ " is not available"), sup)
  | some (.running _) | some .starting | some (.failed _) | none => sup.callStop m id env

/-- The outcome of the stop is ignored. -/
def handleRestart (sup : Supervisor S) (id : ServiceId) (env : E) :
    Except String Unit × Supervisor S :=
  match sup.statuses id with
  | some (.running _) => (sup.handleStop m id env).2.handleStart m id env
  | _ => sup.handleStart m id env

def execute (sup : Supervisor S) (env : E) : SupervisorCommand → SupervisorReply × Supervisor S
  | .start id => let (outcome, sup) := sup.handleStart m id env; (.result outcome, sup)
  | .stop id => let (outcome, sup) := sup.handleStop m id env; (.result outcome, sup)
  | .restart id => let (outcome, sup) := sup.handleRestart m id env; (.result outcome, sup)
  | .status => (.statuses sup.statuses, sup)

/-- The commands one after the other, with their replies. -/
def executeAll (sup : Supervisor S) :
    List (E × SupervisorCommand) → List (SupervisorCommand × SupervisorReply) × Supervisor S
  | [] => ([], sup)
  | (env, command) :: rest =>
    let (reply, sup) := sup.execute m env command
    let (replies, sup) := executeAll sup rest
    ((command, reply) :: replies, sup)

/-! ### One service among the others -/

/-- The service under `id` and its status. -/
def At (sup : Supervisor S) (id : ServiceId) (status : ServiceStatus) (svc : S) : Prop :=
  sup.statuses id = some status ∧ sup.services id = some svc

@[simp] theorem setStatus_statuses (sup : Supervisor S) (id : ServiceId) (status : ServiceStatus) :
    (sup.setStatus id status).statuses = Function.update sup.statuses id (some status) := rfl

@[simp] theorem setStatus_services (sup : Supervisor S) (id : ServiceId) (status : ServiceStatus) :
    (sup.setStatus id status).services = sup.services := rfl

@[simp] theorem setService_statuses (sup : Supervisor S) (id : ServiceId) (svc : S) :
    (sup.setService id svc).statuses = sup.statuses := rfl

@[simp] theorem setService_services (sup : Supervisor S) (id : ServiceId) (svc : S) :
    (sup.setService id svc).services = Function.update sup.services id (some svc) := rfl

theorem at_register (sup : Supervisor S) (id : ServiceId) (svc : S) :
    (sup.register id svc true).At id .stopped svc := by
  constructor <;> simp [register]

theorem callStart_other (sup : Supervisor S) (id other : ServiceId) (env : E)
    (differs : other ≠ id) :
    (sup.callStart m id env).2.statuses other = sup.statuses other ∧
      (sup.callStart m id env).2.services other = sup.services other := by
  unfold callStart
  repeat' split
  all_goals simp [differs]

theorem callStop_other (sup : Supervisor S) (id other : ServiceId) (env : E)
    (differs : other ≠ id) :
    (sup.callStop m id env).2.statuses other = sup.statuses other ∧
      (sup.callStop m id env).2.services other = sup.services other := by
  unfold callStop
  repeat' split
  all_goals simp [differs]

theorem handleStart_other (sup : Supervisor S) (id other : ServiceId) (env : E)
    (differs : other ≠ id) :
    (sup.handleStart m id env).2.statuses other = sup.statuses other ∧
      (sup.handleStart m id env).2.services other = sup.services other := by
  have called := callStart_other m (sup.setStatus id .starting) id other env differs
  rw [setStatus_statuses, Function.update_of_ne differs] at called
  unfold handleStart
  split
  all_goals first | exact ⟨rfl, rfl⟩ | exact called

theorem handleStop_other (sup : Supervisor S) (id other : ServiceId) (env : E)
    (differs : other ≠ id) :
    (sup.handleStop m id env).2.statuses other = sup.statuses other ∧
      (sup.handleStop m id env).2.services other = sup.services other := by
  have called := callStop_other m sup id other env differs
  unfold handleStop
  split
  all_goals first | exact ⟨rfl, rfl⟩ | exact called

theorem handleRestart_other (sup : Supervisor S) (id other : ServiceId) (env : E)
    (differs : other ≠ id) :
    (sup.handleRestart m id env).2.statuses other = sup.statuses other ∧
      (sup.handleRestart m id env).2.services other = sup.services other := by
  unfold handleRestart
  split
  · obtain ⟨stopStatus, stopService⟩ := handleStop_other m sup id other env differs
    obtain ⟨startStatus, startService⟩ :=
      handleStart_other m (sup.handleStop m id env).2 id other env differs
    exact ⟨startStatus.trans stopStatus, startService.trans stopService⟩
  · exact handleStart_other m sup id other env differs

/-- A command leaves every service alone that it does not address. -/
theorem execute_other (sup : Supervisor S) (id : ServiceId) (env : E) (command : SupervisorCommand)
    (elsewhere : command.target ≠ some id) :
    (sup.execute m env command).2.statuses id = sup.statuses id ∧
      (sup.execute m env command).2.services id = sup.services id := by
  cases command with
  | start target => exact handleStart_other m sup target id env (fun same => elsewhere (same ▸ rfl))
  | stop target => exact handleStop_other m sup target id env (fun same => elsewhere (same ▸ rfl))
  | restart target =>
    exact handleRestart_other m sup target id env (fun same => elsewhere (same ▸ rfl))
  | status => exact ⟨rfl, rfl⟩

section

variable {m} {sup : Supervisor S} {id : ServiceId} {env : E} {svc svc' : S}

theorem handleStart_ok {pid : UInt32} (here : sup.At id .stopped svc)
    (started : m.start env svc = (.ok pid, svc')) :
    (sup.handleStart m id env).1 = .ok () ∧
      (sup.handleStart m id env).2.At id (.running pid) svc' := by
  simp [handleStart, callStart, At, here.1, here.2, started]

theorem handleStart_error {e : String} (here : sup.At id .stopped svc)
    (refused : m.start env svc = (.error e, svc')) : (sup.handleStart m id env).1 = .error e := by
  simp [handleStart, callStart, here.1, here.2, refused]

theorem handleStart_running {pid : UInt32} (here : sup.At id (.running pid) svc) :
    (sup.handleStart m id env).2 = sup := by
  simp [handleStart, here.1]

theorem handleStop_stopped (here : sup.At id .stopped svc) :
    (sup.handleStop m id env).2 = sup := by
  simp [handleStop, here.1]

theorem handleStop_ok {pid : UInt32} (here : sup.At id (.running pid) svc)
    (stopped : m.stop env svc = (.ok (), svc')) :
    (sup.handleStop m id env).2.At id .stopped svc' := by
  simp [handleStop, callStop, At, here.1, here.2, stopped]

theorem handleRestart_stopped (here : sup.At id .stopped svc) :
    sup.handleRestart m id env = sup.handleStart m id env := by
  simp [handleRestart, here.1]

theorem handleRestart_running {pid : UInt32} (here : sup.At id (.running pid) svc) :
    sup.handleRestart m id env = (sup.handleStop m id env).2.handleStart m id env := by
  simp [handleRestart, here.1]

end

end Supervisor

end Hamlet
