import Hamlet.Services

/-!
# The accept loops of the HTTP gateway

`GatewayService::start` binds the listener and leaves it to a detached accept loop, which holds it
until it sees the shutdown signal. `stop` sends the signal and does not wait. The supervisor task
and the loops run side by side, also between the two calls of `handle_restart`.

What `bind` answers is open. `BindRule` names what the system does when `HTTP_HOST` stands for one
address: a listener is not bound to a port that another one holds, except that with port 0 every
listener gets a port of its own.
-/

namespace Hamlet

/-- `spawn_tls_accept_loop` or `spawn_plain_accept_loop`. -/
structure AcceptLoop where
  /-- The shutdown sender was used. -/
  signalled : Bool
  /-- Its listener is closed. -/
  ended : Bool
  deriving DecidableEq, Repr

structure GatewayTasks where
  sup : Supervisor Service
  /-- Between the two calls of `handle_restart`. -/
  restarting : Bool
  /-- Oldest first. -/
  loops : List AcceptLoop
  /-- The loop that waits for the shutdown sender of the service. -/
  owner : Option Nat

inductive GatewayTaskAction where
  | start (world : World)
  | stop (world : World)
  | restart (world : World)
  /-- The second call of `handle_restart`. -/
  | restarted (world : World)
  /-- A command for another service, or for the statuses. -/
  | other (world : World) (command : SupervisorCommand)
  /-- A loop takes its shutdown signal. -/
  | shutDown (index : Nat)

namespace GatewayTasks

/-- The gateway is registered in `sup`, and nothing has been started. -/
def init (sup : Supervisor Service) (config : HttpConfig) : GatewayTasks where
  sup := sup.register .gateway (.gateway (.new config)) true
  restarting := false
  loops := []
  owner := none

def portHeld (s : GatewayTasks) : Bool := s.loops.any (!·.ended)

/-- The port that the gateway is configured to bind. -/
def port (s : GatewayTasks) : UInt16 :=
  match s.sup.services .gateway with
  | some (.gateway svc) => svc.config.port
  | _ => 0

/-- `handle_start`. A listener that gets no loop is dropped, and the receiver with it. -/
def callStart (s : GatewayTasks) (world : World) : GatewayTasks :=
  match s.sup.handleStart Service.managed .gateway world with
  | (.ok (), sup) =>
    { s with sup, loops := s.loops ++ [⟨false, false⟩], owner := some s.loops.length }
  | (.error _, sup) => { s with sup }

/-- The shutdown sender is used. -/
def signal (loops : List AcceptLoop) : Option Nat → List AcceptLoop
  | some i => loops.modify i fun loop => { loop with signalled := true }
  | none => loops

/-- `handle_stop`. The sender goes, whether or not a loop waits for it. -/
def callStop (s : GatewayTasks) (world : World) : GatewayTasks :=
  match s.sup.handleStop Service.managed .gateway world with
  | (.ok (), sup) => { s with sup, loops := signal s.loops s.owner, owner := none }
  | (.error _, sup) => { s with sup }

def step (s : GatewayTasks) : GatewayTaskAction → Option GatewayTasks
  | .start world => if s.restarting then none else some (s.callStart world)
  | .stop world => if s.restarting then none else some (s.callStop world)
  | .restart world =>
    if s.restarting then none
    else
      match s.sup.statuses .gateway with
      -- the supervisor task goes on to its second call; the loops may be faster
      | some (.running _) => some { s.callStop world with restarting := true }
      | _ => some (s.callStart world)
  | .restarted world =>
    if s.restarting then some { s.callStart world with restarting := false } else none
  | .other world command =>
    if s.restarting ∨ command.target = some .gateway then none
    else some { s with sup := (s.sup.execute Service.managed world command).2 }
  | .shutDown index =>
    match s.loops[index]? with
    | some ⟨true, false⟩ => some { s with loops := s.loops.set index ⟨true, true⟩ }
    | _ => none

/-! ### What a step can do -/

inductive Steps (s : GatewayTasks) : GatewayTaskAction → GatewayTasks → Prop where
  | started (world : World) (idle : s.restarting = false) :
      Steps s (.start world) (s.callStart world)
  | stopped (world : World) (idle : s.restarting = false) :
      Steps s (.stop world) (s.callStop world)
  | restarting (world : World) (pid : UInt32) (idle : s.restarting = false)
      (running : s.sup.statuses .gateway = some (.running pid)) :
      Steps s (.restart world) { s.callStop world with restarting := true }
  | onlyStarted (world : World) (idle : s.restarting = false)
      (down : ∀ pid, s.sup.statuses .gateway ≠ some (.running pid)) :
      Steps s (.restart world) (s.callStart world)
  | restarted (world : World) (waits : s.restarting) :
      Steps s (.restarted world) { s.callStart world with restarting := false }
  | other (world : World) (command : SupervisorCommand) (idle : s.restarting = false)
      (elsewhere : command.target ≠ some .gateway) :
      Steps s (.other world command)
        { s with sup := (s.sup.execute Service.managed world command).2 }
  | ended (index : Nat) (told : s.loops[index]? = some ⟨true, false⟩) :
      Steps s (.shutDown index) { s with loops := s.loops.set index ⟨true, true⟩ }

theorem step_cases {s s' : GatewayTasks} {action : GatewayTaskAction}
    (stepped : s.step action = some s') : Steps s action s' := by
  cases action with
  | start world =>
    simp only [step, Option.ite_none_left_eq_some, Option.some.injEq, Bool.not_eq_true] at stepped
    obtain ⟨idle, rfl⟩ := stepped
    exact .started world idle
  | stop world =>
    simp only [step, Option.ite_none_left_eq_some, Option.some.injEq, Bool.not_eq_true] at stepped
    obtain ⟨idle, rfl⟩ := stepped
    exact .stopped world idle
  | restart world =>
    simp only [step, Option.ite_none_left_eq_some, Bool.not_eq_true] at stepped
    obtain ⟨idle, stepped⟩ := stepped
    split at stepped
    next pid running =>
      cases stepped
      exact .restarting world pid idle running
    next down =>
      cases stepped
      exact .onlyStarted world idle down
  | restarted world =>
    simp only [step, Option.ite_none_right_eq_some, Option.some.injEq] at stepped
    obtain ⟨waits, rfl⟩ := stepped
    exact .restarted world waits
  | other world command =>
    simp only [step, Option.ite_none_left_eq_some, Option.some.injEq, not_or,
      Bool.not_eq_true] at stepped
    obtain ⟨⟨idle, elsewhere⟩, rfl⟩ := stepped
    exact .other world command idle elsewhere
  | shutDown index =>
    simp only [step] at stepped
    split at stepped
    next told =>
      cases stepped
      exact .ended index told
    next => cases stepped

/-! ### The system's answer to `bind` -/

/-- The configured port is taken. -/
def portTaken (s : GatewayTasks) : Bool := s.portHeld && s.port ≠ 0

def addressInUse : String := "Address already in use (os error 98)"

/-- The surroundings of the call of `handle_start` that an action makes. -/
def startWorld? (s : GatewayTasks) : GatewayTaskAction → Option World
  | .start world | .restarted world => some world
  | .restart world =>
    match s.sup.statuses .gateway with
    -- `handle_stop` comes first
    | some (.running _) => none
    | _ => some world
  | .stop _ | .other _ _ | .shutDown _ => none

/-- A taken port is not bound again. -/
def BindRule (s : GatewayTasks) (action : GatewayTaskAction) : Prop :=
  ∀ world ∈ s.startWorld? action, s.portTaken → world.bind = .error addressInUse

instance (s : GatewayTasks) (action : GatewayTaskAction) : Decidable (s.BindRule action) :=
  inferInstanceAs (Decidable (∀ world ∈ s.startWorld? action, _))

/-- A start that meets no other error than a taken port. -/
structure MeetsOnlyPort (s : GatewayTasks) (world : World) : Prop where
  bind : world.bind = if s.portTaken then .error addressInUse else .ok ()
  localAddr : world.localAddr = .ok ()
  tlsConfig : world.tlsConfig = .ok ()

end GatewayTasks

end Hamlet
