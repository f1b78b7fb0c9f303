import Hamlet.BeaconManagement.AcceptLoops
import Hamlet.Lib.History
import Hamlet.Lib.Runs
import Hamlet.Properties.FailedStart

/-!
# Who holds the port of the HTTP gateway

A stopped gateway holds its port until its accept loop has seen the signal, and nothing waits for
that. So under the system's bind rule a restart comes through exactly if the loop is faster than
the supervisor task.
-/

namespace Hamlet

namespace GatewayTasks

/-- The gateway's entry in the supervisor, and what its loops have to do with it. -/
structure Owned (config : HttpConfig) (s : GatewayTasks) (status : ServiceStatus) (tx : Bool) :
    Prop where
  here : s.sup.At .gateway status (.gateway ⟨config, tx⟩)
  kinds : status = .stopped ∧ tx = false ∧ s.owner = none ∨
    status = .running 0 ∧ tx = true ∧ s.owner.isSome ∨ (∃ e, status = .failed e) ∧ s.owner = none
  /-- The loop that was not told to end is the one that waits for the service's sender. -/
  owner : ∀ i : Nat, s.owner = some i ↔ s.loops[i]? = some ⟨false, false⟩
  told : ∀ i : Nat, s.loops[i]? ≠ some ⟨false, true⟩
  restarting : s.restarting → status = .stopped

/-- At most one listener is open. -/
def OneListener (loops : List AcceptLoop) : Prop :=
  ∀ (i j : Nat) (a b : Bool), loops[i]? = some ⟨a, false⟩ → loops[j]? = some ⟨b, false⟩ → i = j

section

variable {config : HttpConfig} {s : GatewayTasks} {status : ServiceStatus} {tx : Bool}

theorem Owned.port (inv : s.Owned config status tx) : s.port = config.port := by
  rw [GatewayTasks.port, inv.here.2]

theorem Owned.free (inv : s.Owned config status tx) (down : status ≠ .running 0) :
    s.owner = none := by
  rcases inv.kinds with ⟨_, _, free⟩ | ⟨up, _⟩ | ⟨_, free⟩
  · exact free
  · exact absurd up down
  · exact free

theorem Owned.running (inv : s.Owned config status tx) {pid : UInt32}
    (shown : s.sup.statuses .gateway = some (.running pid)) :
    status = .running 0 ∧ tx = true ∧ s.owner.isSome := by
  obtain rfl : status = .running pid := Option.some.inj (inv.here.1.symm.trans shown)
  rcases inv.kinds with ⟨down, _⟩ | running | ⟨⟨_, down⟩, _⟩
  · cases down
  · exact running
  · cases down

theorem Owned.handleStart (inv : s.Owned config status tx) (down : status ≠ .running 0)
    (world : World) : s.sup.handleStart Service.managed .gateway world =
      (s.sup.setStatus .gateway .starting).callStart Service.managed .gateway world := by
  have shown := inv.here.1
  rcases inv.kinds with ⟨rfl, _⟩ | ⟨rfl, _⟩ | ⟨⟨e, rfl⟩, _⟩
  · simp [Supervisor.handleStart, shown]
  · exact absurd rfl down
  · simp [Supervisor.handleStart, shown]

/-- The service's own `start`. -/
theorem start_cases (config : HttpConfig) (tx : Bool) (world : World) :
    (∃ e tx', Service.managed.start world (.gateway ⟨config, tx⟩) =
      (.error e, .gateway ⟨config, tx'⟩)) ∨
    tx = false ∧ world.bind = .ok () ∧
      Service.managed.start world (.gateway ⟨config, tx⟩) = (.ok 0, .gateway ⟨config, true⟩) := by
  simp only [Service.managed, Service.start, GatewayService.start, Prod.map, id_eq]
  cases tx with
  | true => exact .inl ⟨_, _, rfl⟩
  | false =>
    cases bound : GatewayService.bindGateway world ⟨config, false⟩ with
    | error e => exact .inl ⟨e, false, by simp⟩
    | ok u =>
      obtain ⟨bind, _⟩ := (bindGateway_ok_iff world ⟨config, false⟩).mp bound
      cases secure : config.tlsEnabled with
      | false => exact .inr ⟨rfl, bind, by simp⟩
      | true =>
        cases configured : world.tlsConfig with
        | error e => exact .inl ⟨e, true, by simp⟩
        | ok u => exact .inr ⟨rfl, bind, by simp⟩

/-- A running gateway is not started again. -/
theorem Owned.callStart_running (inv : s.Owned config (.running 0) tx) (world : World) :
    s.callStart world = s := by
  simp [callStart, Supervisor.handleStart, inv.here.1]

/-- A gateway that is not running is started, and its own `start` decides. -/
theorem Owned.callStart_ok (inv : s.Owned config status tx) (down : status ≠ .running 0)
    {world : World} {svc : Service}
    (started : Service.managed.start world (.gateway ⟨config, tx⟩) = (.ok 0, svc)) :
    ∃ sup, sup.At .gateway (.running 0) svc ∧ s.callStart world =
      { s with sup, loops := s.loops ++ [⟨false, false⟩], owner := some s.loops.length } := by
  refine ⟨((s.sup.setStatus .gateway .starting).setService .gateway svc).setStatus .gateway
    (.running 0), by simp [Supervisor.At], ?_⟩
  simp only [callStart, inv.handleStart down, Supervisor.callStart, Supervisor.setStatus_services,
    inv.here.2, started]

theorem Owned.callStart_error (inv : s.Owned config status tx) (down : status ≠ .running 0)
    {world : World} {svc : Service} {e : String}
    (failed : Service.managed.start world (.gateway ⟨config, tx⟩) = (.error e, svc)) :
    ∃ sup, sup.At .gateway (.failed e) svc ∧ s.callStart world = { s with sup } := by
  refine ⟨((s.sup.setStatus .gateway .starting).setService .gateway svc).setStatus .gateway
    (.failed e), by simp [Supervisor.At], ?_⟩
  simp only [callStart, inv.handleStart down, Supervisor.callStart, Supervisor.setStatus_services,
    inv.here.2, failed]

/-- What `handle_stop` does to the gateway. -/
theorem callStop_cases (inv : s.Owned config status tx) (world : World) :
    (tx = false ∧ s.callStop world = s) ∨
    ∃ sup, status ≠ .stopped ∧ sup.At .gateway .stopped (.gateway ⟨config, false⟩) ∧
      s.callStop world = { s with sup, loops := signal s.loops s.owner, owner := none } := by
  obtain ⟨shown, service⟩ := inv.here
  by_cases stopped : status = .stopped
  · subst stopped
    have tx : tx = false := by
      rcases inv.kinds with ⟨_, tx, _⟩ | ⟨up, _⟩ | ⟨⟨e, failed⟩, _⟩
      · exact tx
      · cases up
      · cases failed
    exact .inl ⟨tx, by simp [callStop, Supervisor.handleStop, shown]⟩
  -- a failed service is stopped like a running one
  have called : s.sup.handleStop Service.managed .gateway world =
      s.sup.callStop Service.managed .gateway world := by
    rcases inv.kinds with ⟨rfl, _⟩ | ⟨rfl, _⟩ | ⟨⟨e, rfl⟩, _⟩
    · exact absurd rfl stopped
    · simp [Supervisor.handleStop, shown]
    · simp [Supervisor.handleStop, shown]
  cases tx with
  | false =>
    refine .inl ⟨rfl, ?_⟩
    have refused : Service.managed.stop world (.gateway ⟨config, false⟩) =
      (.error "GatewayService is not running", .gateway ⟨config, false⟩) := rfl
    have same : s.sup.setService .gateway (.gateway ⟨config, false⟩) = s.sup := by
      rw [Supervisor.setService, ← service, Function.update_eq_self]
    simp only [callStop, called, Supervisor.callStop, service, refused, same]
  | true =>
    have done : Service.managed.stop world (.gateway ⟨config, true⟩) =
      (.ok (), .gateway ⟨config, false⟩) := rfl
    refine .inr ⟨(s.sup.setService .gateway (.gateway ⟨config, false⟩)).setStatus .gateway .stopped,
      stopped, by simp [Supervisor.At], ?_⟩
    simp only [callStop, called, Supervisor.callStop, service, done]

/-! ### One step -/

theorem Owned.signalled (inv : s.Owned config status tx) {i : Nat} {a b : Bool}
    (other : s.owner ≠ some i) (found : s.loops[i]? = some ⟨a, b⟩) : a = true := by
  cases a with
  | true => rfl
  | false =>
    cases b with
    | false => exact absurd ((inv.owner i).mpr found) other
    | true => exact absurd found (inv.told i)

/-- The signal goes to the loop that was not yet told, and closes no listener. -/
theorem Owned.signal_iff (inv : s.Owned config status tx) (i : Nat) (a b : Bool) :
    (signal s.loops s.owner)[i]? = some ⟨a, b⟩ ↔
      a = true ∧ ∃ a', s.loops[i]? = some ⟨a', b⟩ := by
  by_cases own : s.owner = some i
  · have here := (inv.owner i).mp own
    simp [own, signal, here, eq_comm]
  · have untouched : (signal s.loops s.owner)[i]? = s.loops[i]? := by
      cases owner : s.owner with
      | none => rfl
      | some j =>
        have differs : j ≠ i := fun same => own (owner.trans (congrArg some same))
        exact List.getElem?_modify_ne _ _ differs
    rw [untouched]
    constructor
    · exact fun found => ⟨inv.signalled own found, a, found⟩
    · rintro ⟨rfl, a', found⟩
      rwa [← inv.signalled own found]

theorem closed_of_not_held (free : s.portHeld = false) (i : Nat) (a : Bool) :
    s.loops[i]? ≠ some ⟨a, false⟩ := by
  intro found
  have held : s.portHeld = true :=
    List.any_eq_true.mpr ⟨_, List.mem_of_getElem? found, rfl⟩
  rw [free] at held
  cases held

/-- What a step leaves of the invariant: some entry, and the ownership. -/
abbrev Sound (config : HttpConfig) (s : GatewayTasks) : Prop :=
  ∃ status tx, s.Owned config status tx

theorem sound_init (sup : Supervisor Service) (config : HttpConfig) :
    (init sup config).Sound config := by
  refine ⟨.stopped, false, Supervisor.at_register .., .inl ⟨rfl, rfl, rfl⟩, ?_, ?_, ?_⟩
  · simp [init]
  · simp [init]
  · simp [init]

theorem Owned.callStart (inv : s.Owned config status tx) (world : World) :
    { s.callStart world with restarting := false }.Sound config := by
  by_cases running : status = .running 0
  · subst running
    rw [inv.callStart_running]
    exact ⟨_, _, inv.here, inv.kinds, inv.owner, inv.told, by simp⟩
  have free := inv.free running
  rcases start_cases config tx world with ⟨e, tx', failed⟩ | ⟨rfl, -, started⟩
  · obtain ⟨sup, here, after⟩ := inv.callStart_error running failed
    rw [after]
    exact ⟨_, _, here, .inr (.inr ⟨⟨e, rfl⟩, free⟩), inv.owner, inv.told, by simp⟩
  · obtain ⟨sup, here, after⟩ := inv.callStart_ok running started
    rw [after]
    refine ⟨_, _, here, .inr (.inl ⟨rfl, rfl, rfl⟩), fun i => ?_, fun i => ?_, by simp⟩
    · have unowned : s.loops[i]? ≠ some ⟨false, false⟩ := fun found => by
        rw [← inv.owner i, free] at found
        cases found
      simp only [Option.some.injEq, History.getElem?_concat_iff, unowned, false_or, and_true]
      exact eq_comm
    · simp [History.getElem?_concat_iff, inv.told i]

theorem Owned.callStop (inv : s.Owned config status tx) (world : World) (restarting : Bool)
    (stops : restarting → tx) : { s.callStop world with restarting }.Sound config := by
  rcases callStop_cases inv world with ⟨down, same⟩ | ⟨sup, up, here, stopped⟩
  · rw [same]
    have idle : restarting = false := by
      cases restarting with
      | false => rfl
      | true => exact absurd (stops rfl) (by simp [down])
    exact ⟨_, _, inv.here, inv.kinds, inv.owner, inv.told, fun h => by simp [idle] at h⟩
  · rw [stopped]
    change Sound config ⟨sup, restarting, signal s.loops s.owner, none⟩
    refine ⟨_, _, here, .inl ⟨rfl, rfl, rfl⟩, ?_, ?_, fun _ => rfl⟩
    · intro i
      simp [inv.signal_iff]
    · intro i
      simp [inv.signal_iff]

theorem Owned.shutDown (inv : s.Owned config status tx) {i : Nat}
    (told : s.loops[i]? = some ⟨true, false⟩) :
    { s with loops := s.loops.set i ⟨true, true⟩ }.Owned config status tx := by
  have inside := (List.getElem?_eq_some_iff.mp told).1
  have set_iff (j : Nat) (a b : Bool) : (s.loops.set i ⟨true, true⟩)[j]? = some ⟨a, b⟩ ↔
      i = j ∧ a = true ∧ b = true ∨ i ≠ j ∧ s.loops[j]? = some ⟨a, b⟩ := by
    by_cases same : i = j
    · subst same
      simp [inside, eq_comm]
    · simp [same]
  refine ⟨inv.here, inv.kinds, fun j => ?_, fun j => ?_, inv.restarting⟩
  · rw [inv.owner, set_iff]
    by_cases same : i = j
    · subst same
      simp [told]
    · simp [same]
  · rw [Ne, set_iff]
    simp [inv.told j]

theorem callStart_restarting (s : GatewayTasks) (world : World) :
    (s.callStart world).restarting = s.restarting := by
  unfold GatewayTasks.callStart
  split <;> rfl

theorem callStop_restarting (s : GatewayTasks) (world : World) :
    (s.callStop world).restarting = s.restarting := by
  unfold GatewayTasks.callStop
  split <;> rfl

theorem Owned.started (inv : s.Owned config status tx) (idle : s.restarting = false)
    (world : World) : (s.callStart world).Sound config := by
  have sound := inv.callStart world
  rwa [← idle, ← callStart_restarting s world] at sound

theorem sound_step {s' : GatewayTasks} {action : GatewayTaskAction} (sound : s.Sound config)
    (stepped : s.step action = some s') : s'.Sound config := by
  obtain ⟨status, tx, inv⟩ := sound
  cases step_cases stepped with
  | started world idle | onlyStarted world idle => exact inv.started idle world
  | stopped world idle =>
    have stopped := inv.callStop world false (by simp)
    rwa [← idle, ← callStop_restarting s world] at stopped
  | restarting world pid idle running =>
    -- a running gateway has its sender, so it is stopped
    exact inv.callStop world true fun _ => (inv.running running).2.1
  | restarted world => exact inv.callStart world
  | other world command idle elsewhere =>
    obtain ⟨statuses, services⟩ :=
      Supervisor.execute_other Service.managed s.sup .gateway world command elsewhere
    exact ⟨status, tx, ⟨statuses.trans inv.here.1, services.trans inv.here.2⟩, inv.kinds,
      inv.owner, inv.told, inv.restarting⟩
  | ended i told => exact ⟨status, tx, inv.shutDown told⟩

theorem sound_run {sup : Supervisor Service} {actions : List GatewayTaskAction}
    (ran : Runs.run step (init sup config) actions = some s) : s.Sound config :=
  Runs.run_invariant step (Sound config) (fun _ _ _ => sound_step) _ s actions
    (sound_init sup config) ran

/-! ### One listener -/

/-- A step after which no other listener is open. -/
theorem OneListener.keep {loops loops' : List AcceptLoop} (one : OneListener loops)
    (opened : ∀ (i : Nat) (a : Bool), loops'[i]? = some ⟨a, false⟩ →
      ∃ a', loops[i]? = some ⟨a', false⟩) : OneListener loops' := by
  intro i j a b first second
  obtain ⟨a', first⟩ := opened i a first
  obtain ⟨b', second⟩ := opened j b second
  exact one i j a' b' first second

theorem oneListener_callStop (inv : s.Owned config status tx) (one : OneListener s.loops)
    (world : World) : OneListener (s.callStop world).loops := by
  rcases callStop_cases inv world with ⟨_, same⟩ | ⟨sup, _, _, stopped⟩
  · rwa [same]
  · rw [stopped]
    exact one.keep fun i a found => ((inv.signal_iff ..).mp found).2

/-- A listener is bound beside no open one. -/
theorem oneListener_callStart (inv : s.Owned config status tx) (one : OneListener s.loops)
    (port : config.port ≠ 0) (world : World)
    (rule : s.portTaken → world.bind = .error addressInUse) :
    OneListener (s.callStart world).loops := by
  by_cases running : status = .running 0
  · subst running
    rwa [inv.callStart_running]
  rcases start_cases config tx world with ⟨e, tx', failed⟩ | ⟨rfl, bind, started⟩
  · obtain ⟨sup, _, after⟩ := inv.callStart_error running failed
    rwa [after]
  · obtain ⟨sup, _, after⟩ := inv.callStart_ok running started
    rw [after]
    have free : s.portHeld = false := by
      cases held : s.portHeld with
      | false => rfl
      | true =>
        have refused := rule (by simp [portTaken, held, inv.port, port])
        rw [bind] at refused
        cases refused
    have closed := closed_of_not_held free
    intro i j a b first second
    simp only [History.getElem?_concat_iff, closed, false_or] at first second
    exact first.1.trans second.1.symm

theorem oneListener_step {s' : GatewayTasks} {action : GatewayTaskAction} (sound : s.Sound config)
    (one : OneListener s.loops) (port : config.port ≠ 0) (rule : s.BindRule action)
    (stepped : s.step action = some s') : OneListener s'.loops := by
  obtain ⟨status, tx, inv⟩ := sound
  cases step_cases stepped with
  | started world | restarted world =>
    exact oneListener_callStart inv one port world (rule world rfl)
  | onlyStarted world idle down =>
    refine oneListener_callStart inv one port world (rule world ?_)
    -- the action calls `handle_start` at once, so the rule speaks about it
    simp only [startWorld?]
    rfl
  | stopped world | restarting world => exact oneListener_callStop inv one world
  | other => exact one
  | ended i told =>
    refine one.keep fun j a found => ?_
    by_cases same : i = j
    · subst same
      exact ⟨true, told⟩
    · exact ⟨a, by rwa [List.getElem?_set_ne same] at found⟩

/-- In a run that the system answers by its bind rule. -/
theorem oneListener_run {sup : Supervisor Service} {actions : List GatewayTaskAction}
    (port : config.port ≠ 0)
    (ran : Runs.run (Runs.restrict BindRule step) (init sup config) actions = some s) :
    OneListener s.loops := by
  refine (Runs.run_invariant _ (fun t => Sound config t ∧ OneListener t.loops) ?_ _ s actions
    ⟨sound_init sup config, by simp [OneListener, init]⟩ ran).2
  rintro before action after ⟨sound, one⟩ allowed
  obtain ⟨rule, stepped⟩ := (Runs.restrict_iff ..).mp allowed
  exact ⟨sound_step sound stepped, oneListener_step sound one port rule stepped⟩

/-! ### A start that meets no other error -/

/-- With the port free an idle service comes up. -/
theorem Owned.comes_up (inv : s.Owned config status false) (down : status ≠ .running 0)
    {world : World} (meets : s.MeetsOnlyPort world)
    (free : config.port = 0 ∨ ∀ loop ∈ s.loops, loop.ended) :
    (s.callStart world).sup.statuses .gateway = some (.running 0) := by
  have untaken : s.portTaken = false := by
    rcases free with any | closed
    · simp [portTaken, inv.port, any]
    · have held : s.portHeld = false := by
        simpa [portHeld] using closed
      simp [portTaken, held]
  have bind : world.bind = .ok () := by rw [meets.bind, untaken, if_neg (by simp)]
  have started : Service.managed.start world (.gateway ⟨config, false⟩) =
      (.ok 0, .gateway ⟨config, true⟩) := by
    simp [Service.managed, Service.start, GatewayService.start, GatewayService.bindGateway,
      bind, meets.localAddr, meets.tlsConfig]
  obtain ⟨sup, here, after⟩ := inv.callStart_ok down started
  rw [after]
  exact here.1

/-- The status after a start that found the port taken. -/
def portError (config : HttpConfig) : String :=
  "Failed to bind listener on " ++ (config.host ++ ":" ++ toString config.port.toNat) ++ ": " ++
    addressInUse

/-- With the port taken it does not, and stays idle. -/
theorem Owned.stays_down (inv : s.Owned config status false) (down : status ≠ .running 0)
    {world : World} (meets : s.MeetsOnlyPort world) (port : config.port ≠ 0) {loop : AcceptLoop}
    (member : loop ∈ s.loops) (opened : loop.ended = false) :
    ∃ sup, s.callStart world = { s with sup } ∧
      sup.At .gateway (.failed (portError config)) (.gateway ⟨config, false⟩) := by
  have held : s.portHeld = true := List.any_eq_true.mpr ⟨loop, member, by simp [opened]⟩
  have taken : s.portTaken = true := by simp [portTaken, held, inv.port, port]
  have bind : world.bind = .error addressInUse := by rw [meets.bind, if_pos taken]
  have failed : Service.managed.start world (.gateway ⟨config, false⟩) =
      (.error (portError config), .gateway ⟨config, false⟩) := by
    simp only [Service.managed, Service.start, GatewayService.start, GatewayService.bindGateway,
      bind, Bool.false_eq_true, if_false, Prod.map, id_eq]
    rfl
  obtain ⟨sup, here, after⟩ := inv.callStart_error down failed
  exact ⟨sup, after, here⟩

/-! ### Between the two calls of a restart -/

theorem Sound.owned (sound : s.Sound config)
    (here : s.sup.At .gateway status (.gateway ⟨config, tx⟩)) : s.Owned config status tx := by
  obtain ⟨status', tx', inv⟩ := sound
  obtain rfl : status' = status := Option.some.inj (inv.here.1.symm.trans here.1)
  have same := Option.some.inj (inv.here.2.symm.trans here.2)
  obtain rfl : tx' = tx := congrArg GatewayService.shutdownTx (Service.gateway.inj same)
  exact inv

/-- The first call leaves the old loop with its signal and its listener. -/
theorem Owned.stopped (inv : s.Owned config (.running 0) true) (world : World) :
    { s.callStop world with restarting := true }.Owned config .stopped false ∧
      ∃ i : Nat, (s.callStop world).loops[i]? = some ⟨true, false⟩ := by
  have sound := inv.callStop world true fun _ => rfl
  obtain ⟨i, owner⟩ : ∃ i, s.owner = some i := by
    rcases inv.kinds with ⟨down, _⟩ | ⟨_, _, owned⟩ | ⟨⟨_, down⟩, _⟩
    · cases down
    · exact Option.isSome_iff_exists.mp owned
    · cases down
  rcases callStop_cases inv world with ⟨down, _⟩ | ⟨sup, _, here, after⟩
  · cases down
  · rw [after] at sound ⊢
    exact ⟨sound.owned here, i, (inv.signal_iff ..).mpr ⟨rfl, false, (inv.owner i).mp owner⟩⟩

/-- Only loops that were told to end move while the supervisor task restarts the gateway. -/
theorem restarting_step {s' : GatewayTasks} {action : GatewayTaskAction}
    (restarting : s.restarting) (stepped : s.step action = some s')
    (waits : ∀ world, action ≠ .restarted world) :
    ∃ i, action = .shutDown i ∧ s.loops[i]? = some ⟨true, false⟩ ∧
      s' = { s with loops := s.loops.set i ⟨true, true⟩ } := by
  cases step_cases stepped with
  | restarted world => exact absurd rfl (waits world)
  | started _ idle | stopped _ idle | restarting _ _ idle | onlyStarted _ idle | other _ _ idle =>
    rw [idle] at restarting
    cases restarting
  | ended i told => exact ⟨i, rfl, told, rfl⟩

theorem restarting_run {s' : GatewayTasks} {between : List GatewayTaskAction}
    (inv : s.Owned config status tx) (restarting : s.restarting)
    (ran : Runs.run step s between = some s')
    (waits : ∀ action ∈ between, ∀ world, action ≠ .restarted world) :
    s'.Owned config status tx ∧ s'.restarting ∧
      (∀ (i : Nat) (a : Bool), s'.loops[i]? = some ⟨a, false⟩ → s.loops[i]? = some ⟨a, false⟩) ∧
      ∀ i, .shutDown i ∈ between → s.loops[i]? = some ⟨true, false⟩ ∧
        ∀ a, s'.loops[i]? ≠ some ⟨a, false⟩ := by
  induction between generalizing s with
  | nil =>
    cases ran
    exact ⟨inv, restarting, fun _ _ opened => opened, fun i member => nomatch member⟩
  | cons action between ih =>
    obtain ⟨next, stepped, rest⟩ := (Runs.run_cons_iff ..).mp ran
    obtain ⟨waitsNow, waitsLater⟩ := List.forall_mem_cons.mp waits
    obtain ⟨i, rfl, told, rfl⟩ := restarting_step restarting stepped waitsNow
    have inside := (List.getElem?_eq_some_iff.mp told).1
    -- the loop that ends is closed, the others are as before
    have set_iff (j : Nat) (a : Bool) : (s.loops.set i ⟨true, true⟩)[j]? = some ⟨a, false⟩ ↔
        i ≠ j ∧ s.loops[j]? = some ⟨a, false⟩ := by
      by_cases same : i = j
      · subst same
        simp [inside]
      · simp [same]
    obtain ⟨inv', restarting', opened, ended⟩ :=
      ih (inv.shutDown told) restarting rest waitsLater
    refine ⟨inv', restarting', fun j a found => ((set_iff j a).mp (opened j a found)).2,
      fun j member => ?_⟩
    rcases List.mem_cons.mp member with here | later
    · cases here
      exact ⟨told, fun a found => ((set_iff i a).mp (opened i a found)).1 rfl⟩
    · obtain ⟨before, closed⟩ := ended j later
      exact ⟨((set_iff j true).mp before).2, closed⟩

/-- The second call finds the port taken. -/
theorem Owned.blocked (inv : s.Owned config .stopped false) (one : OneListener s.loops) {i : Nat}
    (told : s.loops[i]? = some ⟨true, false⟩) (port : config.port ≠ 0) {world : World}
    (meets : s.MeetsOnlyPort world) :
    (s.callStart world).sup.statuses .gateway = some (.failed (portError config)) ∧
    ∃ t, { s.callStart world with restarting := false }.step (.shutDown i) = some t ∧
      (∀ w, { s.callStart world with restarting := false }.MeetsOnlyPort w →
        ({ s.callStart world with restarting := false }.callStart w).sup.statuses .gateway ≠
          some (.running 0)) ∧
      ∀ w, t.MeetsOnlyPort w → (t.callStart w).sup.statuses .gateway = some (.running 0) := by
  have sound := inv.callStart world
  obtain ⟨sup, after, failed⟩ :=
    inv.stays_down (by simp) meets port (List.mem_of_getElem? told) rfl
  rw [after] at sound ⊢
  have down := sound.owned failed
  have closes : GatewayTasks.step ⟨sup, false, s.loops, s.owner⟩ (.shutDown i) =
      some ⟨sup, false, s.loops.set i ⟨true, true⟩, s.owner⟩ := by
    simp [step, told]
  refine ⟨failed.1, _, closes, fun w still => ?_, fun w free => ?_⟩
  · -- the listener is still open
    obtain ⟨sup', after', failed'⟩ :=
      down.stays_down (by simp) still port (List.mem_of_getElem? told) rfl
    rw [after', failed'.1]
    simp
  · refine (down.shutDown told).comes_up (by simp) free (.inr ?_)
    rintro ⟨a, b⟩ member
    obtain ⟨j, found⟩ := List.mem_iff_getElem?.mp member
    cases b with
    | true => rfl
    | false =>
      by_cases same : i = j
      · subst same
        simp [(List.getElem?_eq_some_iff.mp told).1] at found
      · rw [List.getElem?_set_ne same] at found
        exact absurd (one i j true a told found) same

end

end GatewayTasks

open GatewayTasks

/-- In every run the gateway is shown as running exactly while a loop serves that was not told to
end, and that loop has its listener. Where the system keeps to its bind rule, at most one listener
is open on a configured port. -/
theorem gateway_port_owned (sup : Supervisor Service) (config : HttpConfig)
    (actions : List GatewayTaskAction) (s : GatewayTasks)
    (ran : Runs.run step (init sup config) actions = some s) :
    (Runs.run (Runs.restrict BindRule step) (init sup config) actions = some s →
      config.port ≠ 0 → ∀ (i j : Nat) (a b : AcceptLoop), s.loops[i]? = some a →
      s.loops[j]? = some b → a.ended = false → b.ended = false → i = j) ∧
    ((∃ pid, s.sup.statuses .gateway = some (.running pid)) ↔
      ∃ loop ∈ s.loops, loop.signalled = false) ∧
    ∀ loop ∈ s.loops, loop.signalled = false → loop.ended = false := by
  obtain ⟨status, tx, inv⟩ := sound_run ran
  refine ⟨?_, ?_, ?_⟩
  · rintro ruled port i j ⟨a, _⟩ ⟨b, _⟩ first second rfl rfl
    exact oneListener_run port ruled i j a b first second
  · constructor
    · rintro ⟨pid, running⟩
      obtain ⟨i, owner⟩ := Option.isSome_iff_exists.mp (inv.running running).2.2
      exact ⟨_, List.mem_of_getElem? ((inv.owner i).mp owner), rfl⟩
    · rintro ⟨⟨_, ended⟩, member, rfl⟩
      obtain ⟨i, found⟩ := List.mem_iff_getElem?.mp member
      obtain rfl : ended = false := by
        cases ended with
        | false => rfl
        | true => exact absurd found (inv.told i)
      have owner := (inv.owner i).mpr found
      rcases inv.kinds with ⟨_, _, free⟩ | ⟨rfl, _⟩ | ⟨_, free⟩
      · simp [owner] at free
      · exact ⟨0, inv.here.1⟩
      · simp [owner] at free
  · rintro ⟨_, ended⟩ member rfl
    obtain ⟨i, found⟩ := List.mem_iff_getElem?.mp member
    cases ended with
    | false => rfl
    | true => exact absurd found (inv.told i)

def sampleHttp : HttpConfig := ⟨"0.0.0.0", 8080, true, 3000⟩

/-- The old loop ends between the two calls of the restart. -/
def quickRestart : List GatewayTaskAction :=
  [.start healthyWorld, .restart healthyWorld, .shutDown 0, .restarted healthyWorld]

theorem quickRestart_owned : ∃ s,
    Runs.run (Runs.restrict BindRule step) (init .new sampleHttp) quickRestart = some s ∧
    s.loops = [⟨true, true⟩, ⟨false, false⟩] ∧
      (∃ pid, s.sup.statuses .gateway = some (.running pid)) ∧
      ∀ j b, s.loops[j]? = some b → b.ended = false → 1 = j := by
  obtain ⟨s, ran, ruled, loops⟩ : ∃ s,
      Runs.run step (init .new sampleHttp) quickRestart = some s ∧
      Runs.run (Runs.restrict BindRule step) (init .new sampleHttp) quickRestart = some s ∧
      s.loops = [⟨true, true⟩, ⟨false, false⟩] := ⟨_, rfl, rfl, rfl⟩
  obtain ⟨single, shown, _⟩ := gateway_port_owned .new sampleHttp quickRestart s ran
  have serving : s.loops[1]? = some ⟨false, false⟩ := by rw [loops]; rfl
  refine ⟨s, ruled, loops, shown.mpr ⟨⟨false, false⟩, by simp [loops], rfl⟩, ?_⟩
  exact fun j b found opened => single ruled (by decide) 1 j _ b serving found rfl opened

/-- A restart of a running gateway, with what its loops do between the two calls. The system keeps
to its bind rule, and the second call meets no other error. It comes through exactly if the old
loop has ended by then; otherwise the gateway is down, and stays down when it is started again,
until the loop ends. -/
theorem gateway_restart_iff (sup : Supervisor Service) (config : HttpConfig)
    (actions : List GatewayTaskAction) (s : GatewayTasks)
    (ran : Runs.run (Runs.restrict BindRule step) (init sup config) actions = some s)
    {pid : UInt32} (running : s.sup.statuses .gateway = some (.running pid)) (world : World)
    (between : List GatewayTaskAction) (waits : ∀ action ∈ between, ∀ w, action ≠ .restarted w)
    (waited : GatewayTasks) (ranBetween : Runs.run step s (.restart world :: between) = some waited)
    (later : World) (meets : waited.MeetsOnlyPort later) (s' : GatewayTasks)
    (restarted : waited.step (.restarted later) = some s') :
    (config.port = 0 ∨ (∃ i, .shutDown i ∈ between) →
      s'.sup.statuses .gateway = some (.running 0)) ∧
    (config.port ≠ 0 → (∀ i, .shutDown i ∉ between) →
      s'.sup.statuses .gateway = some (.failed (portError config)) ∧
      ∃ i t, s'.step (.shutDown i) = some t ∧
        (∀ w, s'.MeetsOnlyPort w →
          (s'.callStart w).sup.statuses .gateway ≠ some (.running 0)) ∧
        ∀ w, t.MeetsOnlyPort w → (t.callStart w).sup.statuses .gateway = some (.running 0)) := by
  obtain ⟨status, tx, inv⟩ := sound_run (Runs.run_of_restrict BindRule step ran)
  obtain ⟨rfl, rfl, owned⟩ := inv.running running
  obtain ⟨stopped, stop, rest⟩ := (Runs.run_cons_iff ..).mp ranBetween
  simp only [step, Option.ite_none_left_eq_some, Bool.not_eq_true, running,
    Option.some.injEq] at stop
  obtain ⟨_, rfl⟩ := stop
  simp only [step, Option.ite_none_right_eq_some, Option.some.injEq] at restarted
  obtain ⟨_, rfl⟩ := restarted
  obtain ⟨invStopped, i, told⟩ := inv.stopped world
  obtain ⟨invWaited, _, opened, ended⟩ := restarting_run invStopped rfl rest waits
  have one (port : config.port ≠ 0) : OneListener (s.callStop world).loops :=
    oneListener_callStop inv (oneListener_run port ran) world
  constructor
  · intro through
    refine invWaited.comes_up (by simp) meets ?_
    by_cases port : config.port = 0
    · exact .inl port
    obtain ⟨j, member⟩ := through.resolve_left port
    obtain ⟨before, closed⟩ := ended j member
    -- any other open listener would have been open before
    right
    rintro ⟨a, b⟩ member
    obtain ⟨k, found⟩ := List.mem_iff_getElem?.mp member
    cases b with
    | true => rfl
    | false =>
      obtain rfl := one port k j a true (opened k a found) before
      exact absurd found (closed a)
  · intro port none
    -- no loop has moved
    obtain rfl : between = [] := by
      cases between with
      | nil => rfl
      | cons action between =>
        obtain ⟨next, stepped, _⟩ := (Runs.run_cons_iff ..).mp rest
        obtain ⟨j, rfl, _⟩ := restarting_step rfl stepped (waits action List.mem_cons_self)
        exact absurd List.mem_cons_self (none j)
    cases rest
    obtain ⟨failed, recovers⟩ := invStopped.blocked (one port) told port meets
    exact ⟨failed, i, recovers⟩

/-- What a start meets while the port is taken. -/
def takenWorld : World := { healthyWorld with bind := .error addressInUse }

/-- The same restart, with an old loop that is quick and with one that is not. -/
theorem restarts_race_loops : ∃ s quick slow,
    Runs.run (Runs.restrict BindRule step) (init .new sampleHttp) [.start healthyWorld] = some s ∧
    Runs.run (Runs.restrict BindRule step) s
      [.restart healthyWorld, .shutDown 0, .restarted healthyWorld] = some quick ∧
    quick.sup.statuses .gateway = some (.running 0) ∧
    Runs.run (Runs.restrict BindRule step) s [.restart healthyWorld, .restarted takenWorld] =
      some slow ∧
    slow.sup.statuses .gateway = some (.failed
      "Failed to bind listener on 0.0.0.0:8080: Address already in use (os error 98)") := by
  obtain ⟨s, ran, running, closed, taken, first, second, quick, slow, quickStep, slowStep,
      quickRan, slowRan, meetsQuick, meetsSlow⟩ : ∃ s,
      Runs.run (Runs.restrict BindRule step) (init .new sampleHttp) [.start healthyWorld] =
        some s ∧
      s.sup.statuses .gateway = some (.running 0) ∧ ∃ closed taken,
      Runs.run step s [.restart healthyWorld, .shutDown 0] = some closed ∧
      Runs.run step s [.restart healthyWorld] = some taken ∧ ∃ quick slow,
      closed.step (.restarted healthyWorld) = some quick ∧
      taken.step (.restarted takenWorld) = some slow ∧
      Runs.run (Runs.restrict BindRule step) s
        [.restart healthyWorld, .shutDown 0, .restarted healthyWorld] = some quick ∧
      Runs.run (Runs.restrict BindRule step) s [.restart healthyWorld, .restarted takenWorld] =
        some slow ∧
      closed.MeetsOnlyPort healthyWorld ∧ taken.MeetsOnlyPort takenWorld :=
    ⟨_, rfl, rfl, _, _, rfl, rfl, _, _, rfl, rfl, rfl, rfl, ⟨rfl, rfl, rfl⟩, ⟨rfl, rfl, rfl⟩⟩
  have quickOutcome := gateway_restart_iff .new sampleHttp _ s ran running healthyWorld
    [.shutDown 0] (by simp) closed first healthyWorld meetsQuick quick quickStep
  have slowOutcome := gateway_restart_iff .new sampleHttp _ s ran running healthyWorld
    [] (by simp) taken second takenWorld meetsSlow slow slowStep
  exact ⟨s, quick, slow, ran, quickRan, quickOutcome.1 (.inr ⟨0, by simp⟩), slowRan,
    (slowOutcome.2 (by decide) (by simp)).1⟩

end Hamlet
