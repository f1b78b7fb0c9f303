import Hamlet.Lib.ActorRuns
import Hamlet.SupervisorTask
import Hamlet.Properties.Supervision

/-!
# Calls to the supervisor

Commands come from many tasks at once and their callers may give up waiting. What they are told,
and what the supervisor does, is still that of the sequential `executeAll`: in the order in which
the channel accepted the commands, which respects the order of calls that do not overlap. The
end of the task reaches every service, once.
-/

namespace Hamlet

open Actor

variable {S E κ : Type} {m : ManagedService S E}

/-! ### The sequential supervisor -/

theorem executeAll_concat (sup : Supervisor S) (commands : List (E × SupervisorCommand)) (env : E)
    (command : SupervisorCommand) :
    sup.executeAll m (commands ++ [(env, command)]) =
      ((sup.executeAll m commands).1 ++
          [(command, ((sup.executeAll m commands).2.execute m env command).1)],
        ((sup.executeAll m commands).2.execute m env command).2) := by
  induction commands generalizing sup with
  | nil => rfl
  | cons first rest ih =>
    simp only [List.cons_append, Supervisor.executeAll, ih]

/-- What the task has served is what `executeAll` computes. -/
theorem executeAll_of_sequential {sup state : Supervisor S}
    {entries : List (Entry κ E SupervisorCommand SupervisorReply)}
    (sequential : Sequential (Supervisor.task m) sup entries state) :
    sup.executeAll m (entries.map fun e => (e.env, e.request)) =
      (entries.map fun e => (e.request, e.reply), state) := by
  induction sequential with
  | nil => rfl
  | concat e before reply ih =>
    rw [List.map_append, List.map_append, List.map_singleton, List.map_singleton,
      executeAll_concat, ih, ← reply]
    rfl

/-- The commands that were served, with what the world answered. -/
def commandsServed (s : SupervisorTask S κ E) : List (E × SupervisorCommand) :=
  s.served.map fun e => (e.env, e.request)

/-- A state of the task that is explained by executing commands one after the other. -/
structure Linearised (m : ManagedService S E) (sup : Supervisor S)
    (s : SupervisorTask S κ E) : Prop where
  replies : (sup.executeAll m (commandsServed s)).1 = s.served.map fun e => (e.request, e.reply)
  state : s.finished = false → s.state = (sup.executeAll m (commandsServed s)).2
  /-- The order is that of the channel, and every call is served at most once. -/
  order : s.served.map Entry.accepted <+: s.accepted
  once : (s.accepted.map Prod.fst).Nodup
  /-- No call fails for the channel; every result is the reply to its own command. -/
  outcomes : ∀ caller outcome, s.calls caller = some (.ended outcome) →
    ∃ e ∈ s.served, e.caller = caller ∧ SupervisorHandle.outcome outcome = .ok e.reply
  /-- A command is executed also when its caller has given up. -/
  heard : ∀ e ∈ s.served, s.calls e.caller = some (.ended (.reply e.reply)) ∨
    s.calls e.caller = some .cancelled

variable [DecidableEq κ]

omit [DecidableEq κ] in
theorem linearised_of_invariant {sup : Supervisor S} {s : SupervisorTask S κ E}
    (inv : System.Invariant (Supervisor.task m) sup s) : Linearised m sup s := by
  obtain ⟨state, sequential, running, _⟩ := inv.sequential
  have executed := executeAll_of_sequential sequential
  have unsignalled : s.signalled = false := by
    by_contra signalled
    cases inv.signalled (by simpa using signalled)
  refine ⟨congrArg Prod.fst executed, fun alive => ?_, ?_, inv.ordered.distinct, ?_,
    inv.answered.heard⟩
  · rw [running alive]
    exact (congrArg Prod.snd executed).symm
  · rw [inv.ordered.order]
    exact List.prefix_append _ _
  · intro caller outcome ended
    cases outcome with
    | reply value =>
      obtain ⟨e, member, caller, reply⟩ := inv.answered.replied caller value ended
      exact ⟨e, member, caller, by rw [reply]; rfl⟩
    | closed =>
      have signalled := inv.borrowed.errors caller (.inl ended)
      simp [unsignalled] at signalled
    | dropped =>
      have signalled := inv.borrowed.errors caller (.inr ended)
      simp [unsignalled] at signalled

/-- The supervisor is linearizable: a run of any number of concurrent callers is explained by one
sequential execution, in which a call that begins after another one has returned comes later. And
the task alone can bring every waiting caller its reply. -/
theorem supervisor_linearizable (m : ManagedService S E) (sup : Supervisor S)
    (before after : List (SupervisorAction κ E)) (s s' : SupervisorTask S κ E)
    (ran : Runs.run (System.step (Supervisor.task m)) (.init sup) before = some s)
    (later : Runs.run (System.step (Supervisor.task m)) s after = some s') :
    Linearised m sup s' ∧
      (∀ first second reply, s.calls first = some (.ended (.reply reply)) →
        s.calls second = none → ∀ e ∈ s'.served, e.caller = second →
          ∃ d rest, d.caller = first ∧ d.reply = reply ∧ d ∈ s.served ∧ e ∈ rest ∧
            s'.served = s.served ++ rest) ∧
      (s'.finished = false → ∀ env, ∃ (own : List (SupervisorAction κ E)) (t : SupervisorTask S κ E),
        (∀ action ∈ own, action = .take ∨ action = .complete env) ∧
        Runs.run (System.step (Supervisor.task m)) s' own = some t ∧
        ∀ caller, t.calls caller ≠ some .waiting) := by
  have whole := (Runs.run_append_iff ..).mpr ⟨s, ran, later⟩
  have inv := System.invariant_run whole
  refine ⟨linearised_of_invariant inv, ?_, ?_⟩
  · intro first second reply replied new e member caller
    exact System.served_after ran later replied new member caller
  · intro running env
    obtain ⟨own, t, mine, drained, empty⟩ :=
      System.drains (Supervisor.task m) env s' running (inv.ordered.running running)
    refine ⟨own, t, mine, drained, fun caller waiting => ?_⟩
    have invT := System.invariant_run ((Runs.run_append_iff ..).mpr ⟨s', whole, drained⟩)
    have pending := invT.answered.waiting caller waiting
    rw [empty] at pending
    cases pending

/-- One caller starts the gateway. After its reply a second one asks for the statuses and gives
up, and a third one stops the gateway. -/
def firstCaller : List (SupervisorAction Nat Unit) :=
  [.call 1 (.start .gateway), .enqueue 1, .take, .complete ()]

def laterCallers : List (SupervisorAction Nat Unit) :=
  [.call 3 (.stop .gateway), .call 2 .status, .enqueue 2, .enqueue 3, .take, .cancel 2,
    .complete (), .take, .complete ()]

theorem mock_calls_linearised :
    ∃ s s', Runs.run (System.step (Supervisor.task MockService.managed)) (.init mockSupervisor)
        firstCaller = some s ∧
      Runs.run (System.step (Supervisor.task MockService.managed)) s laterCallers = some s' ∧
      s.calls 1 = some (.ended (.reply (.result (.ok ())))) ∧ s.calls 3 = none ∧
      s'.calls 2 = some .cancelled ∧ Linearised MockService.managed mockSupervisor s' := by
  refine ⟨_, _, rfl, rfl, rfl, rfl, rfl, ?_⟩
  exact (supervisor_linearizable MockService.managed mockSupervisor firstCaller laterCallers _ _
    rfl rfl).1

/-! ### The end of the task -/

section

variable (m : ManagedService S E) (sup : Supervisor S)

theorem stopService_self (id : ServiceId) (env : E) :
    (sup.stopService m id env).services id = (sup.services id).map fun svc => (m.stop env svc).2 := by
  unfold Supervisor.stopService
  cases found : sup.services id with
  | none => simp [found]
  | some svc => simp

theorem stopService_other (id other : ServiceId) (env : E) (differs : other ≠ id) :
    (sup.stopService m id env).services other = sup.services other := by
  unfold Supervisor.stopService
  cases sup.services id with
  | none => rfl
  | some svc => simp [differs]

theorem stopService_statuses (id : ServiceId) (env : E) :
    (sup.stopService m id env).statuses = sup.statuses := by
  unfold Supervisor.stopService
  cases sup.services id <;> rfl

/-- Each service of the list is stopped once; the others stay as they are. -/
theorem foldl_stopService (order : List (ServiceId × E)) (distinct : (order.map Prod.fst).Nodup) :
    (∀ id env, (id, env) ∈ order →
      (order.foldl (fun sup (id, env) => sup.stopService m id env) sup).services id =
        (sup.services id).map fun svc => (m.stop env svc).2) ∧
    (∀ id, id ∉ order.map Prod.fst →
      (order.foldl (fun sup (id, env) => sup.stopService m id env) sup).services id =
        sup.services id) ∧
    (order.foldl (fun sup (id, env) => sup.stopService m id env) sup).statuses = sup.statuses := by
  induction order generalizing sup with
  | nil => exact ⟨nofun, fun _ _ => rfl, rfl⟩
  | cons first rest ih =>
    obtain ⟨id, env⟩ := first
    rw [List.map_cons, List.nodup_cons] at distinct
    obtain ⟨stopped, kept, statuses⟩ := ih (sup.stopService m id env) distinct.2
    simp only [List.foldl_cons]
    refine ⟨fun other env' member => ?_, fun other absent => ?_, ?_⟩
    · rcases List.mem_cons.mp member with same | later
      · cases same
        rw [kept id distinct.1, stopService_self]
      · have differs : other ≠ id := by
          rintro rfl
          exact distinct.1 (List.mem_map.mpr ⟨(other, env'), later, rfl⟩)
        rw [stopped other env' later, stopService_other m sup id other env differs]
    · rw [List.map_cons, List.mem_cons, not_or] at absent
      rw [kept other absent.2, stopService_other m sup id other env absent.1]
    · rw [statuses, stopService_statuses]

theorem stopAll_iff (order : List (ServiceId × E)) (sup' : Supervisor S) :
    sup.stopAll m order = some sup' ↔ sup.Enumerates (order.map Prod.fst) ∧
      order.foldl (fun sup (id, env) => sup.stopService m id env) sup = sup' := by
  rw [Supervisor.stopAll, Option.ite_none_right_eq_some, Option.some.injEq]

theorem isSome_setService {id : ServiceId} {svc : S} (found : sup.services id = some svc) (svc' : S)
    (other : ServiceId) :
    ((sup.setService id svc').services other).isSome = (sup.services other).isSome := by
  rw [Supervisor.setService_services]
  by_cases same : other = id
  · rw [same, Function.update_self, found]
    rfl
  · rw [Function.update_of_ne same]

theorem isSome_handleStart (id : ServiceId) (env : E) (other : ServiceId) :
    ((sup.handleStart m id env).2.services other).isSome = (sup.services other).isSome := by
  unfold Supervisor.handleStart Supervisor.callStart
  repeat' split
  all_goals first | rfl | exact isSome_setService sup (by assumption) _ other

theorem isSome_handleStop (id : ServiceId) (env : E) (other : ServiceId) :
    ((sup.handleStop m id env).2.services other).isSome = (sup.services other).isSome := by
  unfold Supervisor.handleStop Supervisor.callStop
  repeat' split
  all_goals first | rfl | exact isSome_setService sup (by assumption) _ other

/-- Commands neither add services nor lose them. -/
theorem isSome_execute (env : E) (command : SupervisorCommand) (id : ServiceId) :
    ((sup.execute m env command).2.services id).isSome = (sup.services id).isSome := by
  cases command with
  | start target => exact isSome_handleStart m sup target env id
  | stop target => exact isSome_handleStop m sup target env id
  | restart target =>
    show ((sup.handleRestart m target env).2.services id).isSome = _
    unfold Supervisor.handleRestart
    split
    · rw [isSome_handleStart, isSome_handleStop]
    · rw [isSome_handleStart]
  | status => rfl

theorem isSome_executeAll (commands : List (E × SupervisorCommand)) (id : ServiceId) :
    ((sup.executeAll m commands).2.services id).isSome = (sup.services id).isSome := by
  induction commands generalizing sup with
  | nil => rfl
  | cons first rest ih =>
    simp only [Supervisor.executeAll]
    rw [ih, isSome_execute]

end

/-- When the task is over, every command that the channel accepted has been served and no caller
is left. Then every registered service was stopped once, in whatever order the map is iterated and
whatever the other services answered. -/
theorem supervisor_stops_every_service (m : ManagedService S E) (sup : Supervisor S)
    (actions : List (SupervisorAction κ E)) (s : SupervisorTask S κ E)
    (ran : Runs.run (System.step (Supervisor.task m)) (.init sup) actions = some s)
    (halted : s.finished) :
    s.served.map Entry.accepted = s.accepted ∧ s.handles = 0 ∧
      (∀ caller call, s.calls caller = some call → ¬call.Open) ∧
      ∃ order : List (ServiceId × E),
        sup.Enumerates (order.map Prod.fst) ∧
        s.state.statuses = (sup.executeAll m (commandsServed s)).2.statuses ∧
        (∀ id env, (id, env) ∈ order → s.state.services id =
          ((sup.executeAll m (commandsServed s)).2.services id).map fun svc => (m.stop env svc).2) ∧
        ∀ id, sup.services id = none → s.state.services id = none := by
  have inv := System.invariant_run ran
  have unsignalled : s.signalled = false := by
    by_contra signalled
    cases inv.signalled (by simpa using signalled)
  obtain ⟨gone, empty⟩ := (inv.borrowed.left halted).resolve_left (by simp [unsignalled])
  obtain ⟨idle, drained⟩ := inv.ordered.halted halted
  obtain ⟨state, sequential, _, closed⟩ := inv.sequential
  obtain ⟨order, stopped⟩ := closed halted
  have executed : (sup.executeAll m (commandsServed s)).2 = state :=
    congrArg Prod.snd (executeAll_of_sequential sequential)
  obtain ⟨enumerates, folded⟩ := (stopAll_iff m state order s.state).mp stopped
  obtain ⟨each, others, statuses⟩ := foldl_stopService m state order enumerates.1
  rw [folded] at each others statuses
  have registered : ∀ id, (state.services id).isSome = (sup.services id).isSome := by
    intro id
    rw [← executed, isSome_executeAll]
  refine ⟨?_, gone, ?_, order, ⟨enumerates.1, fun id => ?_⟩, ?_, ?_, ?_⟩
  · rw [inv.ordered.order]
    simp [System.pending, idle, drained, empty]
  · intro caller call made inProgress
    have live := inv.borrowed.live ⟨caller, (inv.borrowed.borrowers caller).mpr ⟨call, made, inProgress⟩⟩
    omega
  · rw [enumerates.2 id, registered]
  · rw [statuses, executed]
  · intro id env member
    rw [each id env member, executed]
  · intro id absent
    have missing : state.services id = none := by
      rw [← Option.isNone_iff_eq_none, ← Option.not_isSome, registered, absent]
      rfl
    rw [others id, missing]
    rw [enumerates.2 id, missing]
    simp

/-- The gateway runs when the last handle is dropped. -/
theorem mock_services_stopped :
    ∃ s : SupervisorTask MockService Nat Unit,
      Runs.run (System.step (Supervisor.task MockService.managed)) (.init mockSupervisor)
        (firstCaller ++ [.dropHandle, .finish [(.mqttClient, ()), (.gateway, ())]]) = some s ∧
      (∃ order : List (ServiceId × Unit), mockSupervisor.Enumerates (order.map Prod.fst)) ∧
      s.state.services .gateway = some ⟨false, false, 1⟩ ∧
      s.state.statuses .gateway = some (.running 1) := by
  refine ⟨_, rfl, ?_, rfl, rfl⟩
  obtain ⟨_, _, _, order, enumerates, _⟩ := supervisor_stops_every_service MockService.managed
    mockSupervisor (firstCaller ++ [.dropHandle, .finish [(.mqttClient, ()), (.gateway, ())]]) _ rfl rfl
  exact ⟨order, enumerates⟩

end Hamlet
