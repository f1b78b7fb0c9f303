import Hamlet.Lib.History
import Hamlet.Supervisor

/-!
# What the supervisor knows

The statuses tell which calls the supervisor made and how they ended. To say so, each service
carries a record of its calls; the record changes nothing about the run. Then: the commands to
one service, and their replies, do not depend on how they are interleaved with the commands to
the others.
-/

namespace Hamlet

open History

/-! ### Recording the calls -/

/-- A call of `start` or `stop` and how it ended. -/
inductive ServiceCall where
  | started (pid : UInt32)
  | startFailed (reason : String)
  | stopped
  | stopFailed (reason : String)
  deriving DecidableEq, Repr

namespace ServiceCall

def ofStart : Except String UInt32 → ServiceCall
  | .ok pid => .started pid
  | .error e => .startFailed e

def ofStop : Except String Unit → ServiceCall
  | .ok () => .stopped
  | .error e => .stopFailed e

def IsStart : ServiceCall → Bool
  | .started _ | .startFailed _ => true
  | .stopped | .stopFailed _ => false

def Succeeded : ServiceCall → Bool
  | .started _ | .stopped => true
  | .startFailed _ | .stopFailed _ => false

end ServiceCall

section

variable {S E : Type}

/-- The same services, each with the calls made to it. -/
def ManagedService.recorded (m : ManagedService S E) :
    ManagedService (S × List ServiceCall) E where
  start env svc :=
    let (outcome, after) := m.start env svc.1
    (outcome, after, svc.2 ++ [.ofStart outcome])
  stop env svc :=
    let (outcome, after) := m.stop env svc.1
    (outcome, after, svc.2 ++ [.ofStop outcome])
  isRunning env svc :=
    let (running, after) := m.isRunning env svc.1
    (running, after, svc.2)

namespace Supervisor

/-- The supervisor before its loop starts: services registered one after the other, a later
registration of an id replacing an earlier one. -/
def registered (registrations : List (ServiceId × S × Bool)) :
    Supervisor (S × List ServiceCall) :=
  registrations.foldl (fun sup r => sup.register r.1 (r.2.1, []) r.2.2) .new

/-- Forget the records. -/
def erase (sup : Supervisor (S × List ServiceCall)) : Supervisor S where
  services id := (sup.services id).map Prod.fst
  statuses := sup.statuses

@[simp] theorem erase_setStatus (sup : Supervisor (S × List ServiceCall)) (id : ServiceId)
    (status : ServiceStatus) : (sup.setStatus id status).erase = sup.erase.setStatus id status :=
  rfl

@[simp] theorem erase_setService (sup : Supervisor (S × List ServiceCall)) (id : ServiceId)
    (svc : S × List ServiceCall) :
    (sup.setService id svc).erase = sup.erase.setService id svc.1 := by
  simp only [erase, setService, mk.injEq, and_true]
  funext other
  by_cases same : other = id <;> simp [Function.update, same]

variable (m : ManagedService S E)

theorem callStart_erase (sup : Supervisor (S × List ServiceCall)) (id : ServiceId) (env : E) :
    (sup.callStart m.recorded id env).1 = (sup.erase.callStart m id env).1 ∧
      (sup.callStart m.recorded id env).2.erase = (sup.erase.callStart m id env).2 := by
  simp only [callStart]
  cases found : sup.services id with
  | none => simp [erase, found]
  | some svc =>
    have bare : sup.erase.services id = some svc.1 := by simp [erase, found]
    rw [bare]
    rcases called : m.start env svc.1 with ⟨outcome, after⟩
    cases outcome <;> simp [ManagedService.recorded, called]

theorem callStop_erase (sup : Supervisor (S × List ServiceCall)) (id : ServiceId) (env : E) :
    (sup.callStop m.recorded id env).1 = (sup.erase.callStop m id env).1 ∧
      (sup.callStop m.recorded id env).2.erase = (sup.erase.callStop m id env).2 := by
  simp only [callStop]
  cases found : sup.services id with
  | none => simp [erase, found]
  | some svc =>
    have bare : sup.erase.services id = some svc.1 := by simp [erase, found]
    rw [bare]
    rcases called : m.stop env svc.1 with ⟨outcome, after⟩
    cases outcome <;> simp [ManagedService.recorded, called]

theorem handleStart_erase (sup : Supervisor (S × List ServiceCall)) (id : ServiceId) (env : E) :
    (sup.handleStart m.recorded id env).1 = (sup.erase.handleStart m id env).1 ∧
      (sup.handleStart m.recorded id env).2.erase = (sup.erase.handleStart m id env).2 := by
  have called := callStart_erase m (sup.setStatus id .starting) id env
  have same : sup.erase.statuses id = sup.statuses id := rfl
  simp only [handleStart]
  rw [same]
  split
  all_goals first | exact ⟨rfl, rfl⟩ | exact called

theorem handleStop_erase (sup : Supervisor (S × List ServiceCall)) (id : ServiceId) (env : E) :
    (sup.handleStop m.recorded id env).1 = (sup.erase.handleStop m id env).1 ∧
      (sup.handleStop m.recorded id env).2.erase = (sup.erase.handleStop m id env).2 := by
  have called := callStop_erase m sup id env
  have same : sup.erase.statuses id = sup.statuses id := rfl
  simp only [handleStop]
  rw [same]
  split
  all_goals first | exact ⟨rfl, rfl⟩ | exact called

/-- Recording the calls changes neither the replies nor the states. -/
theorem execute_erase (sup : Supervisor (S × List ServiceCall)) (env : E)
    (command : SupervisorCommand) :
    (sup.execute m.recorded env command).1 = (sup.erase.execute m env command).1 ∧
      (sup.execute m.recorded env command).2.erase = (sup.erase.execute m env command).2 := by
  cases command with
  | start id =>
    obtain ⟨reply, after⟩ := handleStart_erase m sup id env
    exact ⟨congrArg SupervisorReply.result reply, after⟩
  | stop id =>
    obtain ⟨reply, after⟩ := handleStop_erase m sup id env
    exact ⟨congrArg SupervisorReply.result reply, after⟩
  | restart id =>
    have same : sup.erase.statuses id = sup.statuses id := rfl
    simp only [execute, handleRestart, same]
    split
    · obtain ⟨reply, after⟩ := handleStart_erase m (sup.handleStop m.recorded id env).2 id env
      rw [(handleStop_erase m sup id env).2] at reply after
      exact ⟨congrArg SupervisorReply.result reply, after⟩
    · obtain ⟨reply, after⟩ := handleStart_erase m sup id env
      exact ⟨congrArg SupervisorReply.result reply, after⟩
  | status => exact ⟨rfl, rfl⟩

end Supervisor

/-! ### Statuses and calls -/

/-- The last call that succeeded. -/
def lastSuccess (calls : List ServiceCall) : Option ServiceCall := latest ServiceCall.Succeeded calls

/-- Between two successful starts there is a successful stop. -/
def StartsAlternate (calls : List ServiceCall) : Prop :=
  ∀ before between after first second,
    calls = before ++ .started first :: between ++ .started second :: after →
      .stopped ∈ between

/-- What the calls to a service say about its status. -/
structure Truthful (status : ServiceStatus) (calls : List ServiceCall) : Prop where
  settled : status ≠ .starting
  untouched : status = .unavailable → calls = []
  running : ∀ pid, status = .running pid ↔ lastSuccess calls = some (.started pid)
  alternate : Each (fun before call => call.IsStart → call.Succeeded →
    ∀ pid, lastSuccess before ≠ some (.started pid)) calls

theorem truthful_registered (available : Bool) :
    Truthful (if available then .stopped else .unavailable) [] where
  settled := by cases available <;> simp
  untouched _ := rfl
  running pid := by cases available <;> simp [lastSuccess]
  alternate := each_nil _

namespace Truthful

variable {status : ServiceStatus} {calls : List ServiceCall} (truth : Truthful status calls)

include truth

theorem started (down : ∀ pid, status ≠ .running pid) (pid : UInt32) :
    Truthful (.running pid) (calls ++ [.started pid]) where
  settled := by simp
  untouched := by simp
  running other := by simp [lastSuccess, ServiceCall.Succeeded]
  alternate := by
    refine (each_concat _ _ _).mpr ⟨truth.alternate, fun _ _ other last => ?_⟩
    exact down other ((truth.running other).mpr last)

theorem startFailed (down : ∀ pid, status ≠ .running pid) (e : String) :
    Truthful (.failed e) (calls ++ [.startFailed e]) where
  settled := by simp
  untouched := by simp
  running pid := by
    have last := (truth.running pid).not.mp (down pid)
    simpa [lastSuccess, ServiceCall.Succeeded] using last
  alternate := (each_concat _ _ _).mpr ⟨truth.alternate, by simp [ServiceCall.Succeeded]⟩

theorem stopped : Truthful .stopped (calls ++ [.stopped]) where
  settled := by simp
  untouched := by simp
  running pid := by simp [lastSuccess, ServiceCall.Succeeded]
  alternate := (each_concat _ _ _).mpr ⟨truth.alternate, by simp [ServiceCall.IsStart]⟩

theorem stopFailed (available : status ≠ .unavailable) (e : String) :
    Truthful status (calls ++ [.stopFailed e]) where
  settled := truth.settled
  untouched unavailable := absurd unavailable available
  running pid := by
    simpa [lastSuccess, ServiceCall.Succeeded] using truth.running pid
  alternate := (each_concat _ _ _).mpr ⟨truth.alternate, by simp [ServiceCall.IsStart]⟩

theorem startsAlternate : StartsAlternate calls := by
  intro before between after first second shape
  by_contra unstopped
  have earlier := truth.alternate (before ++ .started first :: between) (.started second) after
    (by simp [shape]) rfl rfl
  -- the last success before the second start is the first start or one in between
  have last : lastSuccess (before ++ .started first :: between) =
      (lastSuccess between).or (some (.started first)) := by
    rw [List.append_cons, lastSuccess, latest_append, latest_concat]
    rfl
  cases found : lastSuccess between with
  | none => exact earlier first (by rw [last, found, Option.none_or])
  | some call =>
    obtain ⟨member, succeeded⟩ := latest_mem found
    cases call with
    | started pid => exact earlier pid (by rw [last, found, Option.some_or])
    | stopped => exact unstopped member
    | startFailed | stopFailed => cases succeeded

end Truthful

/-- Registered with a truthful status, or not registered at all. -/
def TruthfulAt (sup : Supervisor (S × List ServiceCall)) (id : ServiceId) : Prop :=
  (sup.statuses id = none ∧ sup.services id = none) ∨
    ∃ status svc calls, sup.At id status (svc, calls) ∧ Truthful status calls

section

variable (m : ManagedService S E) {sup : Supervisor (S × List ServiceCall)} {id : ServiceId}

theorem truthfulAt_congr {sup' : Supervisor (S × List ServiceCall)}
    (status : sup'.statuses id = sup.statuses id) (service : sup'.services id = sup.services id)
    (truth : TruthfulAt sup id) : TruthfulAt sup' id := by
  rcases truth with ⟨noStatus, noService⟩ | ⟨st, svc, calls, here, truth⟩
  · exact .inl ⟨status.trans noStatus, service.trans noService⟩
  · exact .inr ⟨st, svc, calls, ⟨status.trans here.1, service.trans here.2⟩, truth⟩

theorem truthfulAt_handleStart (truth : TruthfulAt sup id) (env : E) :
    TruthfulAt (sup.handleStart m.recorded id env).2 id := by
  rcases truth with ⟨noStatus, noService⟩ | ⟨status, svc, calls, here, truth⟩
  · left
    simp [Supervisor.handleStart, noStatus, noService]
  · rcases called : m.start env svc with ⟨outcome, after⟩
    -- a guard refuses the command, or the call's outcome becomes the status
    have refused : (sup.handleStart m.recorded id env).2 = sup →
        TruthfulAt (sup.handleStart m.recorded id env).2 id := by
      intro same
      rw [same]
      exact .inr ⟨status, svc, calls, here, truth⟩
    have accepted : (∀ pid, status ≠ .running pid) →
        sup.handleStart m.recorded id env =
          (sup.setStatus id .starting).callStart m.recorded id env →
        TruthfulAt (sup.handleStart m.recorded id env).2 id := by
      intro down calls'
      rw [calls']
      right
      cases outcome with
      | ok pid =>
        refine ⟨.running pid, after, calls ++ [.started pid], ?_, truth.started down pid⟩
        simp [Supervisor.callStart, Supervisor.At, here.2, ManagedService.recorded, called,
          ServiceCall.ofStart]
      | error e =>
        refine ⟨.failed e, after, calls ++ [.startFailed e], ?_, truth.startFailed down e⟩
        simp [Supervisor.callStart, Supervisor.At, here.2, ManagedService.recorded, called,
          ServiceCall.ofStart]
    cases status with
    | unavailable | running pid | starting => exact refused (by simp [Supervisor.handleStart, here.1])
    | stopped | failed reason =>
      exact accepted (by simp) (by simp [Supervisor.handleStart, here.1])

theorem truthfulAt_handleStop (truth : TruthfulAt sup id) (env : E) :
    TruthfulAt (sup.handleStop m.recorded id env).2 id := by
  rcases truth with ⟨noStatus, noService⟩ | ⟨status, svc, calls, here, truth⟩
  · left
    simp [Supervisor.handleStop, Supervisor.callStop, noStatus, noService]
  · rcases called : m.stop env svc with ⟨outcome, after⟩
    have refused : (sup.handleStop m.recorded id env).2 = sup →
        TruthfulAt (sup.handleStop m.recorded id env).2 id := by
      intro same
      rw [same]
      exact .inr ⟨status, svc, calls, here, truth⟩
    have accepted : status ≠ .unavailable →
        sup.handleStop m.recorded id env = sup.callStop m.recorded id env →
        TruthfulAt (sup.handleStop m.recorded id env).2 id := by
      intro available calls'
      rw [calls']
      right
      cases outcome with
      | ok u =>
        refine ⟨.stopped, after, calls ++ [.stopped], ?_, truth.stopped⟩
        simp [Supervisor.callStop, Supervisor.At, here.2, ManagedService.recorded, called,
          ServiceCall.ofStop]
      | error e =>
        -- the status stays as it was
        refine ⟨status, after, calls ++ [.stopFailed e], ?_, truth.stopFailed available e⟩
        simp [Supervisor.callStop, Supervisor.At, here.1, here.2, ManagedService.recorded, called,
          ServiceCall.ofStop]
    cases status with
    | unavailable | stopped => exact refused (by simp [Supervisor.handleStop, here.1])
    | running pid | starting | failed reason =>
      exact accepted (by simp) (by simp [Supervisor.handleStop, here.1])

theorem truthfulAt_execute (truth : TruthfulAt sup id) (env : E) (command : SupervisorCommand) :
    TruthfulAt (sup.execute m.recorded env command).2 id := by
  by_cases elsewhere : command.target ≠ some id
  · obtain ⟨status, service⟩ := sup.execute_other m.recorded id env command elsewhere
    exact truthfulAt_congr status service truth
  · rw [not_not] at elsewhere
    cases command with
    | status => cases elsewhere
    | start target =>
      cases elsewhere
      exact truthfulAt_handleStart m truth env
    | stop target =>
      cases elsewhere
      exact truthfulAt_handleStop m truth env
    | restart target =>
      cases elsewhere
      simp only [Supervisor.execute, Supervisor.handleRestart]
      split
      · exact truthfulAt_handleStart m (truthfulAt_handleStop m truth env) env
      · exact truthfulAt_handleStart m truth env

/-- No command moves an unavailable service. -/
theorem unavailable_execute (unavailable : sup.statuses id = some .unavailable) (env : E)
    (command : SupervisorCommand) :
    (sup.execute m.recorded env command).2.statuses id = some .unavailable := by
  by_cases elsewhere : command.target ≠ some id
  · exact (sup.execute_other m.recorded id env command elsewhere).1.trans unavailable
  · rw [not_not] at elsewhere
    cases command with
    | status => cases elsewhere
    | start target | stop target | restart target =>
      cases elsewhere
      simp [Supervisor.execute, Supervisor.handleStart, Supervisor.handleStop,
        Supervisor.handleRestart, unavailable]

theorem truthfulAt_executeAll (commands : List (E × SupervisorCommand)) (truth : TruthfulAt sup id) :
    TruthfulAt (sup.executeAll m.recorded commands).2 id := by
  induction commands generalizing sup with
  | nil => exact truth
  | cons command rest ih => exact ih (truthfulAt_execute m truth command.1 command.2)

theorem unavailable_executeAll (commands : List (E × SupervisorCommand))
    (unavailable : sup.statuses id = some .unavailable) :
    (sup.executeAll m.recorded commands).2.statuses id = some .unavailable := by
  induction commands generalizing sup with
  | nil => exact unavailable
  | cons command rest ih => exact ih (unavailable_execute m unavailable command.1 command.2)

end

theorem truthfulAt_register (sup : Supervisor (S × List ServiceCall)) (id other : ServiceId)
    (svc : S) (available : Bool) (truth : TruthfulAt sup id) :
    TruthfulAt (sup.register other (svc, []) available) id := by
  by_cases same : id = other
  · refine .inr ⟨_, svc, [], ?_, truthful_registered available⟩
    simp [Supervisor.At, Supervisor.register, same]
  · exact truthfulAt_congr (by simp [Supervisor.register, same])
      (by simp [Supervisor.register, same]) truth

theorem truthfulAt_registered (registrations : List (ServiceId × S × Bool)) (id : ServiceId) :
    TruthfulAt (Supervisor.registered registrations) id := by
  -- from any supervisor whose ids are all truthful
  have fold : ∀ sup : Supervisor (S × List ServiceCall), TruthfulAt sup id →
      TruthfulAt (registrations.foldl (fun sup r => sup.register r.1 (r.2.1, []) r.2.2) sup) id := by
    induction registrations with
    | nil => exact fun _ truth => truth
    | cons r rest ih => exact fun sup truth => ih _ (truthfulAt_register sup id r.1 r.2.1 r.2.2 truth)
  exact fold .new (.inl ⟨rfl, rfl⟩)

/-- Between any two commands, whatever the services answer: an id has a status exactly when a
service is registered under it; no status is `Starting`; an id registered as unavailable still
is, and its service was never started; a status is `Running` exactly when the last call that
succeeded was a start with this pid; and two successful starts have a successful stop between
them. -/
theorem status_tells_the_calls (m : ManagedService S E)
    (registrations : List (ServiceId × S × Bool)) (commands : List (E × SupervisorCommand))
    (id : ServiceId) :
    let start := Supervisor.registered registrations
    let sup := (start.executeAll m.recorded commands).2
    ((sup.statuses id).isSome ↔ (sup.services id).isSome) ∧
    sup.statuses id ≠ some .starting ∧
    (start.statuses id = some .unavailable → sup.statuses id = some .unavailable ∧
      ∀ svc calls, sup.services id = some (svc, calls) → ∀ call ∈ calls, call.IsStart = false) ∧
    ∀ svc calls, sup.services id = some (svc, calls) →
      (∀ pid, sup.statuses id = some (.running pid) ↔
        lastSuccess calls = some (.started pid)) ∧ StartsAlternate calls := by
  intro start sup
  have truth : TruthfulAt sup id :=
    truthfulAt_executeAll m commands (truthfulAt_registered registrations id)
  have stays : start.statuses id = some .unavailable → sup.statuses id = some .unavailable :=
    unavailable_executeAll m commands
  rcases truth with ⟨noStatus, noService⟩ | ⟨status, svc, calls, ⟨here, found⟩, truth⟩
  · refine ⟨by simp [noStatus, noService], by simp [noStatus], ?_, by simp [noService]⟩
    intro unavailable
    exact ⟨stays unavailable, by simp [noService]⟩
  · rw [here, found]
    refine ⟨by simp, fun starting => truth.settled (Option.some.inj starting), ?_, ?_⟩
    · intro unavailable
      have same := stays unavailable
      rw [here] at same
      refine ⟨same, fun svc' calls' found' => ?_⟩
      cases found'
      rw [truth.untouched (Option.some.inj same)]
      simp
    · rintro svc' calls' found'
      cases found'
      refine ⟨fun pid => ?_, truth.startsAlternate⟩
      rw [Option.some.injEq]
      exact truth.running pid

/-! ### Interleavings -/

/-- The commands that address `id`, with what the outside world answers to each. -/
def commandsOn (id : ServiceId) (commands : List (E × SupervisorCommand)) :
    List (E × SupervisorCommand) :=
  commands.filter fun command => command.2.target = some id

def repliesOn (id : ServiceId) (replies : List (SupervisorCommand × SupervisorReply)) :
    List (SupervisorCommand × SupervisorReply) :=
  replies.filter fun reply => reply.1.target = some id

/-- Two supervisors have the same service and the same status under `id`. -/
def AgreeAt (id : ServiceId) (first second : Supervisor S) : Prop :=
  first.statuses id = second.statuses id ∧ first.services id = second.services id

section

variable (m : ManagedService S E) {id : ServiceId} {first second : Supervisor S}

theorem agreeAt_callStart (agree : AgreeAt id first second) (env : E) :
    (first.callStart m id env).1 = (second.callStart m id env).1 ∧
      AgreeAt id (first.callStart m id env).2 (second.callStart m id env).2 := by
  simp only [Supervisor.callStart]
  rw [agree.2]
  cases found : second.services id with
  | none => exact ⟨rfl, agree⟩
  | some svc =>
    rcases called : m.start env svc with ⟨outcome, after⟩
    cases outcome <;> simp [AgreeAt, called]

theorem agreeAt_callStop (agree : AgreeAt id first second) (env : E) :
    (first.callStop m id env).1 = (second.callStop m id env).1 ∧
      AgreeAt id (first.callStop m id env).2 (second.callStop m id env).2 := by
  simp only [Supervisor.callStop]
  rw [agree.2]
  cases found : second.services id with
  | none => exact ⟨rfl, agree⟩
  | some svc =>
    rcases called : m.stop env svc with ⟨outcome, after⟩
    cases outcome <;> simp [AgreeAt, agree.1, called]

theorem agreeAt_handleStart (agree : AgreeAt id first second) (env : E) :
    (first.handleStart m id env).1 = (second.handleStart m id env).1 ∧
      AgreeAt id (first.handleStart m id env).2 (second.handleStart m id env).2 := by
  have starting : AgreeAt id (first.setStatus id .starting) (second.setStatus id .starting) :=
    ⟨by simp, agree.2⟩
  have called := agreeAt_callStart m starting env
  simp only [Supervisor.handleStart]
  rw [agree.1]
  split
  all_goals first | exact ⟨rfl, agree⟩ | exact called

theorem agreeAt_handleStop (agree : AgreeAt id first second) (env : E) :
    (first.handleStop m id env).1 = (second.handleStop m id env).1 ∧
      AgreeAt id (first.handleStop m id env).2 (second.handleStop m id env).2 := by
  have called := agreeAt_callStop m agree env
  simp only [Supervisor.handleStop]
  rw [agree.1]
  split
  all_goals first | exact ⟨rfl, agree⟩ | exact called

/-- A command on `id` sees nothing but the service under `id` and its status. -/
theorem agreeAt_execute (agree : AgreeAt id first second) (env : E) (command : SupervisorCommand)
    (here : command.target = some id) :
    (first.execute m env command).1 = (second.execute m env command).1 ∧
      AgreeAt id (first.execute m env command).2 (second.execute m env command).2 := by
  cases command with
  | status => cases here
  | start target =>
    cases here
    obtain ⟨reply, after⟩ := agreeAt_handleStart m agree env
    exact ⟨congrArg SupervisorReply.result reply, after⟩
  | stop target =>
    cases here
    obtain ⟨reply, after⟩ := agreeAt_handleStop m agree env
    exact ⟨congrArg SupervisorReply.result reply, after⟩
  | restart target =>
    cases here
    simp only [Supervisor.execute, Supervisor.handleRestart, agree.1]
    split
    · obtain ⟨reply, after⟩ := agreeAt_handleStart m (agreeAt_handleStop m agree env).2 env
      exact ⟨congrArg SupervisorReply.result reply, after⟩
    · obtain ⟨reply, after⟩ := agreeAt_handleStart m agree env
      exact ⟨congrArg SupervisorReply.result reply, after⟩

/-- What a run does to one service is the run of the commands on that service. -/
theorem executeAll_project (first second : Supervisor S) (id : ServiceId)
    (commands : List (E × SupervisorCommand)) (agree : AgreeAt id first second) :
    repliesOn id (first.executeAll m commands).1 =
        (second.executeAll m (commandsOn id commands)).1 ∧
      AgreeAt id (first.executeAll m commands).2
        (second.executeAll m (commandsOn id commands)).2 := by
  induction commands generalizing first second with
  | nil => exact ⟨rfl, agree⟩
  | cons head rest ih =>
    obtain ⟨env, command⟩ := head
    by_cases here : command.target = some id
    · obtain ⟨reply, after⟩ := agreeAt_execute m agree env command here
      obtain ⟨replies, final⟩ := ih _ _ after
      have kept : commandsOn id ((env, command) :: rest) = (env, command) :: commandsOn id rest := by
        simp [commandsOn, here]
      rw [kept]
      refine ⟨?_, final⟩
      simp only [Supervisor.executeAll, repliesOn, List.filter_cons, here, decide_true, if_true]
      rw [reply]
      exact congrArg _ replies
    · -- a command on another service: nothing changes here
      have dropped : commandsOn id ((env, command) :: rest) = commandsOn id rest := by
        simp [commandsOn, here]
      have frame : AgreeAt id (first.execute m env command).2 first :=
        first.execute_other m id env command here
      obtain ⟨replies, final⟩ := ih _ _ ⟨frame.1.trans agree.1, frame.2.trans agree.2⟩
      rw [dropped]
      refine ⟨?_, final⟩
      simpa [Supervisor.executeAll, repliesOn, here] using replies

end

/-- Two command sequences that agree on every service end with the same statuses and the same
services, and every command gets the same reply in both. What a service answers depends on its
own state and on what its command brings along. -/
theorem interleavings_agree (m : ManagedService S E) (sup : Supervisor S)
    (first second : List (E × SupervisorCommand))
    (same : ∀ id, commandsOn id first = commandsOn id second) :
    (sup.executeAll m first).2 = (sup.executeAll m second).2 ∧
      ∀ id, repliesOn id (sup.executeAll m first).1 = repliesOn id (sup.executeAll m second).1 := by
  have project (id : ServiceId) := executeAll_project m sup sup id first ⟨rfl, rfl⟩
  have project' (id : ServiceId) := executeAll_project m sup sup id second ⟨rfl, rfl⟩
  constructor
  · have statuses : (sup.executeAll m first).2.statuses = (sup.executeAll m second).2.statuses := by
      funext id
      rw [(project id).2.1, same id, ← (project' id).2.1]
    have services : (sup.executeAll m first).2.services = (sup.executeAll m second).2.services := by
      funext id
      rw [(project id).2.2, same id, ← (project' id).2.2]
    cases firstEnd : (sup.executeAll m first).2
    cases secondEnd : (sup.executeAll m second).2
    simp_all
  · intro id
    rw [(project id).1, same id, ← (project' id).1]

end

/-- The service of the supervisor's tests. -/
structure MockService where
  running : Bool
  failStart : Bool
  pid : UInt32
  deriving DecidableEq, Repr

def MockService.managed : ManagedService MockService Unit where
  start _ svc :=
    if svc.failStart then (.error "mock start failure", svc)
    else (.ok svc.pid, { svc with running := true })
  stop _ svc := (.ok (), { svc with running := false })
  isRunning _ svc := (svc.running, svc)

def mockSupervisor : Supervisor MockService :=
  (Supervisor.new.register .gateway ⟨false, false, 1⟩ true).register .mqttClient ⟨false, true, 0⟩ true

/-- Commands to a service that works and to one that fails to start, interleaved in two ways. -/
theorem mock_interleavings_agree :
    (mockSupervisor.executeAll MockService.managed
        [((), .start .gateway), ((), .start .mqttClient), ((), .stop .gateway),
         ((), .restart .mqttClient)]).2 =
      (mockSupervisor.executeAll MockService.managed
        [((), .start .mqttClient), ((), .restart .mqttClient), ((), .start .gateway),
         ((), .stop .gateway)]).2 := by
  refine (interleavings_agree MockService.managed mockSupervisor _ _ ?_).1
  intro id
  cases id <;> rfl

end Hamlet
