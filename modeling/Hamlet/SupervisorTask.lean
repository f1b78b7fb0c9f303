import Mathlib.Data.Fintype.Basic
import Hamlet.Lib.Actor
import Hamlet.Supervisor

/-!
# The supervisor's task

`Supervisor::spawn` and `SupervisorHandle`: callers in any task send commands through a channel
of 32 slots and wait for the reply. When the last handle is gone and the channel is empty, the
task stops every service that it owns.
-/

namespace Hamlet

instance : Fintype ServiceId where
  elems := {.gateway, .mosquitto, .mqttClient, .cloudGateway, .gatewayMqttClient}
  complete id := by cases id <;> decide

namespace Supervisor

variable {S E : Type}

/-- `channel_buffer`. -/
abbrev channelBuffer : Nat := 32

section

variable (m : ManagedService S E)

/-- The call of `stop` after the command loop. A failure is logged; no status changes. -/
def stopService (sup : Supervisor S) (id : ServiceId) (env : E) : Supervisor S :=
  match sup.services id with
  | none => sup
  | some svc => sup.setService id (m.stop env svc).2

/-- The order in which a hash map with these services is iterated. -/
def Enumerates (sup : Supervisor S) (order : List ServiceId) : Prop :=
  order.Nodup ∧ ∀ id, id ∈ order ↔ (sup.services id).isSome

instance (sup : Supervisor S) (order : List ServiceId) : Decidable (sup.Enumerates order) :=
  inferInstanceAs (Decidable (_ ∧ _))

/-- The loop over all services, each with what the world answers to its `stop`. -/
def stopAll (sup : Supervisor S) (order : List (ServiceId × E)) : Option (Supervisor S) :=
  if sup.Enumerates (order.map Prod.fst) then
    some (order.foldl (fun sup (id, env) => sup.stopService m id env) sup)
  else none

/-- The task of `spawn`. -/
def task : Actor.Behaviour (Supervisor S) E SupervisorCommand SupervisorReply
    (List (ServiceId × E)) where
  serve env sup command := sup.execute m env command
  finish order sup := sup.stopAll m order
  stoppable := false

end

end Supervisor

/-- The task, its channel and its callers. -/
abbrev SupervisorTask (S κ E : Type) : Type :=
  Actor.System (Supervisor S) κ E SupervisorCommand SupervisorReply Supervisor.channelBuffer

abbrev SupervisorAction (κ E : Type) : Type :=
  Actor.Action κ E SupervisorCommand (List (ServiceId × E))

/-- What a method of `SupervisorHandle` returns. -/
def SupervisorHandle.outcome : Actor.Outcome SupervisorReply → Except String SupervisorReply
  | .reply reply => .ok reply
  | .closed => .error "supervisor channel closed"
  | .dropped => .error "supervisor dropped reply"

end Hamlet
