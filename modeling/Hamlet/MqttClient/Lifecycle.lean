import Hamlet.Lib.Actor
import Hamlet.MqttClient.Types

/-!
# The local MQTT client from start to stop

The two tasks that `MqttClientService::start` spawns, with the signals that `stop` sends them. The
command task is an actor whose requests are the `MqttCommand`s; to serve one it puts a request on
the queue of `rumqttc`, which only the event-loop task drains. The shutdown branch of the event
loop asks the same queue for a slot.

Dropping the service drops both senders, which the receivers do not tell from a signal. The
outbound branch of the event loop is left out: its only sender is dropped when `App::initialize`
returns. The receiver of the inbound messages is taken to be alive.

Of `rumqttc` the model takes this: requests wait in a queue that only `poll` drains; a lost
connection empties the queue into what is sent again, a failed attempt to connect does not.
-/

namespace Hamlet

/-- What waits in the request queue of `rumqttc`. -/
inductive ClientRequest where
  | command (command : MqttCommand)
  | disconnect
  deriving DecidableEq, Repr

/-- The `map_err` of the command task. -/
def MqttCommand.failure (e : String) : MqttCommand → String
  | .subscribe _ _ => "subscribe failed: " ++ e
  | .unsubscribe _ => "unsubscribe failed: " ++ e
  | .publish _ _ _ => "publish failed: " ++ e

/-- `spawn_command_task`. The world answers with the result of the client's own method. -/
def commandTask :
    Actor.Behaviour Unit (Except String Unit) MqttCommand (Except String Unit) Unit where
  serve answer _ command := (answer.mapError command.failure, ())
  finish _ _ := some ()
  stoppable := true

/-- What a method of `MqttClientHandle` returns. -/
def MqttClientHandle.outcome : Actor.Outcome (Except String Unit) → Except String Unit
  | .reply result => result
  | .closed => .error "mqtt client channel closed"
  | .dropped => .error "mqtt client dropped reply"

inductive LoopPhase where
  | polling
  /-- In `msg_tx.send`. -/
  | forwarding (msg : MqttMessage)
  /-- In the pause after an error. -/
  | sleeping
  /-- In `client.disconnect`, after the shutdown signal. -/
  | disconnecting
  | exited
  deriving DecidableEq, Repr

abbrev CommandTask (κ : Type) : Type :=
  Actor.System Unit κ (Except String Unit) MqttCommand (Except String Unit) cmdCapacity

structure ClientTasks (κ : Type) where
  eventLoop : LoopPhase
  connected : Bool
  requests : BoundedQueue ClientRequest requestCapacity
  /-- What survived the last connection: unsent requests and unacknowledged ones. -/
  pending : List ClientRequest
  inbound : BoundedQueue MqttMessage msgCapacity
  /-- What was written to a connection, oldest first. -/
  sent : List ClientRequest
  /-- The signal to the event loop. -/
  shutdown : Bool
  commands : CommandTask κ

abbrev CommandAction (κ : Type) : Type := Actor.Action κ (Except String Unit) MqttCommand Unit

inductive LifecycleAction (κ : Type) where
  /-- A step of a caller or of the command task. -/
  | command (action : CommandAction κ)
  | pollConnAck
  | pollPublish (msg : MqttMessage)
  | pollRequest
  | connectError
  | pollError (kept : List ClientRequest)
  | forward
  | wake
  /-- The beacon message loop takes a message. -/
  | consume
  | stop
  | takeShutdown
  | disconnect

namespace ClientTasks

variable {κ : Type} [DecidableEq κ] (accepts : MqttCommand → Bool)

def init : ClientTasks κ where
  eventLoop := .polling
  connected := false
  requests := .empty
  pending := []
  inbound := .empty
  sent := []
  shutdown := false
  commands := .init ()

/-- The client refuses the command: for its topic, or because the event loop is gone. -/
def Refuses (s : ClientTasks κ) (command : MqttCommand) : Prop :=
  s.eventLoop = .exited ∨ accepts command = false

instance (s : ClientTasks κ) (command : MqttCommand) : Decidable (s.Refuses accepts command) :=
  inferInstanceAs (Decidable (_ ∨ _))

def setCommands (s : ClientTasks κ) (action : CommandAction κ) : Option (ClientTasks κ) :=
  (s.commands.step commandTask action).map fun commands => { s with commands }

/-- The end of `client.subscribe`, `unsubscribe` or `publish`. -/
def completeCommand (s : ClientTasks κ) (answer : Except String Unit) : Option (ClientTasks κ) :=
  match s.commands.busy with
  | none => none
  | some (_, command) =>
    match answer with
    | .ok () =>
      -- waits while the queue is full
      if s.Refuses accepts command then none
      else (s.requests.push (.command command)).bind fun requests =>
        { s with requests }.setCommands (.complete (.ok ()))
    | .error e =>
      if s.Refuses accepts command then s.setCommands (.complete (.error e)) else none

def step (s : ClientTasks κ) : LifecycleAction κ → Option (ClientTasks κ)
  | .command (.complete answer) => s.completeCommand accepts answer
  | .command .signal => none
  | .command action => s.setCommands action
  | .pollConnAck =>
    if s.eventLoop = .polling ∧ s.connected = false then some { s with connected := true } else none
  | .pollPublish msg =>
    if s.eventLoop = .polling ∧ s.connected then some { s with eventLoop := .forwarding msg }
    else none
  | .pollRequest =>
    if s.eventLoop = .polling ∧ s.connected then
      match s.pending with
      | request :: pending => some { s with pending, sent := s.sent ++ [request] }
      | [] => s.requests.pop.map fun (request, requests) =>
          { s with requests, sent := s.sent ++ [request] }
    else none
  | .connectError =>
    -- the queue is not touched before there is a connection
    if s.eventLoop = .polling ∧ s.connected = false then some { s with eventLoop := .sleeping }
    else none
  | .pollError kept =>
    if s.eventLoop = .polling ∧ s.connected ∧
        kept ⊆ s.sent ++ s.pending ++ s.requests.buffer then
      some { s with
        eventLoop := .sleeping, connected := false, pending := kept, requests := .empty }
    else none
  | .forward =>
    match s.eventLoop with
    | .forwarding msg =>
      (s.inbound.push msg).map fun inbound => { s with inbound, eventLoop := .polling }
    | _ => none
  | .wake => if s.eventLoop = .sleeping then some { s with eventLoop := .polling } else none
  | .consume => s.inbound.pop.map fun (_, inbound) => { s with inbound }
  | .stop => { s with shutdown := true }.setCommands .signal
  | .takeShutdown =>
    -- only at the `select!`: not while forwarding or in the pause
    if s.eventLoop = .polling ∧ s.shutdown then some { s with eventLoop := .disconnecting } else none
  | .disconnect =>
    -- the request is queued, and the event loop is dropped without another poll
    if s.eventLoop = .disconnecting then
      (s.requests.push .disconnect).map fun requests => { s with requests, eventLoop := .exited }
    else none

/-! ### What a step can do -/

inductive Steps (s : ClientTasks κ) : LifecycleAction κ → ClientTasks κ → Prop where
  | commanded (action : CommandAction κ) (commands : CommandTask κ)
      (own : s.commands.step commandTask action = some commands)
      (plain : action ≠ .signal ∧ ∀ answer, action ≠ .complete answer) :
      Steps s (.command action) { s with commands }
  | executed (caller : κ) (command : MqttCommand)
      (requests : BoundedQueue ClientRequest requestCapacity) (commands : CommandTask κ)
      (busy : s.commands.busy = some (caller, command)) (taken : ¬s.Refuses accepts command)
      (queued : requests.buffer = s.requests.buffer ++ [.command command])
      (own : s.commands.step commandTask (.complete (.ok ())) = some commands) :
      Steps s (.command (.complete (.ok ()))) { s with requests, commands }
  | failed (caller : κ) (command : MqttCommand) (e : String) (commands : CommandTask κ)
      (busy : s.commands.busy = some (caller, command)) (refused : s.Refuses accepts command)
      (own : s.commands.step commandTask (.complete (.error e)) = some commands) :
      Steps s (.command (.complete (.error e))) { s with commands }
  | acknowledged (polling : s.eventLoop = .polling) (away : s.connected = false) :
      Steps s .pollConnAck { s with connected := true }
  | published (msg : MqttMessage) (polling : s.eventLoop = .polling) (connected : s.connected) :
      Steps s (.pollPublish msg) { s with eventLoop := .forwarding msg }
  | resent (request : ClientRequest) (pending : List ClientRequest)
      (polling : s.eventLoop = .polling) (connected : s.connected)
      (first : s.pending = request :: pending) :
      Steps s .pollRequest { s with pending, sent := s.sent ++ [request] }
  | sentNext (request : ClientRequest) (requests : BoundedQueue ClientRequest requestCapacity)
      (polling : s.eventLoop = .polling) (connected : s.connected) (drained : s.pending = [])
      (first : s.requests.buffer = request :: requests.buffer) :
      Steps s .pollRequest { s with requests, sent := s.sent ++ [request] }
  | unreachable (polling : s.eventLoop = .polling) (away : s.connected = false) :
      Steps s .connectError { s with eventLoop := .sleeping }
  | lost (kept : List ClientRequest) (polling : s.eventLoop = .polling) (connected : s.connected)
      (known : kept ⊆ s.sent ++ s.pending ++ s.requests.buffer) :
      Steps s (.pollError kept) { s with
        eventLoop := .sleeping, connected := false, pending := kept, requests := .empty }
  | forwarded (msg : MqttMessage) (inbound : BoundedQueue MqttMessage msgCapacity)
      (forwarding : s.eventLoop = .forwarding msg) :
      Steps s .forward { s with inbound, eventLoop := .polling }
  | woken (sleeping : s.eventLoop = .sleeping) : Steps s .wake { s with eventLoop := .polling }
  | consumed (inbound : BoundedQueue MqttMessage msgCapacity) : Steps s .consume { s with inbound }
  | stopped (commands : CommandTask κ)
      (own : s.commands.step commandTask .signal = some commands) :
      Steps s .stop { s with shutdown := true, commands }
  | told (polling : s.eventLoop = .polling) (shutdown : s.shutdown) :
      Steps s .takeShutdown { s with eventLoop := .disconnecting }
  | left (requests : BoundedQueue ClientRequest requestCapacity)
      (leaving : s.eventLoop = .disconnecting) (room : ¬s.requests.Full)
      (queued : requests.buffer = s.requests.buffer ++ [.disconnect]) :
      Steps s .disconnect { s with requests, eventLoop := .exited }

theorem setCommands_iff (s s' : ClientTasks κ) (action : CommandAction κ) :
    s.setCommands action = some s' ↔
      ∃ commands, s.commands.step commandTask action = some commands ∧
        { s with commands } = s' := by
  rw [setCommands, Option.map_eq_some_iff]

theorem completeCommand_cases {s s' : ClientTasks κ} {answer : Except String Unit}
    (completed : s.completeCommand accepts answer = some s') :
    Steps accepts s (.command (.complete answer)) s' := by
  unfold completeCommand at completed
  cases busy : s.commands.busy with
  | none => simp [busy] at completed
  | some request =>
    obtain ⟨caller, command⟩ := request
    simp only [busy] at completed
    cases answer with
    | ok =>
      obtain ⟨taken, queues⟩ := Option.ite_none_left_eq_some.mp completed
      obtain ⟨requests, pushed, stepped⟩ := Option.bind_eq_some_iff.mp queues
      obtain ⟨commands, own, rfl⟩ := (setCommands_iff ..).mp stepped
      exact .executed caller command requests commands busy taken
        ((BoundedQueue.push_iff ..).mp pushed).2 own
    | error e =>
      obtain ⟨refused, stepped⟩ := Option.ite_none_right_eq_some.mp completed
      obtain ⟨commands, own, rfl⟩ := (setCommands_iff ..).mp stepped
      exact .failed caller command e commands busy refused own

theorem step_cases {s s' : ClientTasks κ} {action : LifecycleAction κ}
    (stepped : s.step accepts action = some s') : Steps accepts s action s' := by
  cases action with
  | command action =>
    cases action with
    | complete answer => exact completeCommand_cases accepts stepped
    | signal => cases stepped
    | call | enqueue | refuse | cancel | take | lose | cloneHandle | dropHandle | finish =>
      obtain ⟨commands, own, rfl⟩ := (setCommands_iff ..).mp stepped
      exact .commanded _ commands own ⟨nofun, nofun⟩
  | pollConnAck =>
    obtain ⟨⟨polling, away⟩, same⟩ := Option.ite_none_right_eq_some.mp stepped
    cases same
    exact .acknowledged polling away
  | pollPublish msg =>
    obtain ⟨⟨polling, connected⟩, same⟩ := Option.ite_none_right_eq_some.mp stepped
    cases same
    exact .published msg polling connected
  | pollRequest =>
    obtain ⟨⟨polling, connected⟩, sends⟩ := Option.ite_none_right_eq_some.mp stepped
    split at sends
    next request pending first =>
      cases sends
      exact .resent request pending polling connected first
    next drained =>
      obtain ⟨⟨request, requests⟩, popped, rfl⟩ := Option.map_eq_some_iff.mp sends
      exact .sentNext request requests polling connected drained
        ((BoundedQueue.pop_iff ..).mp popped)
  | connectError =>
    obtain ⟨⟨polling, away⟩, same⟩ := Option.ite_none_right_eq_some.mp stepped
    cases same
    exact .unreachable polling away
  | pollError kept =>
    obtain ⟨⟨polling, connected, known⟩, same⟩ := Option.ite_none_right_eq_some.mp stepped
    cases same
    exact .lost kept polling connected known
  | forward =>
    simp only [step] at stepped
    split at stepped
    next msg forwarding =>
      obtain ⟨inbound, _, rfl⟩ := Option.map_eq_some_iff.mp stepped
      exact .forwarded msg inbound forwarding
    next => cases stepped
  | wake =>
    obtain ⟨sleeping, same⟩ := Option.ite_none_right_eq_some.mp stepped
    cases same
    exact .woken sleeping
  | consume =>
    obtain ⟨⟨_, inbound⟩, _, rfl⟩ := Option.map_eq_some_iff.mp stepped
    exact .consumed inbound
  | stop =>
    obtain ⟨commands, own, rfl⟩ := (setCommands_iff ..).mp stepped
    exact .stopped commands own
  | takeShutdown =>
    obtain ⟨⟨polling, shutdown⟩, same⟩ := Option.ite_none_right_eq_some.mp stepped
    cases same
    exact .told polling shutdown
  | disconnect =>
    obtain ⟨leaving, queues⟩ := Option.ite_none_right_eq_some.mp stepped
    obtain ⟨requests, pushed, rfl⟩ := Option.map_eq_some_iff.mp queues
    obtain ⟨room, queued⟩ := (BoundedQueue.push_iff ..).mp pushed
    exact .left requests leaving room queued

end ClientTasks

end Hamlet
