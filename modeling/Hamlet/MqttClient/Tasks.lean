import Mathlib.Data.Finset.Basic
import Hamlet.Lib.BoundedQueue
import Hamlet.Lib.Runs
import Hamlet.MqttClient.Types

/-!
# The tasks of the local MQTT client

The event-loop task and the command task with the queues between them, `rumqttc`'s request
queue, and what the broker holds for this client. A step ends where its task awaits
something. Shutdown is left out, and so is the outbound branch of the event loop: its only
sender is dropped when `App::initialize` returns.

Of `rumqttc` the model takes this: requests wait in a queue that only `poll` drains, a
reconnect starts a clean session, and what survives of the unsent requests when a
connection is lost is not specified.
-/

namespace Hamlet

/-- Who waits for the reply to a command. -/
inductive Caller where
  | broadcastLoop
  | beaconLoop
  | sweep
  | outside
  deriving DecidableEq, Repr

inductive EventLoopPhase where
  | polling
  /-- In `msg_tx.send`. -/
  | forwarding (msg : MqttMessage)
  /-- In the pause after an error. -/
  | sleeping
  deriving DecidableEq, Repr

structure MqttClient where
  eventLoop : EventLoopPhase
  /-- The `ConnAck` of the current connection has been processed. -/
  connected : Bool
  /-- Not yet used to report the first `ConnAck`. -/
  connectedTx : Bool
  /-- The topics the broker holds for this client. -/
  session : Finset String
  /-- Unsent requests that survived the last connection. -/
  pending : List MqttCommand
  requests : BoundedQueue MqttCommand requestCapacity
  inbound : BoundedQueue MqttMessage msgCapacity
  /-- The command being executed: the task waits for a slot in `requests`. -/
  executing : Option (MqttCommand × Caller)
  commands : BoundedQueue (MqttCommand × Caller) cmdCapacity
  /-- The reply each caller has got to its last command: whether it was `Ok`. -/
  replies : Caller → Option Bool
  /-- Commands answered `Ok`, oldest first. -/
  replied : List MqttCommand

inductive ClientAction where
  | pollConnAck
  | pollPublish (msg : MqttMessage)
  | pollRequest
  | pollError (kept : List MqttCommand)
  | forward
  | wake
  | receive
  | refuse
  | execute
  deriving DecidableEq, Repr

/-- The broker's reaction to a request. -/
def deliver (session : Finset String) : MqttCommand → Finset String
  | .subscribe topic _ => insert topic session
  | .unsubscribe topic => session.erase topic
  | .publish _ _ _ => session

namespace MqttClient

def init : MqttClient where
  eventLoop := .polling
  connected := false
  connectedTx := true
  session := ∅
  pending := []
  requests := .empty
  inbound := .empty
  executing := none
  commands := .empty
  replies _ := none
  replied := []

/-- The requests not yet sent, in the order `poll` takes them. -/
def unsent (c : MqttClient) : List MqttCommand := c.pending ++ c.requests.buffer

def setReply (c : MqttClient) (caller : Caller) (reply : Option Bool) : MqttClient :=
  { c with replies := Function.update c.replies caller reply }

/-- `poll` prefers what survived the last connection. -/
def sendRequest (c : MqttClient) : Option MqttClient :=
  match c.pending with
  | request :: pending => some { c with pending, session := deliver c.session request }
  | [] =>
    c.requests.pop.map fun (request, requests) =>
      { c with requests, session := deliver c.session request }

def step (c : MqttClient) : ClientAction → Option MqttClient
  | .pollConnAck =>
    -- a clean session starts without subscriptions
    if c.eventLoop = .polling ∧ ¬c.connected then
      some { c with connected := true, connectedTx := false, session := ∅ }
    else none
  | .pollPublish msg =>
    if c.eventLoop = .polling ∧ c.connected then some { c with eventLoop := .forwarding msg }
    else none
  | .pollRequest => if c.eventLoop = .polling ∧ c.connected then c.sendRequest else none
  | .pollError kept =>
    if c.eventLoop = .polling ∧ kept.Sublist c.unsent then
      some { c with
        eventLoop := .sleeping
        connected := false
        session := ∅
        pending := kept
        requests := .empty }
    else none
  | .forward =>
    -- waits on a full queue, outside the `select!`
    match c.eventLoop with
    | .forwarding msg =>
      (c.inbound.push msg).map fun inbound => { c with inbound, eventLoop := .polling }
    | .polling | .sleeping => none
  | .wake => if c.eventLoop = .sleeping then some { c with eventLoop := .polling } else none
  | .receive =>
    if c.executing = none then
      c.commands.pop.map fun (command, commands) => { c with executing := some command, commands }
    else none
  | .refuse =>
    -- the client rejects an invalid topic before it waits for a slot
    if c.executing = none then
      c.commands.pop.map fun ((_, caller), commands) =>
        { c with commands }.setReply caller (some false)
    else none
  | .execute =>
    -- `Ok` means queued for sending, not acknowledged by the broker
    match c.executing with
    | some (command, caller) =>
      (c.requests.push command).map fun requests =>
        { c with requests, executing := none, replied := c.replied ++ [command] }.setReply caller
          (some true)
    | none => none

/-- `MqttClientHandle`: queue a command; its caller then waits for the reply. -/
def submit (c : MqttClient) (command : MqttCommand) (caller : Caller) : Option MqttClient :=
  (c.commands.push (command, caller)).map fun commands => { c with commands }.setReply caller none

/-- Take the next inbound message. -/
def consume (c : MqttClient) : Option (MqttMessage × MqttClient) :=
  c.inbound.pop.map fun (msg, inbound) => (msg, { c with inbound })

/-! ### Replies -/

/-- The commands that are queued or being executed. -/
def inFlight (c : MqttClient) : List (MqttCommand × Caller) :=
  c.executing.toList ++ c.commands.buffer

/-- A caller without a reply has a command in flight. -/
def Owes (c : MqttClient) (caller : Caller) : Prop :=
  c.replies caller = none → ∃ command, (command, caller) ∈ c.inFlight

theorem submit_iff (c c' : MqttClient) (command : MqttCommand) (caller : Caller) :
    c.submit command caller = some c' ↔
      ∃ commands, c.commands.push (command, caller) = some commands ∧
        { c with commands }.setReply caller none = c' := by
  rw [submit, Option.map_eq_some_iff]

theorem setReply_self (c : MqttClient) (caller : Caller) (reply : Option Bool) :
    (c.setReply caller reply).replies caller = reply := Function.update_self ..

theorem setReply_other (c : MqttClient) (caller other : Caller) (reply : Option Bool)
    (differs : other ≠ caller) : (c.setReply caller reply).replies other = c.replies other :=
  Function.update_of_ne differs ..

/-- A command leaves the flight only by a reply to its caller. -/
theorem owes_step (c c' : MqttClient) (action : ClientAction) (caller : Caller)
    (owes : c.Owes caller) (stepped : c.step action = some c') : c'.Owes caller := by
  cases action with
  | pollConnAck | pollPublish msg | pollError kept | wake =>
    simp only [step, Option.ite_none_right_eq_some, Option.some.injEq] at stepped
    obtain ⟨_, rfl⟩ := stepped
    exact owes
  | pollRequest =>
    simp only [step, Option.ite_none_right_eq_some, sendRequest] at stepped
    obtain ⟨_, stepped⟩ := stepped
    split at stepped
    next =>
      cases stepped
      exact owes
    next =>
      obtain ⟨_, _, rfl⟩ := Option.map_eq_some_iff.mp stepped
      exact owes
  | forward =>
    simp only [step] at stepped
    split at stepped
    next =>
      obtain ⟨_, _, rfl⟩ := Option.map_eq_some_iff.mp stepped
      exact owes
    all_goals cases stepped
  | receive =>
    simp only [step, Option.ite_none_right_eq_some, Option.map_eq_some_iff] at stepped
    obtain ⟨idle, ⟨taken, commands⟩, popped, rfl⟩ := stepped
    rw [BoundedQueue.pop_iff] at popped
    -- the command moves from the queue to the task
    intro unanswered
    obtain ⟨command, member⟩ := owes unanswered
    exact ⟨command, by simpa [inFlight, idle, popped] using member⟩
  | refuse =>
    simp only [step, Option.ite_none_right_eq_some, Option.map_eq_some_iff] at stepped
    obtain ⟨idle, ⟨⟨taken, answered⟩, commands⟩, popped, rfl⟩ := stepped
    rw [BoundedQueue.pop_iff] at popped
    intro unanswered
    -- the command that leaves has just been answered
    have differs : caller ≠ answered := by
      rintro rfl
      rw [setReply_self] at unanswered
      cases unanswered
    rw [setReply_other _ _ _ _ differs] at unanswered
    obtain ⟨command, member⟩ := owes unanswered
    refine ⟨command, ?_⟩
    simpa [inFlight, idle, popped, setReply, differs] using member
  | execute =>
    simp only [step] at stepped
    split at stepped
    next taken answered executing =>
      obtain ⟨requests, _, rfl⟩ := Option.map_eq_some_iff.mp stepped
      intro unanswered
      have differs : caller ≠ answered := by
        rintro rfl
        rw [setReply_self] at unanswered
        cases unanswered
      rw [setReply_other _ _ _ _ differs] at unanswered
      obtain ⟨command, member⟩ := owes unanswered
      refine ⟨command, ?_⟩
      simpa [inFlight, executing, setReply, differs] using member
    next => cases stepped

theorem owes_submit (c c' : MqttClient) (command : MqttCommand) (caller other : Caller)
    (owes : c.Owes other ∨ other = caller) (submitted : c.submit command caller = some c') :
    c'.Owes other := by
  obtain ⟨commands, pushed, rfl⟩ := (submit_iff ..).mp submitted
  obtain ⟨_, queued⟩ := (BoundedQueue.push_iff ..).mp pushed
  intro unanswered
  by_cases same : other = caller
  · exact ⟨command, by simp [inFlight, setReply, queued, same]⟩
  · rw [setReply_other _ _ _ _ same] at unanswered
    obtain ⟨earlier, member⟩ := (owes.resolve_right same) unanswered
    refine ⟨earlier, ?_⟩
    simp only [inFlight, setReply, queued, ← List.append_assoc]
    exact List.mem_append_left _ member

end MqttClient

end Hamlet
