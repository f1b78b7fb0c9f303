import Hamlet.BeaconManagement.Types
import Hamlet.BeaconManagement.Registry
import Hamlet.MqttClient.Tasks

/-!
# The four tasks around the local broker

The two tasks of the MQTT client, the broadcast loop and the beacon message loop, with
every place at which one of them can wait for another. The registry's records play no part
in that: which topics a sweep unsubscribes or retracts is left open.
-/

namespace Hamlet

/-- `run_broadcast_loop`. From `publishing` on the loop holds the read lock on
`broadcast_topics`. -/
inductive BroadcastPhase where
  | idle
  | locking
  | publishing (rest : List String)
  /-- Waits for the reply to a publish command. -/
  | awaiting (rest : List String)
  deriving DecidableEq, Repr

/-- `run_beacon_message_loop`: at its `select!`, or inside `register_channel`. -/
inductive BeaconPhase where
  | selecting
  | subscribing (channel : TopicChannel)
  /-- Waits for the reply to a subscribe command. -/
  | awaiting (channel : TopicChannel)
  /-- Waits for the write lock on `broadcast_topics`. -/
  | writing (channel : TopicChannel)
  deriving DecidableEq, Repr

structure LocalTasks where
  client : MqttClient
  broadcast : BroadcastPhase
  beacon : BeaconPhase
  broadcastTopics : List String
  channels : BoundedQueue TopicChannel topicCapacity

inductive TaskAction where
  | client (action : ClientAction)
  | external (command : MqttCommand)
  | tick
  | lockRead
  | publish (payload : List UInt8)
  | published
  | unlockRead
  | handshake (channel : TopicChannel)
  | takeChannel
  | subscribe
  | subscribed
  | write
  | takeMessage
  | sweepUnsubscribe (topic : String)
  | sweepRetract (topic : String)
  deriving DecidableEq, Repr

namespace LocalTasks

def init : LocalTasks where
  client := .init
  broadcast := .idle
  beacon := .selecting
  broadcastTopics := []
  channels := .empty

def readLocked (s : LocalTasks) : Bool :=
  match s.broadcast with
  | .publishing _ | .awaiting _ => true
  | .idle | .locking => false

/-- Where `register_channel` goes first. -/
def registering (channel : TopicChannel) : BeaconPhase :=
  match channel.topicType with
  | .listen | .hybrid => .subscribing channel
  | .broadcast => .writing channel

/-- Where it goes after the reply: only a hybrid channel has a topic left to write. -/
def afterReply (channel : TopicChannel) (ok : Bool) : BeaconPhase :=
  if channel.topicType = .hybrid ∧ ok then .writing channel else .selecting

def step (s : LocalTasks) : TaskAction → Option LocalTasks
  | .client action => (s.client.step action).map fun client => { s with client }
  | .external command => (s.client.submit command .outside).map fun client => { s with client }
  | .tick => if s.broadcast = .idle then some { s with broadcast := .locking } else none
  | .lockRead =>
    -- the write lock is only ever held within one step
    if s.broadcast = .locking then some { s with broadcast := .publishing s.broadcastTopics }
    else none
  | .publish payload =>
    match s.broadcast with
    | .publishing (topic :: rest) =>
      (s.client.submit (.publish topic .atLeastOnce payload) .broadcastLoop).map fun client =>
        { s with client, broadcast := .awaiting rest }
    | _ => none
  | .published =>
    -- a failed publish is logged and the cycle goes on
    match s.broadcast, s.client.replies .broadcastLoop with
    | .awaiting rest, some _ => some { s with broadcast := .publishing rest }
    | _, _ => none
  | .unlockRead => if s.broadcast = .publishing [] then some { s with broadcast := .idle } else none
  | .handshake channel => (s.channels.push channel).map fun channels => { s with channels }
  | .takeChannel =>
    if s.beacon = .selecting then
      s.channels.pop.map fun (channel, channels) =>
        { s with beacon := registering channel, channels }
    else none
  | .subscribe =>
    match s.beacon with
    | .subscribing channel =>
      (s.client.submit (.subscribe channel.topic.topic (qosFromU8 channel.topic.qos))
        .beaconLoop).map fun client => { s with client, beacon := .awaiting channel }
    | _ => none
  | .subscribed =>
    match s.beacon, s.client.replies .beaconLoop with
    | .awaiting channel, some ok => some { s with beacon := afterReply channel ok }
    | _, _ => none
  | .write =>
    match s.beacon with
    | .writing channel =>
      if s.readLocked then none
      else some { s with
        beacon := .selecting
        broadcastTopics := s.broadcastTopics ++ [channel.topic.topic] }
    | _ => none
  | .takeMessage =>
    -- handling a message waits for none of the other tasks
    if s.beacon = .selecting then s.client.consume.map fun (_, client) => { s with client }
    else none
  | .sweepUnsubscribe topic =>
    -- the sweep's wait for the reply is no phase: `select!` leaves it for any ready branch
    if s.beacon = .selecting then
      (s.client.submit (.unsubscribe topic) .sweep).map fun client => { s with client }
    else none
  | .sweepRetract topic =>
    if s.beacon = .selecting ∧ ¬s.readLocked then
      some { s with broadcastTopics := s.broadcastTopics.filter (· ≠ topic) }
    else none

/-! ### What a step can do -/

inductive Steps (s : LocalTasks) : TaskAction → LocalTasks → Prop where
  | client (action : ClientAction) (client : MqttClient)
      (moved : s.client.step action = some client) : Steps s (.client action) { s with client }
  | external (command : MqttCommand) (client : MqttClient)
      (submitted : s.client.submit command .outside = some client) :
      Steps s (.external command) { s with client }
  | ticked (idle : s.broadcast = .idle) : Steps s .tick { s with broadcast := .locking }
  | locked (locking : s.broadcast = .locking) :
      Steps s .lockRead { s with broadcast := .publishing s.broadcastTopics }
  | publishing (payload : List UInt8) (topic : String) (rest : List String) (client : MqttClient)
      (phase : s.broadcast = .publishing (topic :: rest))
      (submitted : s.client.submit (.publish topic .atLeastOnce payload) .broadcastLoop =
        some client) :
      Steps s (.publish payload) { s with client, broadcast := .awaiting rest }
  | published (rest : List String) (ok : Bool) (phase : s.broadcast = .awaiting rest)
      (reply : s.client.replies .broadcastLoop = some ok) :
      Steps s .published { s with broadcast := .publishing rest }
  | unlocked (phase : s.broadcast = .publishing []) :
      Steps s .unlockRead { s with broadcast := .idle }
  | offered (channel : TopicChannel) (channels : BoundedQueue TopicChannel topicCapacity)
      (pushed : s.channels.push channel = some channels) :
      Steps s (.handshake channel) { s with channels }
  | registering (channel : TopicChannel) (channels : BoundedQueue TopicChannel topicCapacity)
      (selecting : s.beacon = .selecting) (popped : s.channels.buffer = channel :: channels.buffer) :
      Steps s .takeChannel { s with beacon := LocalTasks.registering channel, channels }
  | subscribing (channel : TopicChannel) (client : MqttClient)
      (phase : s.beacon = .subscribing channel)
      (submitted : s.client.submit (.subscribe channel.topic.topic (qosFromU8 channel.topic.qos))
        .beaconLoop = some client) :
      Steps s .subscribe { s with client, beacon := .awaiting channel }
  | subscribed (channel : TopicChannel) (ok : Bool) (phase : s.beacon = .awaiting channel)
      (reply : s.client.replies .beaconLoop = some ok) :
      Steps s .subscribed { s with beacon := afterReply channel ok }
  | wrote (channel : TopicChannel) (phase : s.beacon = .writing channel)
      (free : s.readLocked = false) :
      Steps s .write { s with
        beacon := .selecting
        broadcastTopics := s.broadcastTopics ++ [channel.topic.topic] }
  | consumed (msg : MqttMessage) (client : MqttClient) (selecting : s.beacon = .selecting)
      (taken : s.client.consume = some (msg, client)) : Steps s .takeMessage { s with client }
  | swept (topic : String) (client : MqttClient) (selecting : s.beacon = .selecting)
      (submitted : s.client.submit (.unsubscribe topic) .sweep = some client) :
      Steps s (.sweepUnsubscribe topic) { s with client }
  | retracted (topic : String) (selecting : s.beacon = .selecting) (free : s.readLocked = false) :
      Steps s (.sweepRetract topic)
        { s with broadcastTopics := s.broadcastTopics.filter (· ≠ topic) }

theorem step_cases {s s' : LocalTasks} {action : TaskAction} (stepped : s.step action = some s') :
    Steps s action s' := by
  cases action with
  | client action =>
    obtain ⟨client, moved, rfl⟩ := Option.map_eq_some_iff.mp stepped
    exact .client action client moved
  | external command =>
    obtain ⟨client, submitted, rfl⟩ := Option.map_eq_some_iff.mp stepped
    exact .external command client submitted
  | tick =>
    obtain ⟨idle, shape⟩ := Option.ite_none_right_eq_some.mp stepped
    cases shape
    exact .ticked idle
  | lockRead =>
    obtain ⟨locking, shape⟩ := Option.ite_none_right_eq_some.mp stepped
    cases shape
    exact .locked locking
  | publish payload =>
    simp only [step] at stepped
    split at stepped
    next topic rest phase =>
      obtain ⟨client, submitted, rfl⟩ := Option.map_eq_some_iff.mp stepped
      exact .publishing payload topic rest client phase submitted
    next => cases stepped
  | published =>
    simp only [step] at stepped
    split at stepped
    next rest ok phase reply =>
      cases stepped
      exact .published rest ok phase reply
    next => cases stepped
  | unlockRead =>
    obtain ⟨phase, shape⟩ := Option.ite_none_right_eq_some.mp stepped
    cases shape
    exact .unlocked phase
  | handshake channel =>
    obtain ⟨channels, pushed, rfl⟩ := Option.map_eq_some_iff.mp stepped
    exact .offered channel channels pushed
  | takeChannel =>
    obtain ⟨selecting, pops⟩ := Option.ite_none_right_eq_some.mp stepped
    obtain ⟨⟨channel, channels⟩, popped, rfl⟩ := Option.map_eq_some_iff.mp pops
    exact .registering channel channels selecting ((BoundedQueue.pop_iff ..).mp popped)
  | subscribe =>
    simp only [step] at stepped
    split at stepped
    next channel phase =>
      obtain ⟨client, submitted, rfl⟩ := Option.map_eq_some_iff.mp stepped
      exact .subscribing channel client phase submitted
    next => cases stepped
  | subscribed =>
    simp only [step] at stepped
    split at stepped
    next channel ok phase reply =>
      cases stepped
      exact .subscribed channel ok phase reply
    next => cases stepped
  | write =>
    simp only [step] at stepped
    split at stepped
    next channel phase =>
      obtain ⟨free, shape⟩ := Option.ite_none_left_eq_some.mp stepped
      cases shape
      exact .wrote channel phase (by simpa using free)
    next => cases stepped
  | takeMessage =>
    obtain ⟨selecting, takes⟩ := Option.ite_none_right_eq_some.mp stepped
    obtain ⟨⟨msg, client⟩, taken, rfl⟩ := Option.map_eq_some_iff.mp takes
    exact .consumed msg client selecting taken
  | sweepUnsubscribe topic =>
    obtain ⟨selecting, submits⟩ := Option.ite_none_right_eq_some.mp stepped
    obtain ⟨client, submitted, rfl⟩ := Option.map_eq_some_iff.mp submits
    exact .swept topic client selecting submitted
  | sweepRetract topic =>
    obtain ⟨⟨selecting, free⟩, shape⟩ := Option.ite_none_right_eq_some.mp stepped
    cases shape
    exact .retracted topic selecting (by simpa using free)

/-! ### Who waits -/

/-- In `msg_tx.send` with the inbound queue full. -/
def eventLoopBlocked (s : LocalTasks) : Bool :=
  match s.client.eventLoop with
  | .forwarding _ => s.client.inbound.Full
  | .polling | .sleeping => false

/-- In `client.publish` or `client.subscribe` with the request queue full. -/
def commandTaskStuck (s : LocalTasks) : Bool :=
  s.client.executing.isSome && s.client.requests.Full

/-- Stuck, or without a command to work on. -/
def commandTaskBlocked (s : LocalTasks) : Bool :=
  s.commandTaskStuck || (s.client.executing.isNone && s.client.commands.buffer.isEmpty)

def broadcastLoopBlocked (s : LocalTasks) : Bool :=
  match s.broadcast with
  | .publishing (_ :: _) => s.client.commands.Full
  | .awaiting _ => (s.client.replies .broadcastLoop).isNone
  | .publishing [] | .idle | .locking => false

def beaconLoopBlocked (s : LocalTasks) : Bool :=
  match s.beacon with
  | .subscribing _ => s.client.commands.Full
  | .awaiting _ => (s.client.replies .beaconLoop).isNone
  | .writing _ => s.readLocked
  | .selecting => false

/-- All four tasks wait for one another. -/
def Deadlocked (s : LocalTasks) : Prop :=
  s.eventLoopBlocked ∧ s.commandTaskBlocked ∧ s.broadcastLoopBlocked ∧ s.beaconLoopBlocked

instance (s : LocalTasks) : Decidable s.Deadlocked := inferInstanceAs (Decidable (_ ∧ _ ∧ _ ∧ _))

end LocalTasks

end Hamlet
