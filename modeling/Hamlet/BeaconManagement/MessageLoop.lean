import Hamlet.Lib.Runs
import Hamlet.Lib.RustStr
import Hamlet.BeaconManagement.Registry
import Hamlet.CloudGateway.Connection

/-!
# The beacon message loop

`run_beacon_message_loop` as a step function. One event is one iteration of the loop: the
branch that `select!` took, and where the sweep stood when it was dropped for it.
-/

namespace Hamlet

open BeaconRegistry (Cut)

structure MessageLoop where
  registry : BeaconRegistry
  /-- Every connection opened so far; the position is its number. -/
  connections : List Connection

inductive LoopEvent where
  | channel (cut : Cut) (channel : TopicChannel) (now : Nat) (subscribed : Except String Unit)
  | timeouts (now : Nat) (order : List String)
  | message (cut : Cut) (msg : MqttMessage) (now : Nat)

namespace LoopEvent

/-- The registered channel, if the event is one. -/
def channel? : LoopEvent → Option TopicChannel
  | .channel _ registered _ _ => some registered
  | _ => none

/-- The sweep of this iteration was not dropped half-way. -/
def SweepsComplete : LoopEvent → Prop
  | .channel cut _ _ _ | .message cut _ _ => cut = .tick
  | .timeouts _ _ => True

instance : DecidablePred SweepsComplete
  | .channel cut _ _ _ | .message cut _ _ => inferInstanceAs (Decidable (cut = .tick))
  | .timeouts _ _ => inferInstanceAs (Decidable True)

end LoopEvent

namespace MessageLoop

def init (ownGatewayUrl : Option String) : MessageLoop where
  registry := .new ownGatewayUrl
  connections := []

/-- The beacon of a `{beacon_id}/rec` topic. -/
def senderOf (topic : String) : Option String := RustStr.stripSuffix topic "/rec"

theorem senderOf_iff (topic beaconId : String) :
    senderOf topic = some beaconId ↔ topic = receiveTopic beaconId :=
  RustStr.stripSuffix_iff topic "/rec" beaconId

section

/-! `fromSlice` is `serde_json::from_slice`. -/

variable (fromSlice : List UInt8 → Option Json) (serverUrl : String)

def beaconPayload (msg : MqttMessage) : Json :=
  (fromSlice msg.payload).getD (.string (RustStr.fromUtf8Lossy msg.payload))

def beaconGatewayUrl (msg : MqttMessage) : Option String :=
  (((beaconPayload fromSlice msg).asObject.bind (·.lookup "gateway_url"))).bind Json.asStr

def refreshSender (reg : BeaconRegistry) (msg : MqttMessage) (now : Nat) : BeaconRegistry :=
  match senderOf msg.topic with
  | some beaconId => reg.updateLastSeen beaconId now
  | none => reg

/-- A gateway not yet known: connect, queue the payload, associate the connection with the
sender. Without a sender to hold it the shutdown sender is dropped on the spot. -/
def joinGateway (loop : MessageLoop) (msg : MqttMessage) (gwUrl : String) : MessageLoop :=
  -- marked as known before anybody is found to hold the connection
  let registry := loop.registry.insertGateway gwUrl
  let shutdownTx := loop.connections.length
  let registration := .beaconRegistration serverUrl (beaconPayload fromSlice msg)
  let connections := loop.connections ++ [(connectToGateway serverUrl gwUrl).send registration]
  match senderOf msg.topic with
  | some beaconId =>
    -- a no-op for a beacon that is not registered
    { registry := registry.associateGateway beaconId gwUrl shutdownTx, connections }
  | none => { registry, connections }

def handleMessage (loop : MessageLoop) (msg : MqttMessage) (now : Nat) : MessageLoop :=
  let loop := { loop with registry := refreshSender loop.registry msg now }
  -- every topic counts for adverts, not only those of beacons
  match beaconGatewayUrl fromSlice msg with
  | none => loop
  | some gwUrl =>
    if loop.registry.isGatewayKnown gwUrl then loop
    else joinGateway fromSlice serverUrl loop msg gwUrl

/-- One iteration; `none` when the sweep cannot have stood where the event says. -/
def step (loop : MessageLoop) : LoopEvent → Option MessageLoop
  | .channel cut channel now subscribed =>
    (loop.registry.dropSweep cut).map fun reg =>
      { loop with registry := reg.registerChannel channel now subscribed }
  | .timeouts now order =>
    (loop.registry.checkTimeouts now order).map fun reg => { loop with registry := reg }
  | .message cut msg now =>
    (loop.registry.dropSweep cut).map fun reg =>
      handleMessage fromSlice serverUrl { loop with registry := reg } msg now

end

end MessageLoop

end Hamlet
