import Hamlet.Config
import Hamlet.Lib.BoundedQueue

/-!
# Types of the beacon gateway

Topics and the channel that carries them from a handshake to the message loop.
-/

namespace Hamlet

structure MqttTopicConfig where
  topic : String
  qos : UInt8
  deriving DecidableEq, Repr

inductive TopicType where
  | listen
  | broadcast
  | hybrid
  deriving DecidableEq, Repr

structure TopicChannel where
  beaconId : String
  topic : MqttTopicConfig
  topicType : TopicType
  deriving DecidableEq, Repr

/-- `{beacon_id}/rec`, on which a beacon publishes. -/
def receiveTopic (beaconId : String) : String := beaconId ++ "/rec"

/-- `{beacon_id}/cast`, to which the node broadcasts. -/
def castTopic (beaconId : String) : String := beaconId ++ "/cast"

def listenChannel (beaconId : String) : TopicChannel where
  beaconId := beaconId
  topic := { topic := receiveTopic beaconId, qos := 1 }
  topicType := .listen

def broadcastChannel (beaconId : String) : TopicChannel where
  beaconId := beaconId
  topic := { topic := castTopic beaconId, qos := 1 }
  topicType := .broadcast

/-- The channels of one handshake, in the order they are sent. -/
def handshakeChannels (beaconId : String) : List TopicChannel :=
  [listenChannel beaconId, broadcastChannel beaconId]

theorem castTopic_injective (a b : String) (same : castTopic a = castTopic b) : a = b := by
  simpa [castTopic] using same

theorem castTopic_ne_empty (beaconId : String) : castTopic beaconId ≠ "" := by
  simp [castTopic]

/-! ### The topic queue -/

/-- `mpsc::channel::<TopicChannel>(64)` in `App::initialize`. -/
abbrev topicCapacity : Nat := 64

inductive TrySendError where
  | full
  | closed
  deriving DecidableEq, Repr

/-- The sending side: the buffer, and whether the message loop still holds the receiver. -/
structure TopicSender where
  queue : BoundedQueue TopicChannel topicCapacity
  receiverAlive : Bool
  deriving DecidableEq

def TopicSender.trySend (tx : TopicSender) (channel : TopicChannel) :
    Except TrySendError TopicSender :=
  if tx.receiverAlive then
    match tx.queue.push channel with
    | none => .error .full
    | some queue => .ok { tx with queue }
  else .error .closed

/-- A send whose failure is only logged. -/
def TopicSender.offer (tx : TopicSender) (channel : TopicChannel) : TopicSender :=
  match tx.trySend channel with
  | .error _ => tx
  | .ok tx' => tx'

/-! ### Handshake payloads -/

structure MdnsConfig where
  hostname : String
  port : UInt16
  deriving DecidableEq, Repr

structure DeviceInfo where
  address : String
  mdns : MdnsConfig
  csrPem : String
  deriving DecidableEq, Repr

/-- Broker connection details returned to a device. -/
structure MqttBrokerageInfo where
  address : String
  port : UInt16
  caCertPem : String
  deriving DecidableEq, Repr

def buildBrokerageInfo (config : MqttBrokerageConfig) (caCertPem : String) :
    MqttBrokerageInfo where
  address := "localhost"
  port := if config.tlsEnabled then config.mqttsPort else config.port
  caCertPem := caCertPem

end Hamlet
