import Mathlib.Data.List.Basic

/-!
# Types of the local MQTT client

Messages, commands and the capacities of the queues between the tasks.
-/

namespace Hamlet

inductive QoS where
  | atMostOnce
  | atLeastOnce
  | exactlyOnce
  deriving DecidableEq, Repr

structure MqttMessage where
  topic : String
  payload : List UInt8
  deriving DecidableEq, Repr

/-- `MqttCommand` without its reply end. The request that the client puts on the queue of
`rumqttc` for a command has the same content. -/
inductive MqttCommand where
  | subscribe (topic : String) (qos : QoS)
  | unsubscribe (topic : String)
  | publish (topic : String) (qos : QoS) (payload : List UInt8)
  deriving DecidableEq, Repr

abbrev cmdCapacity : Nat := 64
abbrev msgCapacity : Nat := 64

/-- The second argument of `AsyncClient::new`. -/
abbrev requestCapacity : Nat := 10

end Hamlet
