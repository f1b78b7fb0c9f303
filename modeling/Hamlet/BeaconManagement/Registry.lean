import Mathlib.Data.Finmap
import Hamlet.BeaconManagement.Types
import Hamlet.MqttClient.Types

/-!
# The beacon registry

`BeaconRegistry` with its operations. Instants are nanoseconds of a monotonic clock. A
shutdown sender is the number of the connection it belongs to; it is alive as long as
some record holds it, since the source moves it into the record and nowhere else.

`check_timeouts` runs inside `select!`. A sweep is therefore given in two forms: one that
runs to its end, and one whose future is dropped at an await point.
-/

namespace Hamlet

/-- `BEACON_TIMEOUT`, 120 seconds. -/
abbrev beaconTimeout : Nat := 120 * 1000000000

structure BeaconRecord where
  listenTopic : String
  broadcastTopic : String
  lastSeen : Nat
  gatewayUrl : Option String
  gatewayShutdownTx : Option Nat
  deriving DecidableEq, Repr

/-- The record made for an unknown beacon. -/
def BeaconRecord.fresh (now : Nat) : BeaconRecord where
  listenTopic := ""
  broadcastTopic := ""
  lastSeen := now
  gatewayUrl := none
  gatewayShutdownTx := none

/-- `duration_since` saturates, as subtraction of naturals does. -/
def BeaconRecord.isStale (now : Nat) (r : BeaconRecord) : Bool :=
  beaconTimeout < now - r.lastSeen

abbrev BeaconRecords : Type := Finmap fun _ : String => BeaconRecord

structure BeaconRegistry where
  records : BeaconRecords
  knownGateways : Finset String
  broadcastTopics : List String
  /-- Commands issued through the handle, oldest first. -/
  mqttHandle : List MqttCommand
  deriving DecidableEq

/-- `qos_from_u8`. -/
def qosFromU8 : UInt8 → QoS
  | 0 => .atMostOnce
  | 2 => .exactlyOnce
  | _ => .atLeastOnce

namespace BeaconRegistry

def new (ownGatewayUrl : Option String) : BeaconRegistry where
  records := ∅
  knownGateways := ownGatewayUrl.toFinset
  broadcastTopics := []
  mqttHandle := []

/-- `entry(..).or_insert_with(..)`. -/
def ensureRecord (reg : BeaconRegistry) (beaconId : String) (now : Nat) : BeaconRegistry :=
  match reg.records.lookup beaconId with
  | some _ => reg
  | none => { reg with records := reg.records.insert beaconId (.fresh now) }

/-- `get_mut`: no effect on an unknown beacon. -/
def modifyRecord (reg : BeaconRegistry) (beaconId : String) (f : BeaconRecord → BeaconRecord) :
    BeaconRegistry :=
  match reg.records.lookup beaconId with
  | some record => { reg with records := reg.records.insert beaconId (f record) }
  | none => reg

def issue (reg : BeaconRegistry) (command : MqttCommand) : BeaconRegistry :=
  { reg with mqttHandle := reg.mqttHandle ++ [command] }

def pushBroadcast (reg : BeaconRegistry) (topic : String) : BeaconRegistry :=
  { reg with broadcastTopics := reg.broadcastTopics ++ [topic] }

/-- `register_channel`. The reply to the subscribe command is `subscribed`. -/
def registerChannel (reg : BeaconRegistry) (channel : TopicChannel) (now : Nat)
    (subscribed : Except String Unit) : BeaconRegistry :=
  let topic := channel.topic.topic
  let beaconId := channel.beaconId
  -- an existing record keeps its `last_seen`
  let reg := reg.ensureRecord beaconId now
  match channel.topicType with
  | .listen =>
    let reg := reg.issue (.subscribe topic (qosFromU8 channel.topic.qos))
    match subscribed with
    | .error _ => reg
    | .ok () => reg.modifyRecord beaconId fun r => { r with listenTopic := topic }
  | .broadcast =>
    -- pushed without looking for the topic in the list
    (reg.pushBroadcast topic).modifyRecord beaconId fun r => { r with broadcastTopic := topic }
  | .hybrid =>
    let reg := reg.issue (.subscribe topic (qosFromU8 channel.topic.qos))
    match subscribed with
    | .error _ => reg
    | .ok () => (reg.pushBroadcast topic).modifyRecord beaconId fun r =>
        { r with listenTopic := topic, broadcastTopic := topic }

def updateLastSeen (reg : BeaconRegistry) (beaconId : String) (now : Nat) : BeaconRegistry :=
  reg.modifyRecord beaconId fun r => { r with lastSeen := now }

def isGatewayKnown (reg : BeaconRegistry) (gwUrl : String) : Bool := gwUrl ∈ reg.knownGateways

def insertGateway (reg : BeaconRegistry) (gwUrl : String) : BeaconRegistry :=
  { reg with knownGateways := insert gwUrl reg.knownGateways }

/-- The sender an overwritten association held is dropped. -/
def associateGateway (reg : BeaconRegistry) (beaconId gwUrl : String) (shutdownTx : Nat) :
    BeaconRegistry :=
  reg.modifyRecord beaconId fun r =>
    { r with gatewayUrl := some gwUrl, gatewayShutdownTx := some shutdownTx }

/-! ### Sweeps -/

def staleIds (reg : BeaconRegistry) (now : Nat) : Finset String :=
  reg.records.keys.filter fun id => (reg.records.lookup id).any (BeaconRecord.isStale now)

/-- `order` lists the stale beacons as the iteration over the hash map meets them. -/
def IsScan (reg : BeaconRegistry) (now : Nat) (order : List String) : Prop :=
  order.Nodup ∧ order.toFinset = reg.staleIds now

instance (reg : BeaconRegistry) (now : Nat) (order : List String) :
    Decidable (reg.IsScan now order) :=
  inferInstanceAs (Decidable (_ ∧ _))

def removeRecord (reg : BeaconRegistry) (beaconId : String) : BeaconRegistry :=
  { reg with records := reg.records.erase beaconId }

def unsubscribeListen (reg : BeaconRegistry) (record : BeaconRecord) : BeaconRegistry :=
  if record.listenTopic = "" then reg else reg.issue (.unsubscribe record.listenTopic)

def retractBroadcast (reg : BeaconRegistry) (record : BeaconRecord) : BeaconRegistry :=
  if record.broadcastTopic = "" then reg
  else { reg with broadcastTopics := reg.broadcastTopics.filter (· ≠ record.broadcastTopic) }

def evictGateway (reg : BeaconRegistry) (record : BeaconRecord) : BeaconRegistry :=
  match record.gatewayUrl with
  | none => reg
  | some gwUrl => { reg with knownGateways := reg.knownGateways.erase gwUrl }

/-- One round of the loop over the stale beacons. A failed unsubscribe is only logged. -/
def deregister (reg : BeaconRegistry) (beaconId : String) : BeaconRegistry :=
  match reg.records.lookup beaconId with
  | none => reg
  | some record =>
    (((reg.removeRecord beaconId).unsubscribeListen record).retractBroadcast record).evictGateway
      record

/-- A sweep that runs to its end; `none` when `order` is not an order of the stale beacons. -/
def checkTimeouts (reg : BeaconRegistry) (now : Nat) (order : List String) :
    Option BeaconRegistry :=
  if reg.IsScan now order then some (order.foldl deregister reg) else none

/-- The await points in the loop body. The future of the unsubscribe call may be dropped
before or after the command is in the queue. -/
inductive AwaitPoint where
  | unsubscribe (sent : Bool)
  | write
  deriving DecidableEq, Repr

/-- The round of `beaconId` up to an await point, where the future is dropped and the
record with it; `none` when the round does not reach that point. -/
def abandon (reg : BeaconRegistry) (beaconId : String) (point : AwaitPoint) :
    Option BeaconRegistry :=
  match reg.records.lookup beaconId with
  | none => none
  | some record =>
    match point with
    | .unsubscribe sent =>
      -- this await is reached only with a topic to unsubscribe from
      if record.listenTopic = "" then none
      else if sent then some ((reg.removeRecord beaconId).unsubscribeListen record)
      else some (reg.removeRecord beaconId)
    | .write =>
      if record.broadcastTopic = "" then none
      else some ((reg.removeRecord beaconId).unsubscribeListen record)

/-- Where a sweep stands when `select!` drops it for another branch. -/
inductive Cut where
  | tick
  | during (now : Nat) (done : List String) (current : String) (rest : List String)
      (point : AwaitPoint)
  deriving DecidableEq, Repr

/-- What a dropped sweep leaves. -/
def dropSweep (reg : BeaconRegistry) : Cut → Option BeaconRegistry
  | .tick => some reg
  | .during now done current rest point =>
    if reg.IsScan now (done ++ current :: rest) then
      -- `rest` is not looked at before the next tick
      (done.foldl deregister reg).abandon current point
    else none

/-! ### Reading a record back -/

theorem lookup_erase_eq (records : BeaconRecords) (a b : String) :
    (records.erase a).lookup b = if b = a then none else records.lookup b := by
  split
  next same => rw [same, Finmap.lookup_erase]
  next other => exact Finmap.lookup_erase_ne other

theorem lookup_insert_eq (records : BeaconRecords) (a b : String) (r : BeaconRecord) :
    (records.insert a r).lookup b = if b = a then some r else records.lookup b := by
  split
  next same => rw [same, Finmap.lookup_insert]
  next other => exact Finmap.lookup_insert_of_ne _ other

@[simp] theorem lookup_modifyRecord (reg : BeaconRegistry) (a b : String)
    (f : BeaconRecord → BeaconRecord) :
    (reg.modifyRecord a f).records.lookup b =
      if b = a then (reg.records.lookup b).map f else reg.records.lookup b := by
  unfold modifyRecord
  split
  next record found =>
    rw [lookup_insert_eq]
    split
    next same => rw [same, found, Option.map_some]
    next => rfl
  next absent =>
    split
    next same => rw [same, absent, Option.map_none]
    next => rfl

@[simp] theorem modifyRecord_broadcastTopics (reg : BeaconRegistry) (id : String)
    (f : BeaconRecord → BeaconRecord) :
    (reg.modifyRecord id f).broadcastTopics = reg.broadcastTopics := by
  unfold modifyRecord
  split <;> rfl

@[simp] theorem modifyRecord_knownGateways (reg : BeaconRegistry) (id : String)
    (f : BeaconRecord → BeaconRecord) :
    (reg.modifyRecord id f).knownGateways = reg.knownGateways := by
  unfold modifyRecord
  split <;> rfl

@[simp] theorem lookup_ensureRecord (reg : BeaconRegistry) (a b : String) (now : Nat) :
    (reg.ensureRecord a now).records.lookup b =
      if b = a then some ((reg.records.lookup a).getD (.fresh now))
      else reg.records.lookup b := by
  unfold ensureRecord
  split
  next record found =>
    split
    next same => rw [same, found, Option.getD_some]
    next => rfl
  next absent =>
    rw [lookup_insert_eq, absent, Option.getD_none]

@[simp] theorem ensureRecord_broadcastTopics (reg : BeaconRegistry) (id : String) (now : Nat) :
    (reg.ensureRecord id now).broadcastTopics = reg.broadcastTopics := by
  unfold ensureRecord
  split <;> rfl

@[simp] theorem ensureRecord_knownGateways (reg : BeaconRegistry) (id : String) (now : Nat) :
    (reg.ensureRecord id now).knownGateways = reg.knownGateways := by
  unfold ensureRecord
  split <;> rfl

/-! Each part of a round touches one field. -/

@[simp] theorem removeRecord_records (reg : BeaconRegistry) (id : String) :
    (reg.removeRecord id).records = reg.records.erase id := rfl

@[simp] theorem removeRecord_broadcastTopics (reg : BeaconRegistry) (id : String) :
    (reg.removeRecord id).broadcastTopics = reg.broadcastTopics := rfl

@[simp] theorem removeRecord_knownGateways (reg : BeaconRegistry) (id : String) :
    (reg.removeRecord id).knownGateways = reg.knownGateways := rfl

@[simp] theorem unsubscribeListen_records (reg : BeaconRegistry) (record : BeaconRecord) :
    (reg.unsubscribeListen record).records = reg.records := by
  rw [unsubscribeListen]
  split <;> rfl

@[simp] theorem unsubscribeListen_broadcastTopics (reg : BeaconRegistry) (record : BeaconRecord) :
    (reg.unsubscribeListen record).broadcastTopics = reg.broadcastTopics := by
  rw [unsubscribeListen]
  split <;> rfl

@[simp] theorem unsubscribeListen_knownGateways (reg : BeaconRegistry) (record : BeaconRecord) :
    (reg.unsubscribeListen record).knownGateways = reg.knownGateways := by
  rw [unsubscribeListen]
  split <;> rfl

@[simp] theorem retractBroadcast_records (reg : BeaconRegistry) (record : BeaconRecord) :
    (reg.retractBroadcast record).records = reg.records := by
  rw [retractBroadcast]
  split <;> rfl

@[simp] theorem retractBroadcast_knownGateways (reg : BeaconRegistry) (record : BeaconRecord) :
    (reg.retractBroadcast record).knownGateways = reg.knownGateways := by
  rw [retractBroadcast]
  split <;> rfl

theorem retractBroadcast_broadcastTopics (reg : BeaconRegistry) (record : BeaconRecord) :
    (reg.retractBroadcast record).broadcastTopics =
      if record.broadcastTopic = "" then reg.broadcastTopics
      else reg.broadcastTopics.filter (· ≠ record.broadcastTopic) := by
  rw [retractBroadcast]
  split <;> rfl

@[simp] theorem evictGateway_records (reg : BeaconRegistry) (record : BeaconRecord) :
    (reg.evictGateway record).records = reg.records := by
  rw [evictGateway]
  split <;> rfl

@[simp] theorem evictGateway_broadcastTopics (reg : BeaconRegistry) (record : BeaconRecord) :
    (reg.evictGateway record).broadcastTopics = reg.broadcastTopics := by
  rw [evictGateway]
  split <;> rfl

@[simp] theorem retractBroadcast_mqttHandle (reg : BeaconRegistry) (record : BeaconRecord) :
    (reg.retractBroadcast record).mqttHandle = reg.mqttHandle := by
  rw [retractBroadcast]
  split <;> rfl

@[simp] theorem evictGateway_mqttHandle (reg : BeaconRegistry) (record : BeaconRecord) :
    (reg.evictGateway record).mqttHandle = reg.mqttHandle := by
  rw [evictGateway]
  split <;> rfl

theorem deregister_records (reg : BeaconRegistry) (id : String) :
    (reg.deregister id).records = reg.records.erase id := by
  rw [deregister]
  split
  next absent =>
    -- `remove` of an unknown key changes nothing
    refine Finmap.ext_lookup fun other => ?_
    rw [lookup_erase_eq]
    split
    next same => rw [same, absent]
    next => rfl
  next record found => simp

theorem lookup_deregister (reg : BeaconRegistry) (a b : String) :
    (reg.deregister a).records.lookup b = if b = a then none else reg.records.lookup b := by
  rw [deregister_records, lookup_erase_eq]

theorem mem_knownGateways_deregister (reg : BeaconRegistry) (id url : String) :
    url ∈ (reg.deregister id).knownGateways ↔
      url ∈ reg.knownGateways ∧ (reg.records.lookup id).bind (·.gatewayUrl) ≠ some url := by
  rw [deregister]
  split
  next absent => simp [absent]
  next record found =>
    rw [found, Option.bind_some, evictGateway]
    cases record.gatewayUrl with
    | none => simp
    | some gwUrl => simp [and_comm, eq_comm]

/-- A round leaves every other beacon's record in place, so a list of rounds does. -/
theorem lookup_foldl_deregister (order : List String) (id : String) (reg : BeaconRegistry) :
    (order.foldl deregister reg).records.lookup id =
      if id ∈ order then none else reg.records.lookup id := by
  induction order generalizing reg with
  | nil => simp
  | cons head order ih =>
    rw [List.foldl_cons, ih, lookup_deregister]
    by_cases same : id = head
    · simp [same]
    · simp [same]

end BeaconRegistry

end Hamlet
