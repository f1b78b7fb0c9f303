import Mathlib.Data.Finset.Union
import Hamlet.BeaconManagement.Registry

/-!
# What a completed sweep leaves

A sweep goes through the stale beacons in the order of a hash map. Each round removes one
record and whatever belongs to it. The rounds look at different records, so that the result is
the same for every order, but for the order of the unsubscribe commands.
-/

namespace Hamlet

namespace BeaconRegistry

/-- The broadcast topic of a registered beacon, if it has one. -/
def broadcastOf (reg : BeaconRegistry) (id : String) : Option String :=
  (reg.records.lookup id).bind fun r => if r.broadcastTopic = "" then none else some r.broadcastTopic

/-- The listen topic of a registered beacon, if it has one. -/
def listenOf (reg : BeaconRegistry) (id : String) : Option String :=
  (reg.records.lookup id).bind fun r => if r.listenTopic = "" then none else some r.listenTopic

def gatewayOf (reg : BeaconRegistry) (id : String) : Option String :=
  (reg.records.lookup id).bind (·.gatewayUrl)

/-- The shutdown sender that the record of a beacon holds. -/
def shutdownTxOf (reg : BeaconRegistry) (id : String) : Option Nat :=
  (reg.records.lookup id).bind (·.gatewayShutdownTx)

/-- The broadcast topics of the stale beacons. -/
def staleTopics (reg : BeaconRegistry) (now : Nat) : Finset String :=
  (reg.staleIds now).biUnion fun id => (reg.broadcastOf id).toFinset

/-- The gateways of the stale beacons. -/
def staleGateways (reg : BeaconRegistry) (now : Nat) : Finset String :=
  (reg.staleIds now).biUnion fun id => (reg.gatewayOf id).toFinset

/-- The unsubscribe commands for some beacons: one for each that has a listen topic. -/
def unsubscribes (reg : BeaconRegistry) (ids : List String) : List MqttCommand :=
  (ids.filterMap reg.listenOf).map .unsubscribe

/-- The effect of a sweep with reading `now`. -/
structure SweepEffect (before : BeaconRegistry) (now : Nat) (after : BeaconRegistry) : Prop where
  records : ∀ id, after.records.lookup id =
    if id ∈ before.staleIds now then none else before.records.lookup id
  broadcastTopics : after.broadcastTopics =
    before.broadcastTopics.filter (· ∉ before.staleTopics now)
  knownGateways : after.knownGateways = before.knownGateways \ before.staleGateways now
  unsubscribed : ∃ issued, after.mqttHandle = before.mqttHandle ++ issued ∧
    issued.Perm (before.unsubscribes (before.staleIds now).toList)
  senders : ∀ id, after.shutdownTxOf id =
    if id ∈ before.staleIds now then none else before.shutdownTxOf id

/-! ### One round -/

section

variable (reg : BeaconRegistry)

theorem deregister_broadcastTopics (id : String) :
    (reg.deregister id).broadcastTopics =
      reg.broadcastTopics.filter fun topic => reg.broadcastOf id ≠ some topic := by
  cases found : reg.records.lookup id with
  | none => simp [deregister, broadcastOf, found]
  | some record =>
    by_cases empty : record.broadcastTopic = ""
    · simp [deregister, broadcastOf, found, retractBroadcast_broadcastTopics, empty]
    · have flip : ∀ topic, topic = record.broadcastTopic ↔ record.broadcastTopic = topic :=
        fun topic => eq_comm
      simp [deregister, broadcastOf, found, retractBroadcast_broadcastTopics, empty, flip]

theorem deregister_mqttHandle (id : String) :
    (reg.deregister id).mqttHandle = reg.mqttHandle ++ reg.unsubscribes [id] := by
  cases found : reg.records.lookup id with
  | none => simp [deregister, unsubscribes, listenOf, found]
  | some record =>
    by_cases empty : record.listenTopic = ""
    · simp [deregister, unsubscribes, listenOf, found, unsubscribeListen, empty, removeRecord]
    · simp [deregister, unsubscribes, listenOf, found, unsubscribeListen, empty, removeRecord, issue]

theorem lookup_deregister_ne {id other : String} (differs : other ≠ id) :
    (reg.deregister id).records.lookup other = reg.records.lookup other := by
  rw [lookup_deregister, if_neg differs]

end

/-! ### All rounds -/

theorem foldl_deregister_broadcastTopics (order : List String) (fresh : order.Nodup)
    (reg : BeaconRegistry) :
    (order.foldl deregister reg).broadcastTopics =
      reg.broadcastTopics.filter fun topic => ∀ id ∈ order, reg.broadcastOf id ≠ some topic := by
  induction order generalizing reg with
  | nil => simp
  | cons head order ih =>
    obtain ⟨notLater, fresh⟩ := List.nodup_cons.mp fresh
    -- the rounds to come find their records as they were
    have later : ∀ id ∈ order, (reg.deregister head).broadcastOf id = reg.broadcastOf id := by
      intro id member
      have differs : id ≠ head := fun same => notLater (same ▸ member)
      simp only [broadcastOf, lookup_deregister_ne reg differs]
    rw [List.foldl_cons, ih fresh, deregister_broadcastTopics, List.filter_filter]
    apply List.filter_congr
    intro topic _
    rw [← Bool.decide_and, decide_eq_decide, List.forall_mem_cons, and_comm]
    apply and_congr_right
    intro _
    exact forall₂_congr fun id member => by rw [later id member]

theorem foldl_deregister_knownGateways (order : List String) (fresh : order.Nodup)
    (reg : BeaconRegistry) (url : String) :
    url ∈ (order.foldl deregister reg).knownGateways ↔
      url ∈ reg.knownGateways ∧ ∀ id ∈ order, reg.gatewayOf id ≠ some url := by
  induction order generalizing reg with
  | nil => simp
  | cons head order ih =>
    obtain ⟨notLater, fresh⟩ := List.nodup_cons.mp fresh
    have later : ∀ id ∈ order, (reg.deregister head).gatewayOf id = reg.gatewayOf id := by
      intro id member
      have differs : id ≠ head := fun same => notLater (same ▸ member)
      simp only [gatewayOf, lookup_deregister_ne reg differs]
    rw [List.foldl_cons, ih fresh, mem_knownGateways_deregister, List.forall_mem_cons, and_assoc]
    apply and_congr_right
    intro _
    apply and_congr_right
    intro _
    exact forall₂_congr fun id member => by rw [later id member]

theorem foldl_deregister_mqttHandle (order : List String) (fresh : order.Nodup)
    (reg : BeaconRegistry) :
    (order.foldl deregister reg).mqttHandle = reg.mqttHandle ++ reg.unsubscribes order := by
  induction order generalizing reg with
  | nil => simp [unsubscribes]
  | cons head order ih =>
    obtain ⟨notLater, fresh⟩ := List.nodup_cons.mp fresh
    have later : (reg.deregister head).unsubscribes order = reg.unsubscribes order := by
      simp only [unsubscribes]
      congr 1
      apply List.filterMap_congr
      intro id member
      have differs : id ≠ head := fun same => notLater (same ▸ member)
      simp only [listenOf, lookup_deregister_ne reg differs]
    have split : reg.unsubscribes (head :: order) = reg.unsubscribes [head] ++ reg.unsubscribes order := by
      simp only [unsubscribes, ← List.map_append, ← List.filterMap_append, List.singleton_append]
    rw [List.foldl_cons, ih fresh, deregister_mqttHandle, later, split, List.append_assoc]

theorem sweepEffect_checkTimeouts {reg reg' : BeaconRegistry} {now : Nat} {order : List String}
    (swept : reg.checkTimeouts now order = some reg') : SweepEffect reg now reg' := by
  simp only [checkTimeouts] at swept
  obtain ⟨⟨fresh, stale⟩, shape⟩ := Option.ite_none_right_eq_some.mp swept
  cases shape
  have mem_order : ∀ id, id ∈ order ↔ id ∈ reg.staleIds now := by
    intro id
    rw [← stale, List.mem_toFinset]
  have records : ∀ id, (order.foldl deregister reg).records.lookup id =
      if id ∈ reg.staleIds now then none else reg.records.lookup id := by
    intro id
    simp only [lookup_foldl_deregister, mem_order]
  refine ⟨records, ?_, ?_, ⟨reg.unsubscribes order, ?_, ?_⟩, ?_⟩
  · rw [foldl_deregister_broadcastTopics order fresh]
    apply List.filter_congr
    intro topic _
    simp [staleTopics, mem_order]
  · ext url
    rw [foldl_deregister_knownGateways order fresh]
    simp [staleGateways, mem_order]
  · exact foldl_deregister_mqttHandle order fresh reg
  · -- the commands go out in the order of the rounds
    have same : order.Perm (reg.staleIds now).toList := by
      rw [List.perm_ext_iff_of_nodup fresh (Finset.nodup_toList _)]
      simp [mem_order]
    exact (same.filterMap _).map _
  · intro id
    simp only [shutdownTxOf, records]
    split <;> rfl

end BeaconRegistry

open BeaconRegistry

/-- A sweep that runs to its end has one effect, whatever the order of the hash map: the stale
records are gone with their broadcast topics, their gateways and their senders, and one
unsubscribe command went out for each of their listen topics. -/
theorem completed_sweep_effect (reg reg' : BeaconRegistry) (now : Nat) (order : List String)
    (swept : reg.checkTimeouts now order = some reg') : SweepEffect reg now reg' :=
  sweepEffect_checkTimeouts swept

/-- Three handshakes, the last of them 60 seconds after the others. -/
def threeBeacons : BeaconRegistry :=
  let late := 60 * 1000000000
  [(listenChannel "a", 0), (broadcastChannel "a", 0), (broadcastChannel "b", 0),
    (broadcastChannel "c", late)].foldl
    (fun reg registered => reg.registerChannel registered.1 registered.2 (.ok ())) (.new none)

/-- After 121 seconds two of them are stale. -/
theorem two_of_three_swept :
    ∃ reg', threeBeacons.checkTimeouts (121 * 1000000000) ["b", "a"] = some reg' ∧
      reg'.broadcastTopics = ["c/cast"] ∧ SweepEffect threeBeacons (121 * 1000000000) reg' := by
  have runs : (threeBeacons.checkTimeouts (121 * 1000000000) ["b", "a"]).map (·.broadcastTopics) =
      some ["c/cast"] := by
    decide +kernel
  obtain ⟨reg', swept, topics⟩ := Option.map_eq_some_iff.mp runs
  exact ⟨reg', swept, topics, completed_sweep_effect threeBeacons reg' _ _ swept⟩

end Hamlet
