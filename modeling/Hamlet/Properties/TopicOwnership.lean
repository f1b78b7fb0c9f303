import Mathlib.Data.List.Nodup
import Hamlet.BeaconManagement.MessageLoop

/-!
# Who owns a broadcast topic

Every broadcast topic belongs to exactly one live record, and every live record's topic is
listed once, as long as no sweep is dropped in the round of a beacon that has a broadcast
topic. The source takes the record out of the map first, so a sweep dropped there loses
the only value that knows the topic.
-/

namespace Hamlet

open BeaconRegistry (Cut)

def TopicOwnership (loop : MessageLoop) : Prop :=
  (∀ topic ∈ loop.registry.broadcastTopics,
    ∃! id, ∃ r, loop.registry.records.lookup id = some r ∧ r.broadcastTopic = topic) ∧
  ∀ id r, loop.registry.records.lookup id = some r → r.broadcastTopic ≠ "" →
    loop.registry.broadcastTopics.count r.broadcastTopic = 1

/-- The record at which the sweep stood has no broadcast topic yet. -/
def SparesTopics (reg : BeaconRegistry) : Cut → Prop
  | .tick => True
  | .during _ _ current _ _ => (reg.records.lookup current).all (·.broadcastTopic = "")

instance (reg : BeaconRegistry) : DecidablePred (SparesTopics reg)
  | .tick => inferInstanceAs (Decidable True)
  | .during _ _ current _ _ =>
    inferInstanceAs (Decidable ((reg.records.lookup current).all (·.broadcastTopic = "")))

/-- A sweep dropped in this iteration spares the broadcast topics. -/
def DropsSpareTopics (loop : MessageLoop) : LoopEvent → Prop
  | .channel cut _ _ _ | .message cut _ _ => SparesTopics loop.registry cut
  | .timeouts _ _ => True

instance (loop : MessageLoop) : DecidablePred (DropsSpareTopics loop)
  | .channel cut _ _ _ | .message cut _ _ =>
    inferInstanceAs (Decidable (SparesTopics loop.registry cut))
  | .timeouts _ _ => inferInstanceAs (Decidable True)

/-! ### The invariant

`pending` are the channels still to come. -/

structure TopicInvariant (reg : BeaconRegistry) (pending : List TopicChannel) : Prop where
  nodup : reg.broadcastTopics.Nodup
  owned : ∀ topic ∈ reg.broadcastTopics,
    ∃ id r, reg.records.lookup id = some r ∧ r.broadcastTopic = topic ∧ topic = castTopic id
  listed : ∀ id r, reg.records.lookup id = some r →
    r.broadcastTopic = "" ∨ (r.broadcastTopic = castTopic id ∧ castTopic id ∈ reg.broadcastTopics)
  pendingNodup : pending.Nodup
  pendingNew : ∀ channel ∈ pending, ∃ id, channel = listenChannel id ∨
    (channel = broadcastChannel id ∧ castTopic id ∉ reg.broadcastTopics)

namespace TopicInvariant

variable {reg : BeaconRegistry} {pending : List TopicChannel}

theorem topicOwnership (inv : TopicInvariant reg pending) (connections : List Connection) :
    TopicOwnership ⟨reg, connections⟩ := by
  constructor
  · intro topic member
    obtain ⟨id, r, found, rfl, named⟩ := inv.owned topic member
    refine ⟨id, ⟨r, found, rfl⟩, ?_⟩
    rintro other ⟨r', found', same⟩
    -- a second owner would be named by the same topic
    rcases inv.listed other r' found' with empty | ⟨named', _⟩
    · exact absurd (named.symm.trans (same.symm.trans empty)) (castTopic_ne_empty id)
    · exact castTopic_injective _ _ (named'.symm.trans (same.trans named))
  · intro id r found nonempty
    rcases inv.listed id r found with empty | ⟨named, member⟩
    · exact absurd empty nonempty
    · exact List.count_eq_one_of_mem inv.nodup (named ▸ member)

/-- Changes that keep every record's broadcast topic and the list keep the invariant. -/
theorem of_same_topics (inv : TopicInvariant reg pending) (reg' : BeaconRegistry)
    (sameList : reg'.broadcastTopics = reg.broadcastTopics)
    (sameTopics : ∀ id, (reg'.records.lookup id).map (·.broadcastTopic) =
      (reg.records.lookup id).map (·.broadcastTopic)) :
    TopicInvariant reg' pending where
  nodup := sameList ▸ inv.nodup
  owned := by
    intro topic member
    obtain ⟨id, r, found, rfl, named⟩ := inv.owned topic (sameList ▸ member)
    have mapped := sameTopics id
    rw [found, Option.map_some, Option.map_eq_some_iff] at mapped
    obtain ⟨r', found', same⟩ := mapped
    exact ⟨id, r', found', same, named⟩
  listed := by
    intro id r found
    have mapped := sameTopics id
    rw [found, Option.map_some, eq_comm, Option.map_eq_some_iff] at mapped
    obtain ⟨r', found', same⟩ := mapped
    rw [sameList, ← same]
    exact inv.listed id r' found'
  pendingNodup := inv.pendingNodup
  pendingNew := sameList ▸ inv.pendingNew

theorem modifyRecord (inv : TopicInvariant reg pending) (id : String)
    (f : BeaconRecord → BeaconRecord) (keeps : ∀ r, (f r).broadcastTopic = r.broadcastTopic) :
    TopicInvariant (reg.modifyRecord id f) pending := by
  refine inv.of_same_topics _ (by simp) ?_
  intro other
  rw [BeaconRegistry.lookup_modifyRecord]
  split
  · rw [Option.map_map]
    exact congrArg (fun g => Option.map g (reg.records.lookup other)) (funext keeps)
  · rfl

theorem ensureRecord (inv : TopicInvariant reg pending) (id : String) (now : Nat) :
    TopicInvariant (reg.ensureRecord id now) pending where
  nodup := by simpa using inv.nodup
  owned := by
    intro topic member
    obtain ⟨owner, r, found, same, named⟩ := inv.owned topic (by simpa using member)
    refine ⟨owner, r, ?_, same, named⟩
    rw [BeaconRegistry.lookup_ensureRecord]
    split
    next same => rw [← same, found, Option.getD_some]
    next => exact found
  listed := by
    intro owner r found
    rw [BeaconRegistry.lookup_ensureRecord] at found
    rw [BeaconRegistry.ensureRecord_broadcastTopics]
    split at found
    next same =>
      cases present : reg.records.lookup id with
      | none =>
        rw [present, Option.getD_none, Option.some.injEq] at found
        exact .inl (found ▸ rfl)
      | some r' =>
        rw [present, Option.getD_some, Option.some.injEq] at found
        exact same ▸ inv.listed id r (found ▸ present)
    next => exact inv.listed owner r found
  pendingNodup := inv.pendingNodup
  pendingNew := by simpa using inv.pendingNew

/-- Removing a record together with its topic, or a record that has none. -/
theorem removeRecord (inv : TopicInvariant reg pending) (id : String) (record : BeaconRecord)
    (found : reg.records.lookup id = some record) :
    TopicInvariant ((reg.removeRecord id).retractBroadcast record) pending := by
  have topics : ∀ topic, topic ∈ ((reg.removeRecord id).retractBroadcast record).broadcastTopics ↔
      topic ∈ reg.broadcastTopics ∧ topic ≠ record.broadcastTopic := by
    intro topic
    rw [BeaconRegistry.retractBroadcast_broadcastTopics, BeaconRegistry.removeRecord_broadcastTopics]
    split
    next empty =>
      -- nothing is retracted, and no listed topic is empty
      refine ⟨fun member => ⟨member, ?_⟩, And.left⟩
      obtain ⟨_, _, _, _, named⟩ := inv.owned topic member
      rw [empty, named]
      exact castTopic_ne_empty _
    next => simp
  have records : ((reg.removeRecord id).retractBroadcast record).records = reg.records.erase id := by
    simp
  refine ⟨?_, ?_, ?_, inv.pendingNodup, ?_⟩
  · rw [BeaconRegistry.retractBroadcast_broadcastTopics]
    split
    · exact inv.nodup
    · exact inv.nodup.filter _
  · intro topic member
    obtain ⟨member, other⟩ := (topics topic).mp member
    obtain ⟨owner, r, found', same, named⟩ := inv.owned topic member
    refine ⟨owner, r, ?_, same, named⟩
    rw [records, BeaconRegistry.lookup_erase_eq, if_neg, found']
    -- a topic that is still listed was not the removed record's
    rintro rfl
    cases found.symm.trans found'
    exact other same.symm
  · intro owner r found'
    rw [records, BeaconRegistry.lookup_erase_eq] at found'
    split at found'
    next => cases found'
    next differs =>
      rcases inv.listed owner r found' with empty | ⟨named, member⟩
      · exact .inl empty
      · refine .inr ⟨named, (topics _).mpr ⟨member, ?_⟩⟩
        -- two records never share a topic: both are named after their beacon
        rcases inv.listed id record found with empty | ⟨named', _⟩
        · rw [empty]
          exact castTopic_ne_empty owner
        · rw [named']
          exact fun same => differs (castTopic_injective _ _ same)
  · intro channel member
    obtain ⟨id', shape | ⟨shape, unlisted⟩⟩ := inv.pendingNew channel member
    · exact ⟨id', .inl shape⟩
    · exact ⟨id', .inr ⟨shape, fun listed => unlisted ((topics _).mp listed).1⟩⟩

theorem deregister (inv : TopicInvariant reg pending) (id : String) :
    TopicInvariant (reg.deregister id) pending := by
  rw [BeaconRegistry.deregister]
  split
  next => exact inv
  next record found =>
    -- the unsubscribe command and the eviction leave records and topics alone
    refine (inv.removeRecord id record found).of_same_topics _ ?_ ?_
    · simp [BeaconRegistry.retractBroadcast_broadcastTopics]
    · simp

theorem foldl_deregister (inv : TopicInvariant reg pending) (order : List String) :
    TopicInvariant (order.foldl BeaconRegistry.deregister reg) pending := by
  induction order generalizing reg with
  | nil => exact inv
  | cons id order ih => exact ih (inv.deregister id)

/-- A listen channel touches no broadcast topic. -/
theorem register_listen (inv : TopicInvariant reg pending) (id : String) (now : Nat)
    (subscribed : Except String Unit) :
    TopicInvariant (reg.registerChannel (listenChannel id) now subscribed) pending := by
  have issued : TopicInvariant ((reg.ensureRecord id now).issue
      (.subscribe (receiveTopic id) (qosFromU8 1))) pending :=
    (inv.ensureRecord id now).of_same_topics _ rfl fun _ => rfl
  cases subscribed with
  | error e => exact issued
  | ok u => exact issued.modifyRecord id _ fun _ => rfl

/-- A broadcast channel brings a topic that was not listed before. -/
theorem register_broadcast (id : String) (inv : TopicInvariant reg (broadcastChannel id :: pending))
    (now : Nat) (subscribed : Except String Unit) :
    TopicInvariant (reg.registerChannel (broadcastChannel id) now subscribed) pending := by
  obtain ⟨notPending, pendingNodup⟩ := List.nodup_cons.mp inv.pendingNodup
  have unlisted : castTopic id ∉ reg.broadcastTopics := by
    obtain ⟨id', shape | ⟨shape, unlisted⟩⟩ := inv.pendingNew _ (List.mem_cons_self ..)
    · cases congrArg TopicChannel.topicType shape
    · exact (show id = id' from congrArg TopicChannel.beaconId shape) ▸ unlisted
  have topics : (reg.registerChannel (broadcastChannel id) now subscribed).broadcastTopics =
      reg.broadcastTopics ++ [castTopic id] := by
    simp [BeaconRegistry.registerChannel, broadcastChannel, BeaconRegistry.pushBroadcast]
  have records : ∀ other,
      (reg.registerChannel (broadcastChannel id) now subscribed).records.lookup other =
        if other = id then
          some { (reg.records.lookup id).getD (.fresh now) with broadcastTopic := castTopic id }
        else reg.records.lookup other := by
    intro other
    simp only [BeaconRegistry.registerChannel, broadcastChannel, BeaconRegistry.pushBroadcast,
      BeaconRegistry.lookup_modifyRecord, BeaconRegistry.lookup_ensureRecord]
    split <;> rfl
  refine ⟨?_, ?_, ?_, pendingNodup, ?_⟩
  · rw [topics]
    exact inv.nodup.append (List.nodup_singleton _) (by simpa using unlisted)
  · intro topic member
    rw [topics, List.mem_append, List.mem_singleton] at member
    rcases member with member | rfl
    · obtain ⟨owner, r, found, same, named⟩ := inv.owned topic member
      refine ⟨owner, r, ?_, same, named⟩
      rw [records, if_neg, found]
      -- an owner that is this beacon would have listed the topic already
      rintro rfl
      exact unlisted (named ▸ member)
    · exact ⟨id, _, by rw [records, if_pos rfl], rfl, rfl⟩
  · intro owner r found
    rw [records] at found
    rw [topics, List.mem_append, List.mem_singleton]
    split at found
    next same =>
      cases found
      exact .inr ⟨same ▸ rfl, .inr (same ▸ rfl)⟩
    next =>
      rcases inv.listed owner r found with empty | ⟨named, member⟩
      · exact .inl empty
      · exact .inr ⟨named, .inl member⟩
  · intro channel member
    obtain ⟨id', shape | ⟨shape, absent⟩⟩ := inv.pendingNew channel (List.mem_cons_of_mem _ member)
    · exact ⟨id', .inl shape⟩
    · refine ⟨id', .inr ⟨shape, ?_⟩⟩
      rw [topics, List.mem_append, List.mem_singleton]
      rintro (listed | same)
      · exact absent listed
      · -- the same broadcast channel would still be pending
        rw [shape, castTopic_injective _ _ same] at member
        exact notPending member

theorem register (channel : TopicChannel) (inv : TopicInvariant reg (channel :: pending))
    (now : Nat) (subscribed : Except String Unit) :
    TopicInvariant (reg.registerChannel channel now subscribed) pending := by
  obtain ⟨id, rfl | ⟨rfl, _⟩⟩ := inv.pendingNew channel (List.mem_cons_self ..)
  · have rest : TopicInvariant reg pending :=
      { inv with
        pendingNodup := (List.nodup_cons.mp inv.pendingNodup).2
        pendingNew := fun c member => inv.pendingNew c (List.mem_cons_of_mem _ member) }
    exact rest.register_listen id now subscribed
  · exact inv.register_broadcast id now subscribed

/-- A round dropped before the topic is retracted is harmless when there is no topic. -/
theorem abandon (inv : TopicInvariant reg pending) (id : String) (record : BeaconRecord)
    (found : reg.records.lookup id = some record) (noTopic : record.broadcastTopic = "")
    (point : BeaconRegistry.AwaitPoint) (reg' : BeaconRegistry)
    (dropped : reg.abandon id point = some reg') : TopicInvariant reg' pending := by
  have removed : TopicInvariant (reg.removeRecord id) pending := by
    have retracted := inv.removeRecord id record found
    rwa [BeaconRegistry.retractBroadcast, if_pos noTopic] at retracted
  have unsubscribed : TopicInvariant ((reg.removeRecord id).unsubscribeListen record) pending := by
    unfold BeaconRegistry.unsubscribeListen
    split
    · exact removed
    · exact removed.of_same_topics _ rfl fun _ => rfl
  simp only [BeaconRegistry.abandon, found, noTopic] at dropped
  cases point with
  | unsubscribe sent =>
    cases sent
    all_goals
      dsimp only at dropped
      split at dropped
      · cases dropped
      · cases dropped
        assumption
  | write =>
    -- without a topic the round does not reach the lock
    cases dropped

theorem dropSweep (inv : TopicInvariant reg pending) (cut : Cut) (spares : SparesTopics reg cut)
    (reg' : BeaconRegistry) (dropped : reg.dropSweep cut = some reg') :
    TopicInvariant reg' pending := by
  cases cut with
  | tick =>
    cases dropped
    exact inv
  | during now done current rest point =>
    simp only [BeaconRegistry.dropSweep, Option.ite_none_right_eq_some] at dropped
    obtain ⟨scan, dropped⟩ := dropped
    -- the rounds done before leave the record that is dropped in place
    have notDone : current ∉ done := by
      have distinct := List.nodup_append.mp scan.1
      exact fun member => distinct.2.2 current member current (List.mem_cons_self ..) rfl
    have kept := BeaconRegistry.lookup_foldl_deregister done current reg
    rw [if_neg notDone] at kept
    cases found : reg.records.lookup current with
    | none =>
      rw [found] at kept
      simp [BeaconRegistry.abandon, kept] at dropped
    | some record =>
      have noTopic : record.broadcastTopic = "" := by
        simpa [SparesTopics, found] using spares
      exact (inv.foldl_deregister done).abandon current record (kept.trans found) noTopic point
        reg' dropped

theorem checkTimeouts (inv : TopicInvariant reg pending) (now : Nat) (order : List String)
    (reg' : BeaconRegistry) (swept : reg.checkTimeouts now order = some reg') :
    TopicInvariant reg' pending := by
  simp only [BeaconRegistry.checkTimeouts, Option.ite_none_right_eq_some,
    Option.some.injEq] at swept
  obtain ⟨_, rfl⟩ := swept
  exact inv.foldl_deregister order

theorem handleMessage (fromSlice : List UInt8 → Option Json) (serverUrl : String)
    (loop : MessageLoop) (inv : TopicInvariant loop.registry pending) (msg : MqttMessage)
    (now : Nat) :
    TopicInvariant (loop.handleMessage fromSlice serverUrl msg now).registry pending := by
  have refreshed : TopicInvariant (MessageLoop.refreshSender loop.registry msg now) pending := by
    unfold MessageLoop.refreshSender
    split
    · exact inv.modifyRecord _ _ fun _ => rfl
    · exact inv
  unfold MessageLoop.handleMessage
  dsimp only
  split
  · exact refreshed
  next gwUrl _ =>
    split
    · exact refreshed
    · have inserted : TopicInvariant
          ((MessageLoop.refreshSender loop.registry msg now).insertGateway gwUrl) pending :=
        refreshed.of_same_topics _ rfl fun _ => rfl
      unfold MessageLoop.joinGateway
      dsimp only
      split
      · exact inserted.modifyRecord _ _ fun _ => rfl
      · exact inserted

end TopicInvariant

/-! ### Whole runs -/

section

variable (fromSlice : List UInt8 → Option Json) (serverUrl : String)

/-- The channels that the remaining events register. -/
def pendingChannels (events : List LoopEvent) : List TopicChannel :=
  events.filterMap LoopEvent.channel?

theorem topicInvariant_step (loop loop' : MessageLoop) (e : LoopEvent) (events : List LoopEvent)
    (inv : TopicInvariant loop.registry (pendingChannels (e :: events)))
    (spares : DropsSpareTopics loop e)
    (stepped : loop.step fromSlice serverUrl e = some loop') :
    TopicInvariant loop'.registry (pendingChannels events) := by
  cases e with
  | channel cut channel now subscribed =>
    simp only [MessageLoop.step, Option.map_eq_some_iff] at stepped
    obtain ⟨reg, dropped, rfl⟩ := stepped
    exact (inv.dropSweep cut spares reg dropped).register channel now subscribed
  | timeouts now order =>
    simp only [MessageLoop.step, Option.map_eq_some_iff] at stepped
    obtain ⟨reg, swept, rfl⟩ := stepped
    exact inv.checkTimeouts now order reg swept
  | message cut msg now =>
    simp only [MessageLoop.step, Option.map_eq_some_iff] at stepped
    obtain ⟨reg, dropped, rfl⟩ := stepped
    exact TopicInvariant.handleMessage fromSlice serverUrl _
      (inv.dropSweep cut spares reg dropped) msg now

theorem handshakeChannels_nodup (ids : List String) (fresh : ids.Nodup) :
    (ids.flatMap handshakeChannels).Nodup := by
  rw [List.nodup_flatMap]
  refine ⟨fun id _ => by simp [handshakeChannels, listenChannel, broadcastChannel], ?_⟩
  refine fresh.imp ?_
  intro a b differs channel inA inB
  have idA : channel.beaconId = a := by
    simp only [handshakeChannels, List.mem_cons, List.not_mem_nil, or_false] at inA
    rcases inA with rfl | rfl <;> rfl
  have idB : channel.beaconId = b := by
    simp only [handshakeChannels, List.mem_cons, List.not_mem_nil, or_false] at inB
    rcases inB with rfl | rfl <;> rfl
  exact differs (idA.symm.trans idB)

theorem topicInvariant_init (own : Option String) (ids : List String) (fresh : ids.Nodup)
    (channels : List TopicChannel) (handshakes : channels.Subperm (ids.flatMap handshakeChannels)) :
    TopicInvariant (MessageLoop.init own).registry channels where
  nodup := List.nodup_nil
  owned := by
    intro topic member
    cases member
  listed := by
    intro id r found
    cases found
  pendingNodup := by
    obtain ⟨kept, perm, sublist⟩ := handshakes
    exact perm.nodup_iff.mp ((handshakeChannels_nodup ids fresh).sublist sublist)
  pendingNew := by
    intro channel member
    obtain ⟨id, _, made⟩ := List.mem_flatMap.mp (handshakes.subset member)
    simp only [handshakeChannels, List.mem_cons, List.not_mem_nil, or_false] at made
    rcases made with made | made
    · exact ⟨id, .inl made⟩
    · exact ⟨id, .inr ⟨made, List.not_mem_nil⟩⟩

/-- However handshake channels, messages, completed sweeps and dropped sweeps follow one
another, topics and live records match, if every dropped sweep stood at its tick or at a
record without a broadcast topic. -/
theorem topics_owned_by_live_records (own : Option String) (ids : List String)
    (events : List LoopEvent) (loop : MessageLoop) (fresh : ids.Nodup)
    (handshakes : (pendingChannels events).Subperm (ids.flatMap handshakeChannels))
    (ran : Runs.run (Runs.restrict DropsSpareTopics (MessageLoop.step fromSlice serverUrl))
      (MessageLoop.init own) events = some loop) :
    TopicOwnership loop := by
  have inv : TopicInvariant loop.registry (pendingChannels []) := by
    refine Runs.run_remaining _
      (fun loop events => TopicInvariant loop.registry (pendingChannels events)) ?_
      (MessageLoop.init own) loop events (topicInvariant_init own ids fresh _ handshakes) ran
    intro before e rest after inv stepped
    obtain ⟨spares, stepped⟩ := (Runs.restrict_iff ..).mp stepped
    exact topicInvariant_step fromSlice serverUrl before after e rest inv spares stepped
  exact inv.topicOwnership loop.connections

end

/-- Two beacons; the sweep is dropped at the one that has no broadcast topic yet, which then
gets one in a new record, and a later sweep removes the other. -/
def harmlessDrop : List LoopEvent :=
  [.channel .tick (listenChannel "7b1d") 0 (.ok ()),
   .channel .tick (listenChannel "c20e") 1 (.ok ()),
   .channel .tick (broadcastChannel "c20e") 2 (.error "unused"),
   .channel (.during (beaconTimeout + 1) [] "7b1d" [] (.unsubscribe true))
     (broadcastChannel "7b1d") (beaconTimeout + 1) (.ok ()),
   .timeouts (beaconTimeout + 2) ["c20e"]]

theorem topics_owned_after_harmless_drop :
    ∃ loop, Runs.run (Runs.restrict DropsSpareTopics (MessageLoop.step (fun _ => none) "hamlet"))
        (MessageLoop.init none) harmlessDrop = some loop ∧
      loop.registry.broadcastTopics = ["7b1d/cast"] ∧ TopicOwnership loop :=
  ⟨_, rfl, by decide, topics_owned_by_live_records (fun _ => none) "hamlet" none ["7b1d", "c20e"]
    harmlessDrop _ (by decide) (by decide) rfl⟩

/-- A beacon registers and falls silent; the sweep that meets it is dropped after sending
its unsubscribe command because a message arrives. -/
def interruptedSweep : List LoopEvent :=
  [.channel .tick (listenChannel "7b1d") 0 (.ok ()),
   .channel .tick (broadcastChannel "7b1d") 0 (.ok ()),
   .message (.during (beaconTimeout + 1) [] "7b1d" [] (.unsubscribe true))
     ⟨"registration", []⟩ (beaconTimeout + 1)]

/-- The topic stays listed after its beacon is gone. -/
theorem interrupted_sweep_leaks_topic :
    (pendingChannels interruptedSweep).Subperm (["7b1d"].flatMap handshakeChannels) ∧
    ∃ loop, Runs.run (MessageLoop.step (fun _ => none) "hamlet") (MessageLoop.init none)
        interruptedSweep = some loop ∧ ¬TopicOwnership loop := by
  refine ⟨by decide, _, rfl, ?_⟩
  intro ownership
  obtain ⟨id, ⟨r, found, _⟩, _⟩ := ownership.1 "7b1d/cast" (by decide)
  have gone : (Finmap.lookup id (∅ : BeaconRecords)) = some r := found
  simp at gone

end Hamlet
