import Hamlet.BeaconManagement.MessageLoop
import Hamlet.Properties.Sweep

/-!
# Who times out

What the events of the message loop do to the topics and the `last_seen` of one beacon. From
that follows when a sweep removes it: after more than 120 seconds without a message on its
`{beacon_id}/rec` topic, counted from the creation of its record at the earliest.
-/

namespace Hamlet

open BeaconRegistry (Cut)

/-- A record without its gateway. -/
structure BeaconView where
  listenTopic : String
  broadcastTopic : String
  lastSeen : Nat
  deriving DecidableEq, Repr

def BeaconRecord.view (r : BeaconRecord) : BeaconView := ⟨r.listenTopic, r.broadcastTopic, r.lastSeen⟩

/-- What a channel changes in the record of its beacon. -/
def TopicChannel.applyTo (channel : TopicChannel) (subscribed : Except String Unit)
    (v : BeaconView) : BeaconView :=
  match channel.topicType, subscribed with
  | .listen, .ok () => { v with listenTopic := channel.topic.topic }
  | .broadcast, _ => { v with broadcastTopic := channel.topic.topic }
  | .hybrid, .ok () =>
    { v with listenTopic := channel.topic.topic, broadcastTopic := channel.topic.topic }
  | .listen, .error _ | .hybrid, .error _ => v

theorem TopicChannel.applyTo_lastSeen (channel : TopicChannel) (subscribed : Except String Unit)
    (v : BeaconView) : (channel.applyTo subscribed v).lastSeen = v.lastSeen := by
  simp only [applyTo]
  split <;> rfl

namespace BeaconRegistry

def viewOf (reg : BeaconRegistry) (id : String) : Option BeaconView :=
  (reg.records.lookup id).map BeaconRecord.view

variable (reg : BeaconRegistry)

theorem viewOf_modifyRecord (target id : String) (f : BeaconRecord → BeaconRecord)
    (g : BeaconView → BeaconView) (commutes : ∀ r, (f r).view = g r.view) :
    (reg.modifyRecord target f).viewOf id =
      if id = target then (reg.viewOf id).map g else reg.viewOf id := by
  simp only [viewOf, lookup_modifyRecord]
  split
  · simp only [Option.map_map]
    congr 1
    funext r
    exact commutes r
  · rfl

theorem viewOf_ensureRecord (target id : String) (now : Nat) :
    (reg.ensureRecord target now).viewOf id =
      if id = target then some ((reg.viewOf id).getD ⟨"", "", now⟩) else reg.viewOf id := by
  simp only [viewOf, lookup_ensureRecord]
  split
  next same =>
    rw [same]
    cases reg.records.lookup target <;> rfl
  next => rfl

@[simp] theorem viewOf_issue (command : MqttCommand) (id : String) :
    (reg.issue command).viewOf id = reg.viewOf id := rfl

@[simp] theorem viewOf_pushBroadcast (topic id : String) :
    (reg.pushBroadcast topic).viewOf id = reg.viewOf id := rfl

theorem viewOf_registerChannel (channel : TopicChannel) (now : Nat)
    (subscribed : Except String Unit) (id : String) :
    (reg.registerChannel channel now subscribed).viewOf id =
      if id = channel.beaconId then
        some (channel.applyTo subscribed ((reg.viewOf id).getD ⟨"", "", now⟩))
      else reg.viewOf id := by
  simp only [registerChannel, TopicChannel.applyTo]
  cases channel.topicType with
  | listen =>
    cases subscribed with
    | error e => simp [viewOf_ensureRecord]
    | ok u =>
      rw [viewOf_modifyRecord _ _ _ _ (fun v => { v with listenTopic := channel.topic.topic })
        (fun _ => rfl)]
      simp only [viewOf_issue, viewOf_ensureRecord]
      split <;> rfl
  | broadcast =>
    simp only
    rw [viewOf_modifyRecord _ _ _ _ (fun v => { v with broadcastTopic := channel.topic.topic })
      (fun _ => rfl)]
    simp only [viewOf_pushBroadcast, viewOf_ensureRecord]
    split <;> rfl
  | hybrid =>
    cases subscribed with
    | error e => simp [viewOf_ensureRecord]
    | ok u =>
      simp only
      rw [viewOf_modifyRecord _ _ _ _
        (fun v => { v with
          listenTopic := channel.topic.topic
          broadcastTopic := channel.topic.topic }) (fun _ => rfl)]
      simp only [viewOf_pushBroadcast, viewOf_issue, viewOf_ensureRecord]
      split <;> rfl

theorem viewOf_updateLastSeen (target id : String) (now : Nat) :
    (reg.updateLastSeen target now).viewOf id =
      if id = target then (reg.viewOf id).map fun v => { v with lastSeen := now }
      else reg.viewOf id :=
  reg.viewOf_modifyRecord target id _ _ fun _ => rfl

@[simp] theorem viewOf_insertGateway (url id : String) :
    (reg.insertGateway url).viewOf id = reg.viewOf id := rfl

@[simp] theorem viewOf_associateGateway (target url id : String) (shutdownTx : Nat) :
    (reg.associateGateway target url shutdownTx).viewOf id = reg.viewOf id := by
  have kept := reg.viewOf_modifyRecord target id
    (fun r => { r with gatewayUrl := some url, gatewayShutdownTx := some shutdownTx })
    (fun v => v) (fun _ => rfl)
  rw [associateGateway, kept]
  simp

/-- The round has removed the record, and at most one command went out. -/
theorem abandon_cases {reg reg' : BeaconRegistry} {id : String} {point : AwaitPoint}
    (abandoned : reg.abandon id point = some reg') :
    reg' = reg.removeRecord id ∨ ∃ record, reg' = (reg.removeRecord id).unsubscribeListen record := by
  simp only [abandon] at abandoned
  split at abandoned
  next => cases abandoned
  next record found =>
    cases point with
    | unsubscribe sent =>
      obtain ⟨_, abandoned⟩ := Option.ite_none_left_eq_some.mp abandoned
      split at abandoned
      · cases abandoned
        exact .inr ⟨record, rfl⟩
      · cases abandoned
        exact .inl rfl
    | write =>
      obtain ⟨_, shape⟩ := Option.ite_none_left_eq_some.mp abandoned
      cases shape
      exact .inr ⟨record, rfl⟩

theorem abandon_records {reg reg' : BeaconRegistry} {id : String} {point : AwaitPoint}
    (abandoned : reg.abandon id point = some reg') : reg'.records = reg.records.erase id := by
  obtain rfl | ⟨record, rfl⟩ := abandon_cases abandoned <;> simp

/-- A dropped sweep removes records and changes none. -/
theorem lookup_dropSweep {reg reg' : BeaconRegistry} {cut : Cut}
    (dropped : reg.dropSweep cut = some reg') (id : String) :
    reg'.records.lookup id = none ∨ reg'.records.lookup id = reg.records.lookup id := by
  cases cut with
  | tick =>
    cases dropped
    exact .inr rfl
  | during now done current rest point =>
    simp only [dropSweep] at dropped
    obtain ⟨_, abandoned⟩ := Option.ite_none_right_eq_some.mp dropped
    rw [abandon_records abandoned, lookup_erase_eq, lookup_foldl_deregister]
    split
    · exact .inl rfl
    · split
      · exact .inl rfl
      · exact .inr rfl

theorem viewOf_dropSweep {reg reg' : BeaconRegistry} {cut : Cut} {id : String} {view : BeaconView}
    (dropped : reg.dropSweep cut = some reg') (found : reg'.viewOf id = some view) :
    reg.viewOf id = some view := by
  simp only [viewOf] at found ⊢
  rcases lookup_dropSweep dropped id with gone | kept
  · simp [gone] at found
  · rw [← kept]
    exact found

theorem mem_staleIds_iff (reg : BeaconRegistry) (now : Nat) (id : String) :
    id ∈ reg.staleIds now ↔ ∃ view, reg.viewOf id = some view ∧ beaconTimeout < now - view.lastSeen := by
  simp only [staleIds, Finset.mem_filter, Finmap.mem_keys, Option.any_eq_true, viewOf,
    Option.map_eq_some_iff]
  constructor
  · rintro ⟨_, record, found, stale⟩
    exact ⟨record.view, ⟨record, found, rfl⟩, of_decide_eq_true stale⟩
  · rintro ⟨_, ⟨record, found, rfl⟩, silent⟩
    exact ⟨Finmap.lookup_isSome.mp (by simp [found]), record, found, decide_eq_true silent⟩

/-- A completed sweep leaves a beacon as it was or removes it. -/
theorem SweepEffect.viewOf {reg reg' : BeaconRegistry} {now : Nat} (effect : SweepEffect reg now reg')
    (id : String) : reg'.viewOf id = if id ∈ reg.staleIds now then none else reg.viewOf id := by
  simp only [BeaconRegistry.viewOf, effect.records]
  split <;> rfl

end BeaconRegistry

namespace MessageLoop

variable (fromSlice : List UInt8 → Option Json) (serverUrl : String)

theorem viewOf_refreshSender (reg : BeaconRegistry) (msg : MqttMessage) (now : Nat) (id : String) :
    (refreshSender reg msg now).viewOf id =
      if msg.topic = receiveTopic id then (reg.viewOf id).map fun v => { v with lastSeen := now }
      else reg.viewOf id := by
  simp only [refreshSender]
  cases sender : senderOf msg.topic with
  | none =>
    have other : msg.topic ≠ receiveTopic id := by
      intro same
      rw [(senderOf_iff _ _).mpr same] at sender
      cases sender
    rw [if_neg other]
  | some beaconId =>
    have topic := (senderOf_iff _ _).mp sender
    have iff : msg.topic = receiveTopic id ↔ id = beaconId := by
      rw [topic, receiveTopic, receiveTopic, String.append_left_inj, eq_comm]
    simp only [BeaconRegistry.viewOf_updateLastSeen, iff]

theorem viewOf_handleMessage (loop : MessageLoop) (msg : MqttMessage) (now : Nat) (id : String) :
    (handleMessage fromSlice serverUrl loop msg now).registry.viewOf id =
      if msg.topic = receiveTopic id then
        (loop.registry.viewOf id).map fun v => { v with lastSeen := now }
      else loop.registry.viewOf id := by
  rw [← viewOf_refreshSender]
  simp only [handleMessage]
  split
  next => rfl
  next gwUrl _ =>
    split
    next => rfl
    next =>
      simp only [joinGateway]
      split <;> simp

end MessageLoop

/-! ### The loop under watch -/

/-- The reading of a sweep that was dropped half-way. -/
def BeaconRegistry.Cut.reading : Cut → List Nat
  | .tick => []
  | .during now _ _ _ _ => [now]

/-- The last reading of an event. -/
def LoopEvent.now : LoopEvent → Nat
  | .channel _ _ now _ | .message _ _ now | .timeouts now _ => now

/-- The readings of the clock that an event takes, in order. -/
def LoopEvent.readings : LoopEvent → List Nat
  | .channel cut _ now _ | .message cut _ now => cut.reading ++ [now]
  | .timeouts now _ => [now]

theorem LoopEvent.le_now {event : LoopEvent} {clock : Nat}
    (later : (clock :: event.readings).IsChain (· ≤ ·)) : clock ≤ event.now := by
  cases event with
  | channel cut channel now subscribed =>
    cases cut with
    | tick => simpa [readings, LoopEvent.now, Cut.reading] using later
    | during swept =>
      have chain : clock ≤ swept ∧ swept ≤ now := by simpa [readings, Cut.reading] using later
      exact chain.1.trans chain.2
  | timeouts now order => simpa [readings, LoopEvent.now] using later
  | message cut msg now =>
    cases cut with
    | tick => simpa [readings, LoopEvent.now, Cut.reading] using later
    | during swept =>
      have chain : clock ≤ swept ∧ swept ≤ now := by simpa [readings, Cut.reading] using later
      exact chain.1.trans chain.2

/-- The message loop with what an onlooker notes. -/
structure Watched where
  loop : MessageLoop
  /-- The last reading of the clock. -/
  clock : Nat
  /-- When the current record of a beacon was created. -/
  created : String → Nat
  /-- When the last message on the `{beacon_id}/rec` topic of a beacon was processed. -/
  heard : String → Option Nat

namespace Watched

def init (ownGatewayUrl : Option String) : Watched where
  loop := .init ownGatewayUrl
  clock := 0
  created _ := 0
  heard _ := none

/-- A channel creates the record of a beacon that has none, which is looked up after the sweep
that the channel interrupts. -/
def noteCreation (s : Watched) (id : String) : LoopEvent → Nat
  | .channel cut channel now _ =>
    if id = channel.beaconId ∧ (s.loop.registry.dropSweep cut).bind (·.viewOf id) = none then now
    else s.created id
  | .message _ _ _ | .timeouts _ _ => s.created id

def noteMessage (s : Watched) (id : String) : LoopEvent → Option Nat
  | .message _ msg now => if msg.topic = receiveTopic id then some now else s.heard id
  | .channel _ _ _ _ | .timeouts _ _ => s.heard id

/-- The later of the creation of the current record and the last message. -/
def lastSign (s : Watched) (id : String) : Nat := max (s.created id) ((s.heard id).getD 0)

section

variable (fromSlice : List UInt8 → Option Json) (serverUrl : String)

/-- A step of the loop, with a clock that does not go back. -/
def step (s : Watched) (event : LoopEvent) : Option Watched :=
  if (s.clock :: event.readings).IsChain (· ≤ ·) then
    (s.loop.step fromSlice serverUrl event).map fun loop =>
      { loop
        clock := event.now
        created id := s.noteCreation id event
        heard id := s.noteMessage id event }
  else none

end

/-- `last_seen` is what the onlooker notes. -/
structure Faithful (s : Watched) : Prop where
  lastSeen : ∀ id view, s.loop.registry.viewOf id = some view → view.lastSeen = s.lastSign id
  past : ∀ id, s.lastSign id ≤ s.clock

section

variable {fromSlice : List UInt8 → Option Json} {serverUrl : String} {s s' : Watched}

theorem faithful_init (own : Option String) : Faithful (.init own) where
  lastSeen := by
    intro id view found
    simp [Watched.init, MessageLoop.init, BeaconRegistry.new, BeaconRegistry.viewOf] at found
  past id := by simp [lastSign, Watched.init]

theorem lastSign_mono (event : LoopEvent) (later : s.clock ≤ event.now) (past : ∀ id, s.lastSign id ≤ s.clock)
    (id : String) : max (s.noteCreation id event) ((s.noteMessage id event).getD 0) ≤ event.now := by
  have before := past id
  simp only [lastSign] at before
  cases event with
  | channel cut channel now subscribed =>
    simp only [noteCreation, noteMessage, LoopEvent.now] at later ⊢
    split <;> omega
  | timeouts now order =>
    simp only [noteCreation, noteMessage, LoopEvent.now] at later ⊢
    omega
  | message cut msg now =>
    simp only [noteCreation, noteMessage, LoopEvent.now] at later ⊢
    split
    · simp only [Option.getD_some]
      omega
    · omega

theorem faithful_step (faithful : Faithful s) (event : LoopEvent)
    (stepped : s.step fromSlice serverUrl event = some s') : Faithful s' := by
  simp only [step] at stepped
  obtain ⟨chain, stepped⟩ := Option.ite_none_right_eq_some.mp stepped
  obtain ⟨loop, ran, rfl⟩ := Option.map_eq_some_iff.mp stepped
  have later := LoopEvent.le_now chain
  refine ⟨?_, fun id => lastSign_mono event later faithful.past id⟩
  intro id view found
  have past := faithful.past id
  simp only [lastSign] at past ⊢
  cases event with
  | channel cut channel now subscribed =>
    obtain ⟨reg, dropped, rfl⟩ := Option.map_eq_some_iff.mp ran
    simp only [BeaconRegistry.viewOf_registerChannel] at found
    simp only [noteCreation, noteMessage, dropped, Option.bind_some]
    simp only [LoopEvent.now] at later
    split at found
    next here =>
      cases found
      rw [TopicChannel.applyTo_lastSeen]
      cases registered : reg.viewOf id with
      | none =>
        -- the channel creates the record, after everything heard before
        rw [if_pos ⟨here, rfl⟩, Option.getD_none]
        show now = max now ((s.heard id).getD 0)
        omega
      | some old =>
        -- a second channel keeps `last_seen`
        simp only [Option.getD_some, reduceCtorEq, and_false, if_false]
        exact faithful.lastSeen id old (BeaconRegistry.viewOf_dropSweep dropped registered)
    next other =>
      simp only [other, false_and, if_false]
      exact faithful.lastSeen id view (BeaconRegistry.viewOf_dropSweep dropped found)
  | timeouts now order =>
    obtain ⟨reg, swept, rfl⟩ := Option.map_eq_some_iff.mp ran
    have kept := (BeaconRegistry.sweepEffect_checkTimeouts swept).viewOf id
    simp only [found] at kept
    split at kept
    next => cases kept
    next => exact faithful.lastSeen id view kept.symm
  | message cut msg now =>
    obtain ⟨reg, dropped, rfl⟩ := Option.map_eq_some_iff.mp ran
    simp only [MessageLoop.viewOf_handleMessage] at found
    simp only [noteCreation, noteMessage]
    simp only [LoopEvent.now] at later
    split at found
    next own =>
      obtain ⟨old, registered, rfl⟩ := Option.map_eq_some_iff.mp found
      simp only [own, if_true, Option.getD_some]
      -- the creation is not later than this message
      omega
    next other =>
      simp only [other, if_false]
      exact faithful.lastSeen id view (BeaconRegistry.viewOf_dropSweep dropped found)

end

end Watched

open Watched in
/-- In every run with a clock that does not go back, a sweep that completes with reading `now`
removes exactly the registered beacons whose last sign of life, the creation of the record or a
message on their topic, is more than 120 seconds old, and changes no other. Further channels and
messages on other topics leave the `last_seen` of a registered beacon alone. -/
theorem sweep_removes_silent_beacons (fromSlice : List UInt8 → Option Json) (serverUrl : String)
    (own : Option String) (events : List LoopEvent) (s : Watched)
    (ran : Runs.run (Watched.step fromSlice serverUrl) (.init own) events = some s) (id : String)
    (view : BeaconView) (registered : s.loop.registry.viewOf id = some view) :
    (∀ now order s', s.step fromSlice serverUrl (.timeouts now order) = some s' →
      s'.loop.registry.viewOf id =
        if s.lastSign id + beaconTimeout < now then none else some view) ∧
    (∀ channel now subscribed, ∃ view',
      (s.loop.registry.registerChannel channel now subscribed).viewOf id = some view' ∧
        view'.lastSeen = view.lastSeen) ∧
    (∀ msg now, msg.topic ≠ receiveTopic id →
      (MessageLoop.handleMessage fromSlice serverUrl s.loop msg now).registry.viewOf id =
        some view) := by
  have faithful : Faithful s :=
    Runs.run_invariant _ Faithful (fun _ event _ faithful stepped => faithful_step faithful event stepped)
      (.init own) s events (faithful_init own) ran
  have lastSeen := faithful.lastSeen id view registered
  refine ⟨?_, ?_, ?_⟩
  · intro now order s' stepped
    simp only [Watched.step] at stepped
    obtain ⟨_, stepped⟩ := Option.ite_none_right_eq_some.mp stepped
    obtain ⟨loop, ran, rfl⟩ := Option.map_eq_some_iff.mp stepped
    obtain ⟨reg, swept, rfl⟩ := Option.map_eq_some_iff.mp ran
    have stale : id ∈ s.loop.registry.staleIds now ↔ s.lastSign id + beaconTimeout < now := by
      simp only [BeaconRegistry.mem_staleIds_iff, registered, Option.some.injEq, exists_eq_left', lastSeen]
      omega
    rw [(BeaconRegistry.sweepEffect_checkTimeouts swept).viewOf id, registered]
    simp only [stale]
  · intro channel now subscribed
    rw [BeaconRegistry.viewOf_registerChannel, registered]
    split
    · exact ⟨_, rfl, channel.applyTo_lastSeen subscribed view⟩
    · exact ⟨view, rfl, rfl⟩
  · intro msg now other
    rw [MessageLoop.viewOf_handleMessage, if_neg other, registered]

/-- A beacon is heard once after a minute; later messages are not its own. -/
def quietBeacon : List LoopEvent :=
  [.channel .tick (listenChannel "7b1d") 0 (.ok ()),
   .message .tick ⟨"7b1d/rec", []⟩ (60 * 1000000000),
   .message .tick ⟨"c20e/rec", []⟩ (150 * 1000000000)]

/-- It is removed 121 seconds after its message. -/
theorem quiet_beacon_removed :
    ∃ s view s', Runs.run (Watched.step (fun _ => none) "hamlet") (.init none) quietBeacon = some s ∧
      s.loop.registry.viewOf "7b1d" = some view ∧
      s.step (fun _ => none) "hamlet" (.timeouts (181 * 1000000000) ["7b1d"]) = some s' ∧
      s'.loop.registry.viewOf "7b1d" = none := by
  refine ⟨_, ⟨"7b1d/rec", "", 60 * 1000000000⟩, _, rfl, rfl, rfl, ?_⟩
  have removed := (sweep_removes_silent_beacons (fun _ => none) "hamlet" none quietBeacon _ rfl "7b1d"
    ⟨"7b1d/rec", "", 60 * 1000000000⟩ rfl).1 (181 * 1000000000) ["7b1d"] _ rfl
  exact removed.trans (if_pos (by decide))

end Hamlet
