import Hamlet.Properties.Timeouts

/-!
# Beacons do not interfere

What the registry knows of one beacon follows from the events that name it and from the readings
of the sweeps. Events of another beacon can therefore be erased from a run without a trace. The
channels are those of handshakes, so that every beacon has topics of its own.
-/

namespace Hamlet

open BeaconRegistry

/-- What the registry knows of a beacon: its record, and how often its broadcast topic is listed. -/
structure Standing where
  view : Option BeaconView
  listed : Nat
  deriving DecidableEq, Repr

def BeaconRegistry.standing (reg : BeaconRegistry) (id : String) : Standing where
  view := reg.viewOf id
  listed := reg.broadcastTopics.count (castTopic id)

/-- The record is stale for a sweep with reading `now`. -/
def BeaconView.isStale (now : Nat) (v : BeaconView) : Bool := beaconTimeout < now - v.lastSeen

/-- What an event does to the standing of a beacon. -/
def Standing.after (id : String) (s : Standing) : LoopEvent → Standing
  | .channel _ channel now subscribed =>
    if id = channel.beaconId then
      { view := some (channel.applyTo subscribed (s.view.getD ⟨"", "", now⟩))
        listed := s.listed + if channel.topicType = .broadcast then 1 else 0 }
    else s
  | .message _ msg now =>
    if msg.topic = receiveTopic id then
      { s with view := s.view.map fun v => { v with lastSeen := now } }
    else s
  | .timeouts now _ =>
    match s.view with
    | none => s
    | some v =>
      if v.isStale now then ⟨none, if v.broadcastTopic = "" then s.listed else 0⟩ else s

/-- A channel that a handshake has produced. -/
def LoopEvent.FromHandshake (event : LoopEvent) : Prop :=
  ∀ channel, event.channel? = some channel → channel ∈ handshakeChannels channel.beaconId

/-- A beacon broadcasts on its own topic or on none. -/
def OwnTopics (reg : BeaconRegistry) : Prop :=
  ∀ id view, reg.viewOf id = some view → view.broadcastTopic = "" ∨ view.broadcastTopic = castTopic id

theorem channel_cases {channel : TopicChannel} (made : channel ∈ handshakeChannels channel.beaconId) :
    ∃ id, channel = listenChannel id ∨ channel = broadcastChannel id := by
  simp only [handshakeChannels, List.mem_cons, List.not_mem_nil, or_false] at made
  exact ⟨channel.beaconId, made⟩

namespace BeaconRegistry

theorem registerChannel_broadcastTopics (reg : BeaconRegistry) (channel : TopicChannel)
    (made : channel ∈ handshakeChannels channel.beaconId) (now : Nat)
    (subscribed : Except String Unit) :
    (reg.registerChannel channel now subscribed).broadcastTopics =
      reg.broadcastTopics ++
        if channel.topicType = .broadcast then [castTopic channel.beaconId] else [] := by
  obtain ⟨id, rfl | rfl⟩ := channel_cases made
  · cases subscribed <;> simp [registerChannel, listenChannel, issue]
  · simp [registerChannel, broadcastChannel, pushBroadcast]

theorem standing_registerChannel (reg : BeaconRegistry) (channel : TopicChannel)
    (made : channel ∈ handshakeChannels channel.beaconId) (cut : Cut) (now : Nat)
    (subscribed : Except String Unit) (id : String) :
    (reg.registerChannel channel now subscribed).standing id =
      (reg.standing id).after id (.channel cut channel now subscribed) := by
  simp only [standing, Standing.after, viewOf_registerChannel,
    reg.registerChannel_broadcastTopics channel made, List.count_append]
  by_cases here : id = channel.beaconId
  · simp only [here, if_true]
    by_cases kind : channel.topicType = .broadcast <;> simp [kind]
  · have other : castTopic channel.beaconId ≠ castTopic id := fun same =>
      here (castTopic_injective _ _ same).symm
    simp only [if_neg here]
    split <;> simp [other]

theorem broadcastOf_iff (reg : BeaconRegistry) (id topic : String) :
    reg.broadcastOf id = some topic ↔
      ∃ view, reg.viewOf id = some view ∧ view.broadcastTopic = topic ∧ topic ≠ "" := by
  simp only [broadcastOf, viewOf]
  cases reg.records.lookup id with
  | none => simp
  | some record =>
    by_cases mute : record.broadcastTopic = ""
    · simp only [Option.bind_some, mute, if_true, reduceCtorEq, Option.map_some, Option.some.injEq,
        exists_eq_left', false_iff, not_and]
      intro topic named
      exact absurd (topic.symm.trans mute) named
    · simp only [Option.bind_some, mute, if_false, Option.some.injEq, Option.map_some,
        exists_eq_left']
      constructor
      · rintro rfl
        exact ⟨rfl, mute⟩
      · exact fun named => named.1

theorem castTopic_mem_staleTopics {reg : BeaconRegistry} (own : OwnTopics reg) (now : Nat) (id : String) :
    castTopic id ∈ reg.staleTopics now ↔
      ∃ view, reg.viewOf id = some view ∧ view.isStale now ∧ view.broadcastTopic ≠ "" := by
  simp only [staleTopics, Finset.mem_biUnion, Option.mem_toFinset, Option.mem_def,
    mem_staleIds_iff, broadcastOf_iff]
  constructor
  · rintro ⟨other, ⟨view, found, silent⟩, view', found', topic, named⟩
    cases found.symm.trans found'
    -- the stale beacon broadcasts on its own topic, so it is `id`
    have same : other = id := by
      rcases own other view found with mute | cast
      · exact absurd (topic.symm.trans mute) named
      · exact castTopic_injective other id (cast.symm.trans topic)
    subst same
    exact ⟨view, found, decide_eq_true silent, topic ▸ named⟩
  · rintro ⟨view, found, stale, named⟩
    have topic : view.broadcastTopic = castTopic id := (own id view found).resolve_left named
    exact ⟨id, ⟨view, found, of_decide_eq_true stale⟩, view, found, topic, castTopic_ne_empty id⟩

theorem standing_checkTimeouts {reg reg' : BeaconRegistry} (own : OwnTopics reg) {now : Nat}
    {order : List String} (swept : reg.checkTimeouts now order = some reg') (id : String) :
    reg'.standing id = (reg.standing id).after id (.timeouts now order) := by
  have effect := sweepEffect_checkTimeouts swept
  have listed : reg'.broadcastTopics.count (castTopic id) =
      if castTopic id ∈ reg.staleTopics now then 0 else reg.broadcastTopics.count (castTopic id) := by
    rw [effect.broadcastTopics]
    split
    next stale => simp [List.count_eq_zero, stale]
    next spared => exact List.count_filter (by simpa using spared)
  simp only [standing, effect.viewOf, listed, Standing.after, castTopic_mem_staleTopics own,
    mem_staleIds_iff]
  cases reg.viewOf id with
  | none => simp
  | some view =>
    by_cases stale : view.isStale now
    · have silent : beaconTimeout < now - view.lastSeen := of_decide_eq_true stale
      by_cases mute : view.broadcastTopic = "" <;> simp [stale, silent, mute]
    · have recent : ¬beaconTimeout < now - view.lastSeen := fun silent => stale (decide_eq_true silent)
      simp [stale, recent]

end BeaconRegistry

theorem OwnTopics.registerChannel {reg : BeaconRegistry} (own : OwnTopics reg) (channel : TopicChannel)
    (made : channel ∈ handshakeChannels channel.beaconId) (now : Nat)
    (subscribed : Except String Unit) : OwnTopics (reg.registerChannel channel now subscribed) := by
  intro id view found
  rw [viewOf_registerChannel] at found
  split at found
  next here =>
    cases found
    have before : ((reg.viewOf id).getD ⟨"", "", now⟩).broadcastTopic = "" ∨
        ((reg.viewOf id).getD ⟨"", "", now⟩).broadcastTopic = castTopic id := by
      cases registered : reg.viewOf id with
      | none => exact .inl rfl
      | some old => exact own id old registered
    obtain ⟨beacon, rfl | rfl⟩ := channel_cases made
    -- a listen channel leaves the broadcast topic alone
    · cases subscribed <;> exact before
    · right
      rw [here]
      rfl
  next => exact own id view found

section

variable {fromSlice : List UInt8 → Option Json} {serverUrl : String} {loop loop' : MessageLoop}

theorem handleMessage_broadcastTopics (msg : MqttMessage) (now : Nat) :
    (MessageLoop.handleMessage fromSlice serverUrl loop msg now).registry.broadcastTopics =
      loop.registry.broadcastTopics := by
  have refreshed : (MessageLoop.refreshSender loop.registry msg now).broadcastTopics =
      loop.registry.broadcastTopics := by
    simp only [MessageLoop.refreshSender]
    split
    · simp [updateLastSeen]
    · rfl
  simp only [MessageLoop.handleMessage]
  split
  · exact refreshed
  · split
    · exact refreshed
    · simp only [MessageLoop.joinGateway]
      split
      · simpa [associateGateway, insertGateway] using refreshed
      · exact refreshed

theorem ownTopics_step (own : OwnTopics loop.registry) (event : LoopEvent)
    (complete : event.SweepsComplete) (made : event.FromHandshake)
    (stepped : loop.step fromSlice serverUrl event = some loop') : OwnTopics loop'.registry := by
  cases event with
  | channel cut channel now subscribed =>
    cases complete
    cases stepped
    exact own.registerChannel channel (made channel rfl) now subscribed
  | timeouts now order =>
    obtain ⟨reg, swept, rfl⟩ := Option.map_eq_some_iff.mp stepped
    intro id view found
    rw [(sweepEffect_checkTimeouts swept).viewOf id] at found
    split at found
    next => cases found
    next => exact own id view found
  | message cut msg now =>
    cases complete
    cases stepped
    intro id view found
    rw [MessageLoop.viewOf_handleMessage] at found
    split at found
    next =>
      obtain ⟨old, registered, rfl⟩ := Option.map_eq_some_iff.mp found
      exact own id old registered
    next => exact own id view found

/-- The standing of a beacon depends on nothing but the event. -/
theorem standing_step (own : OwnTopics loop.registry) (event : LoopEvent)
    (complete : event.SweepsComplete) (made : event.FromHandshake)
    (stepped : loop.step fromSlice serverUrl event = some loop') (id : String) :
    loop'.registry.standing id = (loop.registry.standing id).after id event := by
  cases event with
  | channel cut channel now subscribed =>
    cases complete
    cases stepped
    exact loop.registry.standing_registerChannel channel (made channel rfl) .tick now subscribed id
  | timeouts now order =>
    obtain ⟨reg, swept, rfl⟩ := Option.map_eq_some_iff.mp stepped
    exact standing_checkTimeouts own swept id
  | message cut msg now =>
    cases complete
    cases stepped
    simp only [standing, MessageLoop.viewOf_handleMessage, handleMessage_broadcastTopics,
      Standing.after]
    split <;> rfl

/-- The standing of a beacon after a run, from the events alone. -/
theorem standing_run (events : List LoopEvent) (complete : ∀ e ∈ events, e.SweepsComplete)
    (made : ∀ e ∈ events, e.FromHandshake) (own : OwnTopics loop.registry)
    (ran : Runs.run (MessageLoop.step fromSlice serverUrl) loop events = some loop') (id : String) :
    loop'.registry.standing id = events.foldl (Standing.after id) (loop.registry.standing id) := by
  induction events generalizing loop with
  | nil =>
    cases ran
    rfl
  | cons event events ih =>
    -- `OwnTopics` has to be kept along, or a sweep could strike another beacon's topic
    obtain ⟨next, stepped, rest⟩ := (Runs.run_cons_iff ..).mp ran
    rw [List.forall_mem_cons] at complete made
    have kept := ownTopics_step own event complete.1 made.1 stepped
    rw [ih complete.2 made.2 kept rest, standing_step own event complete.1 made.1 stepped,
      List.foldl_cons]

end

/-! ### Erasing a beacon -/

/-- A channel of the beacon, or a message on one of its topics. -/
def LoopEvent.Concerns (id : String) : LoopEvent → Prop
  | .channel _ registered _ _ => registered.beaconId = id
  | .message _ msg _ => msg.topic = receiveTopic id ∨ msg.topic = castTopic id
  | .timeouts _ _ => False

/-- The second run is the first without the events of a beacon. Its sweeps take their readings
at the same times and meet the stale beacons in an order of their own. -/
inductive Erases (id : String) : List LoopEvent → List LoopEvent → Prop where
  | nil : Erases id [] []
  | erase (event : LoopEvent) {events events' : List LoopEvent} (concerns : event.Concerns id)
      (rest : Erases id events events') : Erases id (event :: events) events'
  | keep (event : LoopEvent) {events events' : List LoopEvent} (other : ¬event.Concerns id)
      (rest : Erases id events events') : Erases id (event :: events) (event :: events')
  | sweep (now : Nat) (order order' : List String) {events events' : List LoopEvent}
      (rest : Erases id events events') :
      Erases id (.timeouts now order :: events) (.timeouts now order' :: events')

theorem receiveTopic_ne_castTopic (a b : String) : receiveTopic a ≠ castTopic b := by
  intro same
  have ends : (receiveTopic a).toList.getLast? = (castTopic b).toList.getLast? := by rw [same]
  simp [receiveTopic, castTopic] at ends

theorem receiveTopic_injective (a b : String) (same : receiveTopic a = receiveTopic b) : a = b := by
  simpa [receiveTopic] using same

theorem Standing.after_other {a b : String} (differs : b ≠ a) (s : Standing) (event : LoopEvent)
    (concerns : event.Concerns a) : s.after b event = s := by
  cases event with
  | channel cut channel now subscribed =>
    have other : b ≠ channel.beaconId := fun same => differs (same.trans concerns)
    rw [Standing.after, if_neg other]
  | timeouts now order => cases concerns
  | message cut msg now =>
    -- only a message on `b/rec` concerns `b`
    have other : msg.topic ≠ receiveTopic b := by
      rcases concerns with topic | topic
      · intro same
        exact differs (receiveTopic_injective b a (same.symm.trans topic))
      · intro same
        exact receiveTopic_ne_castTopic b a (same.symm.trans topic)
    rw [Standing.after, if_neg other]

theorem Erases.foldl_after {a b : String} (differs : b ≠ a) {events events' : List LoopEvent}
    (erased : Erases a events events') (s : Standing) :
    events'.foldl (Standing.after b) s = events.foldl (Standing.after b) s := by
  induction erased generalizing s with
  | nil => rfl
  | erase event concerns rest ih =>
    rw [List.foldl_cons, Standing.after_other differs s event concerns]
    exact ih s
  | keep event other rest ih => exact ih _
  | sweep now order order' rest ih => exact ih _

theorem Erases.forall {a : String} {P : LoopEvent → Prop} (sweeps : ∀ now order, P (.timeouts now order))
    {events events' : List LoopEvent} (erased : Erases a events events') (all : ∀ e ∈ events, P e) :
    ∀ e ∈ events', P e := by
  induction erased with
  | nil => exact all
  | erase event concerns rest ih => exact ih (List.forall_mem_cons.mp all).2
  | keep event other rest ih =>
    obtain ⟨first, others⟩ := List.forall_mem_cons.mp all
    exact List.forall_mem_cons.mpr ⟨first, ih others⟩
  | sweep now order order' rest ih =>
    exact List.forall_mem_cons.mpr ⟨sweeps now order', ih (List.forall_mem_cons.mp all).2⟩

theorem Erases.split {a : String} {before after events' : List LoopEvent}
    (erased : Erases a (before ++ after) events') :
    ∃ before' after', events' = before' ++ after' ∧ Erases a before before' := by
  induction before generalizing events' with
  | nil => exact ⟨[], events', rfl, .nil⟩
  | cons first before ih =>
    cases erased with
    | erase _ concerns rest =>
      obtain ⟨before', after', rfl, earlier⟩ := ih rest
      exact ⟨before', after', rfl, .erase first concerns earlier⟩
    | keep _ other rest =>
      obtain ⟨before', after', rfl, earlier⟩ := ih rest
      exact ⟨first :: before', after', rfl, .keep first other earlier⟩
    | sweep now order order' rest =>
      obtain ⟨before', after', rfl, earlier⟩ := ih rest
      exact ⟨.timeouts now order' :: before', after', rfl, .sweep now order order' earlier⟩

section

variable (fromSlice : List UInt8 → Option Json) (serverUrl : String)

/-- Without sweeps that are dropped half-way nothing keeps the loop from the next event. -/
theorem exists_step (loop : MessageLoop) (event : LoopEvent) (complete : event.SweepsComplete) :
    (∃ loop', loop.step fromSlice serverUrl event = some loop') ∨
      ∃ now order, event = .timeouts now order := by
  cases event with
  | channel cut channel now subscribed =>
    cases complete
    exact .inl ⟨_, rfl⟩
  | timeouts now order => exact .inr ⟨now, order, rfl⟩
  | message cut msg now =>
    cases complete
    exact .inl ⟨_, rfl⟩

theorem exists_sweep (loop : MessageLoop) (now : Nat) :
    ∃ order loop', loop.step fromSlice serverUrl (.timeouts now order) = some loop' := by
  have scan : loop.registry.IsScan now (loop.registry.staleIds now).toList :=
    ⟨Finset.nodup_toList _, Finset.toList_toFinset _⟩
  refine ⟨(loop.registry.staleIds now).toList,
    { loop with registry := (loop.registry.staleIds now).toList.foldl deregister loop.registry }, ?_⟩
  rw [MessageLoop.step, checkTimeouts, if_pos scan, Option.map_some]

/-- The erased run can take place. -/
theorem exists_erased_run (a : String) (events : List LoopEvent)
    (complete : ∀ e ∈ events, e.SweepsComplete) (loop : MessageLoop) :
    ∃ events' loop', Erases a events events' ∧
      Runs.run (MessageLoop.step fromSlice serverUrl) loop events' = some loop' := by
  -- from the left: the states differ from those of the run, so each sweep gets an order of its own
  induction events generalizing loop with
  | nil => exact ⟨[], loop, .nil, rfl⟩
  | cons event events ih =>
    rw [List.forall_mem_cons] at complete
    by_cases concerns : event.Concerns a
    · obtain ⟨events', loop', erased, ran⟩ := ih complete.2 loop
      exact ⟨events', loop', .erase event concerns erased, ran⟩
    · rcases exists_step fromSlice serverUrl loop event complete.1 with
        ⟨next, stepped⟩ | ⟨now, order, rfl⟩
      · obtain ⟨events', loop', erased, ran⟩ := ih complete.2 next
        exact ⟨event :: events', loop', .keep event concerns erased,
          (Runs.run_cons_iff ..).mpr ⟨next, stepped, ran⟩⟩
      · obtain ⟨order', next, stepped⟩ := exists_sweep fromSlice serverUrl loop now
        obtain ⟨events', loop', erased, ran⟩ := ih complete.2 next
        exact ⟨.timeouts now order' :: events', loop', .sweep now order order' erased,
          (Runs.run_cons_iff ..).mpr ⟨next, stepped, ran⟩⟩

end

theorem ownTopics_init (own : Option String) : OwnTopics (MessageLoop.init own).registry := by
  intro id view found
  simp [MessageLoop.init, BeaconRegistry.new, viewOf] at found

/-- Erasing the channels of a beacon and the messages on its topics leaves a run that can take
place, and at every point of it the standing of every other beacon is what it was. -/
theorem beacons_do_not_interfere (fromSlice : List UInt8 → Option Json) (serverUrl : String)
    (own : Option String) (a : String) (events : List LoopEvent) (loop : MessageLoop)
    (complete : ∀ e ∈ events, e.SweepsComplete) (made : ∀ e ∈ events, e.FromHandshake)
    (ran : Runs.run (MessageLoop.step fromSlice serverUrl) (.init own) events = some loop) :
    (∃ events' loop', Erases a events events' ∧
      Runs.run (MessageLoop.step fromSlice serverUrl) (.init own) events' = some loop') ∧
    ∀ events' loop', Erases a events events' →
      Runs.run (MessageLoop.step fromSlice serverUrl) (.init own) events' = some loop' →
      ∀ before after, events = before ++ after →
        ∃ before' after' mid mid', events' = before' ++ after' ∧ Erases a before before' ∧
          Runs.run (MessageLoop.step fromSlice serverUrl) (.init own) before = some mid ∧
          Runs.run (MessageLoop.step fromSlice serverUrl) (.init own) before' = some mid' ∧
          ∀ b ≠ a, mid'.registry.standing b = mid.registry.standing b := by
  refine ⟨exists_erased_run fromSlice serverUrl a events complete (.init own), ?_⟩
  rintro events' loop' erased ran' before after rfl
  obtain ⟨before', after', rfl, earlier⟩ := erased.split
  obtain ⟨mid, reached, _⟩ := (Runs.run_append_iff ..).mp ran
  obtain ⟨mid', reached', _⟩ := (Runs.run_append_iff ..).mp ran'
  refine ⟨before', after', mid, mid', rfl, earlier, reached, reached', ?_⟩
  intro b differs
  have complete : ∀ e ∈ before, e.SweepsComplete := fun e member =>
    complete e (List.mem_append_left _ member)
  have made : ∀ e ∈ before, e.FromHandshake := fun e member =>
    made e (List.mem_append_left _ member)
  have complete' := earlier.forall (fun _ _ => trivial) complete
  have made' : ∀ e ∈ before', e.FromHandshake :=
    earlier.forall (fun _ _ _ registered => by cases registered) made
  rw [standing_run before complete made (ownTopics_init own) reached,
    standing_run before' complete' made' (ownTopics_init own) reached']
  exact earlier.foldl_after differs _

/-- Two beacons, of which the second is never heard. -/
def silentNeighbour : List LoopEvent :=
  [.channel .tick (listenChannel "7b1d") 0 (.ok ()),
   .channel .tick (broadcastChannel "c20e") 0 (.ok ()),
   .message .tick ⟨"7b1d/rec", []⟩ (100 * 1000000000),
   .timeouts (121 * 1000000000) ["c20e"]]

/-- The first has the same standing without it. -/
theorem silent_neighbour_erased :
    ∃ loop events' loop',
      Runs.run (MessageLoop.step (fun _ => none) "hamlet") (.init none) silentNeighbour = some loop ∧
      Erases "c20e" silentNeighbour events' ∧
      Runs.run (MessageLoop.step (fun _ => none) "hamlet") (.init none) events' = some loop' ∧
      loop'.registry.standing "7b1d" = ⟨some ⟨"7b1d/rec", "", 100 * 1000000000⟩, 0⟩ := by
  have made : ∀ e ∈ silentNeighbour, e.FromHandshake := by
    simp only [silentNeighbour, List.forall_mem_cons, LoopEvent.FromHandshake, LoopEvent.channel?]
    simp [handshakeChannels, listenChannel, broadcastChannel]
  obtain ⟨⟨events', loop', erased, ran'⟩, agree⟩ :=
    beacons_do_not_interfere (fun _ => none) "hamlet" none "c20e" silentNeighbour _ (by decide) made rfl
  obtain ⟨before', after', mid, mid', shape, earlier, reached, reached', same⟩ :=
    agree events' loop' erased ran' silentNeighbour [] (List.append_nil _).symm
  refine ⟨mid, before', mid', reached, earlier, reached', ?_⟩
  rw [same "7b1d" (by decide)]
  cases reached
  rfl

end Hamlet
