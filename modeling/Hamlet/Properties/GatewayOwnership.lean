import Hamlet.BeaconManagement.MessageLoop

/-!
# Who holds a gateway connection

`known_gateways` suppresses a second connection to a gateway, and only a sweep of the
record that holds the connection takes a URL out again. A URL is therefore leaked when no
record holds its connection: the advert came from nobody the registry knows, or a later
advert of the same beacon replaced the association.
-/

namespace Hamlet

open BeaconRegistry (Cut)

/-- A live record names `url` and keeps the shutdown sender of a connection to it. -/
def HoldsGateway (loop : MessageLoop) (url : String) : Prop :=
  ∃ id r tx conn, loop.registry.records.lookup id = some r ∧ r.gatewayUrl = some url ∧
    r.gatewayShutdownTx = some tx ∧ loop.connections[tx]? = some conn ∧ conn.gatewayUrl = url

def NoLeakedGateway (own : Option String) (loop : MessageLoop) : Prop :=
  ∀ url ∈ loop.registry.knownGateways, own ≠ some url → HoldsGateway loop url

/-- An unknown gateway is advertised only by a registered beacon that has none. -/
def AdvertisedByFreeBeacon (fromSlice : List UInt8 → Option Json) (loop : MessageLoop) :
    LoopEvent → Prop
  | .message _ msg _ =>
    (MessageLoop.beaconGatewayUrl fromSlice msg).all fun url =>
      loop.registry.isGatewayKnown url ||
        ((MessageLoop.senderOf msg.topic).bind loop.registry.records.lookup).any
          (·.gatewayUrl = none)
  | _ => True

instance (fromSlice : List UInt8 → Option Json) (loop : MessageLoop) :
    DecidablePred (AdvertisedByFreeBeacon fromSlice loop)
  | .message _ _ _ => inferInstanceAs (Decidable (_ = true))
  | .channel _ _ _ _ | .timeouts _ _ => inferInstanceAs (Decidable True)

/-! ### One operation -/

/-- Every record stays, with its gateway and its sender. -/
def KeepsGateways (before after : BeaconRegistry) : Prop :=
  ∀ id r, before.records.lookup id = some r → ∃ r', after.records.lookup id = some r' ∧
    r'.gatewayUrl = r.gatewayUrl ∧ r'.gatewayShutdownTx = r.gatewayShutdownTx

theorem KeepsGateways.trans {a b c : BeaconRegistry} (first : KeepsGateways a b)
    (second : KeepsGateways b c) : KeepsGateways a c := by
  intro id r found
  obtain ⟨r', found', url', tx'⟩ := first id r found
  obtain ⟨r'', found'', url'', tx''⟩ := second id r' found'
  exact ⟨r'', found'', url''.trans url', tx''.trans tx'⟩

theorem keepsGateways_of_eq {before after : BeaconRegistry}
    (same : after.records = before.records) : KeepsGateways before after := by
  intro id r found
  exact ⟨r, same ▸ found, rfl, rfl⟩

theorem keepsGateways_modifyRecord (reg : BeaconRegistry) (id : String)
    (f : BeaconRecord → BeaconRecord) (url : ∀ r, (f r).gatewayUrl = r.gatewayUrl)
    (tx : ∀ r, (f r).gatewayShutdownTx = r.gatewayShutdownTx) :
    KeepsGateways reg (reg.modifyRecord id f) := by
  intro other r found
  rw [BeaconRegistry.lookup_modifyRecord, found]
  split
  · exact ⟨f r, rfl, url r, tx r⟩
  · exact ⟨r, rfl, rfl, rfl⟩

theorem keepsGateways_ensureRecord (reg : BeaconRegistry) (id : String) (now : Nat) :
    KeepsGateways reg (reg.ensureRecord id now) := by
  intro other r found
  refine ⟨r, ?_, rfl, rfl⟩
  rw [BeaconRegistry.lookup_ensureRecord]
  split
  next same => rw [← same, found, Option.getD_some]
  next => exact found

/-- Registering a channel is about topics only. -/
theorem keepsGateways_registerChannel (reg : BeaconRegistry) (channel : TopicChannel) (now : Nat)
    (subscribed : Except String Unit) :
    KeepsGateways reg (reg.registerChannel channel now subscribed) := by
  unfold BeaconRegistry.registerChannel
  apply (keepsGateways_ensureRecord reg channel.beaconId now).trans
  cases channel.topicType with
  | listen =>
    apply KeepsGateways.trans (b := BeaconRegistry.issue _ _) (keepsGateways_of_eq rfl)
    cases subscribed with
    | error e => exact keepsGateways_of_eq rfl
    | ok u => apply keepsGateways_modifyRecord <;> exact fun _ => rfl
  | broadcast =>
    apply KeepsGateways.trans (b := BeaconRegistry.pushBroadcast _ _) (keepsGateways_of_eq rfl)
    apply keepsGateways_modifyRecord <;> exact fun _ => rfl
  | hybrid =>
    cases subscribed with
    | error e => exact keepsGateways_of_eq rfl
    | ok u =>
      apply KeepsGateways.trans (b := BeaconRegistry.pushBroadcast (BeaconRegistry.issue _ _) _)
        (keepsGateways_of_eq rfl)
      apply keepsGateways_modifyRecord <;> exact fun _ => rfl

theorem keepsGateways_refreshSender (reg : BeaconRegistry) (msg : MqttMessage) (now : Nat) :
    KeepsGateways reg (MessageLoop.refreshSender reg msg now) := by
  unfold MessageLoop.refreshSender
  split
  · apply keepsGateways_modifyRecord <;> exact fun _ => rfl
  · exact keepsGateways_of_eq rfl

theorem registerChannel_knownGateways (reg : BeaconRegistry) (channel : TopicChannel) (now : Nat)
    (subscribed : Except String Unit) :
    (reg.registerChannel channel now subscribed).knownGateways = reg.knownGateways := by
  unfold BeaconRegistry.registerChannel
  cases channel.topicType with
  | broadcast => simp [BeaconRegistry.pushBroadcast]
  | listen | hybrid =>
    cases subscribed <;> simp [BeaconRegistry.pushBroadcast, BeaconRegistry.issue]

theorem refreshSender_knownGateways (reg : BeaconRegistry) (msg : MqttMessage) (now : Nat) :
    (MessageLoop.refreshSender reg msg now).knownGateways = reg.knownGateways := by
  unfold MessageLoop.refreshSender
  split <;> simp [BeaconRegistry.updateLastSeen]

section

variable {own : Option String} {loop : MessageLoop}

/-- Nothing leaks by an operation that keeps the records' gateways and learns no URL. -/
theorem noLeakedGateway_of_keeps (sound : NoLeakedGateway own loop) (reg : BeaconRegistry)
    (keeps : KeepsGateways loop.registry reg)
    (known : reg.knownGateways = loop.registry.knownGateways) :
    NoLeakedGateway own { loop with registry := reg } := by
  intro url member foreign
  obtain ⟨id, r, tx, conn, found, hasUrl, hasTx, opened, dials⟩ := sound url (known ▸ member) foreign
  obtain ⟨r', found', sameUrl, sameTx⟩ := keeps id r found
  exact ⟨id, r', tx, conn, found', sameUrl.trans hasUrl, sameTx.trans hasTx, opened, dials⟩

/-- A round evicts the URL of the record it removes. -/
theorem noLeakedGateway_deregister (sound : NoLeakedGateway own loop) (id : String) :
    NoLeakedGateway own { loop with registry := loop.registry.deregister id } := by
  intro url member foreign
  obtain ⟨member, notEvicted⟩ :=
    (BeaconRegistry.mem_knownGateways_deregister loop.registry id url).mp member
  obtain ⟨holder, r, tx, conn, found, hasUrl, rest⟩ := sound url member foreign
  refine ⟨holder, r, tx, conn, ?_, hasUrl, rest⟩
  dsimp only
  rw [BeaconRegistry.lookup_deregister, if_neg, found]
  -- the removed record's own URL would have been evicted
  rintro rfl
  rw [found, Option.bind_some] at notEvicted
  exact notEvicted hasUrl

theorem noLeakedGateway_sweep (sound : NoLeakedGateway own loop) (order : List String) :
    NoLeakedGateway own
      { loop with registry := order.foldl BeaconRegistry.deregister loop.registry } := by
  induction order generalizing loop with
  | nil => exact sound
  | cons id order ih => exact ih (noLeakedGateway_deregister sound id)

/-- A free beacon takes the new connection and gives up none. -/
theorem noLeakedGateway_joinGateway (fromSlice : List UInt8 → Option Json) (serverUrl : String)
    (sound : NoLeakedGateway own loop) (msg : MqttMessage) (url id : String) (r : BeaconRecord)
    (sender : MessageLoop.senderOf msg.topic = some id)
    (found : loop.registry.records.lookup id = some r) (free : r.gatewayUrl = none) :
    NoLeakedGateway own (loop.joinGateway fromSlice serverUrl msg url) := by
  intro url' member foreign
  simp only [MessageLoop.joinGateway, sender, BeaconRegistry.associateGateway,
    BeaconRegistry.insertGateway, BeaconRegistry.modifyRecord_knownGateways,
    Finset.mem_insert] at member
  unfold HoldsGateway MessageLoop.joinGateway
  simp only [sender, BeaconRegistry.associateGateway, BeaconRegistry.lookup_modifyRecord]
  rcases member with rfl | member
  · -- the new URL
    refine ⟨id, { r with gatewayUrl := some url', gatewayShutdownTx := some loop.connections.length },
      loop.connections.length, _, ?_, rfl, rfl, List.getElem?_concat_length, rfl⟩
    rw [if_pos rfl]
    exact congrArg (Option.map _) found
  · -- an older URL: its holder is not the sender, which held none
    obtain ⟨holder, r', tx, conn, found', hasUrl, hasTx, opened, dials⟩ := sound url' member foreign
    have other : holder ≠ id := by
      rintro rfl
      cases found.symm.trans found'
      cases free.symm.trans hasUrl
    refine ⟨holder, r', tx, conn, ?_, hasUrl, hasTx, ?_, dials⟩
    · rw [if_neg other]
      exact found'
    · rw [List.getElem?_append_left (List.getElem?_eq_some_iff.mp opened).1]
      exact opened

theorem noLeakedGateway_handleMessage (fromSlice : List UInt8 → Option Json) (serverUrl : String)
    (sound : NoLeakedGateway own loop) (cut : Cut) (msg : MqttMessage) (now : Nat)
    (free : AdvertisedByFreeBeacon fromSlice loop (.message cut msg now)) :
    NoLeakedGateway own (loop.handleMessage fromSlice serverUrl msg now) := by
  have keeps := keepsGateways_refreshSender loop.registry msg now
  have known := refreshSender_knownGateways loop.registry msg now
  have refreshed := noLeakedGateway_of_keeps sound _ keeps known
  unfold MessageLoop.handleMessage
  dsimp only
  split
  · exact refreshed
  next url advertised =>
    split
    · exact refreshed
    next unknown =>
      -- refreshing `last_seen` did not change what the condition speaks about
      simp only [AdvertisedByFreeBeacon, advertised, Option.all_some, Bool.or_eq_true,
        Option.any_eq_true, Option.bind_eq_some_iff, decide_eq_true_eq] at free
      rcases free with stale | ⟨r, ⟨id, sender, found⟩, noUrl⟩
      · simp only [BeaconRegistry.isGatewayKnown, known] at unknown stale
        exact absurd stale unknown
      · obtain ⟨r', found', sameUrl, _⟩ := keeps id r found
        exact noLeakedGateway_joinGateway fromSlice serverUrl refreshed msg url id r' sender found'
          (sameUrl.trans noUrl)

theorem noLeakedGateway_step (fromSlice : List UInt8 → Option Json) (serverUrl : String)
    (sound : NoLeakedGateway own loop) (e : LoopEvent) (complete : e.SweepsComplete)
    (free : AdvertisedByFreeBeacon fromSlice loop e) (loop' : MessageLoop)
    (stepped : loop.step fromSlice serverUrl e = some loop') : NoLeakedGateway own loop' := by
  cases e with
  | channel cut channel now subscribed =>
    cases (show cut = .tick from complete)
    cases stepped
    exact noLeakedGateway_of_keeps sound _
      (keepsGateways_registerChannel loop.registry channel now subscribed)
      (registerChannel_knownGateways loop.registry channel now subscribed)
  | timeouts now order =>
    simp only [MessageLoop.step, BeaconRegistry.checkTimeouts, Option.map_eq_some_iff,
      Option.ite_none_right_eq_some, Option.some.injEq] at stepped
    obtain ⟨_, ⟨_, rfl⟩, rfl⟩ := stepped
    exact noLeakedGateway_sweep sound order
  | message cut msg now =>
    cases (show cut = .tick from complete)
    cases stepped
    exact noLeakedGateway_handleMessage fromSlice serverUrl sound .tick msg now free

end

/-! ### Whole runs -/

/-- With sweeps that run to their end, no URL leaks if each unknown gateway is advertised on
the topic of a registered beacon whose record has no gateway yet. -/
theorem known_gateways_are_held (fromSlice : List UInt8 → Option Json) (serverUrl : String)
    (own : Option String) (events : List LoopEvent) (loop : MessageLoop)
    (complete : ∀ e ∈ events, e.SweepsComplete)
    (ran : Runs.run (Runs.restrict (AdvertisedByFreeBeacon fromSlice)
      (MessageLoop.step fromSlice serverUrl)) (MessageLoop.init own) events = some loop) :
    NoLeakedGateway own loop := by
  have initial : NoLeakedGateway own (MessageLoop.init own) := by
    intro url member foreign
    exact absurd (by simpa [MessageLoop.init, BeaconRegistry.new] using member) foreign
  refine (Runs.run_remaining _
    (fun loop events => NoLeakedGateway own loop ∧ ∀ e ∈ events, e.SweepsComplete) ?_
    (MessageLoop.init own) loop events ⟨initial, complete⟩ ran).1
  intro before e rest after ⟨sound, complete⟩ stepped
  obtain ⟨free, stepped⟩ := (Runs.restrict_iff ..).mp stepped
  have now := complete e (List.mem_cons_self ..)
  have later := fun e' member => complete e' (List.mem_cons_of_mem _ member)
  exact ⟨noLeakedGateway_step fromSlice serverUrl sound e now free after stepped, later⟩

/-! ### Concrete runs -/

/-- The JSON text of an advert, and what the parser makes of it. -/
def advertBytes : List UInt8 :=
  "\x7b\"gateway_url\":\"wss://hub\"\x7d".toList.map fun c => UInt8.ofNat c.toNat

def sampleFromSlice (bytes : List UInt8) : Option Json :=
  if bytes = advertBytes then some (.object [("gateway_url", .string "wss://hub")]) else none

/-- A registered beacon advertises a gateway. -/
def heldAdvert : List LoopEvent :=
  [.channel .tick (listenChannel "7b1d") 0 (.ok ()),
   .message .tick ⟨"7b1d/rec", advertBytes⟩ 1]

theorem advert_of_registered_beacon_is_held :
    ∃ loop, Runs.run (Runs.restrict (AdvertisedByFreeBeacon sampleFromSlice)
        (MessageLoop.step sampleFromSlice "hamlet")) (MessageLoop.init none) heldAdvert =
          some loop ∧
      loop.registry.knownGateways = {"wss://hub"} ∧ NoLeakedGateway none loop :=
  ⟨_, rfl, by decide, known_gateways_are_held sampleFromSlice "hamlet" none heldAdvert _
    (by decide) rfl⟩

/-- The same advert on the `registration` topic: the gateway is marked as connected for ever,
while the sender that keeps the connection open is dropped at once. -/
theorem advert_on_registration_topic_leaks :
    ∃ loop, Runs.run (MessageLoop.step sampleFromSlice "hamlet") (MessageLoop.init none)
        [.message .tick ⟨"registration", advertBytes⟩ 1] = some loop ∧
      ¬NoLeakedGateway none loop := by
  refine ⟨_, rfl, ?_⟩
  intro sound
  obtain ⟨id, r, _, _, found, _⟩ := sound "wss://hub" (by decide) (by decide)
  have gone : Finmap.lookup id (∅ : BeaconRecords) = some r := found
  simp at gone

end Hamlet
