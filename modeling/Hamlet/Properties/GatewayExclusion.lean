import Hamlet.Properties.GatewayOwnership
import Hamlet.Properties.Timeouts

/-!
# One holder for each gateway

A connection is opened only for a URL that is not yet known, and the URL of every record stays
known until the record goes. So no two records hold connections to the same URL, and none holds
one to the gateway that is configured. Sweeps that are dropped half-way remove records without
their URLs, which errs on the safe side.
-/

namespace Hamlet

open BeaconRegistry

/-- The sender of a connection is held by the record of a registered beacon. -/
def MessageLoop.Unsignalled (loop : MessageLoop) (tx : Nat) (conn : Connection) : Prop :=
  loop.connections[tx]? = some conn ∧ ∃ id, loop.registry.shutdownTxOf id = some tx

/-- Known URLs, records and connections fit together. -/
structure GatewaysExclusive (own : Option String) (loop : MessageLoop) : Prop where
  own_known : ∀ url, own = some url → url ∈ loop.registry.knownGateways
  known : ∀ id url, loop.registry.gatewayOf id = some url → url ∈ loop.registry.knownGateways
  distinct : ∀ a b url, loop.registry.gatewayOf a = some url →
    loop.registry.gatewayOf b = some url → a = b
  /-- No record holds a connection to the configured gateway. -/
  foreign : ∀ id url, loop.registry.gatewayOf id = some url → own ≠ some url
  /-- The sender in a record belongs to a connection to the URL in the record. -/
  held : ∀ id tx, loop.registry.shutdownTxOf id = some tx →
    ∃ conn, loop.connections[tx]? = some conn ∧ loop.registry.gatewayOf id = some conn.gatewayUrl

/-! ### What a record says about its gateway -/

section

variable {β : Type} (field : BeaconRecord → Option β) (reg : BeaconRegistry)

theorem bind_modifyRecord (target id : String) (f : BeaconRecord → BeaconRecord)
    (kept : ∀ r, field (f r) = field r) :
    ((reg.modifyRecord target f).records.lookup id).bind field =
      (reg.records.lookup id).bind field := by
  rw [lookup_modifyRecord]
  split
  · cases reg.records.lookup id with
    | none => rfl
    | some record => exact kept record
  · rfl

theorem bind_ensureRecord (target id : String) (now : Nat) (absent : field (.fresh now) = none) :
    ((reg.ensureRecord target now).records.lookup id).bind field =
      (reg.records.lookup id).bind field := by
  rw [lookup_ensureRecord]
  split
  next same =>
    rw [same]
    cases reg.records.lookup target with
    | none => exact absent
    | some record => rfl
  next => rfl

/-- Registering a channel leaves alone what is neither a topic nor set in a new record. -/
theorem bind_registerChannel (channel : TopicChannel) (now : Nat) (subscribed : Except String Unit)
    (id : String) (absent : field (.fresh now) = none)
    (kept : ∀ r listen broadcast,
      field { r with listenTopic := listen, broadcastTopic := broadcast } = field r) :
    ((reg.registerChannel channel now subscribed).records.lookup id).bind field =
      (reg.records.lookup id).bind field := by
  have ensured := bind_ensureRecord field reg channel.beaconId id now absent
  simp only [registerChannel]
  cases channel.topicType with
  | listen =>
    cases subscribed with
    | error e => exact ensured
    | ok u =>
      simp only
      rw [bind_modifyRecord field _ _ _ _ fun r => kept r channel.topic.topic r.broadcastTopic]
      exact ensured
  | broadcast =>
    simp only
    rw [bind_modifyRecord field _ _ _ _ fun r => kept r r.listenTopic channel.topic.topic]
    exact ensured
  | hybrid =>
    cases subscribed with
    | error e => exact ensured
    | ok u =>
      simp only
      rw [bind_modifyRecord field _ _ _ _ fun r => kept r channel.topic.topic channel.topic.topic]
      exact ensured

theorem bind_refreshSender (msg : MqttMessage) (now : Nat) (id : String)
    (kept : ∀ r, field { r with lastSeen := now } = field r) :
    ((MessageLoop.refreshSender reg msg now).records.lookup id).bind field =
      (reg.records.lookup id).bind field := by
  simp only [MessageLoop.refreshSender]
  split
  · exact bind_modifyRecord field reg _ id _ kept
  · rfl

end

theorem gatewayOf_deregister (reg : BeaconRegistry) (id other : String) :
    (reg.deregister id).gatewayOf other = if other = id then none else reg.gatewayOf other := by
  simp only [gatewayOf, lookup_deregister]
  split <;> rfl

theorem shutdownTxOf_deregister (reg : BeaconRegistry) (id other : String) :
    (reg.deregister id).shutdownTxOf other = if other = id then none else reg.shutdownTxOf other := by
  simp only [shutdownTxOf, lookup_deregister]
  split <;> rfl

/-- The sender of an advert now holds its gateway; every other beacon holds what it held. -/
theorem gatewayOf_associateGateway {reg : BeaconRegistry} {target url other found : String} {tx : Nat}
    (holds : (reg.associateGateway target url tx).gatewayOf other = some found) :
    other = target ∧ found = url ∨ other ≠ target ∧ reg.gatewayOf other = some found := by
  simp only [gatewayOf, associateGateway, lookup_modifyRecord] at holds
  split at holds
  next same =>
    obtain ⟨record, registered, named⟩ := Option.bind_eq_some_iff.mp holds
    obtain ⟨_, _, rfl⟩ := Option.map_eq_some_iff.mp registered
    cases named
    exact .inl ⟨same, rfl⟩
  next differs => exact .inr ⟨differs, holds⟩

theorem shutdownTxOf_associateGateway {reg : BeaconRegistry} {target url other : String}
    {tx found : Nat} (holds : (reg.associateGateway target url tx).shutdownTxOf other = some found) :
    (found = tx ∧ (reg.associateGateway target url tx).gatewayOf other = some url) ∨
      (reg.shutdownTxOf other = some found ∧
        (reg.associateGateway target url tx).gatewayOf other = reg.gatewayOf other) := by
  simp only [shutdownTxOf, gatewayOf, associateGateway, lookup_modifyRecord] at holds ⊢
  split at holds
  next same =>
    obtain ⟨record, registered, named⟩ := Option.bind_eq_some_iff.mp holds
    obtain ⟨old, stored, rfl⟩ := Option.map_eq_some_iff.mp registered
    cases named
    left
    rw [if_pos same, stored]
    exact ⟨rfl, rfl⟩
  next differs =>
    rw [if_neg differs]
    exact .inr ⟨holds, rfl⟩

namespace GatewaysExclusive

variable {own : Option String} {loop : MessageLoop}

/-- Records may go as long as the known URLs stay. -/
theorem shrink (inv : GatewaysExclusive own loop) (reg : BeaconRegistry)
    (known : reg.knownGateways = loop.registry.knownGateways)
    (records : ∀ id, reg.records.lookup id = none ∨
      reg.gatewayOf id = loop.registry.gatewayOf id ∧
        reg.shutdownTxOf id = loop.registry.shutdownTxOf id) :
    GatewaysExclusive own { loop with registry := reg } := by
  have gateway : ∀ id url, reg.gatewayOf id = some url → loop.registry.gatewayOf id = some url := by
    intro id url holds
    rcases records id with gone | ⟨same, _⟩
    · simp [gatewayOf, gone] at holds
    · exact same.symm.trans holds
  constructor
  · rw [known]
    exact inv.own_known
  · rw [known]
    exact fun id url holds => inv.known id url (gateway id url holds)
  · exact fun a b url first second => inv.distinct a b url (gateway a url first) (gateway b url second)
  · exact fun id url holds => inv.foreign id url (gateway id url holds)
  · intro id tx sender
    rcases records id with gone | ⟨sameUrl, sameTx⟩
    · simp [shutdownTxOf, gone] at sender
    · obtain ⟨conn, opened, dialled⟩ := inv.held id tx (sameTx.symm.trans sender)
      exact ⟨conn, opened, sameUrl.trans dialled⟩

/-- The URL that a round evicts belongs to no other record and is not the configured one. -/
theorem deregister (inv : GatewaysExclusive own loop) (id : String) :
    GatewaysExclusive own { loop with registry := loop.registry.deregister id } := by
  have evicts : ∀ url, loop.registry.gatewayOf id ≠ some url → url ∈ loop.registry.knownGateways →
      url ∈ (loop.registry.deregister id).knownGateways := by
    intro url other member
    exact (mem_knownGateways_deregister ..).mpr ⟨member, other⟩
  constructor
  · intro url configured
    exact evicts url (fun holds => inv.foreign id url holds configured) (inv.own_known url configured)
  · -- another record with the evicted URL would be the removed one
    intro other url holds
    rw [gatewayOf_deregister] at holds
    obtain ⟨differs, holds⟩ := Option.ite_none_left_eq_some.mp holds
    exact evicts url (fun same => differs (inv.distinct other id url holds same))
      (inv.known other url holds)
  · intro a b url first second
    rw [gatewayOf_deregister] at first second
    exact inv.distinct a b url (Option.ite_none_left_eq_some.mp first).2
      (Option.ite_none_left_eq_some.mp second).2
  · intro other url holds
    rw [gatewayOf_deregister] at holds
    exact inv.foreign other url (Option.ite_none_left_eq_some.mp holds).2
  · intro other tx sender
    rw [shutdownTxOf_deregister] at sender
    obtain ⟨differs, sender⟩ := Option.ite_none_left_eq_some.mp sender
    obtain ⟨conn, opened, dialled⟩ := inv.held other tx sender
    refine ⟨conn, opened, ?_⟩
    rw [gatewayOf_deregister, if_neg differs]
    exact dialled

theorem foldl_deregister (inv : GatewaysExclusive own loop) (order : List String) :
    GatewaysExclusive own
      { loop with registry := order.foldl BeaconRegistry.deregister loop.registry } := by
  induction order generalizing loop with
  | nil => exact inv
  | cons id order ih => exact ih (inv.deregister id)

theorem checkTimeouts (inv : GatewaysExclusive own loop) {now : Nat} {order : List String}
    {reg : BeaconRegistry} (swept : loop.registry.checkTimeouts now order = some reg) :
    GatewaysExclusive own { loop with registry := reg } := by
  simp only [BeaconRegistry.checkTimeouts] at swept
  obtain ⟨_, shape⟩ := Option.ite_none_right_eq_some.mp swept
  cases shape
  exact inv.foldl_deregister order

theorem dropSweep (inv : GatewaysExclusive own loop) {cut : Cut} {reg : BeaconRegistry}
    (dropped : loop.registry.dropSweep cut = some reg) :
    GatewaysExclusive own { loop with registry := reg } := by
  cases cut with
  | tick =>
    cases dropped
    exact inv
  | during now done current rest point =>
    simp only [BeaconRegistry.dropSweep] at dropped
    obtain ⟨_, abandoned⟩ := Option.ite_none_right_eq_some.mp dropped
    -- the abandoned round removes its record and leaves the URL known
    apply (inv.foldl_deregister done).shrink
    · obtain rfl | ⟨record, rfl⟩ := abandon_cases abandoned <;> simp
    · intro id
      simp only [gatewayOf, shutdownTxOf, abandon_records abandoned, lookup_erase_eq]
      split
      · exact .inl rfl
      · exact .inr ⟨rfl, rfl⟩

/-- A new connection that nobody holds. -/
theorem learn (inv : GatewaysExclusive own loop) (url : String) (conn : Connection) :
    GatewaysExclusive own
      { registry := loop.registry.insertGateway url, connections := loop.connections ++ [conn] } := by
  constructor
  · intro configured isOwn
    exact Finset.mem_insert_of_mem (inv.own_known configured isOwn)
  · intro id known holds
    exact Finset.mem_insert_of_mem (inv.known id known holds)
  · exact inv.distinct
  · exact inv.foreign
  · intro id tx sender
    obtain ⟨old, opened, dialled⟩ := inv.held id tx sender
    refine ⟨old, ?_, dialled⟩
    rw [List.getElem?_append_left (List.getElem?_eq_some_iff.mp opened).1]
    exact opened

/-- A known URL that no record holds is given to one. -/
theorem associate (inv : GatewaysExclusive own loop) (id url : String) (tx : Nat) (conn : Connection)
    (known : url ∈ loop.registry.knownGateways)
    (free : ∀ other, loop.registry.gatewayOf other ≠ some url) (foreign : own ≠ some url)
    (opened : loop.connections[tx]? = some conn) (dialled : conn.gatewayUrl = url) :
    GatewaysExclusive own { loop with registry := loop.registry.associateGateway id url tx } := by
  have sameKnown : (loop.registry.associateGateway id url tx).knownGateways =
      loop.registry.knownGateways := modifyRecord_knownGateways ..
  constructor
  · rw [sameKnown]
    exact inv.own_known
  · intro other found holds
    rw [sameKnown]
    rcases gatewayOf_associateGateway holds with ⟨_, rfl⟩ | ⟨_, holds⟩
    · exact known
    · exact inv.known other found holds
  · intro a b found first second
    -- one of the two may be the new holder, and nobody else holds the new URL
    rcases gatewayOf_associateGateway first with ⟨rfl, rfl⟩ | ⟨_, held⟩
    · rcases gatewayOf_associateGateway second with ⟨rfl, _⟩ | ⟨_, held⟩
      · rfl
      · exact absurd held (free b)
    · rcases gatewayOf_associateGateway second with ⟨rfl, rfl⟩ | ⟨_, held'⟩
      · exact absurd held (free a)
      · exact inv.distinct a b found held held'
  · intro other found holds
    rcases gatewayOf_associateGateway holds with ⟨_, rfl⟩ | ⟨_, holds⟩
    · exact foreign
    · exact inv.foreign other found holds
  · intro other found sender
    rcases shutdownTxOf_associateGateway sender with ⟨rfl, holds⟩ | ⟨sender, same⟩
    · exact ⟨conn, opened, dialled ▸ holds⟩
    · obtain ⟨old, opened, dialled⟩ := inv.held other found sender
      exact ⟨old, opened, same.trans dialled⟩

section

variable (fromSlice : List UInt8 → Option Json) (serverUrl : String)

/-- Nobody holds a URL that is not known. -/
theorem joinGateway (inv : GatewaysExclusive own loop) (msg : MqttMessage) (url : String)
    (unknown : url ∉ loop.registry.knownGateways) :
    GatewaysExclusive own (loop.joinGateway fromSlice serverUrl msg url) := by
  simp only [MessageLoop.joinGateway]
  split
  next id sender =>
    apply (inv.learn url _).associate
    · exact Finset.mem_insert_self ..
    · exact fun other holds => unknown (inv.known other url holds)
    · exact fun configured => unknown (inv.own_known url configured)
    · exact List.getElem?_concat_length
    · rfl
  next => exact inv.learn url _

theorem handleMessage (inv : GatewaysExclusive own loop) (msg : MqttMessage) (now : Nat) :
    GatewaysExclusive own (loop.handleMessage fromSlice serverUrl msg now) := by
  have refreshed : GatewaysExclusive own
      { loop with registry := MessageLoop.refreshSender loop.registry msg now } := by
    apply inv.shrink
    · exact refreshSender_knownGateways loop.registry msg now
    · intro id
      exact .inr ⟨bind_refreshSender _ loop.registry msg now id fun _ => rfl,
        bind_refreshSender _ loop.registry msg now id fun _ => rfl⟩
  simp only [MessageLoop.handleMessage]
  split
  · exact refreshed
  next url advertised =>
    split
    · exact refreshed
    next unknown =>
      apply refreshed.joinGateway
      simpa [isGatewayKnown] using unknown

theorem step (inv : GatewaysExclusive own loop) (event : LoopEvent) {loop' : MessageLoop}
    (stepped : loop.step fromSlice serverUrl event = some loop') : GatewaysExclusive own loop' := by
  cases event with
  | channel cut channel now subscribed =>
    obtain ⟨reg, dropped, rfl⟩ := Option.map_eq_some_iff.mp stepped
    apply (inv.dropSweep dropped).shrink
    · exact registerChannel_knownGateways reg channel now subscribed
    · intro id
      exact .inr ⟨bind_registerChannel _ reg channel now subscribed id rfl fun _ _ _ => rfl,
        bind_registerChannel _ reg channel now subscribed id rfl fun _ _ _ => rfl⟩
  | timeouts now order =>
    obtain ⟨reg, swept, rfl⟩ := Option.map_eq_some_iff.mp stepped
    exact inv.checkTimeouts swept
  | message cut msg now =>
    obtain ⟨reg, dropped, rfl⟩ := Option.map_eq_some_iff.mp stepped
    exact (inv.dropSweep dropped).handleMessage fromSlice serverUrl msg now

end

/-- Two connections that are both held have different URLs. -/
theorem unsignalled (inv : GatewaysExclusive own loop) {tx tx' : Nat} {conn conn' : Connection}
    (first : loop.Unsignalled tx conn) (second : loop.Unsignalled tx' conn')
    (same : conn.gatewayUrl = conn'.gatewayUrl) : tx = tx' := by
  obtain ⟨opened, id, sender⟩ := first
  obtain ⟨opened', id', sender'⟩ := second
  obtain ⟨old, found, dialled⟩ := inv.held id tx sender
  obtain ⟨old', found', dialled'⟩ := inv.held id' tx' sender'
  cases opened.symm.trans found
  cases opened'.symm.trans found'
  -- one URL means one record, and a record holds one sender
  have holder := inv.distinct id id' conn.gatewayUrl dialled (same ▸ dialled')
  rw [holder] at sender
  exact Option.some.inj (sender.symm.trans sender')

end GatewaysExclusive

/-- In every run, with sweeps that are dropped anywhere: the configured gateway stays known, the
gateways of the records are known and distinct, and so they are when a sweep has just completed
or been dropped. No two connections that are held go to one URL, and none to the configured one. -/
theorem gateway_ownership_exclusive (fromSlice : List UInt8 → Option Json) (serverUrl : String)
    (own : Option String) (events : List LoopEvent) (loop : MessageLoop)
    (ran : Runs.run (MessageLoop.step fromSlice serverUrl) (.init own) events = some loop) :
    GatewaysExclusive own loop ∧
    (∀ now order reg, loop.registry.checkTimeouts now order = some reg →
      GatewaysExclusive own { loop with registry := reg }) ∧
    (∀ cut reg, loop.registry.dropSweep cut = some reg →
      GatewaysExclusive own { loop with registry := reg }) ∧
    ∀ tx conn, loop.Unsignalled tx conn → own ≠ some conn.gatewayUrl ∧
      ∀ tx' conn', loop.Unsignalled tx' conn' → conn.gatewayUrl = conn'.gatewayUrl → tx = tx' := by
  have initial : GatewaysExclusive own (.init own) := by
    constructor
    · intro url configured
      simpa [MessageLoop.init, BeaconRegistry.new] using configured
    all_goals simp [MessageLoop.init, BeaconRegistry.new, gatewayOf, shutdownTxOf]
  have inv : GatewaysExclusive own loop :=
    Runs.run_invariant _ (GatewaysExclusive own)
      (fun _ event _ inv stepped => inv.step fromSlice serverUrl event stepped) (.init own) loop events
      initial ran
  refine ⟨inv, fun _ _ _ swept => inv.checkTimeouts swept, fun _ _ dropped => inv.dropSweep dropped, ?_⟩
  intro tx conn held
  constructor
  · obtain ⟨opened, id, sender⟩ := held
    obtain ⟨old, found, dialled⟩ := inv.held id tx sender
    cases opened.symm.trans found
    exact inv.foreign id conn.gatewayUrl dialled
  · exact fun tx' conn' held' same => inv.unsignalled held held' same

/-- A second beacon advertises the gateway that the first one holds. -/
def contestedAdvert : List LoopEvent :=
  heldAdvert ++ [.channel .tick (listenChannel "c20e") 2 (.ok ()),
    .message .tick ⟨"c20e/rec", advertBytes⟩ 3]

/-- The first one keeps the only connection. -/
theorem contested_gateway_held_once :
    ∃ loop, Runs.run (MessageLoop.step sampleFromSlice "hamlet") (.init (some "wss://own"))
        contestedAdvert = some loop ∧
      loop.registry.gatewayOf "7b1d" = some "wss://hub" ∧ loop.registry.gatewayOf "c20e" = none ∧
      loop.connections.length = 1 ∧ GatewaysExclusive (some "wss://own") loop :=
  ⟨_, rfl, rfl, rfl, rfl, (gateway_ownership_exclusive sampleFromSlice "hamlet" (some "wss://own")
    contestedAdvert _ rfl).1⟩

end Hamlet
