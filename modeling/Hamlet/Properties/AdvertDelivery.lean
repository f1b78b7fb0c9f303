import Hamlet.BeaconManagement.GatewayLinks
import Hamlet.Lib.History
import Hamlet.Properties.GatewayExclusion
import Hamlet.Properties.GatewaySession

/-!
# What the advertised gateways are told

Each connection task of the beacon message loop is the task of one connection, whose only message
is the advert that it was opened for. It goes on as long as a record holds its shutdown sender,
and after that it ends.
-/

namespace Hamlet

open BeaconRegistry

/-- The gateway that a payload advertises. -/
def GatewayMessage.advertises (msg : GatewayMessage) : Option String :=
  match msg with
  | .beaconRegistration _ payload =>
    (payload.asObject.bind (·.lookup "gateway_url")).bind Json.asStr
  | _ => none

/-- Opened for one advert of its gateway. -/
def Connection.Announces (serverUrl : String) (conn : Connection) : Prop :=
  ∃ payload, conn = (connectToGateway serverUrl conn.gatewayUrl).send
      (.beaconRegistration serverUrl payload) ∧
    (GatewayMessage.beaconRegistration serverUrl payload).advertises = some conn.gatewayUrl

/-! ### The loop -/

section

variable {fromSlice : List UInt8 → Option Json} {serverUrl : String} {loop loop' : MessageLoop}

/-- An iteration opens at most one connection. -/
theorem connections_step {event : LoopEvent}
    (stepped : loop.step fromSlice serverUrl event = some loop') :
    loop'.connections = loop.connections ∨
      ∃ conn, conn.Announces serverUrl ∧ loop'.connections = loop.connections ++ [conn] := by
  cases event with
  | channel cut channel now subscribed =>
    obtain ⟨_, _, rfl⟩ := Option.map_eq_some_iff.mp stepped
    exact .inl rfl
  | timeouts now order =>
    obtain ⟨_, _, rfl⟩ := Option.map_eq_some_iff.mp stepped
    exact .inl rfl
  | message cut msg now =>
    obtain ⟨reg, _, rfl⟩ := Option.map_eq_some_iff.mp stepped
    simp only [MessageLoop.handleMessage]
    split
    · exact .inl rfl
    next url advertised =>
      split
      · exact .inl rfl
      · refine .inr ⟨(connectToGateway serverUrl url).send (.beaconRegistration serverUrl
          (MessageLoop.beaconPayload fromSlice msg)), ⟨_, rfl, advertised⟩, ?_⟩
        simp only [MessageLoop.joinGateway]
        split <;> rfl

theorem shutdownTxOf_dropSweep {reg reg' : BeaconRegistry} {cut : Cut} {id : String} {tx : Nat}
    (dropped : reg.dropSweep cut = some reg') (holds : reg'.shutdownTxOf id = some tx) :
    reg.shutdownTxOf id = some tx := by
  cases cut with
  | tick =>
    cases dropped
    exact holds
  | during now done current rest point =>
    obtain ⟨_, abandoned⟩ := Option.ite_none_right_eq_some.mp dropped
    rw [shutdownTxOf, abandon_records abandoned, lookup_erase_eq] at holds
    split at holds
    · cases holds
    · rw [lookup_foldl_deregister] at holds
      split at holds
      · cases holds
      · exact holds

/-- No iteration brings a dropped sender back. -/
theorem shutdownTxOf_step {event : LoopEvent} {id : String} {tx : Nat}
    (stepped : loop.step fromSlice serverUrl event = some loop')
    (holds : loop'.registry.shutdownTxOf id = some tx) :
    loop.registry.shutdownTxOf id = some tx ∨
      tx = loop.connections.length ∧ loop'.connections.length = loop.connections.length + 1 := by
  cases event with
  | channel cut channel now subscribed =>
    obtain ⟨reg, dropped, rfl⟩ := Option.map_eq_some_iff.mp stepped
    have kept := bind_registerChannel (·.gatewayShutdownTx) reg channel now subscribed id rfl
      fun _ _ _ => rfl
    exact .inl (shutdownTxOf_dropSweep dropped (kept.symm.trans holds))
  | timeouts now order =>
    obtain ⟨reg, swept, rfl⟩ := Option.map_eq_some_iff.mp stepped
    obtain ⟨_, shape⟩ := Option.ite_none_right_eq_some.mp swept
    cases shape
    rw [shutdownTxOf, lookup_foldl_deregister] at holds
    split at holds
    · cases holds
    · exact .inl holds
  | message cut msg now =>
    obtain ⟨reg, dropped, rfl⟩ := Option.map_eq_some_iff.mp stepped
    have refreshed (still : (MessageLoop.refreshSender reg msg now).shutdownTxOf id = some tx) :
        loop.registry.shutdownTxOf id = some tx :=
      shutdownTxOf_dropSweep dropped
        ((bind_refreshSender _ reg msg now id fun _ => rfl).symm.trans still)
    simp only [MessageLoop.handleMessage] at holds ⊢
    split at holds
    · exact .inl (refreshed holds)
    next url advertised =>
      split at holds
      · exact .inl (refreshed holds)
      next unknown =>
        simp only [MessageLoop.joinGateway] at holds ⊢
        rw [if_neg unknown]
        split at holds
        next sender _ =>
          rcases shutdownTxOf_associateGateway holds with ⟨rfl, _⟩ | ⟨still, _⟩
          · exact .inr ⟨rfl, by simp⟩
          · exact .inl (refreshed still)
        next => exact .inl (refreshed holds)

end

/-! ### A task -/

namespace GatewayLink

variable {serverUrl : String} {link link' : GatewayLink} {action : LinkAction}

/-- A task ends for its shutdown signal and for nothing else. -/
def EndsAsTold (link : GatewayLink) : Prop :=
  link.phase = .closing ∨ link.phase = .stopped → link.shutdown = true

/-- Only others give the task messages and signals. -/
theorem own_step (own : action.isOwn) (stepped : link.step serverUrl action = some link') :
    link'.accepted = link.accepted ∧ link'.shutdown = link.shutdown := by
  cases step_cases serverUrl link link' action stepped with
  | enqueued | signalled => cases own
  | _ => exact ⟨rfl, rfl⟩

theorem endsAsTold_step (ends : link.EndsAsTold)
    (stepped : link.step serverUrl action = some link') : link'.EndsAsTold := by
  cases step_cases serverUrl link link' action stepped with
  | enqueued msg outbound live queued => exact ends
  | signalled => exact fun _ => rfl
  | abandoned signalled phase => exact fun _ => signalled
  | shuttingDown signalled phase => exact fun _ => signalled
  | closed phase => exact fun _ => ends (.inl phase)
  | unclosed e phase => exact fun _ => ends (.inl phase)
  | unsent msg serialised sent next failed phase goesOn =>
    rcases goesOn with rfl | rfl <;> simp [EndsAsTold]
  | received item next phase goesOn =>
    rcases goesOn with rfl | rfl | ⟨data, rfl⟩ <;> simp [EndsAsTold]
  | _ => simp [EndsAsTold]

/-- What a task says of itself, without the shutdown signal. -/
structure Serves (serverUrl : String) (accepted : List GatewayMessage) (link : GatewayLink) :
    Prop where
  reached : ∃ actions, Runs.run (GatewayLink.step serverUrl) .init actions = some link
  accepted : link.accepted = accepted
  session : SessionInvariant serverUrl link
  ends : link.EndsAsTold

theorem serves_init : Serves serverUrl [] .init where
  reached := ⟨[], rfl⟩
  accepted := rfl
  session := sessionInvariant_init serverUrl
  ends := by simp [EndsAsTold, init]

theorem Serves.next {accepted : List GatewayMessage} (serves : link.Serves serverUrl accepted)
    (stepped : link.step serverUrl action = some link') :
    link'.Serves serverUrl link'.accepted where
  reached := by
    obtain ⟨actions, ran⟩ := serves.reached
    exact ⟨actions ++ [action], (Runs.run_append_iff ..).mpr
      ⟨link, ran, (Runs.run_cons_iff ..).mpr ⟨link', stepped, rfl⟩⟩⟩
  accepted := rfl
  session := sessionInvariant_step serves.session action stepped
  ends := endsAsTold_step serves.ends stepped

/-- A task that nobody has told to end takes a first message at once. -/
theorem Serves.enqueue (serves : link.Serves serverUrl []) (untold : link.shutdown = false)
    (msg : GatewayMessage) : ∃ link', link.step serverUrl (.enqueue msg) = some link' ∧
      link'.accepted = [msg] ∧ link'.shutdown = false := by
  have live : link.phase ≠ .stopped := fun stopped => by simp [serves.ends (.inr stopped)] at untold
  have empty : link.outbound.buffer = [] := by
    have order := serves.session.order
    rw [serves.accepted, List.sublist_nil, List.append_eq_nil_iff] at order
    exact order.2
  obtain ⟨outbound, pushed⟩ := Option.ne_none_iff_exists'.mp
    (mt (BoundedQueue.push_none_iff link.outbound msg).mp (by simp [BoundedQueue.Full, empty]))
  refine ⟨{ link with outbound, accepted := link.accepted ++ [msg] }, ?_, ?_, untold⟩
  · simp [step, pushed]
  · simp [serves.accepted]

/-- Beside `Register` no text frame carries anything but what the opener has queued. -/
theorem Serves.texts {accepted : List GatewayMessage} (serves : link.Serves serverUrl accepted)
    {session : List Frame} (member : session ∈ link.sessions) {msg : GatewayMessage}
    (text : .text msg ∈ session) : msg = .register serverUrl ∨ msg ∈ accepted := by
  cases session with
  | nil => cases text
  | cons first rest =>
    rcases List.mem_cons.mp text with rfl | later
    · have opening := serves.session.registerFirst _ member (.text msg) (by simp)
      injection opening with same
      exact .inl same
    · refine .inr ?_
      rw [← serves.accepted]
      refine serves.session.order.subset ?_
      have queued : msg ∈ link.queuedSent := List.mem_flatMap.mpr ⟨_, List.mem_reverse.mpr member,
        List.mem_filterMap.mpr ⟨_, later, rfl⟩⟩
      simp [queued]

end GatewayLink

/-! ### The loop with its tasks -/

namespace GatewayLinks

section

variable {fromSlice : List UInt8 → Option Json} {serverUrl : String} {own : Option String}
  {s s' : GatewayLinks} {i : Nat}

theorem held_iff (loop : MessageLoop) (tx : Nat) :
    Held loop tx ↔ ∃ id, loop.registry.shutdownTxOf id = some tx := by
  constructor
  · rintro ⟨id, _, holds⟩
    exact ⟨id, holds⟩
  · rintro ⟨id, holds⟩
    obtain ⟨record, found, _⟩ := Option.bind_eq_some_iff.mp holds
    exact ⟨id, Finmap.mem_keys.mpr (Finmap.mem_iff.mpr ⟨record, found⟩), holds⟩

theorem held_step {event : LoopEvent} {loop loop' : MessageLoop} {tx : Nat}
    (stepped : loop.step fromSlice serverUrl event = some loop') (held : Held loop' tx) :
    Held loop tx ∨
      tx = loop.connections.length ∧ loop'.connections.length = loop.connections.length + 1 := by
  obtain ⟨id, holds⟩ := (held_iff ..).mp held
  exact (shutdownTxOf_step stepped holds).imp_left fun before => (held_iff ..).mpr ⟨id, before⟩

theorem stepLink_iff (action : LinkAction) :
    s.stepLink serverUrl i action = some s' ↔ ∃ link link', s.links[i]? = some link ∧
      link.step serverUrl action = some link' ∧ s' = { s with links := s.links.set i link' } := by
  simp only [stepLink, Option.bind_eq_bind, Option.bind_eq_some_iff, Option.pure_def,
    Option.some.injEq]
  constructor
  · rintro ⟨link, found, link', stepped, rfl⟩
    exact ⟨link, link', found, stepped, rfl⟩
  · rintro ⟨link, link', found, stepped, rfl⟩
    exact ⟨link, found, link', stepped, rfl⟩

/-- The loop has not queued the advert yet. -/
def Waits (s : GatewayLinks) (i : Nat) : Prop := s.queueing ∧ i + 1 = s.links.length

instance (s : GatewayLinks) (i : Nat) : Decidable (s.Waits i) :=
  inferInstanceAs (Decidable (_ ∧ _))

/-- What every run keeps. -/
structure Linked (serverUrl : String) (own : Option String) (s : GatewayLinks) : Prop where
  exclusive : GatewaysExclusive own s.loop
  announces : ∀ conn ∈ s.loop.connections, conn.Announces serverUrl
  lengths : s.links.length = s.loop.connections.length
  nonempty : s.queueing → s.links ≠ []
  serves : ∀ (i : Nat) (link : GatewayLink) (conn : Connection), s.links[i]? = some link →
    s.loop.connections[i]? = some conn →
      link.Serves serverUrl (if s.Waits i then [] else conn.outbound)
  told : ∀ (i : Nat) (link : GatewayLink), s.links[i]? = some link → link.shutdown →
    ¬Held s.loop i ∧ ¬s.Waits i

theorem linked_init : Linked serverUrl own (.init own) where
  exclusive := by
    constructor
    · intro url configured
      simpa [init, MessageLoop.init, BeaconRegistry.new] using configured
    all_goals simp [init, MessageLoop.init, BeaconRegistry.new, gatewayOf, shutdownTxOf]
  announces _ member := nomatch member
  lengths := rfl
  nonempty queueing := nomatch queueing
  serves i link conn found := by simp [init] at found
  told i link found := by simp [init] at found

/-- One task takes a step, with which the advert may come to be queued. -/
theorem Linked.set (inv : s.Linked serverUrl own) {link' : GatewayLink} {queueing : Bool}
    (fewer : queueing → s.queueing) (last : s.queueing → queueing = false → i + 1 = s.links.length)
    (serves : ∀ conn, s.loop.connections[i]? = some conn → link'.Serves serverUrl
      (if queueing ∧ i + 1 = s.links.length then [] else conn.outbound))
    (told : link'.shutdown → ¬Held s.loop i ∧ ¬(queueing ∧ i + 1 = s.links.length)) :
    Linked serverUrl own { s with links := s.links.set i link', queueing } := by
  have waits (j : Nat) (other : i ≠ j) :
      Waits { s with links := s.links.set i link', queueing } j ↔ s.Waits j := by
    simp only [Waits, List.length_set]
    refine ⟨fun ⟨still, at'⟩ => ⟨fewer still, at'⟩, fun ⟨was, at'⟩ => ⟨?_, at'⟩⟩
    cases now : queueing with
    | true => rfl
    | false => exact absurd (Nat.succ.inj ((last was now).trans at'.symm)) other
  refine ⟨inv.exclusive, inv.announces, by rw [List.length_set]; exact inv.lengths, ?_, ?_, ?_⟩
  · intro now none
    exact inv.nonempty (fewer now) (by simpa using none)
  · intro j link conn found opened
    rw [List.getElem?_set] at found
    split at found
    next same =>
      subst same
      obtain ⟨_, rfl⟩ := by simpa using found
      simpa [Waits] using serves conn opened
    next other =>
      rw [if_congr (waits j other) rfl rfl]
      exact inv.serves j link conn found opened
  · intro j link found signalled
    rw [List.getElem?_set] at found
    split at found
    next same =>
      subst same
      obtain ⟨_, rfl⟩ := by simpa using found
      simpa [Waits] using told signalled
    next other =>
      obtain ⟨unheld, queued⟩ := inv.told j link found signalled
      exact ⟨unheld, mt (waits j other).mp queued⟩

/-- A step of the loop up to `handle.send`. -/
theorem linked_loop {event : LoopEvent} {loop : MessageLoop} (inv : s.Linked serverUrl own)
    (settled : s.Settled) (stepped : s.loop.step fromSlice serverUrl event = some loop) :
    Linked serverUrl own
      (if loop.connections.length = s.loop.connections.length then { s with loop }
        else { loop, links := s.links ++ [.init], queueing := true }) := by
  have idle (i : Nat) : ¬s.Waits i := by simp [Waits, settled.1]
  have exclusive := inv.exclusive.step fromSlice serverUrl event stepped
  rcases connections_step stepped with same | ⟨conn, announces, opened⟩
  · rw [if_pos (by rw [same])]
    refine ⟨exclusive, same ▸ inv.announces, same ▸ inv.lengths, inv.nonempty, ?_, ?_⟩
    · intro i link conn found at'
      exact inv.serves i link conn found (same ▸ at')
    · intro i link found signalled
      refine ⟨fun held => ?_, idle i⟩
      rcases held_step stepped held with before | ⟨_, more⟩
      · exact (inv.told i link found signalled).1 before
      · rw [same] at more
        exact absurd more (Nat.ne_of_lt (Nat.lt_succ_self _))
  · have more : loop.connections.length = s.links.length + 1 := by
      rw [opened, List.length_append, List.length_singleton, inv.lengths]
    rw [if_neg (by rw [more, inv.lengths]; exact Nat.succ_ne_self _)]
    refine ⟨exclusive, ?_, by simp [more], by simp, ?_, ?_⟩
    · rw [opened]
      simp only [List.forall_mem_append, List.forall_mem_singleton]
      exact ⟨inv.announces, announces⟩
    · intro i link conn' found at'
      rw [opened, History.getElem?_concat_iff] at at'
      rcases (History.getElem?_concat_iff ..).mp found with old | ⟨rfl, rfl⟩
      · have below := (List.getElem?_eq_some_iff.mp old).1
        have serves := inv.serves i link conn' old (at'.resolve_right fun new => by
          rw [new.1, inv.lengths] at below
          exact absurd below (Nat.lt_irrefl _))
        rw [if_neg (idle i)] at serves
        rwa [if_neg (by simp [Waits]; omega)]
      · -- the new task, whose advert is not queued yet
        rw [if_pos (by simp [Waits])]
        exact GatewayLink.serves_init
    · intro i link found signalled
      rcases (History.getElem?_concat_iff ..).mp found with old | ⟨rfl, rfl⟩
      · have below := (List.getElem?_eq_some_iff.mp old).1
        refine ⟨fun held => ?_, by simp [Waits]; omega⟩
        rcases held_step stepped held with before | ⟨new, _⟩
        · exact (inv.told i link old signalled).1 before
        · rw [new, inv.lengths] at below
          exact absurd below (Nat.lt_irrefl _)
      · cases signalled

/-- The advert is the only message of its connection, and `handle.send` finds the task alive with
room in its queue. -/
theorem Linked.enqueue (inv : s.Linked serverUrl own) (queueing : s.queueing) :
    ∃ link link' conn msg, s.links[s.links.length - 1]? = some link ∧
      s.loop.connections[s.links.length - 1]? = some conn ∧ conn.outbound = [msg] ∧
      s.registration = some msg ∧ s.Waits (s.links.length - 1) ∧
      link.step serverUrl (.enqueue msg) = some link' ∧ link'.Serves serverUrl conn.outbound ∧
      link'.shutdown = false := by
  have positive : 0 < s.links.length := List.length_pos_iff.mpr (inv.nonempty queueing)
  have below : s.links.length - 1 < s.links.length := by omega
  have waits : s.Waits (s.links.length - 1) := ⟨queueing, by omega⟩
  obtain ⟨link, found⟩ : ∃ link, s.links[s.links.length - 1]? = some link :=
    ⟨_, List.getElem?_eq_getElem below⟩
  obtain ⟨conn, opened⟩ : ∃ conn, s.loop.connections[s.links.length - 1]? = some conn :=
    ⟨_, List.getElem?_eq_getElem (inv.lengths ▸ below)⟩
  obtain ⟨payload, shape, _⟩ := inv.announces conn (List.mem_of_getElem? opened)
  have outbound : conn.outbound = [.beaconRegistration serverUrl payload] := by
    rw [shape]
    rfl
  have queued : s.registration = some (.beaconRegistration serverUrl payload) := by
    rw [GatewayLinks.registration, List.getLast?_eq_getElem?, ← inv.lengths, opened,
      Option.bind_some, outbound]
    rfl
  -- its sender is still with the loop, so nobody has told the task to end
  have untold : link.shutdown = false := by
    by_contra told
    exact (inv.told _ link found (by simpa using told)).2 waits
  have serves := inv.serves _ link conn found opened
  rw [if_pos waits] at serves
  obtain ⟨link', moved, accepted, still⟩ :=
    serves.enqueue untold (.beaconRegistration serverUrl payload)
  have next := serves.next moved
  rw [accepted, ← outbound] at next
  exact ⟨link, link', conn, _, found, opened, outbound, queued, waits, moved, next, still⟩

theorem linked_step {action : GatewayLinksAction} (inv : s.Linked serverUrl own)
    (stepped : s.step fromSlice serverUrl action = some s') : s'.Linked serverUrl own := by
  cases action with
  | loop event =>
    obtain ⟨settled, iterated⟩ := Option.ite_none_right_eq_some.mp stepped
    obtain ⟨loop, moved, rfl⟩ := Option.map_eq_some_iff.mp iterated
    exact linked_loop inv settled moved
  | queue =>
    obtain ⟨queueing, sent⟩ := Option.ite_none_right_eq_some.mp stepped
    obtain ⟨link, link', conn, msg, found, opened, _, queued, waits, moved, serves, untold⟩ :=
      inv.enqueue queueing
    rw [queued, Option.bind_some, (stepLink_iff _).mpr ⟨link, link', found, moved, rfl⟩] at sent
    cases sent
    refine inv.set (fun now => nomatch now) (fun _ _ => waits.2) ?_ fun told => ?_
    · intro conn' opened'
      cases opened.symm.trans opened'
      exact serves
    · rw [untold] at told
      cases told
  | dropSender tx =>
    obtain ⟨free, dropped⟩ := Option.ite_none_left_eq_some.mp stepped
    obtain ⟨link, link', found, moved, rfl⟩ := (stepLink_iff _).mp dropped
    simp only [not_or] at free
    refine inv.set id (fun now off => absurd now (by simp [off])) ?_ fun _ => ⟨free.1, free.2.2⟩
    intro conn opened
    have serves := inv.serves tx link conn found opened
    have next := serves.next moved
    cases moved
    exact serves.accepted ▸ next
  | link i action =>
    obtain ⟨own, goesOn⟩ := Option.ite_none_right_eq_some.mp stepped
    obtain ⟨link, link', found, moved, rfl⟩ := (stepLink_iff _).mp goesOn
    obtain ⟨accepted, shutdown⟩ := GatewayLink.own_step own moved
    refine inv.set id (fun now off => absurd now (by simp [off])) ?_ fun signalled =>
      inv.told i link found (shutdown ▸ signalled)
    intro conn opened
    have serves := inv.serves i link conn found opened
    have next := serves.next moved
    rw [accepted, serves.accepted] at next
    exact next

theorem linked_run {actions : List GatewayLinksAction}
    (ran : Runs.run (step fromSlice serverUrl) (.init own) actions = some s) :
    s.Linked serverUrl own :=
  Runs.run_invariant _ (Linked serverUrl own) (fun _ _ _ inv stepped => linked_step inv stepped)
    (.init own) s actions linked_init ran

theorem Linked.texts (inv : s.Linked serverUrl own) {link : GatewayLink}
    {conn : Connection} (found : s.links[i]? = some link)
    (opened : s.loop.connections[i]? = some conn) {session : List Frame}
    (member : session ∈ link.sessions) {msg : GatewayMessage} (text : .text msg ∈ session) :
    msg = .register serverUrl ∨ msg ∈ conn.outbound := by
  refine ((inv.serves i link conn found opened).texts member text).imp_right fun accepted => ?_
  split at accepted
  · cases accepted
  · exact accepted

/-- Before the advert is queued nothing can be sent of it. -/
theorem Linked.queuedSent (inv : s.Linked serverUrl own) {link : GatewayLink} {conn : Connection}
    (found : s.links[i]? = some link) (opened : s.loop.connections[i]? = some conn) :
    link.queuedSent.Sublist conn.outbound := by
  have serves := inv.serves i link conn found opened
  have sent : link.queuedSent.Sublist link.accepted :=
    ((List.sublist_append_left ..).trans (List.sublist_append_left ..)).trans serves.session.order
  rw [serves.accepted] at sent
  split at sent
  · rw [List.sublist_nil.mp sent]
    exact List.nil_sublist _
  · exact sent

theorem Linked.queue (inv : s.Linked serverUrl own) (queueing : s.queueing) :
    (s.step fromSlice serverUrl .queue).isSome := by
  obtain ⟨link, link', conn, msg, found, _, _, queued, _, moved, _⟩ := inv.enqueue queueing
  have stepped := (stepLink_iff (.enqueue msg)).mpr ⟨link, link', found, moved, rfl⟩
  simp [step, queueing, queued, stepped]

/-- A task that was not told to end is held, as soon as the loop is back at its `select!`. -/
theorem Settled.unsignalled (settled : s.Settled) {link : GatewayLink} {conn : Connection}
    (found : s.links[i]? = some link) (opened : s.loop.connections[i]? = some conn)
    (untold : link.shutdown = false) : s.loop.Unsignalled i conn := by
  refine ⟨opened, (held_iff ..).mp ?_⟩
  refine (settled.2 i (List.getElem?_eq_some_iff.mp found).1).resolve_right ?_
  simp [found, untold]

/-- The iterations of the loop. -/
def event? : GatewayLinksAction → Option LoopEvent
  | .loop event => some event
  | .queue | .dropSender _ | .link _ _ => none

theorem stepLink_loop {action : LinkAction} (moved : s.stepLink serverUrl i action = some s') :
    s'.loop = s.loop := by
  obtain ⟨_, _, _, _, rfl⟩ := (stepLink_iff _).mp moved
  rfl

/-- The loop does not notice its tasks. -/
theorem loop_run {actions : List GatewayLinksAction}
    (ran : Runs.run (step fromSlice serverUrl) (.init own) actions = some s) :
    Runs.run (MessageLoop.step fromSlice serverUrl) (.init own) (actions.filterMap event?) =
      some s.loop := by
  refine Runs.run_view _ (MessageLoop.step fromSlice serverUrl) GatewayLinks.loop event? ?_ ?_ _ _
    actions ran
  · intro s action s' stepped silent
    cases action with
    | loop event => cases silent
    | queue =>
      obtain ⟨_, sent⟩ := Option.ite_none_right_eq_some.mp stepped
      obtain ⟨msg, _, sent⟩ := Option.bind_eq_some_iff.mp sent
      obtain ⟨t, moved, rfl⟩ := Option.map_eq_some_iff.mp sent
      have kept : t.loop = s.loop := stepLink_loop moved
      exact kept
    | dropSender tx => exact stepLink_loop (Option.ite_none_left_eq_some.mp stepped).2
    | link i action => exact stepLink_loop (Option.ite_none_right_eq_some.mp stepped).2
  · intro s action s' event stepped shown
    cases action with
    | loop event' =>
      cases shown
      obtain ⟨_, iterated⟩ := Option.ite_none_right_eq_some.mp stepped
      obtain ⟨loop, moved, rfl⟩ := Option.map_eq_some_iff.mp iterated
      rw [moved]
      split <;> rfl
    | queue | dropSender | link => cases shown

end

end GatewayLinks

open GatewayLinks

/-- In every run of the loop with its tasks, loop and tasks run as each does alone, and
`handle.send` never waits and never fails. A task sends `Register` first on every connection, and
beside it at most once, over all reconnects, the advert of the gateway it goes to; it ends only if
no record holds it; and no two tasks that were not told to end go to one gateway, or to the
configured one. -/
theorem advert_delivery (fromSlice : List UInt8 → Option Json) (serverUrl : String)
    (own : Option String) (actions : List GatewayLinksAction) (s : GatewayLinks)
    (ran : Runs.run (step fromSlice serverUrl) (.init own) actions = some s) :
    Runs.run (MessageLoop.step fromSlice serverUrl) (.init own) (actions.filterMap event?) =
        some s.loop ∧
    s.links.length = s.loop.connections.length ∧
    (s.queueing → (s.step fromSlice serverUrl .queue).isSome) ∧
    (∀ (i : Nat) (link : GatewayLink) (conn : Connection), s.links[i]? = some link →
      s.loop.connections[i]? = some conn →
        conn.Announces serverUrl ∧ link.queuedSent.Sublist conn.outbound ∧
        (∀ session ∈ link.sessions, RegisterFirst serverUrl session ∧
          ∀ msg, .text msg ∈ session → msg = .register serverUrl ∨ msg ∈ conn.outbound) ∧
        link.EndsAsTold ∧ (link.shutdown → ¬Held s.loop i) ∧
        ∃ steps, Runs.run (GatewayLink.step serverUrl) .init steps = some link) ∧
    (s.Settled → ∀ (i : Nat) (link : GatewayLink) (conn : Connection), s.links[i]? = some link →
      s.loop.connections[i]? = some conn → link.shutdown = false →
        own ≠ some conn.gatewayUrl ∧ ∀ (j : Nat) (link' : GatewayLink) (conn' : Connection),
          s.links[j]? = some link' → s.loop.connections[j]? = some conn' →
            link'.shutdown = false → conn.gatewayUrl = conn'.gatewayUrl → i = j) := by
  have inv := linked_run ran
  refine ⟨loop_run ran, inv.lengths, inv.queue, ?_, ?_⟩
  · intro i link conn found opened
    have serves := inv.serves i link conn found opened
    exact ⟨inv.announces conn (List.mem_of_getElem? opened), inv.queuedSent found opened,
      fun session member => ⟨serves.session.registerFirst session member,
        fun msg text => inv.texts found opened member text⟩,
      serves.ends, fun told => (inv.told i link found told).1, serves.reached⟩
  · -- a task that was not told to end is held, and a URL is held once
    intro settled i link conn found opened untold
    have first := settled.unsignalled found opened untold
    constructor
    · obtain ⟨_, id, sender⟩ := first
      obtain ⟨old, found, dialled⟩ := inv.exclusive.held id i sender
      cases opened.symm.trans found
      exact inv.exclusive.foreign id conn.gatewayUrl dialled
    · intro j link' conn' found' opened' untold' same
      exact inv.exclusive.unsignalled first (settled.unsignalled found' opened' untold') same

/-- A task connects before its advert is queued, and ends when its beacon has timed out. -/
def advertRun : List GatewayLinksAction :=
  heldAdvert.map .loop ++
    [.link 0 .attempt, .link 0 (.connect (.ok ())), .link 0 (.register (.ok ()) (.ok ())), .queue,
      .link 0 .takeMessage, .link 0 (.send (.ok ()) (.ok ())),
      .loop (.timeouts (beaconTimeout + 2) ["7b1d"]), .dropSender 0, .link 0 .takeShutdown,
      .link 0 (.sendClose (.ok ()))]

theorem advertRun_delivers : ∃ s conn link,
    Runs.run (step sampleFromSlice "hamlet") (.init none) advertRun = some s ∧ s.Settled ∧
      s.loop.connections = [conn] ∧ s.links = [link] ∧ conn.wsUrl = "wss://hub/ws" ∧
      link.sessions.map List.length = [3] ∧ conn.Announces "hamlet" ∧
      link.queuedSent.Sublist conn.outbound := by
  obtain ⟨s, conn, link, ran, settled, connections, links, wsUrl, sessions⟩ : ∃ s conn link,
      Runs.run (step sampleFromSlice "hamlet") (.init none) advertRun = some s ∧ s.Settled ∧
        s.loop.connections = [conn] ∧ s.links = [link] ∧ conn.wsUrl = "wss://hub/ws" ∧
        link.sessions.map List.length = [3] :=
    ⟨_, _, _, rfl, by decide, rfl, rfl, by decide, rfl⟩
  obtain ⟨_, _, _, each, _⟩ := advert_delivery sampleFromSlice "hamlet" none advertRun s ran
  obtain ⟨announces, sent, _⟩ := each 0 link conn (by simp [links]) (by simp [connections])
  exact ⟨s, conn, link, ran, settled, connections, links, wsUrl, sessions, announces, sent⟩

/-! ### How a task ends -/

/-- The task goes on with something else where it could take its shutdown signal. -/
def LinkAction.ignores : LinkAction → Bool
  | .attempt | .connect _ | .takeMessage | .receive _ => true
  | .enqueue _ | .signalShutdown | .register _ _ | .takeShutdown | .send _ _ | .sendPong _
  | .sendClose _ | .wake => false

namespace GatewayLink

variable {serverUrl : String} {link link' : GatewayLink} {action : LinkAction}

/-- The most steps to the end, if the signal is taken as soon as it can be. -/
def stepsLeft (link : GatewayLink) : Nat :=
  match link.phase with
  | .stopped => 0
  | .reconnecting | .connecting | .closing => 1
  | .selecting | .sleeping => 2
  | .registering | .sending _ | .ponging _ => 3

theorem stepsLeft_le (link : GatewayLink) : link.stepsLeft ≤ 3 := by
  unfold stepsLeft
  split <;> decide

theorem stepsLeft_step (own : action.isOwn) (stepped : link.step serverUrl action = some link') :
    link'.stepsLeft + 1 ≤ link.stepsLeft + if action.ignores then 3 else 0 := by
  cases step_cases serverUrl link link' action stepped with
  | enqueued | signalled => cases own
  | abandoned signalled phase =>
    rcases phase with phase | phase <;> simp [stepsLeft, phase, LinkAction.ignores]
  | unsent msg serialised sent next failed phase goesOn =>
    rcases goesOn with rfl | rfl <;> simp [stepsLeft, phase, LinkAction.ignores]
  | received item next phase goesOn =>
    rcases goesOn with rfl | rfl | ⟨data, rfl⟩ <;> simp [stepsLeft, phase, LinkAction.ignores]
  | _ => simp_all [stepsLeft, LinkAction.ignores]

/-- What others do to a task leaves it where it is. -/
theorem stepsLeft_of_others (others : action.isOwn = false)
    (stepped : link.step serverUrl action = some link') :
    link'.stepsLeft = link.stepsLeft ∧ (link.shutdown → link'.shutdown) := by
  cases step_cases serverUrl link link' action stepped with
  | enqueued msg outbound live queued => exact ⟨rfl, id⟩
  | signalled => exact ⟨rfl, fun _ => rfl⟩
  | _ => cases others

/-- A task that was told to end can always go on, without ignoring the signal. -/
theorem goes_on (serverUrl : String) (told : link.shutdown) :
    link.phase = .stopped ∨
      ∃ action, action.isOwn ∧ action.ignores = false ∧ (link.step serverUrl action).isSome := by
  cases phase : link.phase with
  | stopped => exact .inl rfl
  | reconnecting | connecting | selecting =>
    exact .inr ⟨.takeShutdown, rfl, rfl, by simp [step, told, phase]⟩
  | registering => exact .inr ⟨.register (.ok ()) (.ok ()), rfl, rfl, by simp [step, phase]⟩
  | sending msg => exact .inr ⟨.send (.ok ()) (.ok ()), rfl, rfl, by simp [step, phase]⟩
  | ponging data => exact .inr ⟨.sendPong (.ok ()), rfl, rfl, by simp [step, phase]⟩
  | closing => exact .inr ⟨.sendClose (.ok ()), rfl, rfl, by simp [step, phase]⟩
  | sleeping => exact .inr ⟨.wake, rfl, rfl, by simp [step, phase]⟩

end GatewayLink

namespace GatewayLinks

variable {fromSlice : List UInt8 → Option Json} {serverUrl : String} {s s' : GatewayLinks} {i : Nat}

/-- The steps of one task. -/
def stepOf (i : Nat) : GatewayLinksAction → Option LinkAction
  | .link j action => if j = i then some action else none
  | .loop _ | .queue | .dropSender _ => none

/-- A step that is none of the task's own leaves its steps to go alone. -/
theorem others_step {action : GatewayLinksAction} (others : stepOf i action = none)
    (stepped : s.step fromSlice serverUrl action = some s') {link : GatewayLink}
    (found : s.links[i]? = some link) :
    ∃ link', s'.links[i]? = some link' ∧ link'.stepsLeft = link.stepsLeft ∧
      (link.shutdown → link'.shutdown) := by
  have acted {j : Nat} {acting : LinkAction} {t : GatewayLinks}
      (allowed : j ≠ i ∨ acting.isOwn = false)
      (moved : s.stepLink serverUrl j acting = some t) :
      ∃ link', t.links[i]? = some link' ∧ link'.stepsLeft = link.stepsLeft ∧
        (link.shutdown → link'.shutdown) := by
    obtain ⟨old, new, there, moved, rfl⟩ := (stepLink_iff _).mp moved
    by_cases same : j = i
    · subst same
      cases there.symm.trans found
      obtain ⟨left, told⟩ :=
        GatewayLink.stepsLeft_of_others (allowed.resolve_left (· rfl)) moved
      exact ⟨new, by simp [(List.getElem?_eq_some_iff.mp found).1], left, told⟩
    · exact ⟨link, by simpa [same] using found, rfl, id⟩
  cases action with
  | loop event =>
    obtain ⟨_, iterated⟩ := Option.ite_none_right_eq_some.mp stepped
    obtain ⟨loop, _, rfl⟩ := Option.map_eq_some_iff.mp iterated
    refine ⟨link, ?_, rfl, id⟩
    split
    · exact found
    · rw [List.getElem?_append_left (List.getElem?_eq_some_iff.mp found).1]
      exact found
  | queue =>
    obtain ⟨_, sent⟩ := Option.ite_none_right_eq_some.mp stepped
    obtain ⟨msg, _, sent⟩ := Option.bind_eq_some_iff.mp sent
    obtain ⟨t, moved, rfl⟩ := Option.map_eq_some_iff.mp sent
    obtain ⟨link', there, same⟩ := acted (.inr rfl) moved
    exact ⟨link', there, same⟩
  | dropSender tx => exact acted (.inr rfl) (Option.ite_none_left_eq_some.mp stepped).2
  | link j action =>
    refine acted (.inl ?_) (Option.ite_none_right_eq_some.mp stepped).2
    rintro rfl
    simp [stepOf] at others

/-- Each step of a task is one less to go, unless it ignores the signal. -/
theorem stepsLeft_run {later : List GatewayLinksAction}
    (ran : Runs.run (step fromSlice serverUrl) s later = some s') {link : GatewayLink}
    (found : s.links[i]? = some link) :
    ∃ link', s'.links[i]? = some link' ∧ (link.shutdown → link'.shutdown) ∧
      link'.stepsLeft + (later.filterMap (stepOf i)).length ≤
        link.stepsLeft + 3 * (later.filterMap (stepOf i)).countP LinkAction.ignores := by
  induction later generalizing s link with
  | nil =>
    cases ran
    exact ⟨link, found, id, by simp⟩
  | cons action later ih =>
    obtain ⟨t, stepped, rest⟩ := (Runs.run_cons_iff ..).mp ran
    -- the steps of the others leave the measure alone
    cases mine : stepOf i action with
    | none =>
      obtain ⟨next, there, left, told⟩ := others_step mine stepped found
      obtain ⟨link', last, still, bound⟩ := ih rest there
      refine ⟨link', last, still ∘ told, ?_⟩
      rwa [List.filterMap_cons_none mine, ← left]
    | some acting =>
      obtain ⟨j, own⟩ : ∃ j, action = .link j acting ∧ j = i := by
        cases action with
        | link j a =>
          obtain ⟨same, acts⟩ := Option.ite_none_right_eq_some.mp mine
          exact ⟨j, by rw [Option.some.inj acts], same⟩
        | loop | queue | dropSender => cases mine
      obtain ⟨rfl, rfl⟩ := own
      obtain ⟨own, moved⟩ := Option.ite_none_right_eq_some.mp stepped
      obtain ⟨old, next, there, moved, rfl⟩ := (stepLink_iff _).mp moved
      cases there.symm.trans found
      have one := GatewayLink.stepsLeft_step own moved
      have told := (GatewayLink.own_step own moved).2
      have there : (s.links.set j next)[j]? = some next := by
        simp [(List.getElem?_eq_some_iff.mp found).1]
      obtain ⟨link', last, still, bound⟩ := ih rest there
      refine ⟨link', last, fun signalled => still (told ▸ signalled), ?_⟩
      rw [List.filterMap_cons_some mine, List.length_cons, List.countP_cons]
      split at one <;> simp only [*, if_true, Bool.false_eq_true, if_false] <;> omega

end GatewayLinks

/-- A task whose shutdown sender is dropped takes at most three steps more, and three for each
time that it ignores the signal, whatever the network, the loop and the other tasks do; and until
it has ended it can go on without ignoring it. -/
theorem told_task_ends (fromSlice : List UInt8 → Option Json) (serverUrl : String)
    (s : GatewayLinks) (i : Nat) (link : GatewayLink) (found : s.links[i]? = some link)
    (told : link.shutdown) (later : List GatewayLinksAction) (t : GatewayLinks)
    (ran : Runs.run (step fromSlice serverUrl) s later = some t) :
    (later.filterMap (stepOf i)).length ≤
        3 + 3 * (later.filterMap (stepOf i)).countP LinkAction.ignores ∧
      ∃ link', t.links[i]? = some link' ∧ (link'.phase = .stopped ∨ ∃ action,
        action.ignores = false ∧ (t.step fromSlice serverUrl (.link i action)).isSome) := by
  obtain ⟨link', last, still, bound⟩ := stepsLeft_run ran found
  constructor
  · have most := link.stepsLeft_le
    omega
  · refine ⟨link', last, (link'.goes_on serverUrl (still told)).imp_right ?_⟩
    rintro ⟨action, own, heeds, moves⟩
    obtain ⟨next, moved⟩ := Option.isSome_iff_exists.mp moves
    refine ⟨action, heeds, ?_⟩
    simp [step, own, (stepLink_iff action).mpr ⟨link', next, last, moved, rfl⟩]

/-- A ping comes between the signal and the end. -/
def lastSteps : List GatewayLinksAction :=
  [.link 0 (.receive (some (.ok (.ping [])))), .link 0 (.sendPong (.ok ())), .link 0 .takeShutdown,
    .link 0 (.sendClose (.ok ()))]

theorem lastSteps_end : ∃ s link t,
    Runs.run (step sampleFromSlice "hamlet") (.init none) (advertRun.take 10) = some s ∧
      s.links = [link] ∧ Runs.run (step sampleFromSlice "hamlet") s lastSteps = some t ∧
      (lastSteps.filterMap (stepOf 0)).length ≤
        3 + 3 * (lastSteps.filterMap (stepOf 0)).countP LinkAction.ignores ∧
      t.links.map GatewayLink.stepsLeft = [0] := by
  obtain ⟨s, link, t, ran, links, told, rest, ended⟩ : ∃ s link t,
      Runs.run (step sampleFromSlice "hamlet") (.init none) (advertRun.take 10) = some s ∧
        s.links = [link] ∧ link.shutdown ∧
        Runs.run (step sampleFromSlice "hamlet") s lastSteps = some t ∧
        t.links.map GatewayLink.stepsLeft = [0] :=
    ⟨_, _, _, rfl, rfl, rfl, rfl, rfl⟩
  have bound := (told_task_ends sampleFromSlice "hamlet" s 0 link (by simp [links]) told lastSteps t
    rest).1
  exact ⟨s, link, t, ran, links, rest, bound, ended⟩

end Hamlet
