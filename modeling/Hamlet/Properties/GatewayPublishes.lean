import Mathlib.Data.List.Perm.Basic
import Hamlet.GatewayMqtt.ConnectionTask
import Hamlet.Properties.Restart

/-!
# Publishing to the cloud gateway's broker

The task that fills the client's request queue is the one that empties it, and the queue goes
with its client, as do the publishes in flight. So the task must leave room for the requests it
issues before it polls again, or it waits for itself; and a connection must not end while
published messages are queued or not yet acknowledged, or they are lost.
-/

namespace Hamlet

namespace GatewayMqtt

/-- The request whose call the task awaits. -/
def awaited (s : GatewayMqtt) : Option GatewayRequest :=
  match s.phase with
  | .publishing _ msg => some (.publish msg)
  | .connecting _ request _ => some request
  | .disconnecting => some .disconnect
  | _ => none

/-- The calls that the task makes before it polls again. -/
def due (s : GatewayMqtt) : List GatewayRequest :=
  match s.phase with
  | .publishing _ msg => [.publish msg]
  | .connecting _ request rest => request :: rest
  | .disconnecting => [.disconnect]
  | _ => []

/-- The request queue has a free slot if the task awaits one. -/
def HasSlot (s : GatewayMqtt) : Prop := s.awaited.isSome → ¬s.requests.Full

/-- The free slots with which each of these calls meets one. A request that the client refuses
leaves its slot to the next. -/
def slotsFor (accepts : GatewayRequest → Bool) : List GatewayRequest → Nat
  | [] => 0
  | request :: rest => max 1 ((if accepts request then 1 else 0) + slotsFor accepts rest)

/-- The free slots for the calls that an action leads to. -/
def slotsNeeded (accepts : GatewayRequest → Bool) (s : GatewayMqtt) : GatewayMqttAction → Nat
  | .takeMessage => 1
  | .takeShutdown =>
    match s.phase with
    | .selecting _ => 1
    | _ => 0
  | .poll (.ok .connAck) =>
    match s.phase with
    | .selecting creds => slotsFor accepts (onConnected creds)
    | _ => 0
  | _ => 0

/-- A message or the shutdown is taken with a free slot, and a `ConnAck` with those that
`on_connected` needs. -/
def LeavesRoom (accepts : GatewayRequest → Bool) (s : GatewayMqtt) (action : GatewayMqttAction) :
    Prop :=
  s.requests.buffer.length + s.slotsNeeded accepts action ≤ requestCapacity

instance (accepts : GatewayRequest → Bool) (s : GatewayMqtt) (action : GatewayMqttAction) :
    Decidable (LeavesRoom accepts s action) :=
  inferInstanceAs (Decidable (s.requests.buffer.length + _ ≤ requestCapacity))

/-- The queue has room for every call that is due. -/
def Fits (accepts : GatewayRequest → Bool) (s : GatewayMqtt) : Prop :=
  s.requests.buffer.length + slotsFor accepts s.due ≤ requestCapacity

section

variable {config : GatewayMqttConfig} {accepts : GatewayRequest → Bool} {s s' : GatewayMqtt}

theorem awaited_eq_head? : s.awaited = s.due.head? := by
  cases phase : s.phase <;> simp [awaited, due, phase]

theorem slotsFor_singleton (request : GatewayRequest) : slotsFor accepts [request] = 1 := by
  simp only [slotsFor]
  split <;> rfl

theorem Fits.hasSlot (fits : Fits accepts s) : HasSlot s := by
  intro awaits full
  rw [awaited_eq_head?] at awaits
  simp only [Fits] at fits
  simp only [BoundedQueue.Full] at full
  cases calls : s.due with
  | nil => simp [calls] at awaits
  | cons request rest =>
    rw [calls, slotsFor] at fits
    omega

theorem fits_of_nothing_due (none : s.due = []) : Fits accepts s := by
  simpa [Fits, none, slotsFor] using s.requests.bounded

theorem due_connectingWith {creds : LoginResponse} {calls : List GatewayRequest}
    (phase : s.phase = connectingWith creds calls) : s.due = calls := by
  simp only [due]
  rw [phase]
  cases calls <;> rfl

/-- An accepted request takes one slot, a refused one none. -/
theorem Called.length_eq {request : GatewayRequest}
    {requests : BoundedQueue GatewayRequest requestCapacity}
    (called : Called accepts s request requests) :
    requests.buffer.length = s.requests.buffer.length + if accepts request then 1 else 0 := by
  rcases called with ⟨accepted, -, queued⟩ | ⟨refused, rfl⟩
  · rw [queued, List.length_append, List.length_singleton, if_pos accepted]
  · rw [if_neg refused, Nat.add_zero]

/-- With a free slot, the remaining calls fit exactly if all of them did. -/
theorem Called.fits_iff {creds : LoginResponse} {request : GatewayRequest}
    {rest : List GatewayRequest} {requests : BoundedQueue GatewayRequest requestCapacity}
    (called : Called accepts s request requests) (phase : s.phase = .connecting creds request rest)
    (room : ¬s.requests.Full) :
    Fits accepts { s with phase := connectingWith creds rest, requests } ↔ Fits accepts s := by
  have remaining : due { s with phase := connectingWith creds rest, requests } = rest :=
    due_connectingWith rfl
  have calls : s.due = request :: rest := by simp [due, phase]
  have used := called.length_eq
  have bounded := s.requests.bounded
  simp only [BoundedQueue.Full] at room
  rw [Fits, remaining, Fits, calls, slotsFor]
  show requests.buffer.length + slotsFor accepts rest ≤ requestCapacity ↔ _
  omega

/-- The calls after a step fit exactly if it leaves room for them. -/
theorem fits_step_iff (fits : Fits accepts s) (action : GatewayMqttAction)
    (stepped : s.step config accepts action = some s') :
    Fits accepts s' ↔ s.LeavesRoom accepts action := by
  have trivially (none : s.slotsNeeded accepts action = 0) : s.LeavesRoom accepts action := by
    simpa [LeavesRoom, none] using s.requests.bounded
  cases step_cases config accepts s s' action stepped with
  | enqueued | signalled => exact iff_of_true fits (trivially rfl)
  | polled creds event phase inert =>
    refine iff_of_true fits (trivially ?_)
    rcases inert with rfl | ⟨msg, rfl⟩ <;> rfl
  | took creds msg outbound phase =>
    simp only [Fits, LeavesRoom, slotsNeeded, due]
    rw [slotsFor_singleton]
  | shuttingDown creds signalled phase =>
    simp only [Fits, LeavesRoom, slotsNeeded, due, phase]
    rw [slotsFor_singleton]
  | connected creds phase =>
    have calls : due { s with
        phase := connectingWith creds (onConnected creds)
        delay := initialReconnectDelay
        connected := true
        log := s.log ++ [.connAck] } = onConnected creds := due_connectingWith rfl
    simp only [Fits, LeavesRoom, slotsNeeded, phase]
    rw [calls]
  | requested creds request rest requests phase called =>
    have room : ¬s.requests.Full := fits.hasSlot (by simp [awaited, phase])
    exact iff_of_true ((called.fits_iff phase room).mpr fits) (trivially rfl)
  | sent _ _ _ phase | acknowledged _ _ _ phase =>
    refine iff_of_true (fits_of_nothing_due ?_) (trivially rfl)
    simp [due, phase]
  | abandonedLogin _ phase | abandonedWait _ phase =>
    exact iff_of_true (fits_of_nothing_due rfl) (trivially (by simp [slotsNeeded, phase]))
  | _ => exact iff_of_true (fits_of_nothing_due rfl) (trivially rfl)

/-! ### A task that waits for itself -/

/-- The task awaits a slot in a full queue. -/
def Blocked (accepts : GatewayRequest → Bool) (s : GatewayMqtt) : Prop :=
  s.requests.Full ∧
    ∃ request, s.awaited = some request ∧ (s.phase = .disconnecting ∨ accepts request)

/-- Nothing but the handle and the shutdown signal moves a blocked task, and neither frees it. -/
theorem blocked_step (blocked : Blocked accepts s) (action : GatewayMqttAction)
    (stepped : s.step config accepts action = some s') :
    Blocked accepts s' ∧ s'.phase = s.phase := by
  obtain ⟨full, request, awaits, waits⟩ := blocked
  cases step_cases config accepts s s' action stepped with
  | enqueued | signalled => exact ⟨⟨full, request, awaits, waits⟩, rfl⟩
  | published creds msg requests phase called =>
    have same : GatewayRequest.publish msg = request := by simpa [awaited, phase] using awaits
    rcases called with ⟨-, room, -⟩ | ⟨refused, -⟩
    · exact absurd full room
    · simp [phase, ← same, refused] at waits
  | requested creds call rest requests phase called =>
    have same : call = request := by simpa [awaited, phase] using awaits
    rcases called with ⟨-, room, -⟩ | ⟨refused, -⟩
    · exact absurd full room
    · simp [phase, ← same, refused] at waits
  | disconnected phase room => exact absurd full room
  | _ => simp_all [awaited]

/-- A blocked task stays blocked, also when it is told to shut down. -/
theorem blocked_run (blocked : Blocked accepts s) (actions : List GatewayMqttAction)
    (ran : Runs.run (GatewayMqtt.step config accepts) s actions = some s') :
    Blocked accepts s' ∧ s'.phase = s.phase := by
  refine Runs.run_invariant _ (fun t => Blocked accepts t ∧ t.phase = s.phase) ?_ s s' actions
    ⟨blocked, rfl⟩ ran
  rintro before action after ⟨held, phase⟩ stepped
  obtain ⟨held', phase'⟩ := blocked_step held action stepped
  exact ⟨held', phase'.trans phase⟩

variable (config) in
/-- With a free slot the call returns, and the remaining calls do not fit either. -/
theorem issue_of_not_fits (excess : ¬Fits accepts s) (room : ¬s.requests.Full) :
    ∃ t, s.step config accepts .issue = some t ∧ ¬Fits accepts t ∧
      t.due.length + 1 = s.due.length := by
  -- one call would fit, so there are more of them
  have several (request : GatewayRequest) : s.due ≠ [request] := by
    intro calls
    rw [Fits, calls, slotsFor_singleton] at excess
    have bounded := s.requests.bounded
    simp only [BoundedQueue.Full] at room
    omega
  cases phase : s.phase with
  | connecting creds request rest =>
    obtain ⟨requests, returned⟩ :
        ∃ requests, callClient accepts s.requests request = some requests := by
      by_cases accepted : accepts request
      · rw [callClient, if_pos accepted]
        exact Option.ne_none_iff_exists'.mp fun full =>
          room ((BoundedQueue.push_none_iff ..).mp full)
      · exact ⟨s.requests, if_neg accepted⟩
    have called := called_of_callClient returned
    refine ⟨{ s with phase := connectingWith creds rest, requests }, ?_, ?_, ?_⟩
    · simp [step, phase, returned]
    · rwa [called.fits_iff phase room]
    · have remaining : due { s with phase := connectingWith creds rest, requests } = rest :=
        due_connectingWith rfl
      have calls : s.due = request :: rest := by simp [due, phase]
      rw [remaining, calls, List.length_cons]
  | publishing creds msg => exact absurd (by simp [due, phase]) (several (.publish msg))
  | disconnecting => exact absurd (by simp [due, phase]) (several .disconnect)
  | _ =>
    have fits : Fits accepts s := fits_of_nothing_due (by simp [due, phase])
    exact absurd fits excess

variable (config) in
/-- Calls that do not fit lead to one that meets no slot. -/
theorem no_slot_of_not_fits (excess : ¬Fits accepts s) :
    ∃ calls t, Runs.run (GatewayMqtt.step config accepts) s (List.replicate calls .issue) = some t ∧
      ¬HasSlot t := by
  -- by induction on the calls that are due
  induction calls : s.due.length generalizing s with
  | zero => exact absurd (fits_of_nothing_due (List.length_eq_zero_iff.mp calls)) excess
  | succ n ih =>
    by_cases full : s.requests.Full
    · refine ⟨0, s, rfl, fun slot => slot ?_ full⟩
      obtain ⟨request, rest, due⟩ := List.exists_cons_of_length_eq_add_one calls
      simp [awaited_eq_head?, due]
    · obtain ⟨t, stepped, excess', due⟩ := issue_of_not_fits config excess full
      obtain ⟨calls, u, ran, noSlot⟩ := ih excess' (by omega)
      exact ⟨calls + 1, u, (Runs.run_cons_iff ..).mpr ⟨t, stepped, ran⟩, noSlot⟩

/-- Unless the client refuses the request, the task waits for good. -/
theorem waits_of_no_slot (noSlot : ¬HasSlot s)
    (waits : ∀ request, s.awaited = some request → s.phase = .disconnecting ∨ accepts request)
    (later : List GatewayMqttAction)
    (ran : Runs.run (GatewayMqtt.step config accepts) s later = some s') :
    ¬HasSlot s' ∧ s'.phase = s.phase := by
  simp only [HasSlot, Classical.not_imp, not_not, Option.isSome_iff_exists] at noSlot
  obtain ⟨⟨request, awaits⟩, full⟩ := noSlot
  obtain ⟨⟨full', request', awaits', _⟩, phase⟩ :=
    blocked_run ⟨full, request, awaits, waits request awaits⟩ later ran
  exact ⟨fun slot => slot (by simp [awaits']) full', phase⟩

end

end GatewayMqtt

open GatewayMqtt

/-- In every run that leaves room, the request queue has a free slot whenever the task awaits
`publish`, `subscribe` or `disconnect`. A step that leaves none leads to a call without a slot, in
which the task stays for good unless the client refuses that request. -/
theorem never_waits_for_itself (config : GatewayMqttConfig) (accepts : GatewayRequest → Bool)
    (actions : List GatewayMqttAction) (s : GatewayMqtt)
    (ran : Runs.run (Runs.restrict (LeavesRoom accepts) (GatewayMqtt.step config accepts)) .init
      actions = some s) :
    HasSlot s ∧
    ∀ action t, ¬s.LeavesRoom accepts action → s.step config accepts action = some t →
      ∃ calls u, Runs.run (GatewayMqtt.step config accepts) t (List.replicate calls .issue) =
          some u ∧ ¬HasSlot u ∧
        ((∀ request, u.awaited = some request → u.phase = .disconnecting ∨ accepts request) →
          ∀ later v, Runs.run (GatewayMqtt.step config accepts) u later = some v →
            ¬HasSlot v ∧ v.phase = u.phase) := by
  have fits : Fits accepts s := by
    refine Runs.run_invariant _ (Fits accepts) ?_ .init s actions (fits_of_nothing_due rfl) ran
    intro before action after fits stepped
    obtain ⟨room, stepped⟩ := (Runs.restrict_iff ..).mp stepped
    exact (fits_step_iff fits action stepped).mpr room
  refine ⟨fits.hasSlot, fun action t tight stepped => ?_⟩
  have excess : ¬Fits accepts t := fun fits' => tight ((fits_step_iff fits action stepped).mp fits')
  obtain ⟨calls, u, issued, noSlot⟩ := no_slot_of_not_fits config excess
  exact ⟨calls, u, issued, noSlot, fun waits later v ran => waits_of_no_slot noSlot waits later ran⟩

def plainConfig : GatewayMqttConfig where
  loginUrl := "http://gateway"
  username := "hamlet"
  password := "secret"
  brokerCafile := none
  brokerTls := false

def sampleLogin : LoginResponse where
  protocolVersion := "1"
  deviceId := "d1"
  mqttUsername := "d1"
  mqttPassword := "token"
  broker := ⟨"broker", 1883⟩
  topics := ⟨"d1/cmds", "d1/connect", "d1/notify"⟩

def sampleMessage : MqttMessage := ⟨"d1/cmds", []⟩

/-- The task logs in and builds a client. -/
def dialled : List GatewayMqttAction :=
  [.beginPass, .login (.ok sampleLogin), .buildOpts healthyWorld]

/-- After a broken connection it builds another one from the same login. -/
def redialled : List GatewayMqttAction := [.wake, .beginPass, .buildOpts healthyWorld]

/-- The broker acknowledges the connection, and `on_connected` issues its three requests. -/
def acknowledged : List GatewayMqttAction := [.poll (.ok .connAck), .issue, .issue, .issue]

/-- A message is taken once the connection is up. -/
def calmRun : List GatewayMqttAction :=
  [.enqueue sampleMessage] ++ dialled ++ acknowledged ++ [.takeMessage]

/-- Eleven messages are taken before the connection is up. -/
def hastyRun : List GatewayMqttAction :=
  List.replicate 11 (.enqueue sampleMessage) ++ dialled ++
    (List.replicate 10 [.takeMessage, .issue]).flatten ++ [.takeMessage]

theorem calm_run_meets_slot_hasty_run_meets_none :
    (∃ s, Runs.run (Runs.restrict (LeavesRoom fun _ => true)
        (GatewayMqtt.step plainConfig fun _ => true)) .init calmRun = some s ∧
      s.awaited = some (.publish sampleMessage) ∧ ¬s.requests.Full) ∧
    ∃ s t, Runs.run (Runs.restrict (LeavesRoom fun _ => true)
        (GatewayMqtt.step plainConfig fun _ => true)) .init hastyRun.dropLast = some s ∧
      s.step plainConfig (fun _ => true) .takeMessage = some t ∧
      ∃ calls u, Runs.run (GatewayMqtt.step plainConfig fun _ => true) t
          (List.replicate calls .issue) = some u ∧
        ∀ later v, Runs.run (GatewayMqtt.step plainConfig fun _ => true) u later = some v →
          ¬HasSlot v := by
  constructor
  · refine ⟨_, rfl, rfl, ?_⟩
    exact (never_waits_for_itself plainConfig (fun _ => true) calmRun _ rfl).1 rfl
  · have outcome : ((Runs.run (Runs.restrict (LeavesRoom fun _ => true)
        (GatewayMqtt.step plainConfig fun _ => true)) .init hastyRun.dropLast).any fun s =>
          !s.LeavesRoom (fun _ => true) .takeMessage &&
            (s.step plainConfig (fun _ => true) .takeMessage).isSome) = true := by
      decide +kernel
    obtain ⟨s, ran, last⟩ := (Option.any_eq_true ..).mp outcome
    obtain ⟨tight, enabled⟩ := Bool.and_eq_true_iff.mp last
    obtain ⟨t, stepped⟩ := Option.isSome_iff_exists.mp enabled
    obtain ⟨calls, u, issued, -, waits⟩ := (never_waits_for_itself plainConfig (fun _ => true)
      hastyRun.dropLast s ran).2 .takeMessage t (by simpa using tight) stepped
    refine ⟨s, t, ran, stepped, calls, u, issued, ?_⟩
    intro later v went
    exact (waits (fun _ _ => .inr rfl) later v went).1

theorem hasty_run_blocks :
    ∃ s, Runs.run (GatewayMqtt.step plainConfig fun _ => true) .init hastyRun = some s ∧
      ¬HasSlot s := by
  refine ⟨_, rfl, fun slot => ?_⟩
  exact slot rfl rfl

/-! ### What becomes of the published messages -/

/-- The message of the outbound queue that a request publishes. -/
def GatewayRequest.message? : GatewayRequest → Option MqttMessage
  | .publish msg => some msg
  | .subscribe _ | .notify _ _ | .disconnect => none

namespace GatewayMqtt

/-- The messages that the client in use holds: in flight or still in its request queue. -/
def pending (s : GatewayMqtt) : List MqttMessage :=
  (s.inFlight ++ s.requests.buffer).filterMap GatewayRequest.message?

/-- The message whose publish the task awaits. -/
def inHand (s : GatewayMqtt) : List MqttMessage :=
  match s.phase with
  | .publishing _ msg => [msg]
  | _ => []

/-- The messages that were handed to a broker: it has acknowledged them. -/
def handedMessages (s : GatewayMqtt) : List MqttMessage :=
  s.acknowledged.filterMap GatewayRequest.message?

/-- What was taken out of the outbound queue has been handed to the broker, or is pending, or is
the message being published. The broker may acknowledge in any order. -/
def NothingDropped (s : GatewayMqtt) : Prop :=
  s.taken.Perm (s.handedMessages ++ s.pending ++ s.inHand)

/-- A client is given up only with no message pending, and the client accepts what is
published. -/
def DropsNothing (accepts : GatewayRequest → Bool) (s : GatewayMqtt) : GatewayMqttAction → Prop
  | .poll (.error _) => s.pending = []
  | .issue =>
    match s.phase with
    | .publishing _ msg => accepts (.publish msg)
    | .disconnecting => s.pending = []
    | _ => True
  | _ => True

instance (accepts : GatewayRequest → Bool) (s : GatewayMqtt) : DecidablePred (DropsNothing accepts s)
  | .poll (.error _) => inferInstanceAs (Decidable (s.pending = []))
  | .issue =>
    match phase : s.phase with
    | .publishing _ msg =>
      decidable_of_iff (accepts (.publish msg)) (by simp only [DropsNothing, phase])
    | .disconnecting => decidable_of_iff (s.pending = []) (by simp only [DropsNothing, phase])
    | .reconnecting | .loggingIn | .building _ | .selecting _ | .connecting _ _ _ | .backingOff
    | .stopped => .isTrue (by simp only [DropsNothing, phase])
  | .enqueue _ | .signalShutdown | .beginPass | .login _ | .buildOpts _ | .takeShutdown
  | .takeMessage | .wake | .poll (.ok _) => .isTrue trivial

/-- Without a client there is no request, and `on_connected` publishes no message of the
outbound queue. -/
def QueueInvariant (s : GatewayMqtt) : Prop :=
  match s.phase with
  | .selecting _ | .publishing _ _ | .disconnecting => True
  | .connecting _ request rest => ∀ call ∈ request :: rest, call.message? = none
  | .reconnecting | .loggingIn | .building _ | .backingOff | .stopped =>
    s.requests.buffer = [] ∧ s.inFlight = []

section

variable {config : GatewayMqttConfig} {accepts : GatewayRequest → Bool} {s s' : GatewayMqtt}

theorem queueInvariant_connectingWith (creds : LoginResponse) (calls : List GatewayRequest)
    (phase : s.phase = connectingWith creds calls)
    (own : ∀ call ∈ calls, call.message? = none) : QueueInvariant s := by
  simp only [QueueInvariant]
  rw [phase]
  cases calls with
  | nil => trivial
  | cons call rest => exact own

theorem queueInvariant_step (inv : QueueInvariant s) (action : GatewayMqttAction)
    (stepped : s.step config accepts action = some s') : QueueInvariant s' := by
  cases step_cases config accepts s s' action stepped with
  | enqueued | signalled | polled => exact inv
  | reusedLogin _ phase | beganLogin phase | loggedIn _ phase | loginFailed _ phase
  | buildFailed _ _ phase | abandonedLogin _ phase | abandonedWait _ phase | woke phase =>
    simpa [QueueInvariant, phase] using inv
  | built | shuttingDown | took | published => trivial
  | sent _ _ _ phase | acknowledged _ _ _ phase => simp [QueueInvariant, phase]
  | disconnected | refused | broken => exact ⟨rfl, rfl⟩
  | connected creds phase fresh =>
    apply queueInvariant_connectingWith creds (onConnected creds) rfl
    simp [onConnected, GatewayRequest.message?]
  | requested creds request rest requests phase called =>
    have own : ∀ call ∈ request :: rest, call.message? = none := by
      simpa [QueueInvariant, phase] using inv
    apply queueInvariant_connectingWith creds rest rfl
    intro call member
    exact own call (List.mem_cons_of_mem _ member)

theorem handedMessages_of (acknowledged : s'.acknowledged = s.acknowledged) :
    s'.handedMessages = s.handedMessages := by
  rw [handedMessages, acknowledged, handedMessages]

theorem NothingDropped.same (kept : NothingDropped s) (taken : s'.taken = s.taken)
    (acknowledged : s'.acknowledged = s.acknowledged) (pending : s'.pending = s.pending)
    (inHand : s'.inHand = s.inHand) : NothingDropped s' := by
  rw [NothingDropped, taken, handedMessages_of acknowledged, pending, inHand]
  exact kept

theorem inHand_connectingWith (creds : LoginResponse) (calls : List GatewayRequest)
    (phase : s.phase = connectingWith creds calls) : s.inHand = [] := by
  simp only [inHand]
  rw [phase]
  cases calls <;> rfl

/-- Every request that publishes a message is kept until its `PubAck`. -/
theorem filterMap_message?_awaitsPubAck (requests : List GatewayRequest) :
    (requests.filter GatewayRequest.awaitsPubAck).filterMap GatewayRequest.message? =
      requests.filterMap GatewayRequest.message? := by
  rw [List.filterMap_filter]
  congr 1
  funext request
  cases request <;> rfl

/-- A request that is written stays with the client. -/
theorem pending_sent {request : GatewayRequest}
    {requests : BoundedQueue GatewayRequest requestCapacity}
    (popped : s.requests.buffer = request :: requests.buffer) :
    pending { s with
      requests
      inFlight := s.inFlight ++ [request].filter GatewayRequest.awaitsPubAck } = s.pending := by
  simp only [pending]
  rw [popped, List.filterMap_append, List.filterMap_append, filterMap_message?_awaitsPubAck,
    ← List.filterMap_append, ← List.filterMap_append, List.append_assoc, List.singleton_append]

/-- A `PubAck` moves one publish from those in flight to those acknowledged. -/
theorem handed_pending_acknowledged {slot : Nat} {request : GatewayRequest}
    (written : s.inFlight[slot]? = some request) :
    ((s.acknowledged ++ [request]).filterMap GatewayRequest.message? ++
      (s.inFlight.eraseIdx slot ++ s.requests.buffer).filterMap GatewayRequest.message?).Perm
      (s.handedMessages ++ s.pending) := by
  obtain ⟨bound, rfl⟩ := List.getElem?_eq_some_iff.mp written
  have moved : (s.inFlight[slot] :: s.inFlight.eraseIdx slot).Perm s.inFlight :=
    List.getElem_cons_eraseIdx_perm bound
  rw [handedMessages, pending, ← List.filterMap_append, ← List.filterMap_append, List.append_assoc]
  apply List.Perm.filterMap
  apply List.Perm.append_left
  rw [← List.append_assoc]
  exact moved.append_right s.requests.buffer

/-- Giving the client up loses exactly what is pending. -/
theorem nothingDropped_abandon_iff (kept : NothingDropped s) (free : s.inHand = [])
    (taken : s'.taken = s.taken) (acknowledged : s'.acknowledged = s.acknowledged)
    (empty : s'.pending = []) (free' : s'.inHand = []) : NothingDropped s' ↔ s.pending = [] := by
  have before : s.taken.Perm (s.handedMessages ++ s.pending) := by
    simpa [NothingDropped, free] using kept
  rw [NothingDropped, taken, handedMessages_of acknowledged, empty, free', List.append_nil,
    List.append_nil]
  constructor
  · intro after
    -- nothing is left to make up for what was pending
    have lengths := (before.symm.trans after).length_eq
    rw [List.length_append] at lengths
    exact List.length_eq_zero_iff.mp (by omega)
  · intro none
    rwa [none, List.append_nil] at before

theorem nothingDropped_step_iff (inv : QueueInvariant s) (kept : NothingDropped s)
    (action : GatewayMqttAction) (stepped : s.step config accepts action = some s') :
    NothingDropped s' ↔ DropsNothing accepts s action := by
  cases step_cases config accepts s s' action stepped with
  | enqueued | signalled | polled => exact iff_of_true kept trivial
  | reusedLogin _ phase | beganLogin phase | loggedIn _ phase | loginFailed _ phase
  | buildFailed _ _ phase | abandonedLogin _ phase | abandonedWait _ phase | woke phase
  | shuttingDown _ _ phase =>
    refine iff_of_true (kept.same rfl rfl rfl ?_) trivial
    simp [inHand, phase]
  | built world creds phase ok =>
    obtain ⟨noRequest, nothingWritten⟩ : s.requests.buffer = [] ∧ s.inFlight = [] := by
      simpa [QueueInvariant, phase] using inv
    refine iff_of_true (kept.same rfl rfl ?_ ?_) trivial
    · simp [pending, noRequest, nothingWritten, BoundedQueue.empty]
    · simp [inHand, phase]
  | took creds msg outbound phase popped =>
    -- the message is in hand
    refine iff_of_true ?_ trivial
    have before : s.taken.Perm (s.handedMessages ++ s.pending) := by
      simpa [NothingDropped, inHand, phase] using kept
    exact before.append_right [msg]
  | published creds msg requests phase called =>
    have before : s.taken.Perm (s.handedMessages ++ s.pending ++ [msg]) := by
      simpa [NothingDropped, inHand, phase] using kept
    have drops : DropsNothing accepts s .issue ↔ accepts (.publish msg) := by
      simp only [DropsNothing, phase]
    rw [drops]
    rcases called with ⟨accepted, -, queued⟩ | ⟨refused, rfl⟩
    · -- it goes to the end of the request queue
      refine iff_of_true ?_ accepted
      have more : (s.inFlight ++ requests.buffer).filterMap GatewayRequest.message? =
          s.pending ++ [msg] := by
        rw [queued, ← List.append_assoc, List.filterMap_append]
        rfl
      show s.taken.Perm
        (s.handedMessages ++ (s.inFlight ++ requests.buffer).filterMap GatewayRequest.message? ++ [])
      rw [more, List.append_nil, ← List.append_assoc]
      exact before
    · -- the message is neither queued nor in hand
      refine iff_of_false ?_ refused
      intro gone
      have after : s.taken.Perm (s.handedMessages ++ s.pending ++ []) := gone
      have lengths := (before.symm.trans after).length_eq
      simp at lengths
  | requested creds request rest requests phase called =>
    have own : request.message? = none := by
      have calls : ∀ call ∈ request :: rest, call.message? = none := by
        simpa [QueueInvariant, phase] using inv
      exact calls request List.mem_cons_self
    have drops : DropsNothing accepts s .issue := by simp only [DropsNothing, phase]
    refine iff_of_true (kept.same rfl rfl ?_ ?_) drops
    · rcases called with ⟨-, -, queued⟩ | ⟨-, rfl⟩
      · simp [pending, queued, own]
      · rfl
    · rw [inHand_connectingWith creds rest rfl]
      simp [inHand, phase]
  | disconnected phase room =>
    have drops : DropsNothing accepts s .issue ↔ s.pending = [] := by
      simp only [DropsNothing, phase]
    rw [drops]
    exact nothingDropped_abandon_iff kept (by simp [inHand, phase]) rfl rfl rfl rfl
  | connected creds phase fresh =>
    refine iff_of_true (kept.same rfl rfl rfl ?_) trivial
    rw [inHand_connectingWith creds (onConnected creds) rfl]
    simp [inHand, phase]
  | sent creds request requests phase connected popped =>
    exact iff_of_true (kept.same rfl rfl (pending_sent popped) rfl) trivial
  | acknowledged creds slot request phase written =>
    refine iff_of_true ?_ trivial
    have moved := handed_pending_acknowledged written
    exact kept.trans (moved.symm.append_right s.inHand)
  | refused creds code phase | broken creds e phase =>
    exact nothingDropped_abandon_iff kept (by simp [inHand, phase]) rfl rfl rfl rfl

end

end GatewayMqtt

/-- A run loses no message exactly when it gives no client up with messages pending and the
client accepts every message it is to publish. -/
theorem nothing_dropped_iff (config : GatewayMqttConfig) (accepts : GatewayRequest → Bool)
    (actions : List GatewayMqttAction) (s : GatewayMqtt)
    (ran : Runs.run (GatewayMqtt.step config accepts) .init actions = some s) :
    Runs.Always (GatewayMqtt.step config accepts) NothingDropped .init actions ↔
      Runs.run (Runs.restrict (DropsNothing accepts) (GatewayMqtt.step config accepts)) .init
        actions = some s :=
  Runs.always_iff_restrict _ _ QueueInvariant NothingDropped
    (fun _ action _ inv stepped => queueInvariant_step inv action stepped)
    (fun _ action _ inv kept stepped => nothingDropped_step_iff inv kept action stepped) .init s
    actions ⟨rfl, rfl⟩ .nil ran

/-- The message and the requests of `on_connected` are written. -/
def writtenRun : List GatewayMqttAction :=
  calmRun ++ [.issue] ++ List.replicate 4 (.poll (.ok .outgoing))

/-- The connection breaks after the broker has acknowledged the message, which was written after
the notification. -/
def drainedRun : List GatewayMqttAction :=
  writtenRun ++ [.poll (.ok (.pubAck 1)), .poll (.error (.other "connection reset"))] ++ redialled

theorem message_handed_before_reconnect :
    ∃ s, Runs.run (GatewayMqtt.step plainConfig fun _ => true) .init drainedRun = some s ∧
      s.handedMessages = [sampleMessage] ∧
      Runs.Always (GatewayMqtt.step plainConfig fun _ => true) NothingDropped .init drainedRun := by
  refine ⟨_, rfl, rfl, ?_⟩
  exact (nothing_dropped_iff plainConfig (fun _ => true) drainedRun _ rfl).mpr rfl

/-- The message goes to a client that never connects. -/
def lossyRun : List GatewayMqttAction :=
  [.enqueue sampleMessage] ++ dialled ++
    [.takeMessage, .issue, .poll (.error (.other "timed out"))] ++ redialled ++ acknowledged

theorem message_lost_with_client :
    ∃ s, Runs.run (GatewayMqtt.step plainConfig fun _ => true) .init lossyRun = some s ∧
      s.taken = [sampleMessage] ∧ s.handedMessages = [] ∧ s.pending = [] ∧ ¬NothingDropped s := by
  refine ⟨_, rfl, rfl, rfl, rfl, fun kept => ?_⟩
  cases kept.length_eq

/-- A message that is written is lost as well when the connection breaks before its `PubAck`. -/
example : (Runs.run (GatewayMqtt.step plainConfig fun _ => true) .init
    (writtenRun ++ [.poll (.error (.other "connection reset"))])).map
      (fun s => (s.taken, s.handedMessages, s.pending)) = some ([sampleMessage], [], []) := by
  rfl

end Hamlet
