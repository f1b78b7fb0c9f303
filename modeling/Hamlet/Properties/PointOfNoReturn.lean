import Hamlet.Properties.CircularWait
import Hamlet.Properties.MissingBroker

/-!
# The point of no return

While the event loop waits for room in the inbound queue nobody sends requests, so the command
task has the free slots of the request queue and no more. The beacon loop, which alone makes room
in the inbound queue, can get back to its `select!` exactly if the commands that it waits for fit
into them. So the four tasks are lost before they block one another.

Topics are valid, so the client refuses no command, and no handshake makes a hybrid channel.
-/

namespace Hamlet

/-- `handle_device_init` makes a channel to listen on and one to broadcast to. -/
def TaskAction.Made (action : TaskAction) : Prop :=
  action.handshake?.all fun channel => channel.topicType ≠ .hybrid

/-- What a run may go on with. -/
def TaskAction.Plain (action : TaskAction) : Prop := action.Made ∧ action ≠ .client .refuse

instance : DecidablePred TaskAction.Made := fun action =>
  inferInstanceAs (Decidable (action.handshake?.all _ = true))

namespace MqttClient

/-- How many commands are executed before this caller has its reply. -/
def ahead (c : MqttClient) (caller : Caller) : Nat :=
  c.inFlight.findIdx (fun x => x.2 = caller) + 1

/-- The caller has at most one command on its way, and one only while it waits for the reply. -/
structure Single (c : MqttClient) (caller : Caller) (waits : Prop) : Prop where
  one : c.inFlight.countP (fun x => x.2 = caller) ≤ 1
  waiting : (∃ command, (command, caller) ∈ c.inFlight) → waits ∧ c.replies caller = none

/-- A step of the two tasks leaves the commands on their way alone, or answers the oldest. -/
theorem inFlight_step {c c' : MqttClient} {action : ClientAction}
    (stepped : c.step action = some c') :
    (c'.inFlight = c.inFlight ∧ c'.replies = c.replies) ∨
    ∃ command answered ok, c.inFlight = (command, answered) :: c'.inFlight ∧
      c'.replies = Function.update c.replies answered (some ok) := by
  cases action with
  | pollConnAck | pollPublish msg | pollError kept | wake =>
    simp only [step, Option.ite_none_right_eq_some, Option.some.injEq] at stepped
    obtain ⟨_, rfl⟩ := stepped
    exact .inl ⟨rfl, rfl⟩
  | pollRequest =>
    simp only [step, Option.ite_none_right_eq_some, sendRequest] at stepped
    obtain ⟨_, stepped⟩ := stepped
    split at stepped
    next =>
      cases stepped
      exact .inl ⟨rfl, rfl⟩
    next =>
      obtain ⟨_, _, rfl⟩ := Option.map_eq_some_iff.mp stepped
      exact .inl ⟨rfl, rfl⟩
  | forward =>
    simp only [step] at stepped
    split at stepped
    next =>
      obtain ⟨_, _, rfl⟩ := Option.map_eq_some_iff.mp stepped
      exact .inl ⟨rfl, rfl⟩
    all_goals cases stepped
  | receive =>
    simp only [step, Option.ite_none_right_eq_some, Option.map_eq_some_iff] at stepped
    obtain ⟨idle, ⟨taken, commands⟩, popped, rfl⟩ := stepped
    rw [BoundedQueue.pop_iff] at popped
    exact .inl ⟨by simp [inFlight, idle, popped], rfl⟩
  | refuse =>
    simp only [step, Option.ite_none_right_eq_some, Option.map_eq_some_iff] at stepped
    obtain ⟨idle, ⟨⟨taken, answered⟩, commands⟩, popped, rfl⟩ := stepped
    rw [BoundedQueue.pop_iff] at popped
    exact .inr ⟨taken, answered, false, by simp [inFlight, idle, popped, setReply], rfl⟩
  | execute =>
    simp only [step] at stepped
    split at stepped
    next taken answered executing =>
      obtain ⟨requests, _, rfl⟩ := Option.map_eq_some_iff.mp stepped
      exact .inr ⟨taken, answered, true, by simp [inFlight, executing, setReply], rfl⟩
    next => cases stepped

section

variable {c c' : MqttClient} {caller : Caller} {waits : Prop}

/-- Whoever does not wait has no command on its way. -/
theorem Single.absent (single : c.Single caller waits)
    (idle : ¬waits ∨ c.replies caller ≠ none) (command : MqttCommand) :
    (command, caller) ∉ c.inFlight := by
  intro member
  obtain ⟨waiting, unanswered⟩ := single.waiting ⟨command, member⟩
  exact idle.elim (· waiting) (· unanswered)

theorem single_of_absent (absent : ∀ command, (command, caller) ∉ c.inFlight) :
    c.Single caller waits := by
  refine ⟨?_, fun ⟨command, member⟩ => absurd member (absent command)⟩
  rw [List.countP_eq_zero.mpr]
  · exact Nat.zero_le _
  · rintro ⟨command, other⟩ member same
    obtain rfl : other = caller := by simpa using same
    exact absent command member

theorem Single.congr (single : c.Single caller waits) (flight : c'.inFlight = c.inFlight)
    (replies : c'.replies = c.replies) : c'.Single caller waits :=
  ⟨flight ▸ single.one, fun posted => replies ▸ single.waiting (flight ▸ posted)⟩

theorem single_step {action : ClientAction} (single : c.Single caller waits)
    (stepped : c.step action = some c') : c'.Single caller waits := by
  rcases inFlight_step stepped with ⟨same, replies⟩ | ⟨command, answered, ok, taken, replies⟩
  · exact single.congr same replies
  · have one := single.one
    rw [taken, List.countP_cons] at one
    by_cases same : answered = caller
    · -- the only one
      subst same
      refine single_of_absent fun other member => ?_
      have more : 0 < c'.inFlight.countP (fun x => x.2 = answered) :=
        List.countP_pos_iff.mpr ⟨_, member, by simp⟩
      rw [if_pos (by simp)] at one
      omega
    · refine ⟨by simpa [same] using one, fun ⟨other, member⟩ => ?_⟩
      rw [replies, Function.update_of_ne (Ne.symm same)]
      exact single.waiting ⟨other, taken ▸ List.mem_cons_of_mem _ member⟩

/-- A submitted command comes after those on their way. -/
theorem submit_effect {command : MqttCommand} (submitted : c.submit command caller = some c') :
    c'.inFlight = c.inFlight ++ [(command, caller)] ∧
      c'.replies = Function.update c.replies caller none ∧ c'.requests = c.requests ∧
      c'.eventLoop = c.eventLoop ∧ c'.connected = c.connected ∧ c'.inbound = c.inbound := by
  obtain ⟨commands, pushed, rfl⟩ := (submit_iff ..).mp submitted
  obtain ⟨_, queued⟩ := (BoundedQueue.push_iff ..).mp pushed
  exact ⟨by simp [inFlight, setReply, queued], rfl, rfl, rfl, rfl, rfl⟩

theorem ahead_congr (flight : c'.inFlight = c.inFlight) : c'.ahead caller = c.ahead caller := by
  rw [ahead, ahead, flight]

/-- A command behind the others keeps nobody waiting longer. -/
theorem ahead_le_of_concat {x : MqttCommand × Caller} (flight : c'.inFlight = c.inFlight ++ [x]) :
    c.ahead caller ≤ c'.ahead caller := by
  rw [ahead, ahead, flight, List.findIdx_append]
  split
  next => exact Nat.le_refl _
  next =>
    have bound : c.inFlight.findIdx (fun x => x.2 = caller) ≤ c.inFlight.length :=
      List.findIdx_le_length
    omega

theorem ahead_of_absent {command : MqttCommand}
    (absent : ∀ command, (command, caller) ∉ c.inFlight)
    (flight : c'.inFlight = c.inFlight ++ [(command, caller)]) :
    c'.ahead caller = c.inFlight.length + 1 := by
  rw [ahead, flight, List.findIdx_append, if_neg]
  · simp
  · simpa [List.findIdx_lt_length] using absent

theorem ahead_of_taken {command : MqttCommand} {answered : Caller}
    (taken : c.inFlight = (command, answered) :: c'.inFlight) :
    c.ahead caller = if answered = caller then 1 else c'.ahead caller + 1 := by
  rw [ahead, ahead, taken, List.findIdx_cons]
  by_cases same : answered = caller <;> simp [same]

theorem single_submit_other {command : MqttCommand} {other : Caller}
    (single : c.Single caller waits) (differs : caller ≠ other)
    (submitted : c.submit command other = some c') : c'.Single caller waits := by
  obtain ⟨flight, replies, _⟩ := submit_effect submitted
  refine ⟨?_, ?_⟩
  · rw [flight]
    simpa [Ne.symm differs] using single.one
  · rw [flight, replies, Function.update_of_ne differs]
    rintro ⟨mine, member⟩
    exact single.waiting ⟨mine, by simpa [differs] using member⟩

theorem single_submit {command : MqttCommand}
    (absent : ∀ command, (command, caller) ∉ c.inFlight) (now : waits)
    (submitted : c.submit command caller = some c') : c'.Single caller waits := by
  obtain ⟨flight, replies, _⟩ := submit_effect submitted
  refine ⟨?_, fun _ => ⟨now, by rw [replies, Function.update_self]⟩⟩
  have none : c.inFlight.countP (fun x => x.2 = caller) = 0 := by
    rw [List.countP_eq_zero]
    rintro ⟨other, _⟩ member same
    obtain rfl := of_decide_eq_true same
    exact absent other member
  rw [flight, List.countP_append, none]
  simp

/-- With a free slot the command at hand is executed. -/
theorem execute_effect {command : MqttCommand} (executing : c.executing = some (command, caller))
    (room : ¬c.requests.Full) :
    ∃ c', c.step .execute = some c' ∧ c.inFlight = (command, caller) :: c'.inFlight ∧
      c'.replies = Function.update c.replies caller (some true) ∧
      c'.requests.buffer = c.requests.buffer ++ [command] ∧ c'.eventLoop = c.eventLoop ∧
      c'.connected = c.connected ∧ c'.inbound = c.inbound := by
  obtain ⟨requests, pushed⟩ := Option.ne_none_iff_exists'.mp
    (mt (BoundedQueue.push_none_iff c.requests command).mp room)
  have queued := ((BoundedQueue.push_iff ..).mp pushed).2
  have stepped : c.step .execute = some (setReply
      { c with requests, executing := none, replied := c.replied ++ [command] } caller
      (some true)) := by
    simp [step, executing, pushed]
  refine ⟨_, stepped, ?_, rfl, queued, rfl, rfl, rfl⟩
  simp [inFlight, executing, setReply]

/-- Over a connection the oldest request is sent. -/
theorem poll_effect (polling : c.eventLoop = .polling) (connected : c.connected)
    {request : MqttCommand} {rest : List MqttCommand} (unsent : c.unsent = request :: rest) :
    ∃ c', c.step .pollRequest = some c' ∧ c'.unsent = rest ∧ c'.inFlight = c.inFlight ∧
      c'.replies = c.replies ∧ c'.eventLoop = .polling ∧ c'.connected ∧ c'.inbound = c.inbound := by
  cases pending : c.pending with
  | cons first pending' =>
    obtain ⟨rfl, rfl⟩ : first = request ∧ pending' ++ c.requests.buffer = rest := by
      simpa [MqttClient.unsent, pending] using unsent
    refine ⟨{ c with pending := pending', session := deliver c.session first }, ?_, rfl, rfl, rfl,
      polling, connected, rfl⟩
    simp [step, sendRequest, polling, connected, pending]
  | nil =>
    have queued : c.requests.buffer = request :: rest := by
      simpa [MqttClient.unsent, pending] using unsent
    have bound : rest.length ≤ requestCapacity := by
      have bound := c.requests.bounded
      rw [queued, List.length_cons] at bound
      omega
    have popped := (BoundedQueue.pop_iff c.requests ⟨rest, bound⟩ request).mpr queued
    refine ⟨{ c with requests := ⟨rest, bound⟩, session := deliver c.session request }, ?_, ?_, rfl,
      rfl, polling, connected, rfl⟩
    · simp [step, sendRequest, polling, connected, pending, popped]
    · simp [MqttClient.unsent, pending]

end

end MqttClient

namespace LocalTasks

/-- Commands to execute until the broadcast loop releases the list of topics. -/
def broadcastNeeds (s : LocalTasks) : Nat :=
  match s.broadcast with
  | .idle | .locking => 0
  | .publishing rest => if rest = [] then 0 else s.client.inFlight.length + rest.length
  | .awaiting rest =>
    if rest = [] then
      if s.client.replies .broadcastLoop = none then s.client.ahead .broadcastLoop else 0
    else s.client.inFlight.length + rest.length

/-- Commands to execute until the beacon loop is back at its `select!`. -/
def beaconNeeds (s : LocalTasks) : Nat :=
  match s.beacon with
  | .selecting => 0
  | .subscribing _ => s.client.inFlight.length + 1
  | .awaiting _ => if s.client.replies .beaconLoop = none then s.client.ahead .beaconLoop else 0
  | .writing _ => s.broadcastNeeds

def freeSlots (s : LocalTasks) : Nat := requestCapacity - s.client.requests.buffer.length

/-- The event loop waits for the beacon loop, which needs more than there is room for. -/
def Lost (s : LocalTasks) : Prop := s.eventLoopBlocked ∧ s.freeSlots < s.beaconNeeds

instance (s : LocalTasks) : Decidable s.Lost := inferInstanceAs (Decidable (_ ∧ _))

/-- What every run keeps. -/
structure Posted (s : LocalTasks) : Prop where
  due : s.RepliesDue
  broadcast : s.client.Single .broadcastLoop (∃ rest, s.broadcast = .awaiting rest)
  beacon : s.client.Single .beaconLoop (∃ channel, s.beacon = .awaiting channel)
  queued : ∀ channel ∈ s.channels.buffer, channel.topicType ≠ .hybrid
  subscribing : ∀ channel, s.beacon = .subscribing channel → channel.topicType ≠ .hybrid
  awaiting : ∀ channel, s.beacon = .awaiting channel → channel.topicType ≠ .hybrid

variable {s s' : LocalTasks}

theorem posted_init : LocalTasks.init.Posted where
  due := ⟨fun _ phase => (nomatch phase), fun _ phase => (nomatch phase)⟩
  broadcast := MqttClient.single_of_absent fun command => by simp [init, MqttClient.inFlight,
    MqttClient.init, BoundedQueue.empty]
  beacon := MqttClient.single_of_absent fun command => by simp [init, MqttClient.inFlight,
    MqttClient.init, BoundedQueue.empty]
  queued _ member := nomatch member
  subscribing _ phase := nomatch phase
  awaiting _ phase := nomatch phase

theorem posted_step {action : TaskAction} (posted : s.Posted) (made : action.Made)
    (stepped : s.step action = some s') : s'.Posted := by
  have due := repliesDue_step s s' action posted.due stepped
  cases step_cases stepped with
  | client action client moved =>
    exact ⟨due, MqttClient.single_step posted.broadcast moved,
      MqttClient.single_step posted.beacon moved, posted.queued, posted.subscribing,
      posted.awaiting⟩
  | external command client submitted =>
    exact ⟨due, MqttClient.single_submit_other posted.broadcast (by decide) submitted,
      MqttClient.single_submit_other posted.beacon (by decide) submitted, posted.queued,
      posted.subscribing, posted.awaiting⟩
  | ticked phase | locked phase | unlocked phase =>
    exact ⟨due, MqttClient.single_of_absent (posted.broadcast.absent (.inl (by simp [phase]))),
      posted.beacon, posted.queued, posted.subscribing, posted.awaiting⟩
  | publishing payload topic rest client phase submitted =>
    exact ⟨due, MqttClient.single_submit (posted.broadcast.absent (.inl (by simp [phase])))
      ⟨rest, rfl⟩ submitted, MqttClient.single_submit_other posted.beacon (by decide) submitted,
      posted.queued, posted.subscribing, posted.awaiting⟩
  | published rest ok phase reply =>
    exact ⟨due, MqttClient.single_of_absent (posted.broadcast.absent (.inr (by simp [reply]))),
      posted.beacon, posted.queued, posted.subscribing, posted.awaiting⟩
  | offered channel channels pushed =>
    refine ⟨due, posted.broadcast, posted.beacon, ?_, posted.subscribing, posted.awaiting⟩
    rw [((BoundedQueue.push_iff ..).mp pushed).2]
    intro other member
    rcases List.mem_append.mp member with old | new
    · exact posted.queued other old
    · obtain rfl := List.mem_singleton.mp new
      simpa [TaskAction.Made, TaskAction.handshake?] using made
  | registering channel channels phase taken =>
    have kind := posted.queued channel (taken ▸ List.mem_cons_self)
    refine ⟨due, posted.broadcast,
      MqttClient.single_of_absent (posted.beacon.absent (.inl (by simp [phase]))),
      fun other member => posted.queued other (taken ▸ List.mem_cons_of_mem _ member), ?_, ?_⟩
    · intro other phase
      simp only [registering] at phase
      split at phase <;> cases phase <;> exact kind
    · intro other phase
      simp only [registering] at phase
      split at phase <;> cases phase
  | subscribing channel client phase submitted =>
    refine ⟨due, MqttClient.single_submit_other posted.broadcast (by decide) submitted,
      MqttClient.single_submit (posted.beacon.absent (.inl (by simp [phase]))) ⟨channel, rfl⟩
        submitted, posted.queued, (by simp), fun other same => ?_⟩
    cases same
    exact posted.subscribing channel phase
  | subscribed channel ok phase reply =>
    have kind := posted.awaiting channel phase
    have back : afterReply channel ok = .selecting := by simp [afterReply, kind]
    rw [back] at due ⊢
    exact ⟨due, posted.broadcast,
      MqttClient.single_of_absent (posted.beacon.absent (.inr (by simp [reply]))), posted.queued,
      (by simp), (by simp)⟩
  | wrote channel phase =>
    exact ⟨due, posted.broadcast,
      MqttClient.single_of_absent (posted.beacon.absent (.inl (by simp [phase]))), posted.queued,
      (by simp), (by simp)⟩
  | consumed msg client selecting taken =>
    obtain ⟨_, _, same⟩ := Option.map_eq_some_iff.mp taken
    cases same
    exact ⟨due, posted.broadcast.congr rfl rfl, posted.beacon.congr rfl rfl, posted.queued,
      posted.subscribing, posted.awaiting⟩
  | swept topic client selecting submitted =>
    exact ⟨due, MqttClient.single_submit_other posted.broadcast (by decide) submitted,
      MqttClient.single_submit_other posted.beacon (by decide) submitted, posted.queued,
      posted.subscribing, posted.awaiting⟩
  | retracted =>
    exact ⟨due, posted.broadcast, posted.beacon, posted.queued, posted.subscribing, posted.awaiting⟩

/-! ### What a step does to the needs -/

theorem needs_congr (client : MqttClient) (flight : client.inFlight = s.client.inFlight)
    (replies : client.replies = s.client.replies) :
    { s with client }.beaconNeeds = s.beaconNeeds := by
  simp only [beaconNeeds, broadcastNeeds, flight, replies, MqttClient.ahead_congr flight]

/-- An answer to the oldest command brings the beacon loop one nearer. -/
theorem needs_answered {client : MqttClient} {command : MqttCommand} {answered : Caller} {ok : Bool}
    (taken : s.client.inFlight = (command, answered) :: client.inFlight)
    (replies : client.replies = Function.update s.client.replies answered (some ok)) :
    { s with client }.beaconNeeds = s.beaconNeeds - 1 := by
  have reply (caller : Caller) :
      (if client.replies caller = none then client.ahead caller else 0) =
        (if s.client.replies caller = none then s.client.ahead caller else 0) - 1 := by
    rw [MqttClient.ahead_of_taken taken, replies]
    by_cases same : answered = caller
    · subst same
      simp only [Function.update_self, reduceCtorEq, if_false, if_true]
      split <;> rfl
    · rw [Function.update_of_ne (Ne.symm same), if_neg same]
      split <;> rfl
  have release : { s with client }.broadcastNeeds = s.broadcastNeeds - 1 := by
    simp only [broadcastNeeds]
    cases s.broadcast with
    | idle | locking => rfl
    | publishing rest =>
      dsimp only
      split
      · rfl
      · rw [taken, List.length_cons]
        omega
    | awaiting rest =>
      dsimp only
      split
      · exact reply .broadcastLoop
      · rw [taken, List.length_cons]
        omega
  simp only [beaconNeeds]
  cases s.beacon with
  | selecting => rfl
  | subscribing channel => simp [taken]
  | awaiting channel => exact reply .beaconLoop
  | writing channel => exact release

/-- Somebody else's command never helps. -/
theorem needs_le_of_submit {client : MqttClient} {command : MqttCommand} {other : Caller}
    (beacon : other ≠ .beaconLoop) (broadcast : other ≠ .broadcastLoop)
    (submitted : s.client.submit command other = some client) :
    s.beaconNeeds ≤ { s with client }.beaconNeeds := by
  obtain ⟨flight, replies, _⟩ := MqttClient.submit_effect submitted
  have reply (caller : Caller) (differs : other ≠ caller) :
      (if s.client.replies caller = none then s.client.ahead caller else 0) ≤
        if client.replies caller = none then client.ahead caller else 0 := by
    rw [replies, Function.update_of_ne (Ne.symm differs)]
    split
    · exact MqttClient.ahead_le_of_concat flight
    · exact Nat.le_refl 0
  have release : s.broadcastNeeds ≤ { s with client }.broadcastNeeds := by
    simp only [broadcastNeeds]
    cases s.broadcast with
    | idle | locking => rfl
    | publishing rest =>
      dsimp only
      split
      · rfl
      · simp [flight]
    | awaiting rest =>
      dsimp only
      split
      · exact reply .broadcastLoop broadcast
      · simp [flight]
  simp only [beaconNeeds]
  cases s.beacon with
  | selecting => rfl
  | subscribing channel => simp [flight]
  | awaiting channel => exact reply .beaconLoop beacon
  | writing channel => exact release

/-- The broadcast loop counts its publishes before it has submitted them. -/
theorem broadcastNeeds_publish {client : MqttClient} {topic : String} {rest : List String}
    {command : MqttCommand} (posted : s.Posted) (phase : s.broadcast = .publishing (topic :: rest))
    (submitted : s.client.submit command .broadcastLoop = some client) :
    { s with client, broadcast := .awaiting rest }.broadcastNeeds = s.broadcastNeeds := by
  obtain ⟨flight, replies, _⟩ := MqttClient.submit_effect submitted
  have absent := posted.broadcast.absent (.inl (by simp [phase]))
  simp only [broadcastNeeds, phase, replies, Function.update_self, if_true, reduceCtorEq, if_false,
    MqttClient.ahead_of_absent absent flight]
  split
  next empty => simp [empty]
  next => simp [flight]; omega

theorem needs_le_publish {client : MqttClient} {topic : String} {rest : List String}
    {command : MqttCommand} (posted : s.Posted) (phase : s.broadcast = .publishing (topic :: rest))
    (submitted : s.client.submit command .broadcastLoop = some client) :
    s.beaconNeeds ≤ { s with client, broadcast := .awaiting rest }.beaconNeeds := by
  obtain ⟨flight, replies, _⟩ := MqttClient.submit_effect submitted
  have release := broadcastNeeds_publish posted phase submitted
  simp only [beaconNeeds]
  cases s.beacon with
  | selecting => rfl
  | subscribing channel => simp [flight]
  | awaiting channel =>
    have same : client.replies .beaconLoop = s.client.replies .beaconLoop := by
      rw [replies, Function.update_of_ne (by decide)]
    dsimp only
    rw [same]
    split
    · exact MqttClient.ahead_le_of_concat flight
    · exact Nat.le_refl 0
  | writing channel => exact release.ge

theorem needs_published {rest : List String} {ok : Bool} (phase : s.broadcast = .awaiting rest)
    (reply : s.client.replies .broadcastLoop = some ok) :
    { s with broadcast := .publishing rest }.beaconNeeds = s.beaconNeeds := by
  simp [beaconNeeds, broadcastNeeds, phase, reply]

theorem needs_subscribe {client : MqttClient} {channel : TopicChannel} {command : MqttCommand}
    (posted : s.Posted) (phase : s.beacon = .subscribing channel)
    (submitted : s.client.submit command .beaconLoop = some client) :
    { s with client, beacon := .awaiting channel }.beaconNeeds = s.beaconNeeds := by
  obtain ⟨flight, replies, _⟩ := MqttClient.submit_effect submitted
  have absent := posted.beacon.absent (.inl (by simp [phase]))
  simp only [beaconNeeds, phase, replies, Function.update_self, if_true,
    MqttClient.ahead_of_absent absent flight]

/-! ### Lost for good -/

theorem Lost.not_selecting (lost : s.Lost) : s.beacon ≠ .selecting := by
  intro phase
  have needs := lost.2
  simp [beaconNeeds, phase] at needs

theorem Lost.keep (lost : s.Lost) (eventLoop : s'.client.eventLoop = s.client.eventLoop)
    (inbound : s'.client.inbound = s.client.inbound)
    (requests : s'.client.requests = s.client.requests) (needs : s.beaconNeeds ≤ s'.beaconNeeds) :
    s'.Lost := by
  obtain ⟨blocked, short⟩ := lost
  refine ⟨?_, ?_⟩
  · rwa [eventLoopBlocked, eventLoop, inbound]
  · rw [freeSlots, requests]
    exact Nat.lt_of_lt_of_le short needs

/-- A command that is executed takes one slot, and leaves as many missing. -/
theorem Lost.client {action : ClientAction} {client : MqttClient} (lost : s.Lost)
    (plain : action ≠ .refuse) (moved : s.client.step action = some client) :
    { s with client }.Lost := by
  obtain ⟨blocked, short⟩ := lost
  have forwarding : ∃ msg, s.client.eventLoop = .forwarding msg := by
    unfold eventLoopBlocked at blocked
    split at blocked
    next msg phase => exact ⟨msg, phase⟩
    all_goals cases blocked
  obtain ⟨msg, forwarding⟩ := forwarding
  have full : s.client.inbound.Full := by simpa [eventLoopBlocked, forwarding] using blocked
  cases action with
  | pollConnAck | pollPublish msg | pollRequest | pollError kept | wake =>
    simp [MqttClient.step, forwarding] at moved
  | forward =>
    simp [MqttClient.step, forwarding, (BoundedQueue.push_none_iff ..).mpr full] at moved
  | refuse => exact absurd rfl plain
  | receive =>
    simp only [MqttClient.step, Option.ite_none_right_eq_some, Option.map_eq_some_iff] at moved
    obtain ⟨idle, ⟨taken, commands⟩, popped, rfl⟩ := moved
    rw [BoundedQueue.pop_iff] at popped
    refine Lost.keep ⟨blocked, short⟩ rfl rfl rfl (Nat.le_of_eq (Eq.symm ?_))
    refine needs_congr _ ?_ rfl
    simp [MqttClient.inFlight, idle, popped]
  | execute =>
    simp only [MqttClient.step] at moved
    split at moved
    next command answered executing =>
      obtain ⟨requests, pushed, rfl⟩ := Option.map_eq_some_iff.mp moved
      obtain ⟨room, queued⟩ := (BoundedQueue.push_iff ..).mp pushed
      refine ⟨blocked, ?_⟩
      have taken : s.client.inFlight = (command, answered) :: (MqttClient.setReply { s.client with
          requests, executing := none, replied := s.client.replied ++ [command] } answered
          (some true)).inFlight := by
        simp [MqttClient.inFlight, executing, MqttClient.setReply]
      rw [needs_answered taken rfl]
      have bound := requests.bounded
      rw [queued, List.length_append, List.length_singleton] at bound
      simp only [freeSlots, MqttClient.setReply, queued, List.length_append,
        List.length_singleton] at short ⊢
      omega
    next => cases moved

theorem lost_step {action : TaskAction} (posted : s.Posted) (lost : s.Lost)
    (plain : action.Plain) (stepped : s.step action = some s') : s'.Lost := by
  obtain ⟨blocked, short⟩ := lost
  have selects := Lost.not_selecting ⟨blocked, short⟩
  cases step_cases stepped with
  | client action client moved =>
    exact Lost.client ⟨blocked, short⟩ (fun same => plain.2 (congrArg _ same)) moved
  | external command client submitted =>
    obtain ⟨_, _, requests, eventLoop, _, inbound⟩ := MqttClient.submit_effect submitted
    exact Lost.keep ⟨blocked, short⟩ eventLoop inbound requests
      (needs_le_of_submit (by decide) (by decide) submitted)
  | ticked phase | unlocked phase =>
    exact Lost.keep ⟨blocked, short⟩ rfl rfl rfl
      (Nat.le_of_eq (by simp [beaconNeeds, broadcastNeeds, phase]))
  | locked phase =>
    refine Lost.keep ⟨blocked, short⟩ rfl rfl rfl ?_
    simp only [beaconNeeds]
    cases s.beacon with
    | writing channel => simp [broadcastNeeds, phase]
    | selecting | subscribing channel | awaiting channel => exact Nat.le_refl _
  | publishing payload topic rest client phase submitted =>
    obtain ⟨_, _, requests, eventLoop, _, inbound⟩ := MqttClient.submit_effect submitted
    exact Lost.keep ⟨blocked, short⟩ eventLoop inbound requests
      (needs_le_publish posted phase submitted)
  | published rest ok phase reply =>
    exact Lost.keep ⟨blocked, short⟩ rfl rfl rfl (needs_published phase reply).ge
  | offered => exact Lost.keep ⟨blocked, short⟩ rfl rfl rfl (Nat.le_refl _)
  | subscribing channel client phase submitted =>
    obtain ⟨_, _, requests, eventLoop, _, inbound⟩ := MqttClient.submit_effect submitted
    exact Lost.keep ⟨blocked, short⟩ eventLoop inbound requests
      (needs_subscribe posted phase submitted).ge
  | subscribed channel ok phase reply =>
    -- with the reply there nothing would be needed
    simp [beaconNeeds, phase, reply] at short
  | wrote channel phase free =>
    -- a list that is not locked needs no release
    have released : s.broadcastNeeds = 0 := by
      unfold readLocked at free
      unfold broadcastNeeds
      split at free <;> simp_all
    simp [beaconNeeds, phase, released] at short
  | registering _ _ selecting | consumed _ _ selecting | swept _ _ selecting
  | retracted _ selecting => exact absurd selecting selects

/-! ### Back at the `select!` -/

/-- `s` can go on to `s'` by plain steps. -/
def Reaches (s s' : LocalTasks) : Prop :=
  ∃ actions, (∀ action ∈ actions, action.Plain) ∧ Runs.run step s actions = some s'

theorem Reaches.refl (s : LocalTasks) : s.Reaches s := ⟨[], by simp, rfl⟩

theorem Reaches.trans {t : LocalTasks} (first : s.Reaches t) (second : t.Reaches s') :
    s.Reaches s' := by
  obtain ⟨before, plainBefore, ranBefore⟩ := first
  obtain ⟨after, plainAfter, ranAfter⟩ := second
  exact ⟨before ++ after, List.forall_mem_append.mpr ⟨plainBefore, plainAfter⟩,
    (Runs.run_append_iff ..).mpr ⟨t, ranBefore, ranAfter⟩⟩

theorem reaches_of_step {action : TaskAction} (plain : action.Plain)
    (stepped : s.step action = some s') : s.Reaches s' :=
  ⟨[action], by simpa using plain, (Runs.run_cons_iff ..).mpr ⟨s', stepped, rfl⟩⟩

theorem reaches_of_own (action : TaskAction) (own : action.handshake? = none)
    (accepted : action ≠ .client .refuse) (stepped : s.step action = some s') : s.Reaches s' :=
  reaches_of_step ⟨by simp [TaskAction.Made, own], accepted⟩ stepped

theorem posted_run {actions : List TaskAction} (posted : s.Posted)
    (made : ∀ action ∈ actions, action.Made) (ran : Runs.run step s actions = some s') :
    s'.Posted := by
  have restricted := (Runs.run_restrict_iff_forall TaskAction.Made step s s' actions).mpr
    ⟨made, ran⟩
  refine Runs.run_invariant _ Posted (fun t action t' posted stepped => ?_) s s' actions posted
    restricted
  obtain ⟨made, moved⟩ := (Runs.restrict_iff ..).mp stepped
  exact posted_step posted made moved

theorem Reaches.posted (reaches : s.Reaches s') (posted : s.Posted) : s'.Posted := by
  obtain ⟨actions, plain, ran⟩ := reaches
  exact posted_run posted (fun action member => (plain action member).1) ran

/-- With nothing to wait for the list of topics is released. -/
theorem releases (released : s.broadcastNeeds = 0) :
    ∃ t, s.Reaches t ∧ t.readLocked = false ∧ t.beacon = s.beacon := by
  have unlock (s : LocalTasks) (phase : s.broadcast = .publishing []) :
      ∃ t, s.Reaches t ∧ t.readLocked = false ∧ t.beacon = s.beacon := by
    have stepped : s.step .unlockRead = some { s with broadcast := .idle } := by simp [step, phase]
    exact ⟨_, reaches_of_own .unlockRead rfl (by simp) stepped, rfl, rfl⟩
  cases phase : s.broadcast with
  | idle | locking => exact ⟨s, .refl s, by simp [readLocked, phase], rfl⟩
  | publishing rest =>
    cases rest with
    | nil => exact unlock s phase
    | cons topic rest => simp [broadcastNeeds, phase] at released
  | awaiting rest =>
    cases rest with
    | cons topic rest => simp [broadcastNeeds, phase] at released
    | nil =>
      cases reply : s.client.replies .broadcastLoop with
      | none => simp [broadcastNeeds, phase, reply, MqttClient.ahead] at released
      | some ok =>
        have stepped : s.step .published = some { s with broadcast := .publishing [] } := by
          simp [step, phase, reply]
        obtain ⟨t, reaches, free, beacon⟩ := unlock { s with broadcast := .publishing [] } rfl
        exact ⟨t, (reaches_of_own .published rfl (by simp) stepped).trans reaches, free, beacon⟩

theorem returns_of_needs_zero (posted : s.Posted) (needs : s.beaconNeeds = 0) :
    ∃ t, s.Reaches t ∧ t.beacon = .selecting := by
  cases phase : s.beacon with
  | selecting => exact ⟨s, .refl s, phase⟩
  | subscribing channel => simp [beaconNeeds, phase] at needs
  | awaiting channel =>
    cases reply : s.client.replies .beaconLoop with
    | none => simp [beaconNeeds, phase, reply, MqttClient.ahead] at needs
    | some ok =>
      have stepped : s.step .subscribed = some { s with beacon := afterReply channel ok } := by
        simp [step, phase, reply]
      exact ⟨_, reaches_of_own .subscribed rfl (by simp) stepped,
        by simp [afterReply, posted.awaiting channel phase]⟩
  | writing channel =>
    have released : s.broadcastNeeds = 0 := by simpa [beaconNeeds, phase] using needs
    obtain ⟨t, reaches, free, beacon⟩ := releases released
    have stepped : t.step .write = some { t with
        beacon := .selecting
        broadcastTopics := t.broadcastTopics ++ [channel.topic.topic] } := by
      simp [step, beacon, phase, free]
    exact ⟨_, reaches.trans (reaches_of_own .write rfl (by simp) stepped), rfl⟩

/-- The event loop, and what it has to do with the other tasks, are the same. -/
def SameEventLoop (s t : LocalTasks) : Prop :=
  t.client.eventLoop = s.client.eventLoop ∧ t.client.connected = s.client.connected ∧
    t.client.inbound = s.client.inbound

theorem submits (command : MqttCommand) (caller : Caller) (empty : s.client.commands.buffer = []) :
    ∃ client, s.client.submit command caller = some client ∧ client.inFlight ≠ [] := by
  have room : ¬s.client.commands.Full := by simp [BoundedQueue.Full, empty]
  obtain ⟨commands, pushed⟩ := Option.ne_none_iff_exists'.mp
    (mt (BoundedQueue.push_none_iff s.client.commands (command, caller)).mp room)
  have submitted := (MqttClient.submit_iff ..).mpr ⟨commands, pushed, rfl⟩
  exact ⟨_, submitted, by simp [(MqttClient.submit_effect submitted).1]⟩

/-- The broadcast loop puts its next publish on its way. -/
theorem posts_publish {channel : TopicChannel} {topic : String} {rest : List String}
    (posted : s.Posted) (writing : s.beacon = .writing channel)
    (phase : s.broadcast = .publishing (topic :: rest)) (empty : s.client.commands.buffer = []) :
    ∃ t, s.Reaches t ∧ t.client.inFlight ≠ [] ∧ t.beaconNeeds = s.beaconNeeds ∧
      t.client.requests = s.client.requests ∧ s.SameEventLoop t := by
  obtain ⟨client, submitted, flight⟩ :=
    submits (.publish topic .atLeastOnce []) .broadcastLoop empty
  have stepped : s.step (.publish []) = some { s with client, broadcast := .awaiting rest } := by
    simp [step, phase, submitted]
  obtain ⟨_, _, requests, eventLoop, connected, inbound⟩ := MqttClient.submit_effect submitted
  refine ⟨_, reaches_of_own (.publish []) rfl (by simp) stepped, flight, ?_, requests, eventLoop,
    connected, inbound⟩
  simp only [beaconNeeds, writing]
  exact broadcastNeeds_publish posted phase submitted

/-- Whoever needs a command executed can put it on its way. -/
theorem posts (posted : s.Posted) (needs : 0 < s.beaconNeeds) :
    ∃ t, s.Reaches t ∧ t.client.inFlight ≠ [] ∧ t.beaconNeeds = s.beaconNeeds ∧
      t.client.requests = s.client.requests ∧ s.SameEventLoop t := by
  by_cases idle : s.client.inFlight = []
  swap
  · exact ⟨s, .refl s, idle, rfl, rfl, rfl, rfl, rfl⟩
  obtain ⟨noCommand, empty⟩ : s.client.executing = none ∧ s.client.commands.buffer = [] := by
    simpa [MqttClient.inFlight] using idle
  cases phase : s.beacon with
  | selecting => simp [beaconNeeds, phase] at needs
  | subscribing channel =>
    obtain ⟨client, submitted, flight⟩ :=
      submits (.subscribe channel.topic.topic (qosFromU8 channel.topic.qos)) .beaconLoop empty
    have stepped : s.step .subscribe = some { s with client, beacon := .awaiting channel } := by
      simp [step, phase, submitted]
    obtain ⟨_, _, requests, eventLoop, connected, inbound⟩ := MqttClient.submit_effect submitted
    exact ⟨_, reaches_of_own .subscribe rfl (by simp) stepped, flight,
      needs_subscribe posted phase submitted, requests, eventLoop, connected, inbound⟩
  | awaiting channel =>
    have reply := not_owed s.client .beaconLoop (posted.due.beacon channel phase) noCommand empty
    simp [beaconNeeds, phase, reply] at needs
  | writing channel =>
    simp only [beaconNeeds, phase, broadcastNeeds] at needs
    cases publishing : s.broadcast with
    | idle | locking => simp [publishing] at needs
    | publishing rest =>
      cases rest with
      | nil => simp [publishing] at needs
      | cons topic rest => exact posts_publish posted phase publishing empty
    | awaiting rest =>
      have reply := not_owed s.client .broadcastLoop (posted.due.broadcast rest publishing)
        noCommand empty
      obtain ⟨ok, reply⟩ := Option.ne_none_iff_exists'.mp reply
      cases rest with
      | nil => simp [publishing, reply] at needs
      | cons topic rest =>
        -- first the reply to the publish before
        have stepped : s.step .published =
            some { s with broadcast := .publishing (topic :: rest) } := by
          simp [step, publishing, reply]
        have made : TaskAction.published.Made := rfl
        obtain ⟨t, reaches, flight, same, requests, eventLoop⟩ :=
          posts_publish (posted_step posted made stepped) phase rfl empty
        exact ⟨t, (reaches_of_own .published rfl (by simp) stepped).trans reaches, flight,
          same.trans (needs_published publishing reply), requests, eventLoop⟩

/-- The command task has one at hand, or takes one. -/
theorem receives (flight : s.client.inFlight ≠ []) :
    ∃ t command, s.Reaches t ∧ t.client.executing = some command ∧
      t.beaconNeeds = s.beaconNeeds ∧ t.client.requests = s.client.requests ∧
      s.SameEventLoop t := by
  cases executing : s.client.executing with
  | some command => exact ⟨s, command, .refl s, executing, rfl, rfl, rfl, rfl, rfl⟩
  | none =>
    obtain ⟨command, rest, queued⟩ : ∃ command rest, s.client.commands.buffer = command :: rest :=
      List.exists_cons_of_ne_nil (by simpa [MqttClient.inFlight, executing] using flight)
    have bound : rest.length ≤ cmdCapacity := by
      have bound := s.client.commands.bounded
      rw [queued, List.length_cons] at bound
      omega
    have popped := (BoundedQueue.pop_iff s.client.commands ⟨rest, bound⟩ command).mpr queued
    have stepped : s.step (.client .receive) = some { s with client := { s.client with
        executing := some command
        commands := ⟨rest, bound⟩ } } := by
      simp [step, MqttClient.step, executing, popped]
    refine ⟨_, command, reaches_of_own (.client .receive) rfl (by simp) stepped, rfl,
      needs_congr _ ?_ rfl, rfl, rfl, rfl, rfl⟩
    simp [MqttClient.inFlight, executing, queued]

/-- A free slot is a command executed. -/
theorem executes (flight : s.client.inFlight ≠ []) (free : 0 < s.freeSlots) :
    ∃ t, s.Reaches t ∧ t.beaconNeeds = s.beaconNeeds - 1 ∧ t.freeSlots + 1 = s.freeSlots ∧
      s.SameEventLoop t := by
  obtain ⟨r, ⟨command, caller⟩, reaches, executing, needs, requests, eventLoop, connected,
    inbound⟩ := receives flight
  rw [freeSlots, ← requests] at free
  have room : ¬r.client.requests.Full := by
    unfold BoundedQueue.Full
    omega
  obtain ⟨client, moved, taken, replies, queued, polling, stillConnected, unread⟩ :=
    MqttClient.execute_effect executing room
  have stepped : r.step (.client .execute) = some { r with client } := by simp [step, moved]
  refine ⟨_, reaches.trans (reaches_of_own (.client .execute) rfl (by simp) stepped), ?_, ?_,
    polling.trans eventLoop, stillConnected.trans connected, unread.trans inbound⟩
  · rw [← needs]
    exact needs_answered taken replies
  · rw [freeSlots, freeSlots, ← requests]
    simp only [queued, List.length_append, List.length_singleton]
    omega

/-! ### The event loop -/

/-- With a connection and nothing to forward, `poll` sends requests until none is left. -/
theorem drains (polling : s.client.eventLoop = .polling) (connected : s.client.connected) :
    ∃ t, s.Reaches t ∧ t.beaconNeeds = s.beaconNeeds ∧ 0 < t.freeSlots ∧
      t.client.eventLoop = .polling ∧ t.client.connected := by
  induction unsent : s.client.unsent generalizing s with
  | nil =>
    have empty : s.client.requests.buffer = [] := (List.append_eq_nil_iff.mp unsent).2
    exact ⟨s, .refl s, rfl, by simp [freeSlots, empty], polling, connected⟩
  | cons request rest ih =>
    obtain ⟨client, moved, left, flight, replies, polling, connected, _⟩ :=
      MqttClient.poll_effect polling connected unsent
    have stepped : s.step (.client .pollRequest) = some { s with client } := by simp [step, moved]
    obtain ⟨t, reaches, needs, rest⟩ := @ih { s with client } polling connected left
    exact ⟨t, (reaches_of_own (.client .pollRequest) rfl (by simp) stepped).trans reaches,
      needs.trans (needs_congr client flight replies), rest⟩

/-- An event loop that does not wait for room gets to a connection. -/
theorem connects (free : s.eventLoopBlocked = false) :
    ∃ t, s.Reaches t ∧ t.beaconNeeds = s.beaconNeeds ∧ t.client.eventLoop = .polling ∧
      t.client.connected := by
  have fromPolling (s : LocalTasks) (polling : s.client.eventLoop = .polling) :
      ∃ t, s.Reaches t ∧ t.beaconNeeds = s.beaconNeeds ∧ t.client.eventLoop = .polling ∧
        t.client.connected := by
    cases connected : s.client.connected with
    | true => exact ⟨s, .refl s, rfl, polling, connected⟩
    | false =>
      have stepped : s.step (.client .pollConnAck) = some { s with client := { s.client with
          connected := true, connectedTx := false, session := ∅ } } := by
        simp [step, MqttClient.step, polling, connected]
      exact ⟨_, reaches_of_own (.client .pollConnAck) rfl (by simp) stepped,
        needs_congr _ rfl rfl, polling, rfl⟩
  cases eventLoop : s.client.eventLoop with
  | polling => exact fromPolling s eventLoop
  | sleeping =>
    have stepped : s.step (.client .wake) =
        some { s with client := { s.client with eventLoop := .polling } } := by
      simp [step, MqttClient.step, eventLoop]
    obtain ⟨t, reaches, needs, rest⟩ :=
      fromPolling { s with client := { s.client with eventLoop := .polling } } rfl
    exact ⟨t, (reaches_of_own (.client .wake) rfl (by simp) stepped).trans reaches,
      needs.trans (needs_congr _ rfl rfl), rest⟩
  | forwarding msg =>
    have room : ¬s.client.inbound.Full := by simpa [eventLoopBlocked, eventLoop] using free
    obtain ⟨inbound, pushed⟩ := Option.ne_none_iff_exists'.mp
      (mt (BoundedQueue.push_none_iff s.client.inbound msg).mp room)
    have stepped : s.step (.client .forward) =
        some { s with client := { s.client with inbound, eventLoop := .polling } } := by
      simp [step, MqttClient.step, eventLoop, pushed]
    obtain ⟨t, reaches, needs, rest⟩ :=
      fromPolling { s with client := { s.client with inbound, eventLoop := .polling } } rfl
    exact ⟨t, (reaches_of_own (.client .forward) rfl (by simp) stepped).trans reaches,
      needs.trans (needs_congr _ rfl rfl), rest⟩

/-- One command nearer, with a slot less. -/
theorem nearer {n : Nat} (posted : s.Posted) (needs : s.beaconNeeds = n + 1)
    (free : 0 < s.freeSlots) :
    ∃ t, s.Reaches t ∧ t.beaconNeeds = n ∧ t.freeSlots + 1 = s.freeSlots ∧ s.SameEventLoop t := by
  obtain ⟨u, first, flight, same, requests, eventLoop, connected, inbound⟩ :=
    posts posted (by omega)
  have slots : u.freeSlots = s.freeSlots := by rw [freeSlots, freeSlots, requests]
  obtain ⟨t, second, less, fewer, eventLoop', connected', inbound'⟩ :=
    executes flight (slots ▸ free)
  exact ⟨t, first.trans second, by omega, by omega, eventLoop'.trans eventLoop,
    connected'.trans connected, inbound'.trans inbound⟩

theorem returns (posted : s.Posted) (able : s.client.eventLoop = .polling ∧ s.client.connected ∨
    s.beaconNeeds ≤ s.freeSlots) : ∃ t, s.Reaches t ∧ t.beacon = .selecting := by
  induction needs : s.beaconNeeds generalizing s with
  | zero => exact returns_of_needs_zero posted needs
  | succ n ih =>
    rcases able with ⟨polling, connected⟩ | fits
    · -- the event loop makes room
      obtain ⟨u, first, same, free, polling, connected⟩ := drains polling connected
      obtain ⟨t, second, less, _, eventLoop, still, _⟩ :=
        nearer (first.posted posted) (same.trans needs) free
      obtain ⟨v, rest, back⟩ := ih ((first.trans second).posted posted)
        (.inl ⟨eventLoop.trans polling, still.trans connected⟩) less
      exact ⟨v, (first.trans second).trans rest, back⟩
    · obtain ⟨t, first, less, fewer, _⟩ := nearer posted needs (by omega)
      obtain ⟨v, rest, back⟩ := ih (first.posted posted) (.inr (by omega)) less
      exact ⟨v, first.trans rest, back⟩

theorem lost_run {later : List TaskAction} (posted : s.Posted) (lost : s.Lost)
    (plain : ∀ action ∈ later, action.Plain) (ran : Runs.run step s later = some s') :
    s'.Lost := by
  induction later generalizing s with
  | nil =>
    cases ran
    exact lost
  | cons action later ih =>
    obtain ⟨t, stepped, rest⟩ := (Runs.run_cons_iff ..).mp ran
    obtain ⟨now, afterwards⟩ := List.forall_mem_cons.mp plain
    exact ih (posted_step posted now.1 stepped) (lost_step posted lost now stepped) afterwards rest

/-- A closed cycle has gone further than that. -/
theorem lost_of_cycleClosed (closed : s.cycleClosed) : s.Lost := by
  simp only [cycleClosed, Bool.and_eq_true] at closed
  obtain ⟨⟨blocked, stuck⟩, needs⟩ := closed
  have full : s.client.requests.Full := by
    simp only [commandTaskStuck, Bool.and_eq_true, decide_eq_true_eq] at stuck
    exact stuck.2
  have noSlot : s.freeSlots = 0 := by
    unfold BoundedQueue.Full at full
    rw [freeSlots, full, Nat.sub_self]
  have release (needed : s.broadcastNeedsReply) : 0 < s.broadcastNeeds := by
    cases phase : s.broadcast with
    | idle | locking => simp [broadcastNeedsReply, phase] at needed
    | publishing rest =>
      cases rest with
      | nil => simp [broadcastNeedsReply, phase] at needed
      | cons topic rest =>
        simp only [broadcastNeeds, phase, reduceCtorEq, if_false, List.length_cons]
        omega
    | awaiting rest =>
      cases rest with
      | nil =>
        have none : s.client.replies .broadcastLoop = none := by
          simpa [broadcastNeedsReply, phase] using needed
        simp [broadcastNeeds, phase, MqttClient.ahead, none]
      | cons topic rest =>
        simp only [broadcastNeeds, phase, reduceCtorEq, if_false, List.length_cons]
        omega
  refine ⟨blocked, ?_⟩
  rw [noSlot]
  cases phase : s.beacon with
  | selecting => simp [beaconNeedsReply, phase] at needs
  | subscribing channel => simp [beaconNeeds, phase]
  | awaiting channel =>
    have none : s.client.replies .beaconLoop = none := by
      simpa [beaconNeedsReply, phase] using needs
    simp [beaconNeeds, phase, MqttClient.ahead, none]
  | writing channel =>
    have needed : s.broadcastNeedsReply := by
      simpa [beaconNeedsReply, phase] using needs
    simpa [beaconNeeds, phase] using release needed

end LocalTasks

/-- In every reachable state the beacon loop can get back to its `select!`, if and only if the
event loop does not wait for it, or the commands that it needs executed fit into the free slots of
the request queue. Otherwise the event loop waits for ever, and no message is taken any more. A
closed cycle is such a state. -/
theorem beacon_loop_returns_iff (actions : List TaskAction) (s : LocalTasks)
    (ran : Runs.run LocalTasks.step .init actions = some s)
    (made : ∀ action ∈ actions, action.Made) :
    ((∃ later t, (∀ action ∈ later, action.Plain) ∧ Runs.run LocalTasks.step s later = some t ∧
        t.beacon = .selecting) ↔ (s.eventLoopBlocked → s.beaconNeeds ≤ s.freeSlots)) ∧
      (s.eventLoopBlocked → s.freeSlots < s.beaconNeeds → ∀ later t,
        (∀ action ∈ later, action.Plain) → Runs.run LocalTasks.step s later = some t →
          t.eventLoopBlocked ∧ t.beacon ≠ .selecting) ∧
      (s.cycleClosed → s.eventLoopBlocked ∧ s.freeSlots < s.beaconNeeds) := by
  have posted := LocalTasks.posted_run LocalTasks.posted_init made ran
  have forGood (lost : s.Lost) (later : List TaskAction) (t : LocalTasks)
      (plain : ∀ action ∈ later, action.Plain)
      (after : Runs.run LocalTasks.step s later = some t) :
      t.eventLoopBlocked ∧ t.beacon ≠ .selecting := by
    have still := LocalTasks.lost_run posted lost plain after
    exact ⟨still.1, still.not_selecting⟩
  refine ⟨⟨?_, ?_⟩, fun blocked short => forGood ⟨blocked, short⟩,
    LocalTasks.lost_of_cycleClosed⟩
  · rintro ⟨later, t, plain, after, back⟩ blocked
    by_contra short
    exact (forGood ⟨blocked, Nat.lt_of_not_le short⟩ later t plain after).2 back
  · intro fits
    cases blocked : s.eventLoopBlocked with
    | true =>
      obtain ⟨t, ⟨later, plain, after⟩, back⟩ := LocalTasks.returns posted (.inr (fits blocked))
      exact ⟨later, t, plain, after, back⟩
    | false =>
      obtain ⟨u, first, _, polling, connected⟩ := LocalTasks.connects blocked
      obtain ⟨t, rest, back⟩ :=
        LocalTasks.returns (first.posted posted) (.inl ⟨polling, connected⟩)
      obtain ⟨later, plain, after⟩ := first.trans rest
      exact ⟨later, t, plain, after, back⟩

/-- With nine requests unsent the event loop comes to wait for room in the inbound queue; then a
beacon registers. -/
def fullInbound : List TaskAction :=
  let publish : List TaskAction := [.external (.publish "alerts" .atLeastOnce []), .client .receive,
    .client .execute]
  let forward : List TaskAction := [.client (.pollPublish ⟨"registration", []⟩), .client .forward]
  [.client .pollConnAck] ++ (List.range 9).flatMap (fun _ => publish) ++
    (List.range 64).flatMap (fun _ => forward) ++ [.client (.pollPublish ⟨"registration", []⟩),
      .handshake (listenChannel "7b1d"), .takeChannel]

/-- The one free slot is enough for the subscription, but not if a publish comes before it. -/
theorem one_slot_decides :
    (∃ s, Runs.run LocalTasks.step .init (fullInbound ++ [.subscribe]) = some s ∧
      ∃ later t, (∀ action ∈ later, action.Plain) ∧ Runs.run LocalTasks.step s later = some t ∧
        t.beacon = .selecting) ∧
    ∃ s, Runs.run LocalTasks.step .init
        (fullInbound ++ [.external (.publish "alerts" .atLeastOnce []), .subscribe]) = some s ∧
      s.cycleClosed = false ∧ ∀ later t, (∀ action ∈ later, action.Plain) →
        Runs.run LocalTasks.step s later = some t → t.beacon ≠ .selecting := by
  constructor
  · have outcome : (Runs.run LocalTasks.step .init (fullInbound ++ [.subscribe])).map
        (fun s => decide (s.beaconNeeds ≤ s.freeSlots)) = some true := by
      decide +kernel
    obtain ⟨s, ran, fits⟩ := Option.map_eq_some_iff.mp outcome
    exact ⟨s, ran, (beacon_loop_returns_iff _ s ran (by decide +kernel)).1.mpr
      fun _ => of_decide_eq_true fits⟩
  · have outcome : (Runs.run LocalTasks.step .init
        (fullInbound ++ [.external (.publish "alerts" .atLeastOnce []), .subscribe])).map
        (fun s => (s.cycleClosed, s.eventLoopBlocked, decide (s.freeSlots < s.beaconNeeds))) =
          some (false, true, true) := by
      decide +kernel
    obtain ⟨s, ran, facts⟩ := Option.map_eq_some_iff.mp outcome
    simp only [Prod.mk.injEq, decide_eq_true_eq] at facts
    obtain ⟨opened, blocked, short⟩ := facts
    exact ⟨s, ran, opened, fun later t plain after =>
      ((beacon_loop_returns_iff _ s ran (by decide +kernel)).2.1 blocked short later t plain
        after).2⟩

end Hamlet
