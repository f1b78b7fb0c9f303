import Hamlet.LocalTasks

/-!
# Circular wait

The event loop waits for the beacon loop to take a message, the command task waits for the
event loop to take a request, and the beacon loop waits for the command task, either for
the reply to its own command or for a lock that the broadcast loop holds while it waits for
replies. A deadlock of all four tasks contains this cycle, and five kinds of step close it. Once
closed it never opens again; and where a topic is listed, the broadcast loop comes to wait as well.
-/

namespace Hamlet

namespace LocalTasks

/-- The broadcast loop holds the read lock and needs the command task to release it. -/
def broadcastNeedsReply (s : LocalTasks) : Bool :=
  match s.broadcast with
  | .publishing rest => !rest.isEmpty
  | .awaiting rest => !rest.isEmpty || (s.client.replies .broadcastLoop).isNone
  | .idle | .locking => false

/-- The beacon loop is in `register_channel` and needs the command task to leave it. -/
def beaconNeedsReply (s : LocalTasks) : Bool :=
  match s.beacon with
  | .subscribing _ => true
  | .awaiting _ => (s.client.replies .beaconLoop).isNone
  | .writing _ => s.broadcastNeedsReply
  | .selecting => false

def cycleClosed (s : LocalTasks) : Bool :=
  s.eventLoopBlocked && s.commandTaskStuck && s.beaconNeedsReply

/-- The reply that the beacon loop has got sends it on to a topic it has to write. -/
def writesNext (s : LocalTasks) : Bool :=
  match s.beacon with
  | .awaiting channel =>
    channel.topicType = .hybrid && s.client.replies .beaconLoop = some true
  | .selecting | .subscribing _ | .writing _ => false

def isWriting (s : LocalTasks) : Bool :=
  match s.beacon with
  | .writing _ => true
  | .selecting | .subscribing _ | .awaiting _ => false

/-- With `action` the last of the three tasks starts to wait for the others. -/
def closesCycle (s : LocalTasks) : TaskAction → Bool
  | .client (.pollPublish _) =>
    s.client.inbound.Full && s.commandTaskStuck && s.beaconNeedsReply
  | .client .receive => s.eventLoopBlocked && s.client.requests.Full && s.beaconNeedsReply
  | .takeChannel =>
    s.eventLoopBlocked && s.commandTaskStuck &&
      s.channels.buffer.head?.any fun channel =>
        channel.topicType ≠ .broadcast || s.broadcastNeedsReply
  | .subscribed =>
    s.eventLoopBlocked && s.commandTaskStuck && s.writesNext && s.broadcastNeedsReply
  | .lockRead =>
    s.eventLoopBlocked && s.commandTaskStuck && s.isWriting && !s.broadcastTopics.isEmpty
  | _ => false

/-- With `action` the cycle closes while a topic is listed, so that the broadcast loop comes to
wait as well. -/
def dooms (s : LocalTasks) (action : TaskAction) : Bool :=
  s.closesCycle action && !s.broadcastTopics.isEmpty

/-! ### Every deadlock contains the cycle -/

/-- Whoever waits for a reply has a command on its way. -/
structure RepliesDue (s : LocalTasks) : Prop where
  broadcast : ∀ rest, s.broadcast = .awaiting rest → s.client.Owes .broadcastLoop
  beacon : ∀ channel, s.beacon = .awaiting channel → s.client.Owes .beaconLoop

/-- With no command on its way there is a reply, so nobody waits for one. -/
theorem not_owed (c : MqttClient) (caller : Caller) (owes : c.Owes caller)
    (idle : c.executing = none) (empty : c.commands.buffer = []) : c.replies caller ≠ none := by
  intro unanswered
  obtain ⟨command, member⟩ := owes unanswered
  simp [MqttClient.inFlight, idle, empty] at member

theorem broadcastNeedsReply_of_blocked (s : LocalTasks) (blocked : s.broadcastLoopBlocked) :
    s.broadcastNeedsReply := by
  cases phase : s.broadcast with
  | idle | locking => simp [broadcastLoopBlocked, phase] at blocked
  | publishing rest =>
    cases rest with
    | nil => simp [broadcastLoopBlocked, phase] at blocked
    | cons topic rest => simp [broadcastNeedsReply, phase]
  | awaiting rest =>
    have unanswered : s.client.replies .broadcastLoop = none := by
      simpa [broadcastLoopBlocked, phase] using blocked
    simp [broadcastNeedsReply, phase, unanswered]

theorem cycleClosed_of {s : LocalTasks} (eventLoop : s.eventLoopBlocked)
    (commandTask : s.commandTaskStuck) (beacon : s.beaconNeedsReply) : s.cycleClosed := by
  simp [cycleClosed, eventLoop, commandTask, beacon]

theorem cycleClosed_of_deadlocked (s : LocalTasks) (due : RepliesDue s) (dead : s.Deadlocked) :
    s.cycleClosed := by
  obtain ⟨eventLoop, commandTask, broadcast, beacon⟩ := dead
  -- an idle command task would have answered everybody who waits
  have waits : s.client.executing = none → s.client.commands.buffer = [] →
      s.broadcastLoopBlocked = false := by
    intro idle empty
    have room : ¬s.client.commands.Full := by simp [BoundedQueue.Full, empty]
    unfold broadcastLoopBlocked
    split
    next => simpa using room
    next rest phase =>
      have answered := not_owed s.client .broadcastLoop (due.broadcast rest phase) idle empty
      cases reply : s.client.replies .broadcastLoop with
      | none => exact absurd reply answered
      | some ok => rfl
    all_goals rfl
  have stuck : s.commandTaskStuck := by
    simp only [commandTaskBlocked, Bool.or_eq_true, Bool.and_eq_true, Option.isNone_iff_eq_none,
      List.isEmpty_iff] at commandTask
    rcases commandTask with stuck | ⟨idle, empty⟩
    · exact stuck
    · rw [waits idle empty] at broadcast
      cases broadcast
  have needs : s.beaconNeedsReply := by
    cases phase : s.beacon with
    | selecting => simp [beaconLoopBlocked, phase] at beacon
    | subscribing channel => simp [beaconNeedsReply, phase]
    | awaiting channel => simpa [beaconLoopBlocked, beaconNeedsReply, phase] using beacon
    | writing channel =>
      simpa [beaconNeedsReply, phase] using broadcastNeedsReply_of_blocked s broadcast
  exact cycleClosed_of eventLoop stuck needs

/-! ### What a step does to the cycle -/

theorem cycleClosed_congr (s s' : LocalTasks) (eventLoop : s'.eventLoopBlocked = s.eventLoopBlocked)
    (commandTask : s'.commandTaskStuck = s.commandTaskStuck)
    (beacon : s'.beaconNeedsReply = s.beaconNeedsReply) : s'.cycleClosed = s.cycleClosed := by
  rw [cycleClosed, cycleClosed, eventLoop, commandTask, beacon]

/-- Steps of the broadcast loop, of a waiting `register_channel` and of outsiders that change
nothing about who needs whom. -/
def isNeutral : TaskAction → Bool
  | .external _ | .tick | .publish _ | .published | .unlockRead | .handshake _ | .subscribe => true
  | _ => false

theorem cycleClosed_neutral (s s' : LocalTasks) (action : TaskAction) (neutral : isNeutral action)
    (stepped : s.step action = some s') : s'.cycleClosed = s.cycleClosed := by
  cases step_cases stepped with
  | external command client submitted =>
    obtain ⟨commands, _, rfl⟩ := (MqttClient.submit_iff ..).mp submitted
    refine cycleClosed_congr s _ rfl rfl ?_
    simp [beaconNeedsReply, broadcastNeedsReply, MqttClient.setReply]
  | ticked phase | unlocked phase =>
    refine cycleClosed_congr s _ rfl rfl ?_
    simp [beaconNeedsReply, broadcastNeedsReply, phase]
  | publishing payload topic rest client phase submitted =>
    obtain ⟨commands, _, rfl⟩ := (MqttClient.submit_iff ..).mp submitted
    refine cycleClosed_congr s _ rfl rfl ?_
    simp [beaconNeedsReply, broadcastNeedsReply, MqttClient.setReply, phase]
  | published rest ok phase reply =>
    refine cycleClosed_congr s _ rfl rfl ?_
    simp [beaconNeedsReply, broadcastNeedsReply, phase, reply]
  | offered => rfl
  | subscribing channel client phase submitted =>
    obtain ⟨commands, _, rfl⟩ := (MqttClient.submit_iff ..).mp submitted
    refine cycleClosed_congr s _ rfl rfl ?_
    simp [beaconNeedsReply, MqttClient.setReply, phase]
  | client | locked | registering | subscribed | wrote | consumed | swept | retracted =>
    cases neutral

/-- A loop at its `select!` is in no cycle. -/
theorem cycleClosed_selecting (s : LocalTasks) (phase : s.beacon = .selecting) :
    s.cycleClosed = false := by
  simp [cycleClosed, beaconNeedsReply, phase]

/-- The event loop leaves or keeps its wait by a client step; only taking a publish or a
command begins a new wait. -/
theorem cycleClosed_client (s s' : LocalTasks) (action : ClientAction)
    (stepped : s.step (.client action) = some s') (closed : s'.cycleClosed) :
    s.closesCycle (.client action) := by
  obtain ⟨client, moved, rfl⟩ := Option.map_eq_some_iff.mp stepped
  simp only [cycleClosed, Bool.and_eq_true] at closed
  obtain ⟨⟨eventLoop, commandTask⟩, beacon⟩ := closed
  -- all but the last two end with the event loop polling or the command task idle
  cases action with
  | pollConnAck | pollError kept | wake =>
    simp only [MqttClient.step, Option.ite_none_right_eq_some, Option.some.injEq] at moved
    obtain ⟨phase, rfl⟩ := moved
    simp [eventLoopBlocked, phase] at eventLoop
  | pollRequest =>
    simp only [MqttClient.step, Option.ite_none_right_eq_some, MqttClient.sendRequest] at moved
    obtain ⟨⟨phase, _⟩, moved⟩ := moved
    split at moved
    next =>
      cases moved
      simp [eventLoopBlocked, phase] at eventLoop
    next =>
      obtain ⟨_, _, rfl⟩ := Option.map_eq_some_iff.mp moved
      simp [eventLoopBlocked, phase] at eventLoop
  | forward =>
    simp only [MqttClient.step] at moved
    split at moved
    next =>
      obtain ⟨_, _, rfl⟩ := Option.map_eq_some_iff.mp moved
      cases eventLoop
    all_goals cases moved
  | refuse =>
    simp only [MqttClient.step, Option.ite_none_right_eq_some, Option.map_eq_some_iff] at moved
    obtain ⟨idle, _, _, rfl⟩ := moved
    simp [commandTaskStuck, MqttClient.setReply, idle] at commandTask
  | execute =>
    simp only [MqttClient.step] at moved
    split at moved
    next =>
      obtain ⟨_, _, rfl⟩ := Option.map_eq_some_iff.mp moved
      simp [commandTaskStuck, MqttClient.setReply] at commandTask
    next => cases moved
  | pollPublish msg =>
    simp only [MqttClient.step, Option.ite_none_right_eq_some, Option.some.injEq] at moved
    obtain ⟨_, rfl⟩ := moved
    have full : s.client.inbound.Full := by simpa [eventLoopBlocked] using eventLoop
    have stuck : s.commandTaskStuck := commandTask
    have needs : s.beaconNeedsReply := beacon
    simp [closesCycle, full, stuck, needs]
  | receive =>
    simp only [MqttClient.step, Option.ite_none_right_eq_some, Option.map_eq_some_iff] at moved
    obtain ⟨_, ⟨command, commands⟩, _, rfl⟩ := moved
    have blocked : s.eventLoopBlocked := eventLoop
    have full : s.client.requests.Full := by simpa [commandTaskStuck] using commandTask
    have needs : s.beaconNeedsReply := beacon
    simp [closesCycle, blocked, full, needs]

theorem closesCycle_or_closed (s s' : LocalTasks) (action : TaskAction)
    (stepped : s.step action = some s') (closed : s'.cycleClosed) :
    s.cycleClosed ∨ s.closesCycle action := by
  by_cases neutral : isNeutral action
  · exact .inl (cycleClosed_neutral s s' action neutral stepped ▸ closed)
  have selects : s'.beacon ≠ .selecting := by
    intro phase
    rw [cycleClosed_selecting s' phase] at closed
    cases closed
  have waits := closed
  simp only [cycleClosed, Bool.and_eq_true] at waits
  obtain ⟨⟨eventLoop, commandTask⟩, beacon⟩ := waits
  cases step_cases stepped with
  | external | ticked | publishing | published | unlocked | offered | subscribing =>
    exact absurd rfl neutral
  | client action => exact .inr (cycleClosed_client s _ action stepped closed)
  | locked locking =>
    have blocked : s.eventLoopBlocked := eventLoop
    have stuck : s.commandTaskStuck := commandTask
    cases phase : s.beacon with
    | writing channel =>
      -- the reader gets in first and has something to publish
      right
      have topics : s.broadcastTopics ≠ [] := by
        simpa [beaconNeedsReply, broadcastNeedsReply, phase] using beacon
      simp [closesCycle, blocked, stuck, isWriting, phase, topics]
    | selecting => exact absurd phase selects
    | subscribing channel =>
      left
      simp [cycleClosed, blocked, stuck, beaconNeedsReply, phase]
    | awaiting channel =>
      left
      have unanswered : s.client.replies .beaconLoop = none := by
        simpa [beaconNeedsReply, phase] using beacon
      simp [cycleClosed, blocked, stuck, beaconNeedsReply, phase, unanswered]
  | registering channel channels selecting popped =>
    have blocked : s.eventLoopBlocked := eventLoop
    have stuck : s.commandTaskStuck := commandTask
    right
    cases kind : channel.topicType with
    | listen | hybrid => simp [closesCycle, blocked, stuck, popped, kind]
    | broadcast =>
      have needs : s.broadcastNeedsReply := by
        simp only [beaconNeedsReply, registering, kind] at beacon
        exact beacon
      simp [closesCycle, blocked, stuck, popped, needs]
  | subscribed channel ok phase reply =>
    have blocked : s.eventLoopBlocked := eventLoop
    have stuck : s.commandTaskStuck := commandTask
    -- any other reply ends `register_channel`
    have hybrid : channel.topicType = .hybrid ∧ ok := by
      by_contra other
      exact selects (by simp [afterReply, other])
    have needs : s.broadcastNeedsReply := by
      simp only [beaconNeedsReply, afterReply, if_pos hybrid] at beacon
      exact beacon
    right
    simp [closesCycle, blocked, stuck, writesNext, phase, reply, hybrid, needs]
  | wrote => exact absurd rfl selects
  | consumed _ _ selecting | swept _ _ selecting | retracted _ selecting =>
    exact absurd selecting selects

/-- While the beacon loop waits for the lock, the broadcast loop has it. -/
theorem readLocked_of_needsReply {s : LocalTasks} (needs : s.broadcastNeedsReply) :
    s.readLocked := by
  unfold broadcastNeedsReply at needs
  unfold readLocked
  split at needs <;> simp_all

/-- Once the cycle is closed, no step of any task opens it. -/
theorem cycleClosed_persists (s s' : LocalTasks) (action : TaskAction) (closed : s.cycleClosed)
    (stepped : s.step action = some s') : s'.cycleClosed := by
  by_cases neutral : isNeutral action
  · exact (cycleClosed_neutral s s' action neutral stepped).trans closed
  have waits := closed
  simp only [cycleClosed, Bool.and_eq_true] at waits
  obtain ⟨⟨eventLoop, commandTask⟩, beacon⟩ := waits
  have selects : s.beacon ≠ .selecting := by
    intro phase
    rw [cycleClosed_selecting s phase] at closed
    cases closed
  have forwarding : ∃ msg, s.client.eventLoop = .forwarding msg := by
    unfold eventLoopBlocked at eventLoop
    split at eventLoop
    next msg phase => exact ⟨msg, phase⟩
    all_goals cases eventLoop
  obtain ⟨msg, forwarding⟩ := forwarding
  have full : s.client.inbound.Full := by simpa [eventLoopBlocked, forwarding] using eventLoop
  simp only [commandTaskStuck, Bool.and_eq_true, Option.isSome_iff_exists,
    decide_eq_true_eq] at commandTask
  obtain ⟨⟨command, executing⟩, noSlot⟩ := commandTask
  cases step_cases stepped with
  | external | ticked | publishing | published | unlocked | offered | subscribing =>
    exact absurd rfl neutral
  | client action client moved =>
    -- no step of the two client tasks is enabled
    cases action with
    | pollConnAck | pollPublish msg | pollRequest | pollError kept | wake =>
      simp [MqttClient.step, forwarding] at moved
    | forward =>
      simp [MqttClient.step, forwarding, (BoundedQueue.push_none_iff ..).mpr full] at moved
    | receive | refuse => simp [MqttClient.step, executing] at moved
    | execute =>
      simp [MqttClient.step, executing, (BoundedQueue.push_none_iff ..).mpr noSlot] at moved
  | locked locking =>
    refine (cycleClosed_congr s { s with broadcast := .publishing s.broadcastTopics } rfl rfl
      ?_).trans closed
    cases phase : s.beacon with
    | selecting | subscribing channel | awaiting channel => simp [beaconNeedsReply, phase]
    | writing channel => simp [beaconNeedsReply, broadcastNeedsReply, phase, locking] at beacon
  | subscribed channel ok phase reply => simp [beaconNeedsReply, phase, reply] at beacon
  | wrote channel phase free =>
    -- the lock that the cycle runs through is still held
    have locked : s.readLocked :=
      readLocked_of_needsReply (by simpa only [beaconNeedsReply, phase] using beacon)
    simp [locked] at free
  | registering _ _ selecting | consumed _ _ selecting | swept _ _ selecting
  | retracted _ selecting => exact absurd selecting selects

/-- A step that closes the cycle does so. -/
theorem closed_of_closesCycle (s s' : LocalTasks) (action : TaskAction)
    (closes : s.closesCycle action) (stepped : s.step action = some s') : s'.cycleClosed := by
  cases step_cases stepped with
  | client action client moved =>
    cases action with
    | pollPublish msg =>
      simp only [closesCycle, Bool.and_eq_true] at closes
      obtain ⟨⟨full, stuck⟩, needs⟩ := closes
      simp only [MqttClient.step, Option.ite_none_right_eq_some, Option.some.injEq] at moved
      obtain ⟨_, rfl⟩ := moved
      -- the message that the event loop has taken finds no room
      exact cycleClosed_of full stuck needs
    | receive =>
      simp only [closesCycle, Bool.and_eq_true] at closes
      obtain ⟨⟨blocked, full⟩, needs⟩ := closes
      simp only [MqttClient.step, Option.ite_none_right_eq_some, Option.map_eq_some_iff] at moved
      obtain ⟨_, ⟨command, commands⟩, _, rfl⟩ := moved
      -- and here the command no slot
      exact cycleClosed_of blocked (by simpa [commandTaskStuck] using full) needs
    | pollConnAck | pollRequest | pollError | wake | forward | refuse | execute => cases closes
  | locked locking =>
    simp only [closesCycle, Bool.and_eq_true] at closes
    obtain ⟨⟨⟨blocked, stuck⟩, writing⟩, topics⟩ := closes
    -- the beacon loop waits for this reader, who waits for the command task
    refine cycleClosed_of blocked stuck ?_
    cases phase : s.beacon with
    | writing channel => simpa [beaconNeedsReply, broadcastNeedsReply, phase] using topics
    | selecting | subscribing | awaiting => simp [isWriting, phase] at writing
  | registering channel channels selecting popped =>
    simp only [closesCycle, Bool.and_eq_true] at closes
    obtain ⟨⟨blocked, stuck⟩, head⟩ := closes
    refine cycleClosed_of blocked stuck ?_
    cases kind : channel.topicType with
    | listen | hybrid => simp [beaconNeedsReply, registering, kind]
    | broadcast =>
      have needs : s.broadcastNeedsReply := by simpa [popped, kind] using head
      simp only [beaconNeedsReply, registering, kind]
      exact needs
  | subscribed channel ok phase reply =>
    simp only [closesCycle, Bool.and_eq_true] at closes
    obtain ⟨⟨⟨blocked, stuck⟩, writes⟩, needs⟩ := closes
    have hybrid : channel.topicType = .hybrid ∧ ok := by
      simpa [writesNext, phase, reply] using writes
    refine cycleClosed_of blocked stuck ?_
    simp only [beaconNeedsReply, afterReply, if_pos hybrid]
    exact needs
  | external | ticked | publishing | published | unlocked | offered | subscribing | wrote
  | consumed | swept | retracted => cases closes

/-! ### Whole runs -/

theorem RepliesDue.submit {s : LocalTasks} (due : RepliesDue s) (command : MqttCommand)
    (caller : Caller) (client : MqttClient)
    (submitted : s.client.submit command caller = some client) :
    RepliesDue { s with client } where
  broadcast rest phase :=
    MqttClient.owes_submit _ _ _ _ _ (.inl (due.broadcast rest phase)) submitted
  beacon channel phase :=
    MqttClient.owes_submit _ _ _ _ _ (.inl (due.beacon channel phase)) submitted

theorem repliesDue_step (s s' : LocalTasks) (action : TaskAction) (due : RepliesDue s)
    (stepped : s.step action = some s') : RepliesDue s' := by
  cases step_cases stepped with
  | client action client moved =>
    exact ⟨fun rest phase => MqttClient.owes_step _ _ _ _ (due.broadcast rest phase) moved,
      fun channel phase => MqttClient.owes_step _ _ _ _ (due.beacon channel phase) moved⟩
  | external command client submitted => exact due.submit command .outside client submitted
  | ticked | locked | published | unlocked => exact ⟨by simp, due.beacon⟩
  | publishing payload topic rest client phase submitted =>
    have kept := due.submit _ .broadcastLoop client submitted
    exact ⟨fun rest phase => MqttClient.owes_submit _ _ _ _ _ (.inr rfl) submitted, kept.beacon⟩
  | offered | retracted => exact ⟨due.broadcast, due.beacon⟩
  | registering channel =>
    refine ⟨due.broadcast, fun other phase => ?_⟩
    simp only [registering] at phase
    split at phase <;> cases phase
  | subscribing channel client phase submitted =>
    have kept := due.submit _ .beaconLoop client submitted
    exact ⟨kept.broadcast, fun channel phase =>
      MqttClient.owes_submit _ _ _ _ _ (.inr rfl) submitted⟩
  | subscribed channel ok =>
    refine ⟨due.broadcast, fun other phase => ?_⟩
    simp only [afterReply] at phase
    split at phase <;> cases phase
  | wrote => exact ⟨due.broadcast, by simp⟩
  | consumed msg client selecting taken =>
    obtain ⟨_, _, same⟩ := Option.map_eq_some_iff.mp taken
    cases same
    exact ⟨due.broadcast, due.beacon⟩
  | swept topic client selecting submitted =>
    exact due.submit (.unsubscribe topic) .sweep client submitted

/-- Whoever has something to publish has a listed topic. -/
def PublishesListed (s : LocalTasks) : Prop :=
  s.readLocked → s.broadcast = .publishing [] ∨ s.broadcastTopics ≠ []

theorem publishesListed_step {s s' : LocalTasks} {action : TaskAction} (listed : s.PublishesListed)
    (stepped : s.step action = some s') : s'.PublishesListed := by
  cases step_cases stepped with
  | client | external | offered | registering | subscribing | subscribed | consumed | swept =>
    exact listed
  | ticked | unlocked =>
    intro locked
    cases locked
  | locked locking =>
    intro _
    by_cases empty : s.broadcastTopics = []
    · exact .inl (congrArg BroadcastPhase.publishing empty)
    · exact .inr empty
  | publishing payload topic rest client phase =>
    intro _
    exact .inr ((listed (by simp [readLocked, phase])).resolve_left (by simp [phase]))
  | published rest ok phase =>
    intro _
    exact .inr ((listed (by simp [readLocked, phase])).resolve_left (by simp [phase]))
  | wrote _ _ free | retracted _ _ free =>
    -- the list changes only while nobody publishes
    intro locked
    exact absurd (show s.readLocked from locked) (by simp [free])

theorem listed_of_broadcastLoopBlocked {s : LocalTasks} (listed : s.PublishesListed)
    (blocked : s.broadcastLoopBlocked) : s.broadcastTopics ≠ [] := by
  have needs := broadcastNeedsReply_of_blocked s blocked
  refine (listed (readLocked_of_needsReply needs)).resolve_left fun finished => ?_
  simp [broadcastNeedsReply, finished] at needs

/-- In a closed cycle the beacon loop neither writes to the list nor sweeps it. -/
theorem topics_of_cycleClosed {s s' : LocalTasks} {action : TaskAction} (closed : s.cycleClosed)
    (stepped : s.step action = some s') : s'.broadcastTopics = s.broadcastTopics := by
  have waits := closed
  simp only [cycleClosed, Bool.and_eq_true] at waits
  cases step_cases stepped with
  | wrote channel phase free =>
    have locked : s.readLocked :=
      readLocked_of_needsReply (by simpa only [beaconNeedsReply, phase] using waits.2)
    simp [locked] at free
  | retracted topic selecting =>
    rw [cycleClosed_selecting s selecting] at closed
    cases closed
  | _ => rfl

theorem topics_of_closesCycle {s s' : LocalTasks} {action : TaskAction}
    (closes : s.closesCycle action) (stepped : s.step action = some s') :
    s'.broadcastTopics = s.broadcastTopics := by
  cases step_cases stepped with
  | wrote | retracted => cases closes
  | _ => rfl

/-- The broadcast loop stays out of the cycle. -/
theorem unlisted_step {s s' : LocalTasks} {action : TaskAction}
    (apart : s.cycleClosed → s.broadcastTopics = []) (harmless : ¬s.dooms action)
    (stepped : s.step action = some s') : s'.cycleClosed → s'.broadcastTopics = [] := by
  intro closed
  rcases closesCycle_or_closed s s' action stepped closed with earlier | closes
  · rw [topics_of_cycleClosed earlier stepped, apart earlier]
  · rw [topics_of_closesCycle closes stepped]
    simpa [dooms, closes] using harmless

/-! ### The way into a deadlock -/

/-- `s` can go on to `u`. -/
def LeadsTo (s u : LocalTasks) : Prop := ∃ later, Runs.run step s later = some u

theorem LeadsTo.refl (s : LocalTasks) : s.LeadsTo s := ⟨[], rfl⟩

theorem LeadsTo.step {s t u : LocalTasks} (action : TaskAction) (stepped : s.step action = some t)
    (onwards : t.LeadsTo u) : s.LeadsTo u := by
  obtain ⟨later, ran⟩ := onwards
  exact ⟨action :: later, (Runs.run_cons_iff ..).mpr ⟨t, stepped, ran⟩⟩

theorem LeadsTo.trans {s t u : LocalTasks} (first : s.LeadsTo t) (second : t.LeadsTo u) :
    s.LeadsTo u := by
  obtain ⟨before, ranBefore⟩ := first
  obtain ⟨after, ranAfter⟩ := second
  exact ⟨before ++ after, (Runs.run_append_iff ..).mpr ⟨t, ranBefore, ranAfter⟩⟩

theorem LeadsTo.cycleClosed {s u : LocalTasks} (leads : s.LeadsTo u) (closed : s.cycleClosed) :
    u.cycleClosed := by
  obtain ⟨later, ran⟩ := leads
  exact Runs.run_invariant _ (fun t => t.cycleClosed)
    (fun before action after closed stepped => cycleClosed_persists before after action closed stepped)
    s u later closed ran

/-- A handle with room takes a command, and forgets the last reply. -/
theorem submit_of_room {c : MqttClient} (room : ¬c.commands.Full) (command : MqttCommand)
    (caller : Caller) : ∃ client, c.submit command caller = some client ∧
      client.replies = Function.update c.replies caller none ∧
      client.eventLoop = c.eventLoop ∧ client.inbound = c.inbound ∧
      client.executing = c.executing ∧ client.requests = c.requests := by
  obtain ⟨commands, pushed⟩ := Option.isSome_iff_exists.mp (Option.isSome_iff_ne_none.mpr
    fun none => room ((c.commands.push_none_iff (command, caller)).mp none))
  exact ⟨_, (MqttClient.submit_iff ..).mpr ⟨commands, pushed, rfl⟩, rfl, rfl, rfl, rfl, rfl⟩

/-- With a topic left the broadcast loop waits, for room or for a reply. -/
theorem joins_publishing {s : LocalTasks} {topic : String} {rest : List String}
    (phase : s.broadcast = .publishing (topic :: rest)) :
    ∃ u, s.LeadsTo u ∧ u.broadcastLoopBlocked := by
  by_cases full : s.client.commands.Full
  · exact ⟨s, .refl s, by simp [broadcastLoopBlocked, phase, full]⟩
  · obtain ⟨client, submitted, replies, _⟩ :=
      submit_of_room full (.publish topic .atLeastOnce []) .broadcastLoop
    have stepped : s.step (.publish []) = some { s with client, broadcast := .awaiting rest } := by
      simp [step, phase, submitted]
    refine ⟨_, .step _ stepped (.refl _), ?_⟩
    simp [broadcastLoopBlocked, replies]

theorem joins_idle {s : LocalTasks} (phase : s.broadcast = .idle ∨ s.broadcast = .locking)
    (listed : s.broadcastTopics ≠ []) : ∃ u, s.LeadsTo u ∧ u.broadcastLoopBlocked := by
  obtain ⟨topic, rest, topics⟩ := List.exists_cons_of_ne_nil listed
  have locking (t : LocalTasks) (phase : t.broadcast = .locking)
      (same : t.broadcastTopics = topic :: rest) : ∃ u, t.LeadsTo u ∧ u.broadcastLoopBlocked := by
    have stepped : t.step .lockRead = some { t with broadcast := .publishing t.broadcastTopics } := by
      simp [step, phase]
    obtain ⟨u, leads, blocked⟩ := joins_publishing
      (s := { t with broadcast := .publishing t.broadcastTopics }) (congrArg _ same)
    exact ⟨u, .step _ stepped leads, blocked⟩
  rcases phase with idle | ready
  · have stepped : s.step .tick = some { s with broadcast := .locking } := by simp [step, idle]
    obtain ⟨u, leads, blocked⟩ := locking { s with broadcast := .locking } rfl topics
    exact ⟨u, .step _ stepped leads, blocked⟩
  · exact locking s ready topics

/-- Wherever the broadcast loop is, its next topic stops it. -/
theorem joins {s : LocalTasks} (listed : s.broadcastTopics ≠ []) :
    ∃ u, s.LeadsTo u ∧ u.broadcastLoopBlocked := by
  have publishing (t : LocalTasks) (rest : List String) (phase : t.broadcast = .publishing rest)
      (listed : t.broadcastTopics ≠ []) : ∃ u, t.LeadsTo u ∧ u.broadcastLoopBlocked := by
    cases rest with
    | cons topic rest => exact joins_publishing phase
    | nil =>
      have stepped : t.step .unlockRead = some { t with broadcast := .idle } := by
        simp [step, phase]
      obtain ⟨u, leads, blocked⟩ := joins_idle (s := { t with broadcast := .idle }) (.inl rfl) listed
      exact ⟨u, .step _ stepped leads, blocked⟩
  cases phase : s.broadcast with
  | idle => exact joins_idle (.inl phase) listed
  | locking => exact joins_idle (.inr phase) listed
  | publishing rest => exact publishing s rest phase listed
  | awaiting rest =>
    cases reply : s.client.replies .broadcastLoop with
    | none => exact ⟨s, .refl s, by simp [broadcastLoopBlocked, phase, reply]⟩
    | some ok =>
      have stepped : s.step .published = some { s with broadcast := .publishing rest } := by
        simp [step, phase, reply]
      obtain ⟨u, leads, blocked⟩ := publishing { s with broadcast := .publishing rest } rest rfl listed
      exact ⟨u, .step _ stepped leads, blocked⟩

/-- With the broadcast loop waiting, a closed cycle is a deadlock once the beacon loop has handed
in its command. -/
theorem deadlocks_of_blocked {s : LocalTasks} (closed : s.cycleClosed)
    (blocked : s.broadcastLoopBlocked) : ∃ u, s.LeadsTo u ∧ u.Deadlocked := by
  simp only [cycleClosed, Bool.and_eq_true] at closed
  obtain ⟨⟨eventLoop, stuck⟩, needs⟩ := closed
  have commandTask : s.commandTaskBlocked := by simp [commandTaskBlocked, stuck]
  cases phase : s.beacon with
  | selecting => simp [beaconNeedsReply, phase] at needs
  | awaiting channel =>
    refine ⟨s, .refl s, eventLoop, commandTask, blocked, ?_⟩
    simpa [beaconLoopBlocked, beaconNeedsReply, phase] using needs
  | writing channel =>
    refine ⟨s, .refl s, eventLoop, commandTask, blocked, ?_⟩
    simpa [beaconLoopBlocked, phase] using
      readLocked_of_needsReply (broadcastNeedsReply_of_blocked s blocked)
  | subscribing channel =>
    by_cases full : s.client.commands.Full
    · exact ⟨s, .refl s, eventLoop, commandTask, blocked, by simp [beaconLoopBlocked, phase, full]⟩
    · obtain ⟨client, submitted, replies, sameEventLoop, inbound, executing, requests⟩ :=
        submit_of_room full (.subscribe channel.topic.topic (qosFromU8 channel.topic.qos))
          .beaconLoop
      have stepped : s.step .subscribe = some { s with client, beacon := .awaiting channel } := by
        simp [step, phase, submitted]
      refine ⟨_, .step _ stepped (.refl _), ?_, ?_, ?_, ?_⟩
      · simpa [eventLoopBlocked, sameEventLoop, inbound] using eventLoop
      · have stuck' : commandTaskStuck { s with client, beacon := .awaiting channel } := by
          simpa [commandTaskStuck, executing, requests] using stuck
        simp [commandTaskBlocked, stuck']
      · -- it waits for its reply, since there is room
        cases publishing : s.broadcast with
        | idle | locking => simp [broadcastLoopBlocked, publishing] at blocked
        | publishing rest => cases rest <;> simp [broadcastLoopBlocked, publishing, full] at blocked
        | awaiting rest => simpa [broadcastLoopBlocked, publishing, replies] using blocked
      · simp [beaconLoopBlocked, replies]

/-- After a doomed step the four tasks can come to block one another, without any help from
outside. -/
theorem deadlock_of_dooms {s t : LocalTasks} {action : TaskAction} (doomed : s.dooms action)
    (stepped : s.step action = some t) : ∃ u, t.LeadsTo u ∧ u.Deadlocked := by
  simp only [dooms, Bool.and_eq_true] at doomed
  have closed := closed_of_closesCycle s t action doomed.1 stepped
  have listed : t.broadcastTopics ≠ [] := by
    rw [topics_of_closesCycle doomed.1 stepped]
    simpa using doomed.2
  obtain ⟨u, leads, blocked⟩ := joins listed
  obtain ⟨v, onwards, dead⟩ := deadlocks_of_blocked (leads.cycleClosed closed) blocked
  exact ⟨v, leads.trans onwards, dead⟩

end LocalTasks

/-- In every interleaving in which no step closes the cycle of waits while a topic is listed, the
four tasks never block one another. After such a step they can, in some continuation; and in none
do the event loop, the command task and the beacon loop come to move again. -/
theorem no_deadlock_without_closing_step (actions : List TaskAction) (s : LocalTasks)
    (ran : Runs.run (Runs.restrict (fun s action => ¬s.dooms action) LocalTasks.step)
      .init actions = some s) :
    ¬s.Deadlocked ∧
    ∀ action t, s.dooms action → s.step action = some t →
      (∃ later u, Runs.run LocalTasks.step t later = some u ∧ u.Deadlocked) ∧
      ∀ later u, Runs.run LocalTasks.step t later = some u →
        u.eventLoopBlocked ∧ u.commandTaskStuck ∧ u.beaconNeedsReply := by
  have inv : s.RepliesDue ∧ s.PublishesListed ∧ (s.cycleClosed → s.broadcastTopics = []) := by
    refine Runs.run_invariant _
      (fun s => s.RepliesDue ∧ s.PublishesListed ∧ (s.cycleClosed → s.broadcastTopics = [])) ?_
      .init s actions ⟨⟨by simp [LocalTasks.init], by simp [LocalTasks.init]⟩,
        fun locked => (by cases locked), fun _ => rfl⟩ ran
    rintro before action after ⟨due, listed, apart⟩ stepped
    obtain ⟨harmless, stepped⟩ := (Runs.restrict_iff ..).mp stepped
    exact ⟨LocalTasks.repliesDue_step before after action due stepped,
      LocalTasks.publishesListed_step listed stepped,
      LocalTasks.unlisted_step apart harmless stepped⟩
  obtain ⟨due, listed, apart⟩ := inv
  refine ⟨fun dead => ?_, fun action t doomed stepped => ⟨?_, fun later u ran => ?_⟩⟩
  · have topics := LocalTasks.listed_of_broadcastLoopBlocked listed dead.2.2.1
    exact topics (apart (LocalTasks.cycleClosed_of_deadlocked s due dead))
  · obtain ⟨u, ⟨later, leads⟩, blocked⟩ := LocalTasks.deadlock_of_dooms doomed stepped
    exact ⟨later, u, leads, blocked⟩
  · simp only [LocalTasks.dooms, Bool.and_eq_true] at doomed
    have closed := LocalTasks.closed_of_closesCycle s t action doomed.1 stepped
    have leads : t.LeadsTo u := ⟨later, ran⟩
    simpa [LocalTasks.cycleClosed, and_assoc] using leads.cycleClosed closed

/-- One beacon registers and the broadcast loop publishes to it. -/
def quietRun : List TaskAction :=
  [.client .pollConnAck, .handshake (listenChannel "7b1d"), .handshake (broadcastChannel "7b1d"),
   .takeChannel, .subscribe, .client .receive, .client .execute, .subscribed, .takeChannel, .write,
   .tick, .lockRead, .publish [], .client .receive, .client .execute]

/-- Twelve beacons are registered and the broadcast loop has begun its cycle when another
one registers. Messages arrive faster than the beacon loop, now waiting for the write lock,
can take them, until the event loop waits in `msg_tx.send`; from then on nobody takes
requests, and the eleventh publish of the cycle finds their queue full. -/
def busyRun : List TaskAction :=
  let registered : List TaskAction :=
    (List.range 12).flatMap fun n =>
      [.handshake (broadcastChannel (toString n)), .takeChannel, .write]
  let inbound : List TaskAction :=
    (List.range 64).flatMap fun _ => [.client (.pollPublish ⟨"registration", []⟩), .client .forward]
  let published : List TaskAction :=
    (List.range 10).flatMap fun _ =>
      [.publish [], .client .receive, .client .execute, .published]
  [.client .pollConnAck, .external (.subscribe "registration" .atLeastOnce), .client .receive,
   .client .execute, .client .pollRequest] ++ registered ++
  [.tick, .lockRead, .handshake (broadcastChannel "c20e"), .takeChannel] ++ inbound ++
  [.client (.pollPublish ⟨"registration", []⟩)] ++ published ++ [.publish [], .client .receive]

/-- The quiet run is spared; the last step of the busy one dooms it. -/
theorem quiet_run_spared_busy_run_doomed :
    (∃ s, Runs.run (Runs.restrict (fun s action => ¬s.dooms action) LocalTasks.step) .init
        quietRun = some s ∧ s.broadcast = .awaiting [] ∧ ¬s.Deadlocked) ∧
    ∃ s t, Runs.run (Runs.restrict (fun s action => ¬s.dooms action) LocalTasks.step) .init
        busyRun.dropLast = some s ∧ ¬s.Deadlocked ∧ s.step (.client .receive) = some t ∧
      ∃ later u, Runs.run LocalTasks.step t later = some u ∧ u.Deadlocked := by
  constructor
  · have outcome : (Runs.run (Runs.restrict (fun s action => ¬s.dooms action) LocalTasks.step)
        .init quietRun).map LocalTasks.broadcast = some (.awaiting []) := by decide +kernel
    obtain ⟨s, ran, phase⟩ := Option.map_eq_some_iff.mp outcome
    exact ⟨s, ran, phase, (no_deadlock_without_closing_step quietRun s ran).1⟩
  · have outcome : ((Runs.run (Runs.restrict (fun s action => ¬s.dooms action) LocalTasks.step)
        .init busyRun.dropLast).any fun s =>
          s.dooms (.client .receive) && (s.step (.client .receive)).isSome) = true := by
      decide +kernel
    obtain ⟨s, ran, last⟩ := (Option.any_eq_true ..).mp outcome
    obtain ⟨doomed, enabled⟩ := Bool.and_eq_true_iff.mp last
    obtain ⟨t, stepped⟩ := Option.isSome_iff_exists.mp enabled
    obtain ⟨alive, doom⟩ := no_deadlock_without_closing_step busyRun.dropLast s ran
    exact ⟨s, t, ran, alive, stepped, (doom _ t doomed stepped).1⟩

theorem busy_run_deadlocks :
    ∃ s, Runs.run LocalTasks.step .init busyRun = some s ∧ s.Deadlocked := by
  have outcome : (Runs.run LocalTasks.step .init busyRun).map (fun s => decide s.Deadlocked) =
      some true := by
    decide +kernel
  obtain ⟨s, ran, dead⟩ := Option.map_eq_some_iff.mp outcome
  exact ⟨s, ran, of_decide_eq_true dead⟩

end Hamlet
