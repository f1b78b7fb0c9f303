import Hamlet.LocalTasks

/-!
# A node without a broker

Where mosquitto is not installed the tasks of the local MQTT client are never spawned, but its
command channel is open and the HTTP gateway takes handshakes. So a command is queued and never
answered. In these runs no step belongs to the client.
-/

namespace Hamlet

/-- The step belongs to none of the client's two tasks. -/
def TaskAction.Unstarted : TaskAction → Prop
  | .client _ => False
  | _ => True

/-- The channel that a handshake has queued, if the action is one. -/
def TaskAction.handshake? : TaskAction → Option TopicChannel
  | .handshake channel => some channel
  | _ => none

namespace LocalTasks

/-- Nobody has got an answer. -/
def Unanswered (s : LocalTasks) : Prop := ∀ caller, s.client.replies caller = none

/-- The message loop is in `register_channel`, before the reply to its subscribe command. -/
def WaitsOn (channel : TopicChannel) (s : LocalTasks) : Prop :=
  s.beacon = .subscribing channel ∨ s.beacon = .awaiting channel

theorem unanswered_submit {c c' : MqttClient} {command : MqttCommand} {caller : Caller}
    (unanswered : ∀ other, c.replies other = none) (submitted : c.submit command caller = some c') :
    ∀ other, c'.replies other = none := by
  obtain ⟨commands, _, rfl⟩ := (MqttClient.submit_iff ..).mp submitted
  intro other
  by_cases same : other = caller
  · rw [same, MqttClient.setReply_self]
  · rw [MqttClient.setReply_other _ _ _ _ same]
    exact unanswered other

/-- What the node has got to when these channels have been queued: nothing is subscribed to, and
the first channel is the last one looked at. -/
structure Muted (offered : List TopicChannel) (s : LocalTasks) : Prop where
  unanswered : s.Unanswered
  unlisted : s.broadcastTopics = []
  stuck : (s.beacon = .selecting ∧ s.channels.buffer = offered) ∨
    ∃ channel rest, offered = channel :: rest ∧ s.WaitsOn channel ∧ s.channels.buffer = rest

/-- The message loop and the two lists stay as they are. -/
theorem Muted.keep {offered : List TopicChannel} {s s' : LocalTasks} (muted : Muted offered s)
    (action : TaskAction) (silent : action.handshake? = none) (unanswered : s'.Unanswered)
    (unlisted : s'.broadcastTopics = s.broadcastTopics) (beacon : s'.beacon = s.beacon)
    (channels : s'.channels = s.channels) :
    Muted (offered ++ action.handshake?.toList) s' ∧
      ∀ channel, s.WaitsOn channel → s'.WaitsOn channel := by
  rw [silent, Option.toList_none, List.append_nil]
  refine ⟨⟨unanswered, unlisted.trans muted.unlisted, ?_⟩, ?_⟩
  · simp only [WaitsOn, beacon, channels]
    exact muted.stuck
  · simp only [WaitsOn, beacon]
    exact fun _ waits => waits

theorem WaitsOn.not_selecting {s : LocalTasks} {channel : TopicChannel} (waits : s.WaitsOn channel) :
    s.beacon ≠ .selecting := by
  rcases waits with waits | waits <;> simp [waits]

/-- In the `select!` nothing has been taken. -/
theorem Muted.selecting {offered : List TopicChannel} {s : LocalTasks} (muted : Muted offered s)
    (selecting : s.beacon = .selecting) : s.channels.buffer = offered := by
  rcases muted.stuck with ⟨_, queued⟩ | ⟨channel, _, _, waits, _⟩
  · exact queued
  · exact absurd selecting waits.not_selecting

theorem muted_step {offered : List TopicChannel} {s s' : LocalTasks} {action : TaskAction}
    (muted : Muted offered s) (unstarted : action.Unstarted)
    (first : ∀ channel, offered.head? = some channel → channel.topicType ≠ .broadcast)
    (stepped : s.step action = some s') :
    Muted (offered ++ action.handshake?.toList) s' ∧
      ∀ channel, s.WaitsOn channel → s'.WaitsOn channel := by
  cases step_cases stepped with
  | client => exact absurd unstarted id
  | offered channel channels pushed =>
    have queued := ((BoundedQueue.push_iff ..).mp pushed).2
    refine ⟨⟨muted.unanswered, muted.unlisted, ?_⟩, fun _ waits => waits⟩
    rcases muted.stuck with ⟨selecting, all⟩ | ⟨taken, rest, same, waits, others⟩
    · exact .inl ⟨selecting, by rw [queued, all]; rfl⟩
    · exact .inr ⟨taken, rest ++ [channel], by rw [same]; rfl, waits, by rw [queued, others]⟩
  | registering channel channels selecting queued =>
    simp only [TaskAction.handshake?, Option.toList_none, List.append_nil]
    rw [muted.selecting selecting] at queued
    refine ⟨⟨muted.unanswered, muted.unlisted, .inr ⟨channel, channels.buffer, queued, ?_, rfl⟩⟩,
      fun _ waits => absurd selecting waits.not_selecting⟩
    -- a channel to listen on is subscribed to before anything else
    have kind := first channel (by rw [queued]; rfl)
    left
    show registering channel = _
    unfold registering
    cases same : channel.topicType with
    | broadcast => exact absurd same kind
    | listen | hybrid => rfl
  | subscribing channel client subscribing submitted =>
    simp only [TaskAction.handshake?, Option.toList_none, List.append_nil]
    have same : ∀ other, s.WaitsOn other → other = channel := by
      rintro other (waits | waits)
      · rw [subscribing] at waits
        exact (BeaconPhase.subscribing.inj waits).symm
      · rw [subscribing] at waits
        cases waits
    refine ⟨⟨unanswered_submit muted.unanswered submitted, muted.unlisted, ?_⟩, ?_⟩
    · rcases muted.stuck with ⟨selecting, _⟩ | ⟨taken, rest, all, waits, others⟩
      · rw [subscribing] at selecting
        cases selecting
      · exact .inr ⟨taken, rest, all, .inr (by rw [same taken waits]), others⟩
    · intro other waits
      exact .inr (by rw [same other waits])
  | wrote channel writing =>
    -- nobody gets as far as this
    rcases muted.stuck with ⟨selecting, _⟩ | ⟨_, _, _, waits | waits, _⟩
    · rw [writing] at selecting
      cases selecting
    all_goals
      rw [writing] at waits
      cases waits
  | subscribed channel ok phase reply =>
    rw [muted.unanswered .beaconLoop] at reply
    cases reply
  | published rest ok phase reply =>
    rw [muted.unanswered .broadcastLoop] at reply
    cases reply
  | external command client submitted =>
    exact muted.keep (.external command) rfl (unanswered_submit muted.unanswered submitted)
      rfl rfl rfl
  | publishing payload topic rest client phase submitted =>
    exact muted.keep (.publish payload) rfl (unanswered_submit muted.unanswered submitted)
      rfl rfl rfl
  | swept topic client selecting submitted =>
    exact muted.keep (.sweepUnsubscribe topic) rfl (unanswered_submit muted.unanswered submitted)
      rfl rfl rfl
  | consumed msg client selecting taken =>
    obtain ⟨⟨_, inbound⟩, _, same⟩ := Option.map_eq_some_iff.mp taken
    cases same
    exact muted.keep .takeMessage rfl muted.unanswered rfl rfl rfl
  | ticked | locked | unlocked => exact muted.keep _ rfl muted.unanswered rfl rfl rfl
  | retracted topic =>
    refine muted.keep (.sweepRetract topic) rfl muted.unanswered ?_ rfl rfl
    show s.broadcastTopics.filter (· ≠ topic) = _
    rw [muted.unlisted]
    rfl

theorem muted_init : Muted [] init :=
  ⟨fun _ => rfl, rfl, .inl ⟨rfl, rfl⟩⟩

theorem muted_run {offered : List TopicChannel} {s t : LocalTasks} {actions : List TaskAction}
    (muted : Muted offered s) (unstarted : ∀ action ∈ actions, action.Unstarted)
    (first : ∀ channel, (offered ++ actions.filterMap TaskAction.handshake?).head? = some channel →
      channel.topicType ≠ .broadcast)
    (ran : Runs.run step s actions = some t) :
    Muted (offered ++ actions.filterMap TaskAction.handshake?) t ∧
      ∀ channel, s.WaitsOn channel → t.WaitsOn channel := by
  induction actions generalizing offered s with
  | nil =>
    cases ran
    rw [List.filterMap_nil, List.append_nil]
    exact ⟨muted, fun _ waits => waits⟩
  | cons action rest ih =>
    obtain ⟨u, stepped, later⟩ := (Runs.run_cons_iff ..).mp ran
    have split : offered ++ (action :: rest).filterMap TaskAction.handshake? =
        offered ++ action.handshake?.toList ++ rest.filterMap TaskAction.handshake? := by
      rw [List.filterMap_cons]
      cases action.handshake? <;> simp
    have before : ∀ channel, offered.head? = some channel → channel.topicType ≠ .broadcast := by
      intro channel head
      refine first channel ?_
      rw [List.head?_append, head]
      rfl
    obtain ⟨mutedU, waitsU⟩ :=
      muted_step muted (unstarted action List.mem_cons_self) before stepped
    rw [split] at first ⊢
    obtain ⟨mutedT, waitsT⟩ :=
      ih mutedU (fun a member => unstarted a (List.mem_cons_of_mem _ member)) first later
    exact ⟨mutedT, fun channel waits => waitsT channel (waitsU channel waits)⟩

end LocalTasks

/-- On a node whose MQTT client was never started, handshakes are answered but no device is ever
registered. Whatever happens, nothing is subscribed to and no topic is broadcast to; the message
loop takes the first channel and waits for its subscribe command for ever, so that it takes no
other channel or message and sweeps no more. At most 65 channels find room in the queue; those of
later handshakes are dropped. -/
theorem no_device_without_client (actions : List TaskAction) (s : LocalTasks)
    (ran : Runs.run LocalTasks.step .init actions = some s)
    (unstarted : ∀ action ∈ actions, action.Unstarted)
    (first : ∀ channel, (actions.filterMap TaskAction.handshake?).head? = some channel →
      channel.topicType ≠ .broadcast) :
    s.broadcastTopics = [] ∧ (∀ caller, s.client.replies caller = none) ∧
      (actions.filterMap TaskAction.handshake?).length ≤ topicCapacity + 1 ∧
      ∀ channel, s.beacon = .subscribing channel ∨ s.beacon = .awaiting channel →
        ∀ later t, (∀ action ∈ later, action.Unstarted) →
          Runs.run LocalTasks.step s later = some t →
            (t.beacon = .subscribing channel ∨ t.beacon = .awaiting channel) ∧
            s.channels.buffer <+: t.channels.buffer := by
  have muted := (LocalTasks.muted_run LocalTasks.muted_init unstarted (by simpa using first) ran).1
  rw [List.nil_append] at muted
  refine ⟨muted.unlisted, muted.unanswered, ?_, ?_⟩
  · have room := s.channels.bounded
    rcases muted.stuck with ⟨_, queued⟩ | ⟨channel, rest, all, _, queued⟩
    · rw [← queued]
      omega
    · rw [all, List.length_cons, ← queued]
      omega
  · intro channel waits later t unstarted' after
    rcases muted.stuck with ⟨selecting, _⟩ | ⟨taken, rest, all, _, queued⟩
    · exact absurd selecting (LocalTasks.WaitsOn.not_selecting waits)
    · -- the first channel stays the first
      have first' : ∀ c, (actions.filterMap TaskAction.handshake? ++
          later.filterMap TaskAction.handshake?).head? = some c → c.topicType ≠ .broadcast := by
        intro c head
        rw [all] at head first
        exact first c head
      obtain ⟨mutedT, waitsT⟩ := LocalTasks.muted_run muted unstarted' first' after
      refine ⟨waitsT channel waits, ?_⟩
      rcases mutedT.stuck with ⟨selecting, _⟩ | ⟨takenT, restT, allT, _, queuedT⟩
      · exact absurd selecting (LocalTasks.WaitsOn.not_selecting (waitsT channel waits))
      · rw [all, List.cons_append] at allT
        rw [queued, queuedT, ← (List.cons.inj allT).2]
        exact List.prefix_append _ _

/-- Two handshakes on such a node. -/
def unheardHandshakes : List TaskAction :=
  ((handshakeChannels "7b1d") ++ (handshakeChannels "c20e")).map .handshake ++
    [.takeChannel, .subscribe]

theorem unheardHandshakes_wait :
    ∃ s, Runs.run LocalTasks.step .init unheardHandshakes = some s ∧
      s.beacon = .awaiting (listenChannel "7b1d") ∧
      ∀ later t, (∀ action ∈ later, action.Unstarted) →
        Runs.run LocalTasks.step s later = some t →
          t.beacon = .subscribing (listenChannel "7b1d") ∨
            t.beacon = .awaiting (listenChannel "7b1d") := by
  obtain ⟨s, ran, waits⟩ :
      ∃ s, Runs.run LocalTasks.step .init unheardHandshakes = some s ∧
        s.beacon = .awaiting (listenChannel "7b1d") := ⟨_, rfl, rfl⟩
  obtain ⟨_, _, _, hangs⟩ := no_device_without_client unheardHandshakes s ran
    (by simp [unheardHandshakes, TaskAction.Unstarted, handshakeChannels])
    (by simp [unheardHandshakes, TaskAction.handshake?, handshakeChannels, listenChannel])
  exact ⟨s, ran, waits, fun later t unstarted after =>
    (hangs (listenChannel "7b1d") (.inr waits) later t unstarted after).1⟩

end Hamlet
