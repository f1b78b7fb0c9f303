import Hamlet.MqttClient.Tasks

/-!
# Subscriptions and reconnects

The broker holds what the client subscribed to as long as each lost connection leaves
unsent requests that rebuild the whole set. The client itself subscribes nothing again:
`connected_tx` reports the first `ConnAck` only.
-/

namespace Hamlet

def MqttCommand.IsAbout (topic : String) : MqttCommand → Bool
  | .subscribe t _ | .unsubscribe t => t = topic
  | .publish _ _ _ => false

def MqttCommand.IsSubscribe : MqttCommand → Bool
  | .subscribe _ _ => true
  | .unsubscribe _ | .publish _ _ _ => false

/-- The most recent command on the topic is a subscribe. -/
def Wants (history : List MqttCommand) (topic : String) : Prop :=
  (history.reverse.find? (MqttCommand.IsAbout topic)).any MqttCommand.IsSubscribe

/-- Connected and with nothing left to send, the broker holds exactly the wanted topics. -/
def SubscriptionsMatch (c : MqttClient) : Prop :=
  c.connected → c.unsent = [] → ∀ topic, topic ∈ c.session ↔ Wants c.replied topic

/-- What the client does on its own, and what others do to it. -/
inductive ClientEvent where
  | internal (action : ClientAction)
  | submit (command : MqttCommand) (caller : Caller)
  | consume
  deriving DecidableEq, Repr

def clientStep (c : MqttClient) : ClientEvent → Option MqttClient
  | .internal action => c.step action
  | .submit command caller => c.submit command caller
  | .consume => c.consume.map Prod.snd

/-- The subscriptions after delivering requests to an empty session. -/
def subscribed (history : List MqttCommand) : Finset String := history.foldl deliver ∅

/-- When a connection is lost, the surviving requests alone lead to the topics wanted at that
moment. -/
def ReplayRestores (c : MqttClient) : ClientEvent → Prop
  | .internal (.pollError kept) => subscribed kept = subscribed c.replied
  | _ => True

instance (c : MqttClient) : DecidablePred (ReplayRestores c)
  | .internal action =>
    match action with
    | .pollError kept => inferInstanceAs (Decidable (subscribed kept = subscribed c.replied))
    | .pollConnAck | .pollPublish _ | .pollRequest | .forward | .wake | .receive | .refuse
    | .execute => inferInstanceAs (Decidable True)
  | .submit _ _ | .consume => inferInstanceAs (Decidable True)

theorem mem_deliver (session : Finset String) (command : MqttCommand) (topic : String) :
    topic ∈ deliver session command ↔
      if command.IsAbout topic then command.IsSubscribe = true else topic ∈ session := by
  cases command with
  | subscribe t qos =>
    by_cases same : t = topic
    · simp [deliver, MqttCommand.IsAbout, MqttCommand.IsSubscribe, same]
    · have differs : topic ≠ t := fun eq => same eq.symm
      simp [deliver, MqttCommand.IsAbout, same, differs]
  | unsubscribe t =>
    by_cases same : t = topic
    · simp [deliver, MqttCommand.IsAbout, MqttCommand.IsSubscribe, same]
    · have differs : topic ≠ t := fun eq => same eq.symm
      simp [deliver, MqttCommand.IsAbout, same, differs]
  | publish t qos payload => simp [deliver, MqttCommand.IsAbout]

/-- The session that a history builds is the set of wanted topics. -/
theorem mem_subscribed_iff (history : List MqttCommand) (topic : String) :
    topic ∈ subscribed history ↔ Wants history topic := by
  -- by the last command: it decides its own topic and leaves the others
  induction history using List.reverseRecOn with
  | nil => simp [subscribed, Wants]
  | append_singleton history last ih =>
    have built : subscribed (history ++ [last]) = deliver (subscribed history) last := by
      simp [subscribed]
    rw [built, mem_deliver]
    unfold Wants at ih ⊢
    rw [List.reverse_append, List.reverse_singleton, List.singleton_append, List.find?_cons]
    cases last.IsAbout topic with
    | true => simp
    | false => simpa using ih

/-! ### The invariant -/

/-- Delivering what is unsent leads to the wanted topics, and without a connection the
broker holds nothing. -/
structure ReplayInvariant (c : MqttClient) : Prop where
  delivers : c.unsent.foldl deliver c.session = subscribed c.replied
  disconnected : c.connected = false → c.session = ∅

theorem ReplayInvariant.subscriptionsMatch {c : MqttClient} (inv : ReplayInvariant c) :
    SubscriptionsMatch c := by
  intro _ sent topic
  have delivers := inv.delivers
  rw [sent, List.foldl_nil] at delivers
  rw [delivers, mem_subscribed_iff]

/-- Steps that touch neither the requests nor the broker nor the replies. -/
theorem ReplayInvariant.of_same {c c' : MqttClient} (inv : ReplayInvariant c)
    (unsent : c'.unsent = c.unsent) (session : c'.session = c.session)
    (replied : c'.replied = c.replied) (connected : c'.connected = c.connected) :
    ReplayInvariant c' where
  delivers := by rw [unsent, session, replied, inv.delivers]
  disconnected := by
    rw [connected, session]
    exact inv.disconnected

theorem ReplayInvariant.sendRequest {c c' : MqttClient} (inv : ReplayInvariant c)
    (connected : c.connected) (sent : c.sendRequest = some c') : ReplayInvariant c' := by
  have delivers := inv.delivers
  unfold MqttClient.sendRequest at sent
  split at sent
  next request pending shape =>
    -- the oldest unsent request moves into the session
    cases sent
    refine ⟨?_, fun lost => absurd (connected.symm.trans lost) (by decide)⟩
    rwa [MqttClient.unsent, shape, List.cons_append, List.foldl_cons] at delivers
  next shape =>
    obtain ⟨⟨request, requests⟩, popped, rfl⟩ := Option.map_eq_some_iff.mp sent
    rw [BoundedQueue.pop_iff] at popped
    refine ⟨?_, fun lost => absurd (connected.symm.trans lost) (by decide)⟩
    rw [MqttClient.unsent, shape, popped, List.nil_append, List.foldl_cons] at delivers
    simpa [MqttClient.unsent, shape] using delivers

theorem replayInvariant_step (c c' : MqttClient) (action : ClientAction) (inv : ReplayInvariant c)
    (restores : ReplayRestores c (.internal action)) (stepped : c.step action = some c') :
    ReplayInvariant c' := by
  cases action with
  | pollConnAck =>
    simp only [MqttClient.step, Option.ite_none_right_eq_some, Option.some.injEq] at stepped
    obtain ⟨⟨_, fresh⟩, rfl⟩ := stepped
    -- there was no connection, so the new session loses nothing
    have empty := inv.disconnected (by simpa using fresh)
    have delivers := inv.delivers
    rw [empty] at delivers
    exact ⟨delivers, fun lost => absurd lost (by simp)⟩
  | pollPublish msg =>
    simp only [MqttClient.step, Option.ite_none_right_eq_some, Option.some.injEq] at stepped
    obtain ⟨_, rfl⟩ := stepped
    exact inv.of_same rfl rfl rfl rfl
  | pollRequest =>
    simp only [MqttClient.step, Option.ite_none_right_eq_some] at stepped
    exact inv.sendRequest stepped.1.2 stepped.2
  | pollError kept =>
    simp only [MqttClient.step, Option.ite_none_right_eq_some, Option.some.injEq] at stepped
    obtain ⟨_, rfl⟩ := stepped
    have rebuilt : kept.foldl deliver ∅ = subscribed c.replied := restores
    refine ⟨?_, fun _ => rfl⟩
    simpa [MqttClient.unsent, BoundedQueue.empty] using rebuilt
  | forward =>
    simp only [MqttClient.step] at stepped
    split at stepped
    next =>
      obtain ⟨inbound, _, rfl⟩ := Option.map_eq_some_iff.mp stepped
      exact inv.of_same rfl rfl rfl rfl
    all_goals cases stepped
  | wake =>
    simp only [MqttClient.step, Option.ite_none_right_eq_some, Option.some.injEq] at stepped
    obtain ⟨_, rfl⟩ := stepped
    exact inv.of_same rfl rfl rfl rfl
  | receive =>
    simp only [MqttClient.step, Option.ite_none_right_eq_some, Option.map_eq_some_iff] at stepped
    obtain ⟨_, _, _, rfl⟩ := stepped
    exact inv.of_same rfl rfl rfl rfl
  | refuse =>
    simp only [MqttClient.step, Option.ite_none_right_eq_some, Option.map_eq_some_iff] at stepped
    obtain ⟨_, _, _, rfl⟩ := stepped
    exact inv.of_same rfl rfl rfl rfl
  | execute =>
    -- the command becomes the last unsent request and the last `Ok` reply
    simp only [MqttClient.step] at stepped
    split at stepped
    next command caller _ =>
      obtain ⟨requests, pushed, rfl⟩ := Option.map_eq_some_iff.mp stepped
      obtain ⟨_, queued⟩ := (BoundedQueue.push_iff ..).mp pushed
      have delivers := inv.delivers
      refine ⟨?_, inv.disconnected⟩
      simp only [MqttClient.unsent] at delivers
      simp only [MqttClient.unsent, MqttClient.setReply, queued, ← List.append_assoc,
        List.foldl_append, delivers, subscribed]
    next => cases stepped

theorem replayInvariant_clientStep (c c' : MqttClient) (e : ClientEvent) (inv : ReplayInvariant c)
    (restores : ReplayRestores c e) (stepped : clientStep c e = some c') : ReplayInvariant c' := by
  cases e with
  | internal action => exact replayInvariant_step c c' action inv restores stepped
  | submit command caller =>
    simp only [clientStep, MqttClient.submit, Option.map_eq_some_iff] at stepped
    obtain ⟨_, _, rfl⟩ := stepped
    exact inv.of_same rfl rfl rfl rfl
  | consume =>
    simp only [clientStep, MqttClient.consume, Option.map_eq_some_iff] at stepped
    obtain ⟨_, ⟨_, _, rfl⟩, rfl⟩ := stepped
    exact inv.of_same rfl rfl rfl rfl

/-- Over any commands, polls, errors and reconnects, the broker holds the wanted topics
whenever everything is delivered, if each lost connection leaves unsent requests that
restore them. -/
theorem broker_holds_wanted_topics (events : List ClientEvent) (c : MqttClient)
    (ran : Runs.run (Runs.restrict ReplayRestores clientStep) .init events = some c) :
    SubscriptionsMatch c := by
  refine ReplayInvariant.subscriptionsMatch
    (Runs.run_invariant _ ReplayInvariant ?_ .init c events ⟨rfl, fun _ => rfl⟩ ran)
  intro before e after inv stepped
  obtain ⟨restores, stepped⟩ := (Runs.restrict_iff ..).mp stepped
  exact replayInvariant_clientStep before after e inv restores stepped

/-- The first attempt to connect fails while a subscribe request is queued, and the request
survives. -/
def lateBroker : List ClientEvent :=
  [.submit (.subscribe "registration" .atLeastOnce) .outside, .internal .receive, .internal .execute,
   .internal (.pollError [.subscribe "registration" .atLeastOnce]), .internal .wake,
   .internal .pollConnAck, .internal .pollRequest]

theorem late_broker_holds_wanted_topics :
    ∃ c, Runs.run (Runs.restrict ReplayRestores clientStep) .init lateBroker = some c ∧
      c.session = {"registration"} ∧ SubscriptionsMatch c :=
  ⟨_, rfl, by decide, broker_holds_wanted_topics lateBroker _ rfl⟩

/-- Subscribe, then lose the connection once. -/
def brokerRestart : List ClientEvent :=
  [.internal .pollConnAck, .submit (.subscribe "registration" .atLeastOnce) .outside,
   .internal .receive, .internal .execute, .internal .pollRequest, .internal (.pollError []),
   .internal .wake, .internal .pollConnAck]

theorem broker_restart_loses_subscriptions :
    ∃ c, Runs.run clientStep .init brokerRestart = some c ∧ ¬SubscriptionsMatch c := by
  refine ⟨_, rfl, ?_⟩
  intro holds
  have held := (holds rfl rfl "registration").mpr (by unfold Wants; decide)
  revert held
  decide

end Hamlet
