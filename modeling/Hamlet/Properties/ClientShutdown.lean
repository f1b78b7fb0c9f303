import Hamlet.Lib.ActorRuns
import Hamlet.MqttClient.Lifecycle

/-!
# Calls to the local MQTT client, and its shutdown

What a caller of `MqttClientHandle` learns, in every interleaving of the callers, the two tasks,
the broker and a `stop`: `Ok` means that the command stands in the queue of `rumqttc`, and before
a `stop` only the topic of a command can make it fail. After a `stop` the event loop asks the
queue for a slot while nobody drains it.
-/

namespace Hamlet

open Actor

namespace ClientTasks

variable {κ : Type} [DecidableEq κ] {accepts : MqttCommand → Bool}

/-! ### The command task -/

theorem signalled_step {commands commands' : CommandTask κ} {action : CommandAction κ}
    (own : commands.step commandTask action = some commands') (plain : action ≠ .signal) :
    commands'.signalled = commands.signalled := by
  cases System.step_cases commandTask own with
  | signalled => exact absurd rfl plain
  | called | accepted | refused | cancelled | taken | replied | unheard | lost | cloned | released
  | finished => rfl

/-- A command that is answered is added to those served. -/
theorem served_complete {commands commands' : CommandTask κ} {answer : Except String Unit}
    {caller : κ} {command : MqttCommand} (busy : commands.busy = some (caller, command))
    (own : commands.step commandTask (.complete answer) = some commands') :
    commands'.served = commands.served ++
      [⟨caller, answer, command, answer.mapError command.failure⟩] := by
  simp only [System.step, busy, Option.some.injEq] at own
  cases own
  rfl

theorem served_plain {commands commands' : CommandTask κ} {action : CommandAction κ}
    (own : commands.step commandTask action = some commands')
    (plain : ∀ answer, action ≠ .complete answer) : commands'.served = commands.served := by
  cases System.step_cases commandTask own with
  | replied _ _ env | unheard _ _ env => exact absurd rfl (plain env)
  | called | accepted | refused | cancelled | taken | lost | cloned | released | signalled
  | finished => rfl

/-! ### What holds in every state -/

/-- What a served command tells its caller. -/
def Explained (accepts : MqttCommand → Bool) (shutdown : Bool)
    (e : Entry κ (Except String Unit) MqttCommand (Except String Unit)) : Prop :=
  e.reply = .ok () ∨ ∃ msg, e.reply = .error (e.request.failure msg) ∧
    (accepts e.request = false ∨ shutdown)

/-- The command was answered `Ok`. -/
def Confirmed (s : ClientTasks κ) (command : MqttCommand) : Prop :=
  ∃ e ∈ s.commands.served, e.request = command ∧ e.reply = .ok ()

structure Invariant (accepts : MqttCommand → Bool) (s : ClientTasks κ) : Prop where
  commands : System.Invariant commandTask () s.commands
  signalled : s.commands.signalled = s.shutdown
  leaving : s.eventLoop = .disconnecting ∨ s.eventLoop = .exited → s.shutdown
  explained : ∀ e ∈ s.commands.served, Explained accepts s.shutdown e
  confirmed : ∀ command, .command command ∈ s.sent ++ s.pending ++ s.requests.buffer →
    s.Confirmed command
  unsent : .disconnect ∉ s.sent ++ s.pending
  queued : .disconnect ∈ s.requests.buffer → s.eventLoop = .exited

omit [DecidableEq κ] in
theorem invariant_init : Invariant accepts (init : ClientTasks κ) where
  commands := System.invariant_init commandTask ()
  signalled := rfl
  leaving := by simp [init]
  explained := nofun
  confirmed := nofun
  unsent := by simp [init]
  queued := nofun

omit [DecidableEq κ] in
theorem Explained.mono {shutdown : Bool}
    {e : Entry κ (Except String Unit) MqttCommand (Except String Unit)}
    (explained : Explained accepts shutdown e) : Explained accepts true e := by
  rcases explained with ok | ⟨msg, failed, _⟩
  · exact .inl ok
  · exact .inr ⟨msg, failed, .inr rfl⟩

/-- A step of a caller, or one of the command task that answers nobody. -/
theorem Invariant.commanded {s : ClientTasks κ} (inv : Invariant accepts s)
    {action : CommandAction κ} {commands : CommandTask κ}
    (own : s.commands.step commandTask action = some commands)
    (plain : action ≠ .signal ∧ ∀ answer, action ≠ .complete answer) :
    Invariant accepts { s with commands } := by
  have same := served_plain own plain.2
  refine ⟨inv.commands.step own, (signalled_step own plain.1).trans inv.signalled, inv.leaving,
    ?_, ?_, inv.unsent, inv.queued⟩
  · intro e member
    exact inv.explained e (same ▸ member)
  · intro command member
    obtain ⟨e, served, details⟩ := inv.confirmed command member
    exact ⟨e, same.symm ▸ served, details⟩

/-- The command in hand is answered. -/
theorem Invariant.answered {s : ClientTasks κ} (inv : Invariant accepts s) {caller : κ}
    {command : MqttCommand} {answer : Except String Unit} {commands : CommandTask κ}
    (requests : BoundedQueue ClientRequest requestCapacity)
    (busy : s.commands.busy = some (caller, command))
    (own : s.commands.step commandTask (.complete answer) = some commands)
    (explains : Explained accepts s.shutdown
      (⟨caller, answer, command, answer.mapError command.failure⟩ :
        Entry κ (Except String Unit) MqttCommand (Except String Unit)))
    (only : ∀ request ∈ requests.buffer, request ∈ s.requests.buffer ∨
      (request = .command command ∧ answer = .ok ())) :
    Invariant accepts { s with requests, commands } := by
  have served := served_complete busy own
  refine ⟨inv.commands.step own, (signalled_step own nofun).trans inv.signalled, inv.leaving,
    ?_, ?_, inv.unsent, ?_⟩
  · intro e member
    rw [served, List.mem_append, List.mem_singleton] at member
    rcases member with old | rfl
    · exact inv.explained e old
    · exact explains
  · intro other member
    -- either it was there before, or it is the command that has just been queued
    rcases List.mem_append.mp member with written | queued
    · obtain ⟨e, old, details⟩ := inv.confirmed other (List.mem_append_left _ written)
      exact ⟨e, served.symm ▸ List.mem_append_left _ old, details⟩
    · rcases only _ queued with before | ⟨same, rfl⟩
      · obtain ⟨e, old, details⟩ := inv.confirmed other (List.mem_append_right _ before)
        exact ⟨e, served.symm ▸ List.mem_append_left _ old, details⟩
      · cases same
        exact ⟨_, served.symm ▸ List.mem_append_right _ (List.mem_singleton.mpr rfl), rfl, rfl⟩
  · intro member
    rcases only _ member with before | ⟨same, _⟩
    · exact inv.queued before
    · cases same

omit [DecidableEq κ] in
/-- The event loop goes on to another phase. -/
theorem Invariant.setPhase {s : ClientTasks κ} (inv : Invariant accepts s)
    (running : s.eventLoop ≠ .exited) (phase : LoopPhase)
    (told : phase = .disconnecting ∨ phase = .exited → s.shutdown)
    (inbound : BoundedQueue MqttMessage msgCapacity) :
    Invariant accepts { s with eventLoop := phase, inbound } :=
  ⟨inv.commands, inv.signalled, told, inv.explained, inv.confirmed, inv.unsent,
    fun member => absurd (inv.queued member) running⟩

omit [DecidableEq κ] in
/-- What is sent, kept or queued was known before. -/
theorem Invariant.moved {s : ClientTasks κ} (inv : Invariant accepts s)
    (running : s.eventLoop ≠ .exited) (phase : LoopPhase)
    (awake : phase = .polling ∨ phase = .sleeping) (connected : Bool)
    (sent pending : List ClientRequest)
    (requests : BoundedQueue ClientRequest requestCapacity)
    (known : sent ++ pending ++ requests.buffer ⊆ s.sent ++ s.pending ++ s.requests.buffer) :
    Invariant accepts { s with eventLoop := phase, connected, sent, pending, requests } := by
  have absent : .disconnect ∉ sent ++ pending ++ requests.buffer := fun member => by
    rcases List.mem_append.mp (known member) with written | queued
    · exact inv.unsent written
    · exact running (inv.queued queued)
  refine ⟨inv.commands, inv.signalled, ?_, inv.explained, ?_, ?_, ?_⟩
  · rintro (rfl | rfl) <;> simp at awake
  · exact fun command member => inv.confirmed command (known member)
  · exact fun member => absent (List.mem_append_left _ member)
  · exact fun member => absurd (List.mem_append_right _ member) absent

theorem Invariant.step {s s' : ClientTasks κ} {action : LifecycleAction κ}
    (inv : Invariant accepts s) (stepped : Steps accepts s action s') : Invariant accepts s' := by
  cases stepped with
  | commanded action commands own plain => exact inv.commanded own plain
  | executed caller command requests commands busy taken queued own =>
    refine inv.answered requests busy own (.inl rfl) fun request member => ?_
    rw [queued, List.mem_append, List.mem_singleton] at member
    exact member.imp_right fun same => ⟨same, rfl⟩
  | failed caller command e commands busy refused own =>
    refine inv.answered s.requests busy own (.inr ⟨e, rfl, ?_⟩) fun request member => .inl member
    rcases refused with gone | refused
    · exact .inr (inv.leaving (.inr gone))
    · exact .inl refused
  | acknowledged | consumed =>
    exact ⟨inv.commands, inv.signalled, inv.leaving, inv.explained, inv.confirmed, inv.unsent,
      inv.queued⟩
  | published msg polling => exact inv.setPhase (by simp [polling]) _ (by simp) s.inbound
  | resent request pending polling connected first =>
    have moved := inv.moved (by simp [polling]) s.eventLoop (.inl polling) s.connected
      (s.sent ++ [request]) pending s.requests (by simp [first])
    exact moved
  | sentNext request requests polling connected drained first =>
    have moved := inv.moved (by simp [polling]) s.eventLoop (.inl polling) s.connected
      (s.sent ++ [request]) s.pending requests (by simp [drained, first])
    exact moved
  | unreachable polling => exact inv.setPhase (by simp [polling]) _ (by simp) s.inbound
  | lost kept polling connected known =>
    refine inv.moved (by simp [polling]) .sleeping (.inr rfl) false s.sent kept .empty ?_
    simpa [BoundedQueue.empty] using known
  | forwarded msg inbound forwarding =>
    exact inv.setPhase (by simp [forwarding]) _ (by simp) inbound
  | woken sleeping => exact inv.setPhase (by simp [sleeping]) _ (by simp) s.inbound
  | stopped commands own =>
    have same := served_plain own (by simp)
    refine ⟨inv.commands.step own, ?_, fun _ => rfl, ?_, ?_, inv.unsent, inv.queued⟩
    · cases System.step_cases commandTask own
      rfl
    · exact fun e member => (inv.explained e (same ▸ member)).mono
    · intro command member
      obtain ⟨e, served, details⟩ := inv.confirmed command member
      exact ⟨e, same.symm ▸ served, details⟩
  | told polling shutdown =>
    exact inv.setPhase (by simp [polling]) _ (fun _ => shutdown) s.inbound
  | left requests leaving room queued =>
    refine ⟨inv.commands, inv.signalled, fun _ => inv.leaving (.inl leaving), inv.explained, ?_,
      inv.unsent, fun _ => rfl⟩
    intro command member
    refine inv.confirmed command ?_
    simpa [queued] using member

theorem invariant_run {s : ClientTasks κ} {actions : List (LifecycleAction κ)}
    (ran : Runs.run (step accepts) init actions = some s) : Invariant accepts s :=
  Runs.run_invariant _ (Invariant accepts)
    (fun _ _ _ inv stepped => inv.step (step_cases accepts stepped)) init s actions
    invariant_init ran

end ClientTasks

section

variable {κ : Type} [DecidableEq κ] (accepts : MqttCommand → Bool)

/-- What the callers of `MqttClientHandle` learn, in every run. The commands are executed in the
order in which the channel accepted them. A call returns the result of its command, or one of the
channel's two errors, and these only after a `stop`. Before a `stop` a command fails only for its
topic, connected or not: `Ok` says that it was queued. The broker gets only what was answered `Ok`,
and never the `DISCONNECT` of the shutdown branch. -/
theorem client_results (actions : List (LifecycleAction κ)) (s : ClientTasks κ)
    (ran : Runs.run (ClientTasks.step accepts) .init actions = some s) :
    (s.commands.served.map Entry.accepted <+: s.commands.accepted) ∧
      (∀ caller outcome, s.commands.calls caller = some (.ended outcome) →
        (∃ e ∈ s.commands.served, e.caller = caller ∧
          MqttClientHandle.outcome outcome = e.reply) ∨
        (s.shutdown ∧ (MqttClientHandle.outcome outcome = .error "mqtt client channel closed" ∨
          MqttClientHandle.outcome outcome = .error "mqtt client dropped reply"))) ∧
      (∀ e ∈ s.commands.served, e.reply = .ok () ∨
        ∃ msg, e.reply = .error (e.request.failure msg) ∧
          (accepts e.request = false ∨ s.shutdown)) ∧
      (∀ command, .command command ∈ s.sent →
        ∃ e ∈ s.commands.served, e.request = command ∧ e.reply = .ok ()) ∧
      .disconnect ∉ s.sent := by
  have inv := ClientTasks.invariant_run ran
  refine ⟨?_, ?_, inv.explained, ?_, ?_⟩
  · rw [inv.commands.ordered.order]
    exact List.prefix_append _ _
  · intro caller outcome ended
    cases outcome with
    | reply result =>
      obtain ⟨e, served, own, same⟩ := inv.commands.answered.replied caller result ended
      exact .inl ⟨e, served, own, same.symm⟩
    | closed =>
      have signalled := inv.commands.borrowed.errors caller (.inl ended)
      exact .inr ⟨inv.signalled ▸ signalled, .inl rfl⟩
    | dropped =>
      have signalled := inv.commands.borrowed.errors caller (.inr ended)
      exact .inr ⟨inv.signalled ▸ signalled, .inr rfl⟩
  · exact fun command sent =>
      inv.confirmed command (List.mem_append_left _ (List.mem_append_left _ sent))
  · exact fun sent => inv.unsent (List.mem_append_left _ sent)

/-- Two calls before there is a connection; the broker gets the first one. -/
def earlyPublishes : List (LifecycleAction Nat) :=
  [.command (.call 1 (.publish "a" .atLeastOnce [])), .command (.enqueue 1), .command .take,
    .command (.complete (.ok ())), .command (.call 2 (.unsubscribe "b")), .pollConnAck,
    .pollRequest, .stop, .command (.finish ()), .command (.refuse 2)]

theorem earlyPublishes_results :
    ∃ s, Runs.run (ClientTasks.step fun _ => true) .init earlyPublishes = some s ∧
      s.commands.calls 1 = some (.ended (.reply (.ok ()))) ∧
      s.commands.calls 2 = some (.ended .closed) ∧
      (∃ e ∈ s.commands.served, e.request = .publish "a" .atLeastOnce [] ∧ e.reply = .ok ()) := by
  obtain ⟨s, ran, first, second, sent⟩ :
      ∃ s, Runs.run (ClientTasks.step fun _ => true) .init earlyPublishes = some s ∧
        s.commands.calls 1 = some (.ended (.reply (.ok ()))) ∧
        s.commands.calls 2 = some (.ended .closed) ∧
        s.sent = [.command (.publish "a" .atLeastOnce [])] := ⟨_, rfl, rfl, rfl, rfl⟩
  obtain ⟨_, _, _, confirmed, _⟩ := client_results (fun _ => true) earlyPublishes s ran
  refine ⟨s, ran, first, second, confirmed _ ?_⟩
  rw [sent]
  exact List.mem_singleton_self _

end

/-! ### The end of the two tasks -/

namespace ClientTasks

variable {κ : Type} [DecidableEq κ] {accepts : MqttCommand → Bool}

/-- Nobody makes a new call. -/
def Quiet (actions : List (LifecycleAction κ)) : Prop :=
  ∀ caller request, .command (.call caller request) ∉ actions

/-- In `client.disconnect`, which waits for a slot that only this task could free. -/
def Stuck (s : ClientTasks κ) : Prop := s.eventLoop = .disconnecting ∧ s.requests.Full

omit [DecidableEq κ] in
theorem not_full_append {requests requests' : BoundedQueue ClientRequest requestCapacity}
    {request : ClientRequest} (queued : requests'.buffer = requests.buffer ++ [request]) :
    ¬requests.Full := by
  intro full
  have below := requests'.bounded
  rw [queued, List.length_append, List.length_singleton, full] at below
  omega

theorem Stuck.step {s s' : ClientTasks κ} {action : LifecycleAction κ} (stuck : s.Stuck)
    (stepped : Steps accepts s action s') : s'.Stuck := by
  obtain ⟨leaving, full⟩ := stuck
  cases stepped with
  | executed _ _ _ _ _ _ queued => exact absurd full (not_full_append queued)
  | left _ _ room => exact absurd full room
  | commanded | failed | consumed | stopped => exact ⟨leaving, full⟩
  | acknowledged polling | published _ polling | resent _ _ polling | sentNext _ _ polling
  | unreachable polling | lost _ polling | told polling =>
    rw [leaving] at polling
    cases polling
  | forwarded _ _ forwarding =>
    rw [leaving] at forwarding
    cases forwarding
  | woken sleeping =>
    rw [leaving] at sleeping
    cases sleeping

theorem busy_plain {commands commands' : CommandTask κ} {action : CommandAction κ}
    {request : κ × MqttCommand} (busy : commands.busy = some request)
    (own : commands.step commandTask action = some commands')
    (plain : ∀ answer, action ≠ .complete answer) : commands'.busy = some request := by
  cases System.step_cases commandTask own with
  | taken _ _ _ idle | finished _ _ _ idle => simp [busy] at idle
  | replied _ _ env | unheard _ _ env => exact absurd rfl (plain env)
  | called | accepted | refused | cancelled | lost | cloned | released | signalled => exact busy

/-- A command that waits for a slot then goes on waiting, and nothing is served. -/
theorem Stuck.busy_step {s s' : ClientTasks κ} {action : LifecycleAction κ} (stuck : s.Stuck)
    {caller : κ} {command : MqttCommand} (busy : s.commands.busy = some (caller, command))
    (accepted : accepts command) (stepped : Steps accepts s action s') :
    s'.commands.busy = some (caller, command) ∧ s'.commands.served = s.commands.served := by
  cases stepped with
  | commanded _ _ own plain => exact ⟨busy_plain busy own plain.2, served_plain own plain.2⟩
  | stopped _ own => exact ⟨busy_plain busy own nofun, served_plain own nofun⟩
  | executed _ _ _ _ _ _ queued => exact absurd stuck.2 (not_full_append queued)
  | failed _ _ _ _ same refused =>
    rw [busy, Option.some.injEq, Prod.mk.injEq] at same
    rcases refused with gone | refused
    · rw [stuck.1] at gone
      cases gone
    · rw [← same.2, accepted] at refused
      cases refused
  | acknowledged | published | resent | sentNext | unreachable | lost | forwarded | woken
  | consumed | told | left => exact ⟨busy, rfl⟩

theorem Stuck.run {s s' : ClientTasks κ} {actions : List (LifecycleAction κ)} (stuck : s.Stuck)
    (ran : Runs.run (ClientTasks.step accepts) s actions = some s') : s'.Stuck :=
  Runs.run_invariant _ Stuck (fun _ _ _ stuck stepped => stuck.step (step_cases accepts stepped))
    s s' actions stuck ran

theorem Stuck.busy_run {s s' : ClientTasks κ} {actions : List (LifecycleAction κ)} (stuck : s.Stuck)
    {caller : κ} {command : MqttCommand} (busy : s.commands.busy = some (caller, command))
    (accepted : accepts command) (ran : Runs.run (ClientTasks.step accepts) s actions = some s') :
    s'.commands.busy = some (caller, command) ∧ s'.commands.served = s.commands.served := by
  have kept := Runs.run_invariant (ClientTasks.step accepts)
    (fun t => t.Stuck ∧ t.commands.busy = some (caller, command) ∧
      t.commands.served = s.commands.served) ?_ s s' actions ⟨stuck, busy, rfl⟩ ran
  · exact kept.2
  · intro t action t' ⟨stuck, busy, served⟩ stepped
    have step := step_cases accepts stepped
    obtain ⟨busy', served'⟩ := stuck.busy_step busy accepted step
    exact ⟨stuck.step step, busy', served'.trans served⟩

/-! ### A way out -/

/-- The event loop can end, while the callers and the command task stand still. -/
def CanLeave (accepts : MqttCommand → Bool) (s : ClientTasks κ) : Prop :=
  ∃ (actions : List (LifecycleAction κ)) (t : ClientTasks κ), Quiet actions ∧
    Runs.run (step accepts) s actions = some t ∧ t.eventLoop = .exited ∧ t.commands = s.commands

theorem CanLeave.cons {s : ClientTasks κ} (action : LifecycleAction κ) (t : ClientTasks κ)
    (stepped : s.step accepts action = some t) (quiet : Quiet [action])
    (same : t.commands = s.commands) (leaves : t.CanLeave accepts) : s.CanLeave accepts := by
  obtain ⟨actions, u, later, ran, exited, kept⟩ := leaves
  refine ⟨action :: actions, u, ?_, (Runs.run_cons_iff ..).mpr ⟨t, stepped, ran⟩, exited,
    kept.trans same⟩
  intro caller request member
  rcases List.mem_cons.mp member with first | rest
  · exact quiet caller request (List.mem_singleton.mpr first)
  · exact later caller request rest

omit [DecidableEq κ] in
theorem Quiet.append {first later : List (LifecycleAction κ)} (quiet : Quiet first)
    (still : Quiet later) : Quiet (first ++ later) := by
  intro caller request member
  rcases List.mem_append.mp member with before | after
  · exact quiet caller request before
  · exact still caller request after

end ClientTasks

section

variable {κ : Type} [DecidableEq κ] (accepts : MqttCommand → Bool)

/-- And if it is, this stays so: nothing is sent any more, and a command that waits for a slot in
that queue waits for ever, with the callers behind it. -/
theorem full_queue_blocks_shutdown (actions later : List (LifecycleAction κ)) (s t : ClientTasks κ)
    (ran : Runs.run (ClientTasks.step accepts) .init actions = some s)
    (leaving : s.eventLoop = .disconnecting) (full : s.requests.Full)
    (after : Runs.run (ClientTasks.step accepts) s later = some t) :
    t.eventLoop = .disconnecting ∧ t.requests.Full ∧ s.shutdown ∧
      ∀ caller command, s.commands.busy = some (caller, command) → accepts command →
        t.commands.busy = some (caller, command) ∧ t.commands.finished = false ∧
        t.commands.served = s.commands.served := by
  have inv := ClientTasks.invariant_run ran
  have stuck : s.Stuck := ⟨leaving, full⟩
  obtain ⟨stays, still⟩ := stuck.run after
  refine ⟨stays, still, inv.leaving (.inl leaving), fun caller command busy accepted => ?_⟩
  obtain ⟨waits, served⟩ := stuck.busy_run busy accepted after
  have invT : ClientTasks.Invariant accepts t :=
    ClientTasks.invariant_run ((Runs.run_append_iff ..).mpr ⟨s, ran, after⟩)
  exact ⟨waits, invT.commands.ordered.running_of_busy waits, served⟩

/-- One `publish` of caller `i`, up to its turn. -/
def publishTurn (i : Nat) : List (LifecycleAction Nat) :=
  [.command (.call i (.publish "a" .atLeastOnce [])), .command (.enqueue i), .command .take]

/-- Ten callers fill the queue before there is a connection, an eleventh waits for a slot, and the
service is stopped. -/
def stopWithFullQueue : List (LifecycleAction Nat) :=
  (List.range 10).flatMap (fun i => publishTurn i ++ [.command (.complete (.ok ()))]) ++
    publishTurn 10 ++ [.stop, .takeShutdown]

theorem stopWithFullQueue_state :
    ∃ s, Runs.run (ClientTasks.step fun _ => true) .init stopWithFullQueue = some s ∧
      s.eventLoop = .disconnecting ∧ s.requests.Full ∧
      s.commands.busy = some (10, .publish "a" .atLeastOnce []) := by
  have reached : ((Runs.run (ClientTasks.step fun _ => true) .init stopWithFullQueue).map fun s =>
      (s.eventLoop, s.requests.buffer.length, s.commands.busy)) =
      some (.disconnecting, 10, some (10, .publish "a" .atLeastOnce [])) := by decide +kernel
  obtain ⟨s, ran, same⟩ := Option.map_eq_some_iff.mp reached
  simp only [Prod.mk.injEq] at same
  exact ⟨s, ran, same⟩

theorem stopWithFullQueue_blocks :
    ∃ s, Runs.run (ClientTasks.step fun _ => true) .init stopWithFullQueue = some s ∧
      ∀ later t, Runs.run (ClientTasks.step fun _ => true) s later = some t →
        t.commands.finished = false := by
  obtain ⟨s, ran, leaving, full, busy⟩ := stopWithFullQueue_state
  refine ⟨s, ran, fun later t after => ?_⟩
  obtain ⟨_, _, _, waits⟩ := full_queue_blocks_shutdown (fun _ => true) stopWithFullQueue later s t
    ran leaving full after
  exact (waits 10 _ busy rfl).2.1

end

end Hamlet
