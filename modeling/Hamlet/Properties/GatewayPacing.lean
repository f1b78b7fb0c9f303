import Hamlet.Lib.History
import Hamlet.Properties.GatewayPublishes

/-!
# The pace of logins and connections to the gateway's broker

Every way out of a pass through the `'reconnect` loop leads through `backoff`, whatever went
wrong in the pass. The delay stands for the waits since the last `ConnAck`. After the shutdown
signal is seen, in whichever wait, the history is closed.
-/

namespace Hamlet

namespace GatewayMqttEvent

def isPass : GatewayMqttEvent → Bool
  | .pass => true
  | _ => false

def isConnAck : GatewayMqttEvent → Bool
  | .connAck => true
  | _ => false

def isWaited : GatewayMqttEvent → Bool
  | .waited _ => true
  | _ => false

/-- What happens inside a pass and has no part in the pace. -/
def isInner : GatewayMqttEvent → Bool
  | .login | .loggedIn _ | .built _ _ | .refused _ => true
  | .pass | .connAck | .waited _ => false

end GatewayMqttEvent

open GatewayMqttEvent

/-- The backoffs of the current pass. -/
def waitsSincePass (log : List GatewayMqttEvent) : Nat := History.countSince isPass isWaited log

/-- The backoffs since the last `ConnAck`, or since the beginning. -/
def waitsSinceConnAck (log : List GatewayMqttEvent) : Nat :=
  History.countSince isConnAck isWaited log

/-- A pass has begun and its backoff is still to come. -/
def InPass (log : List GatewayMqttEvent) : Prop := .pass ∈ log ∧ waitsSincePass log = 0

/-- A pass begins after the one backoff of the pass before it, and everything else happens
before that backoff. The `j`-th backoff since the last `ConnAck` lasts `min (2 ^ j) 60` seconds. -/
def ReconnectLaw (before : List GatewayMqttEvent) : GatewayMqttEvent → Prop
  | .pass => .pass ∈ before → waitsSincePass before = 1
  | .waited secs => InPass before ∧ secs = min (2 ^ (waitsSinceConnAck before + 1)) 60
  | .login | .loggedIn _ | .built _ _ | .connAck | .refused _ => InPass before

structure ReconnectInvariant (s : GatewayMqtt) : Prop where
  history : History.Each ReconnectLaw s.log
  /-- A backoff that the shutdown signal interrupts counts for the delay and for nothing else. -/
  delay : s.phase ≠ .stopped → s.delay =
    Backoff.after GatewayMqtt.initialReconnectDelay GatewayMqtt.maxReconnectDelay
      (waitsSinceConnAck s.log)
  head : s.phase = .reconnecting → .pass ∈ s.log → waitsSincePass s.log = 1
  inPass : s.phase ≠ .reconnecting → InPass s.log

/-! ### One event more -/

section

variable {log : List GatewayMqttEvent}

theorem inPass_pass (log : List GatewayMqttEvent) : InPass (log ++ [.pass]) := by
  constructor
  · simp
  · rw [waitsSincePass, History.countSince_concat]
    rfl

theorem InPass.concat (inPass : InPass log) (e : GatewayMqttEvent) (other : ¬e.isWaited) :
    InPass (log ++ [e]) := by
  obtain ⟨begun, unwaited⟩ := inPass
  constructor
  · exact List.mem_append_left _ begun
  · rw [waitsSincePass, History.countSince_concat, ← waitsSincePass, unwaited, if_neg other]
    split <;> rfl

theorem InPass.waited (inPass : InPass log) (secs : Nat) :
    waitsSincePass (log ++ [.waited secs]) = 1 := by
  rw [waitsSincePass, History.countSince_concat, ← waitsSincePass, inPass.2]
  rfl

/-- Only a `ConnAck` and a backoff count for the delay. -/
theorem waitsSinceConnAck_concat (e : GatewayMqttEvent) (ack : ¬e.isConnAck) (waited : ¬e.isWaited) :
    waitsSinceConnAck (log ++ [e]) = waitsSinceConnAck log := by
  rw [waitsSinceConnAck, History.countSince_concat, if_neg ack, if_neg waited]
  rfl

theorem waitsSinceConnAck_connAck : waitsSinceConnAck (log ++ [.connAck]) = 0 := by
  rw [waitsSinceConnAck, History.countSince_concat]
  rfl

theorem waitsSinceConnAck_waited (secs : Nat) :
    waitsSinceConnAck (log ++ [.waited secs]) = waitsSinceConnAck log + 1 := by
  rw [waitsSinceConnAck, History.countSince_concat]
  rfl

end

theorem not_paced_of_isInner {e : GatewayMqttEvent} (inner : e.isInner) :
    ¬e.isConnAck ∧ ¬e.isWaited := by
  cases e <;> simp_all [isInner, isConnAck, isWaited]

theorem reconnectLaw_inner {log : List GatewayMqttEvent} {e : GatewayMqttEvent} (inner : e.isInner)
    (inPass : InPass log) : ReconnectLaw log e := by
  cases e with
  | login | loggedIn | built | refused => exact inPass
  | pass | connAck | waited => cases inner

/-! ### One step -/

section

variable {config : GatewayMqttConfig} {accepts : GatewayRequest → Bool} {s s' : GatewayMqtt}

/-- A step inside a pass that writes nothing. -/
theorem ReconnectInvariant.silent (inv : ReconnectInvariant s) (log : s'.log = s.log)
    (delay : s'.phase ≠ .stopped → s'.delay = s.delay) (phase : s.phase ≠ .reconnecting)
    (live : s.phase ≠ .stopped) (phase' : s'.phase ≠ .reconnecting) : ReconnectInvariant s' := by
  constructor
  · rw [log]
    exact inv.history
  · intro running
    rw [log, delay running]
    exact inv.delay live
  · exact fun head => absurd head phase'
  · rw [log]
    exact fun _ => inv.inPass phase

/-- A pass begins at the head of the loop. -/
theorem ReconnectInvariant.pass (inv : ReconnectInvariant s) (log : s'.log = s.log ++ [.pass])
    (delay : s'.delay = s.delay) (phase : s.phase = .reconnecting) (phase' : s'.phase ≠ .reconnecting) :
    ReconnectInvariant s' := by
  constructor
  · rw [log, History.each_concat]
    exact ⟨inv.history, inv.head phase⟩
  · intro _
    rw [log, delay, waitsSinceConnAck_concat .pass (by decide) (by decide)]
    exact inv.delay (by simp [phase])
  · exact fun head => absurd head phase'
  · rw [log]
    exact fun _ => inPass_pass s.log

theorem ReconnectInvariant.inner (inv : ReconnectInvariant s) (e : GatewayMqttEvent) (inner : e.isInner)
    (log : s'.log = s.log ++ [e]) (delay : s'.delay = s.delay) (phase : s.phase ≠ .reconnecting)
    (live : s.phase ≠ .stopped) (phase' : s'.phase ≠ .reconnecting) : ReconnectInvariant s' := by
  have inPass := inv.inPass phase
  obtain ⟨ack, waited⟩ := not_paced_of_isInner inner
  constructor
  · rw [log, History.each_concat]
    exact ⟨inv.history, reconnectLaw_inner inner inPass⟩
  · intro _
    rw [log, delay, waitsSinceConnAck_concat e ack waited]
    exact inv.delay live
  · exact fun head => absurd head phase'
  · rw [log]
    exact fun _ => inPass.concat e waited

/-- The delay is the length of the next backoff. -/
theorem ReconnectInvariant.wait (inv : ReconnectInvariant s) (phase : s.phase = .backingOff) :
    ReconnectLaw s.log (.waited s.delay) := by
  have delay := inv.delay (by simp [phase])
  constructor
  · exact inv.inPass (by simp [phase])
  · rw [delay]
    exact Backoff.after_two ..

theorem connectingWith_ne (creds : LoginResponse) (requests : List GatewayRequest) :
    GatewayMqtt.connectingWith creds requests ≠ .reconnecting := by
  cases requests <;> simp [GatewayMqtt.connectingWith]

theorem reconnectInvariant_step (inv : ReconnectInvariant s) (action : GatewayMqttAction)
    (stepped : s.step config accepts action = some s') : ReconnectInvariant s' := by
  cases GatewayMqtt.step_cases config accepts s s' action stepped with
  | enqueued | signalled | polled | sent | acknowledged =>
    exact ⟨inv.history, inv.delay, inv.head, inv.inPass⟩
  | reusedLogin creds phase cached => exact inv.pass rfl rfl phase (by simp)
  | beganLogin phase cached =>
    have shape : s.log ++ [.pass, .login] = (s.log ++ [.pass]) ++ [.login] := by simp
    -- the pass and the login are two events of one step
    have passed : ReconnectInvariant { s with phase := .loggingIn, log := s.log ++ [.pass] } :=
      inv.pass rfl rfl phase (by simp)
    exact passed.inner .login rfl shape rfl (by simp) (by simp) (by simp)
  | loggedIn creds phase =>
    exact inv.inner (.loggedIn creds) rfl rfl rfl (by simp [phase]) (by simp [phase]) (by simp)
  | built world creds phase ok =>
    exact inv.inner (.built creds _) rfl rfl rfl (by simp [phase]) (by simp [phase]) (by simp)
  | refused creds code phase =>
    exact inv.inner (.refused creds) rfl rfl rfl (by simp [phase]) (by simp [phase])
      (by simp [GatewayMqtt.abandon])
  | connected creds phase fresh =>
    have inPass := inv.inPass (by simp [phase])
    refine ⟨(History.each_concat ..).mpr ⟨inv.history, inPass⟩, fun _ => ?_, ?_, fun _ => ?_⟩
    · -- the series starts again
      rw [waitsSinceConnAck_connAck]
      exact (Backoff.after_zero GatewayMqtt.initialReconnectDelay GatewayMqtt.maxReconnectDelay
        (by decide)).symm
    · exact fun head => absurd head (connectingWith_ne creds (onConnected creds))
    · exact inPass.concat .connAck (by decide)
  | woke phase =>
    have inPass := inv.inPass (by simp [phase])
    refine ⟨(History.each_concat ..).mpr ⟨inv.history, inv.wait phase⟩, fun _ => ?_, ?_, ?_⟩
    · -- one more backoff, and the delay after it
      rw [waitsSinceConnAck_waited, ← Backoff.next_after, ← inv.delay (by simp [phase])]
    · exact fun _ _ => inPass.waited s.delay
    · exact fun away => absurd rfl away
  | abandonedWait signalled phase =>
    -- the delay has doubled without a backoff, which nobody sees any more
    exact inv.silent rfl (fun live => absurd rfl live) (by simp [phase]) (by simp [phase]) (by simp)
  | requested creds request rest requests phase called =>
    exact inv.silent rfl (fun _ => rfl) (by simp [phase]) (by simp [phase]) (connectingWith_ne creds rest)
  | loginFailed e phase | buildFailed world creds phase e failed | abandonedLogin signalled phase
  | shuttingDown creds signalled phase | took creds msg outbound phase popped
  | published creds msg requests phase called | disconnected phase room | broken creds e phase =>
    exact inv.silent rfl (fun _ => rfl) (by simp [phase]) (by simp [phase]) (by simp [GatewayMqtt.abandon])

/-! ### Shutdown -/

/-- The task has seen the shutdown signal. -/
def GatewayMqtt.Ending (s : GatewayMqtt) : Prop := s.phase = .disconnecting ∨ s.phase = .stopped

theorem ending_takeShutdown (stepped : s.step config accepts .takeShutdown = some s') :
    s'.Ending ∧ s'.log = s.log := by
  cases GatewayMqtt.step_cases config accepts s s' _ stepped with
  | abandonedLogin | abandonedWait => exact ⟨.inr rfl, rfl⟩
  | shuttingDown => exact ⟨.inl rfl, rfl⟩

theorem ending_step (ending : s.Ending) (action : GatewayMqttAction)
    (stepped : s.step config accepts action = some s') : s'.Ending ∧ s'.log = s.log := by
  have away : ∀ phase, s.phase = phase → phase = .disconnecting ∨ phase = .stopped := by
    rintro phase rfl
    exact ending
  cases GatewayMqtt.step_cases config accepts s s' action stepped with
  | enqueued | signalled | polled | sent | acknowledged => exact ⟨ending, rfl⟩
  | disconnected => exact ⟨.inr rfl, rfl⟩
  | reusedLogin creds phase | beganLogin phase | loggedIn creds phase | loginFailed e phase
  | built world creds phase | buildFailed world creds phase | abandonedLogin signalled phase
  | shuttingDown creds signalled phase | abandonedWait signalled phase
  | took creds msg outbound phase | published creds msg requests phase
  | requested creds request rest requests phase | connected creds phase
  | refused creds code phase | broken creds e phase | woke phase =>
    -- every other step starts in a phase that the task has left for good
    have impossible := away _ phase
    simp at impossible

/-- Nothing but the shutdown signal ends the task. -/
theorem running_step (running : ¬s.Ending) (action : GatewayMqttAction) (goesOn : action ≠ .takeShutdown)
    (stepped : s.step config accepts action = some s') : ¬s'.Ending := by
  cases GatewayMqtt.step_cases config accepts s s' action stepped with
  | enqueued | signalled | polled | sent | acknowledged => exact running
  | abandonedLogin | shuttingDown | abandonedWait => exact absurd rfl goesOn
  | disconnected phase => exact absurd (.inl phase) running
  | requested creds request rest => cases rest <;> simp [GatewayMqtt.Ending, GatewayMqtt.connectingWith]
  | connected => simp [GatewayMqtt.Ending, GatewayMqtt.connectingWith, onConnected]
  | reusedLogin | beganLogin | loggedIn | loginFailed | built | buildFailed | took | published
  | refused | broken | woke => simp [GatewayMqtt.Ending, GatewayMqtt.abandon]

end

section

variable (config : GatewayMqttConfig) (accepts : GatewayRequest → Bool)

theorem reconnectInvariant_run (actions : List GatewayMqttAction) (s : GatewayMqtt)
    (ran : Runs.run (GatewayMqtt.step config accepts) .init actions = some s) :
    ReconnectInvariant s := by
  have initial : ReconnectInvariant .init := by
    refine ⟨History.each_nil _, fun _ => ?_, ?_, fun away => absurd rfl away⟩
    · exact (Backoff.after_zero _ _ (by decide)).symm
    · intro _ begun
      cases begun
  exact Runs.run_invariant _ ReconnectInvariant
    (fun _ action _ inv stepped => reconnectInvariant_step inv action stepped) .init s actions
    initial ran

theorem ending_run (actions : List GatewayMqttAction) (s s' : GatewayMqtt) (ending : s.Ending)
    (ran : Runs.run (GatewayMqtt.step config accepts) s actions = some s') : s'.log = s.log := by
  have closed := Runs.run_invariant _ (fun t : GatewayMqtt => t.Ending ∧ t.log = s.log)
    (fun _ action _ closed stepped =>
      have next := ending_step closed.1 action stepped
      ⟨next.1, next.2.trans closed.2⟩) s s' actions ⟨ending, rfl⟩ ran
  exact closed.2

theorem running_run (actions : List GatewayMqttAction) (s : GatewayMqtt)
    (goesOn : .takeShutdown ∉ actions)
    (ran : Runs.run (GatewayMqtt.step config accepts) .init actions = some s) : ¬s.Ending := by
  have initial : ¬GatewayMqtt.init.Ending := by
    simp [GatewayMqtt.Ending, GatewayMqtt.init]
  have kept := Runs.run_remaining _
    (fun (t : GatewayMqtt) (rest : List GatewayMqttAction) => ¬t.Ending ∧ .takeShutdown ∉ rest)
    (by
      rintro t action rest t' ⟨running, later⟩ stepped
      rw [List.mem_cons, not_or] at later
      exact ⟨running_step running action (Ne.symm later.1) stepped, later.2⟩)
    .init s actions ⟨initial, goesOn⟩ ran
  exact kept.1

end

/-- In every run, however its passes fail: each pass ends in one backoff, of the length that the
backoffs since the last `ConnAck` make it. The task ends by no other way than the shutdown signal,
and nothing is tried after that was seen. -/
theorem gateway_reconnects_paced (config : GatewayMqttConfig) (accepts : GatewayRequest → Bool)
    (actions : List GatewayMqttAction) (s : GatewayMqtt)
    (ran : Runs.run (GatewayMqtt.step config accepts) .init actions = some s) :
    History.Each ReconnectLaw s.log ∧
      (.takeShutdown ∉ actions → ¬s.Ending) ∧
      ∀ earlier later, actions = earlier ++ .takeShutdown :: later →
        ∃ mid, Runs.run (GatewayMqtt.step config accepts) .init earlier = some mid ∧
          s.log = mid.log := by
  refine ⟨(reconnectInvariant_run config accepts actions s ran).history, ?_, ?_⟩
  · exact fun goesOn => running_run config accepts actions s goesOn ran
  · rintro earlier later rfl
    obtain ⟨mid, reached, rest⟩ := (Runs.run_append_iff ..).mp ran
    obtain ⟨seen, stepped, rest⟩ := (Runs.run_cons_iff ..).mp rest
    obtain ⟨ending, same⟩ := ending_takeShutdown stepped
    exact ⟨mid, reached, (ending_run config accepts later seen s ending rest).trans same⟩

/-- A failed login, a broken connection, then a broker that acknowledges and breaks off. -/
def failingPasses : List GatewayMqttAction :=
  [.beginPass, .login (.error (.transient "timeout")), .wake] ++ dialled ++
    [.poll (.error (.other "reset"))] ++ redialled ++ acknowledged ++
    [.poll (.error (.other "reset"))] ++ redialled ++ [.signalShutdown, .takeShutdown]

/-- The waits of its passes; the last pass ends with the task. -/
theorem failing_passes_paced :
    ∃ s, Runs.run (GatewayMqtt.step plainConfig fun _ => true) .init failingPasses = some s ∧
      s.log.filter isWaited = [.waited 2, .waited 4, .waited 2] ∧ History.Each ReconnectLaw s.log :=
  ⟨_, rfl, rfl, (gateway_reconnects_paced plainConfig (fun _ => true) failingPasses _ rfl).1⟩

end Hamlet
