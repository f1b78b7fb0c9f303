import Hamlet.Lib.History
import Hamlet.CloudGateway.ConnectionTask

/-!
# The pace of reconnects

Between two attempts to connect the task should sleep once, and the sleeps since the last
connection should double from two seconds to a minute. One way back to the head of the loop
breaks this: after a failed `Register` the next attempt follows at once.
-/

namespace Hamlet

def Pace.isAttempt : Pace → Bool
  | .attempt => true
  | .connected | .slept _ => false

def Pace.isConnected : Pace → Bool
  | .connected => true
  | .attempt | .slept _ => false

def Pace.isSlept : Pace → Bool
  | .slept _ => true
  | .attempt | .connected => false

/-- The sleeps since the last connection, or since the beginning. -/
def sleepsSinceConnected (paces : List Pace) : Nat :=
  History.countSince Pace.isConnected Pace.isSlept paces

/-- The sleeps since the last attempt. -/
def sleepsSinceAttempt (paces : List Pace) : Nat :=
  History.countSince Pace.isAttempt Pace.isSlept paces

/-- What may follow: an attempt one sleep after the last one, and a sleep of `min (2 ^ j) 60`
seconds when it is the `j`-th since the last connection. -/
def PaceLaw (before : List Pace) : Pace → Prop
  | .attempt => .attempt ∈ before → sleepsSinceAttempt before = 1
  | .connected => True
  | .slept secs => secs = min (2 ^ (sleepsSinceConnected before + 1)) 60

/-- The history obeys the law, and an attempt that comes now does. -/
structure Paced (s : GatewayLink) : Prop where
  history : History.Each PaceLaw s.paces
  next : s.phase = .reconnecting → PaceLaw s.paces .attempt

/-- A `Register` frame is serialised and sent. -/
def LinkAction.Registers : LinkAction → Prop
  | .register serialised sent => serialised = .ok () ∧ sent = .ok ()
  | _ => True

instance : DecidablePred LinkAction.Registers
  | .register serialised sent => inferInstanceAs (Decidable (serialised = .ok () ∧ sent = .ok ()))
  | .enqueue _ | .signalShutdown | .attempt | .connect _ | .takeShutdown | .takeMessage
  | .send _ _ | .receive _ | .sendPong _ | .sendClose _ | .wake => .isTrue trivial

/-- The task has not slept since its last attempt. -/
def Unslept (paces : List Pace) : Prop := .attempt ∈ paces ∧ sleepsSinceAttempt paces = 0

structure PaceInvariant (s : GatewayLink) : Prop where
  delay : s.delay = Backoff.after initialReconnectDelay maxReconnectDelay
    (sleepsSinceConnected s.paces)
  unslept : s.phase ≠ .reconnecting → s.phase ≠ .stopped → Unslept s.paces

section

variable {serverUrl : String} {s s' : GatewayLink}

theorem unslept_attempt (paces : List Pace) : Unslept (paces ++ [.attempt]) := by
  refine ⟨by simp, ?_⟩
  rw [sleepsSinceAttempt, History.countSince_concat]
  rfl

theorem Unslept.connected {paces : List Pace} (unslept : Unslept paces) :
    Unslept (paces ++ [.connected]) := by
  obtain ⟨attempted, none⟩ := unslept
  refine ⟨List.mem_append_left _ attempted, ?_⟩
  rw [sleepsSinceAttempt, History.countSince_concat, ← sleepsSinceAttempt, none]
  rfl

/-- The delay stands for the sleeps since the last connection. -/
theorem PaceInvariant.sleep (inv : PaceInvariant s) : PaceLaw s.paces (.slept s.delay) := by
  rw [PaceLaw, inv.delay]
  exact Backoff.after_two ..

/-- A step that leaves delay and history alone. -/
theorem PaceInvariant.same (inv : PaceInvariant s) (delay : s'.delay = s.delay)
    (paces : s'.paces = s.paces)
    (phase : s'.phase ≠ .reconnecting → s'.phase ≠ .stopped →
      s.phase ≠ .reconnecting ∧ s.phase ≠ .stopped) : PaceInvariant s' := by
  constructor
  · rw [delay, paces]
    exact inv.delay
  · intro away live
    obtain ⟨before, running⟩ := phase away live
    rw [paces]
    exact inv.unslept before running

theorem paceInvariant_step (inv : PaceInvariant s) (action : LinkAction)
    (stepped : s.step serverUrl action = some s') : PaceInvariant s' := by
  cases GatewayLink.step_cases serverUrl s s' action stepped with
  | enqueued | signalled => exact ⟨inv.delay, inv.unslept⟩
  | attempted phase =>
    refine ⟨?_, fun _ _ => unslept_attempt s.paces⟩
    rw [sleepsSinceConnected, History.countSince_concat]
    exact inv.delay
  | connected phase =>
    refine ⟨?_, fun _ _ => (inv.unslept (by simp [phase]) (by simp [phase])).connected⟩
    rw [sleepsSinceConnected, History.countSince_concat]
    exact (Backoff.after_zero initialReconnectDelay maxReconnectDelay (by decide)).symm
  | woke phase =>
    refine ⟨?_, fun away => absurd rfl away⟩
    rw [sleepsSinceConnected, History.countSince_concat, ← sleepsSinceConnected, inv.delay]
    exact Backoff.next_after ..
  | unregistered serialised sent failed phase => exact inv.same rfl rfl (fun away => absurd rfl away)
  | abandoned signalled phase => exact inv.same rfl rfl (fun _ live => absurd rfl live)
  | closed phase => exact inv.same rfl rfl (fun _ live => absurd rfl live)
  | unclosed e phase => exact inv.same rfl rfl (fun _ live => absurd rfl live)
  | refused | registered | shuttingDown | took | sent | unsent | received | ponged | unponged =>
    exact inv.same rfl rfl (fun _ _ => by simp_all)

/-- A step away from the head of the loop. -/
theorem Paced.away (history : History.Each PaceLaw s'.paces) (phase : s'.phase ≠ .reconnecting) :
    Paced s' :=
  ⟨history, fun head => absurd head phase⟩

theorem paced_step_iff (inv : PaceInvariant s) (paced : Paced s) (action : LinkAction)
    (stepped : s.step serverUrl action = some s') : Paced s' ↔ action.Registers := by
  cases GatewayLink.step_cases serverUrl s s' action stepped with
  | enqueued | signalled => exact iff_of_true ⟨paced.history, paced.next⟩ trivial
  | attempted phase =>
    refine iff_of_true (Paced.away ?_ (by simp)) trivial
    exact (History.each_concat ..).mpr ⟨paced.history, paced.next phase⟩
  | connected phase =>
    refine iff_of_true (Paced.away ?_ (by simp)) trivial
    exact (History.each_concat ..).mpr ⟨paced.history, trivial⟩
  | woke phase =>
    obtain ⟨attempted, none⟩ := inv.unslept (by simp [phase]) (by simp [phase])
    refine iff_of_true ⟨?_, fun _ _ => ?_⟩ trivial
    · exact (History.each_concat ..).mpr ⟨paced.history, inv.sleep⟩
    · rw [sleepsSinceAttempt, History.countSince_concat, ← sleepsSinceAttempt, none]
      rfl
  | unregistered serialised sent failed phase =>
    -- back at the head of the loop, with no sleep since the last attempt
    refine iff_of_false ?_ failed
    intro paced
    obtain ⟨attempted, none⟩ := inv.unslept (by simp [phase]) (by simp [phase])
    have slept := paced.next rfl attempted
    rw [none] at slept
    cases slept
  | registered phase => exact iff_of_true (Paced.away paced.history (by simp)) ⟨rfl, rfl⟩
  | unsent msg serialised sent next failed phase goesOn =>
    refine iff_of_true (Paced.away paced.history ?_) trivial
    rcases goesOn with rfl | rfl <;> simp
  | received item next phase goesOn =>
    refine iff_of_true (Paced.away paced.history ?_) trivial
    rcases goesOn with rfl | rfl | ⟨data, rfl⟩ <;> simp
  | refused | abandoned | shuttingDown | took | sent | ponged | unponged | closed | unclosed =>
    exact iff_of_true (Paced.away paced.history (by simp)) trivial

end

/-- A run is paced all along exactly when no `Register` frame fails in it. -/
theorem attempts_paced_iff (serverUrl : String) (actions : List LinkAction) (s : GatewayLink)
    (ran : Runs.run (GatewayLink.step serverUrl) .init actions = some s) :
    Runs.Always (GatewayLink.step serverUrl) Paced .init actions ↔
      ∀ action ∈ actions, action.Registers := by
  have unpaced : Paced .init := by
    constructor
    · exact History.each_nil PaceLaw
    · intro _ attempted
      simp [GatewayLink.init] at attempted
  have invariant : PaceInvariant .init := by
    constructor
    · exact (Backoff.after_zero initialReconnectDelay maxReconnectDelay (by decide)).symm
    · intro away
      exact absurd rfl away
  exact Runs.always_iff_forall _ LinkAction.Registers PaceInvariant Paced
    (fun _ action _ inv stepped => paceInvariant_step inv action stepped)
    (fun _ action _ inv paced stepped => paced_step_iff inv paced action stepped) .init s actions
    invariant unpaced ran

/-- Two refused attempts, and a connection that the peer closes. -/
def slowingRun : List LinkAction :=
  [.attempt, .connect (.error "refused"), .wake, .attempt, .connect (.error "refused"), .wake,
    .attempt, .connect (.ok ()), .register (.ok ()) (.ok ()), .receive none, .wake, .attempt]

theorem refused_attempts_paced :
    ∃ s, Runs.run (GatewayLink.step "wss://here") .init slowingRun = some s ∧
      s.paces = [.attempt, .slept 2, .attempt, .slept 4, .attempt, .connected, .slept 2,
        .attempt] ∧
      Runs.Always (GatewayLink.step "wss://here") Paced .init slowingRun := by
  refine ⟨_, rfl, rfl, (attempts_paced_iff "wss://here" _ _ rfl).mpr ?_⟩
  decide

/-- After a failed `Register` the next attempt follows without a sleep. -/
theorem failed_register_retried_at_once :
    ∃ s, Runs.run (GatewayLink.step "wss://here") .init
        [.attempt, .connect (.ok ()), .register (.ok ()) (.error "broken pipe"), .attempt] =
          some s ∧
      s.paces = [.attempt, .connected, .attempt] ∧ ¬History.Each PaceLaw s.paces := by
  refine ⟨_, rfl, rfl, fun each => ?_⟩
  have slept : sleepsSinceAttempt [.attempt, .connected] = 1 :=
    each [.attempt, .connected] .attempt [] rfl (by simp)
  revert slept
  decide

end Hamlet
