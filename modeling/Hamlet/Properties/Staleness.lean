import Hamlet.Lib.Interval
import Hamlet.Properties.Timeouts

/-!
# How old a registered beacon can be

The message loop with the timer of its sweeps, `timeout_tick`: a sweep begins when the timer
ticks, and a sweep that is dropped half-way has used up its tick. Between two sweeps a beacon can
be silent for longer than the timeout; the timer says for how long.
-/

namespace Hamlet

open BeaconRegistry (Cut)

/-- `BEACON_TIMEOUT_CHECK_INTERVAL`, 30 seconds. -/
abbrev beaconTimeoutCheckInterval : Nat := 30 * 1000000000

structure TimedLoop where
  watched : Watched
  timeoutTick : TickInterval

namespace TimedLoop

def init (ownGatewayUrl : Option String) (now : Nat) : TimedLoop where
  watched := { Watched.init ownGatewayUrl with clock := now }
  timeoutTick := .start beaconTimeoutCheckInterval .delay 5000000 now

/-- The timer after the sweep that an event completes or drops. -/
def tickTimer (timer : TickInterval) : LoopEvent → Option TickInterval
  | .timeouts now _ => timer.tick now
  | .channel cut _ _ _ | .message cut _ _ =>
    match cut with
    | .tick => some timer
    | .during now _ _ _ _ => timer.tick now

section

variable (fromSlice : List UInt8 → Option Json) (serverUrl : String)

def step (s : TimedLoop) (event : LoopEvent) : Option TimedLoop :=
  (tickTimer s.timeoutTick event).bind fun timeoutTick =>
    (s.watched.step fromSlice serverUrl event).map fun watched => { watched, timeoutTick }

end

variable {fromSlice : List UInt8 → Option Json} {serverUrl : String}

/-- The next sweep comes in time for every registered beacon. -/
structure Recent (s : TimedLoop) : Prop where
  faithful : s.watched.Faithful
  period : s.timeoutTick.period = beaconTimeoutCheckInterval
  ahead : s.timeoutTick.deadline ≤ s.watched.clock + beaconTimeoutCheckInterval
  recent : ∀ id view, s.watched.loop.registry.viewOf id = some view →
    s.timeoutTick.deadline ≤ view.lastSeen + beaconTimeout + beaconTimeoutCheckInterval

theorem recent_init (own : Option String) (now : Nat) : Recent (init own now) where
  faithful := by
    refine ⟨fun id view found => ?_, fun id => by simp [init, Watched.init, Watched.lastSign]⟩
    simp [init, Watched.init, MessageLoop.init, BeaconRegistry.new, BeaconRegistry.viewOf] at found
  period := rfl
  ahead := by simp [init, TickInterval.start]
  recent := by
    intro id view found
    simp [init, Watched.init, MessageLoop.init, BeaconRegistry.new, BeaconRegistry.viewOf] at found

/-- A beacon that is heard or registered is recent, whenever the next sweep comes. -/
theorem Recent.of_now {s : TimedLoop} (inv : Recent s) {now : Nat} (later : s.watched.clock ≤ now) :
    s.timeoutTick.deadline ≤ now + beaconTimeout + beaconTimeoutCheckInterval := by
  have ahead := inv.ahead
  omega

theorem Recent.step {s s' : TimedLoop} {event : LoopEvent} (inv : Recent s)
    (complete : event.SweepsComplete) (stepped : s.step fromSlice serverUrl event = some s') :
    Recent s' := by
  obtain ⟨timer, ticked, moves⟩ := Option.bind_eq_some_iff.mp stepped
  obtain ⟨watched, watches, rfl⟩ := Option.map_eq_some_iff.mp moves
  have faithful := Watched.faithful_step inv.faithful event watches
  obtain ⟨chain, noted⟩ := Option.ite_none_right_eq_some.mp watches
  obtain ⟨loop, ran, rfl⟩ := Option.map_eq_some_iff.mp noted
  have later := LoopEvent.le_now chain
  cases event with
  | channel cut channel now subscribed =>
    cases complete
    cases ticked
    cases ran
    refine ⟨faithful, inv.period, ?_, fun id view found => ?_⟩
    · exact inv.ahead.trans (Nat.add_le_add_right later _)
    · simp only [BeaconRegistry.viewOf_registerChannel] at found
      split at found
      next here =>
        cases found
        rw [TopicChannel.applyTo_lastSeen]
        cases registered : s.watched.loop.registry.viewOf id with
        | none => exact inv.of_now later
        | some old => exact inv.recent id old registered
      next other => exact inv.recent id view found
  | timeouts now order =>
    obtain ⟨_, period, _⟩ := TickInterval.tick_cases ticked
    have next := TickInterval.tick_deadline_le ticked
    rw [inv.period] at next
    obtain ⟨reg, swept, rfl⟩ := Option.map_eq_some_iff.mp ran
    refine ⟨faithful, period.trans inv.period, next, fun id view found => ?_⟩
    -- what the sweep leaves was seen within the timeout before it
    have kept := (BeaconRegistry.sweepEffect_checkTimeouts swept).viewOf id
    simp only [found] at kept
    split at kept
    next => cases kept
    next fresh =>
      have seen : ¬now > view.lastSeen + beaconTimeout := fun stale => fresh
        ((BeaconRegistry.mem_staleIds_iff ..).mpr ⟨view, kept.symm, by omega⟩)
      show timer.deadline ≤ _
      omega
  | message cut msg now =>
    cases complete
    cases ticked
    cases ran
    refine ⟨faithful, inv.period, ?_, fun id view found => ?_⟩
    · exact inv.ahead.trans (Nat.add_le_add_right later _)
    · simp only [MessageLoop.viewOf_handleMessage] at found
      split at found
      next own =>
        obtain ⟨old, registered, rfl⟩ := Option.map_eq_some_iff.mp found
        exact inv.of_now later
      next other => exact inv.recent id view found

end TimedLoop

/-- In every run in which no sweep is dropped half-way, a registered beacon was registered or heard
from less than two and a half minutes ago, plus the time by which the loop is late for its next
sweep. -/
theorem registered_beacons_are_recent (fromSlice : List UInt8 → Option Json) (serverUrl : String)
    (own : Option String) (start : Nat) (events : List LoopEvent) (s : TimedLoop)
    (ran : Runs.run (TimedLoop.step fromSlice serverUrl) (.init own start) events = some s)
    (complete : ∀ event ∈ events, event.SweepsComplete) (id : String) (view : BeaconView)
    (registered : s.watched.loop.registry.viewOf id = some view) (now late : Nat)
    (serves : now ≤ s.timeoutTick.deadline + late) :
    now ≤ s.watched.lastSign id + beaconTimeout + beaconTimeoutCheckInterval + late := by
  have restricted := (Runs.run_restrict_iff_forall LoopEvent.SweepsComplete
    (TimedLoop.step fromSlice serverUrl) (.init own start) s events).mpr ⟨complete, ran⟩
  have inv : s.Recent := by
    refine Runs.run_invariant _ TimedLoop.Recent ?_ _ s events (TimedLoop.recent_init own start)
      restricted
    intro t event u inv stepped
    obtain ⟨swept, moved⟩ := (Runs.restrict_iff ..).mp stepped
    exact inv.step swept moved
  have recent := inv.recent id view registered
  rw [inv.faithful.lastSeen id view registered] at recent
  omega

/-- A beacon that falls silent just after a sweep has passed it: sweeps at 0, 30, … and 120
seconds, registration and last sign at 0. It is still there at 149 seconds. -/
def quietSince : List LoopEvent :=
  [.channel .tick (listenChannel "7b1d") 0 (.ok ()), .timeouts 0 [],
   .timeouts (30 * 1000000000) [], .timeouts (60 * 1000000000) [], .timeouts (90 * 1000000000) [],
   .timeouts (120 * 1000000000) [], .message .tick ⟨"c20e/rec", []⟩ (149 * 1000000000)]

theorem quietSince_recent :
    ∃ s view, Runs.run (TimedLoop.step (fun _ => none) "hamlet") (.init none 0) quietSince = some s ∧
      s.watched.loop.registry.viewOf "7b1d" = some view ∧ s.watched.lastSign "7b1d" = 0 ∧
      s.watched.clock = 149 * 1000000000 ∧
      s.timeoutTick.deadline ≤
        s.watched.lastSign "7b1d" + beaconTimeout + beaconTimeoutCheckInterval := by
  obtain ⟨s, ran, registered, sign, clock⟩ :
      ∃ s, Runs.run (TimedLoop.step (fun _ => none) "hamlet") (.init none 0) quietSince = some s ∧
        s.watched.loop.registry.viewOf "7b1d" = some ⟨"7b1d/rec", "", 0⟩ ∧
        s.watched.lastSign "7b1d" = 0 ∧ s.watched.clock = 149 * 1000000000 :=
    ⟨_, rfl, rfl, rfl, rfl⟩
  have bound := registered_beacons_are_recent (fun _ => none) "hamlet" none 0 quietSince s ran
    (by decide) "7b1d" _ registered s.timeoutTick.deadline 0 (Nat.le_add_right _ 0)
  exact ⟨s, _, ran, registered, sign, clock, bound⟩

end Hamlet
