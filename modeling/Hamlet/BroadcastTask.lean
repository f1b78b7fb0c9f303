import Hamlet.Lib.Interval
import Hamlet.BroadcastLoop
import Hamlet.CloudGateway.Connection
import Hamlet.MqttClient.Types

/-!
# The broadcast task

`run_broadcast_loop` as a whole: the timer, the statements on `broadcast_keys` (which are
`BroadcastLoop`), the payload, the read lock on `broadcast_topics`, the publishes with their
jitter and the pause at the end. Instants are milliseconds of the monotonic clock; the wall clock
is read in Unix seconds.

The guard of the read lock lives until the end of the iteration, so the loop keeps the lock in
that pause.
-/

namespace Hamlet

/-- `BroadcastState`, without the two handles it shares with others. -/
structure BroadcastState where
  serverUrl : String
  useJitter : Bool
  /-- In seconds. -/
  broadcastInterval : UInt16
  keyManagement : BroadcastKeyManagement

/-- `base_interval`. -/
def BroadcastState.period (b : BroadcastState) : Nat := b.broadcastInterval.toNat * 1000

/-- What a cycle publishes. -/
structure BroadcastPayload where
  url : String
  kid : String
  tok : String
  deriving DecidableEq, Repr

/-- The map of `serde_json` is ordered by its keys. -/
def BroadcastPayload.json (p : BroadcastPayload) : Json :=
  .object [("kid", .string p.kid), ("tok", .string p.tok), ("url", .string p.url)]

/-- A cycle that got a key. -/
structure BroadcastCycle where
  /-- The reading of the lookup that led to the key. -/
  lookup : Nat
  key : BroadcastKey
  /-- The reading of `ota_fields`. -/
  reading : Nat
  payload : BroadcastPayload
  /-- When the payload was ready; the loop keeps it only with jitter. -/
  start : Nat
  /-- The list as it was when the lock was taken. -/
  topics : List String
  /-- The topics published to, each with the instant at which the call returned. -/
  sent : List (String × Nat)
  deriving DecidableEq

/-- The commands of the cycle; `toVec` renders a JSON value. -/
def BroadcastCycle.commands (toVec : Json → List UInt8) (cycle : BroadcastCycle) :
    List MqttCommand :=
  cycle.sent.map fun (topic, _) => .publish topic .atLeastOnce (toVec cycle.payload.json)

inductive BroadcastStage where
  /-- In `interval.tick`. -/
  | ticking
  /-- In `get_or_rotate_key` or `sweep_expired`. -/
  | keying
  | composing (lookup : Nat) (key : BroadcastKey)
  /-- Waits for the read lock. -/
  | locking (cycle : BroadcastCycle)
  /-- At the head of the `for` loop. -/
  | choosing (cycle : BroadcastCycle) (rest : List String)
  | jittering (cycle : BroadcastCycle) (topic : String) (rest : List String) (wake : Nat)
  | publishing (cycle : BroadcastCycle) (topic : String) (rest : List String)
  /-- In the pause at the end of the iteration. -/
  | resting (cycle : BroadcastCycle) (wake : Nat)
  deriving DecidableEq

structure BroadcastTask where
  stage : BroadcastStage
  interval : TickInterval
  loop : BroadcastLoop
  now : Nat
  /-- `broadcast_topics`. -/
  topics : List String
  /-- When the ticks completed. -/
  ticks : List Nat
  /-- The cycles that are over, each with the instant at which the lock was released. -/
  cycles : List (BroadcastCycle × Nat)

inductive BroadcastAction where
  | elapse (time : Nat)
  | tick
  | key (action : KeyAction)
  | compose (reading : Nat)
  | lockRead
  | next (draw : UInt64)
  | wake
  | published (answer : Except String Unit)
  | rest
  /-- The registry changes the list. -/
  | write (topics : List String)

/-- The loop holds the read lock. -/
def BroadcastStage.locked : BroadcastStage → Bool
  | ticking | keying | composing _ _ | locking _ => false
  | choosing _ _ | jittering _ _ _ _ | publishing _ _ _ | resting _ _ => true

/-- The cycle in progress, once its payload is ready. -/
def BroadcastStage.cycle? : BroadcastStage → Option BroadcastCycle
  | ticking | keying | composing _ _ => none
  | locking cycle | choosing cycle _ | jittering cycle _ _ _ | publishing cycle _ _
  | resting cycle _ => some cycle

namespace BroadcastTask

/-- Before the first tick, at `now`. -/
def init (b : BroadcastState) (now : Nat) (topics : List String) : BroadcastTask where
  stage := .ticking
  -- tokio tolerates five milliseconds
  interval := .start b.period .burst 5 now
  loop := .init
  now := now
  topics := topics
  ticks := []
  cycles := []

/-- Where the loop goes after a statement: a lookup or a rotation that fails skips the cycle. -/
def afterStatement (before after : CyclePhase) : BroadcastStage :=
  match before, after with
  | .sweeping lookup key, _ => .composing lookup key
  | _, .idle => .ticking
  | _, _ => .keying

/-- The end of the iteration, where the guard is dropped. -/
def release (s : BroadcastTask) (cycle : BroadcastCycle) : BroadcastTask :=
  { s with stage := .ticking, cycles := s.cycles ++ [(cycle, s.now)] }

/-- `rand::random::<u64>() % 10 + 1`, in milliseconds. -/
def jitterTime (draw : UInt64) : Nat := (draw.toNat % 10 + 1) * 1000

variable (b : BroadcastState) (hmac : HmacSha256)

/-- The cycle when its payload is ready. -/
def begin (now lookup : Nat) (key : BroadcastKey) (reading : Nat) (kid tok : String) :
    BroadcastCycle where
  lookup := lookup
  key := key
  reading := reading
  payload := ⟨b.serverUrl, kid, tok⟩
  start := now
  topics := []
  sent := []

def step (s : BroadcastTask) : BroadcastAction → Option BroadcastTask
  | .elapse time => some { s with now := s.now + time }
  | .tick =>
    if s.stage = .ticking then
      (s.interval.tick s.now).map fun interval =>
        { s with interval, stage := .keying, ticks := s.ticks ++ [s.now] }
    else none
  | .key action =>
    if s.stage = .keying then
      (s.loop.step b.keyManagement action).map fun loop =>
        { s with loop, stage := afterStatement s.loop.phase loop.phase }
    else none
  | .compose reading =>
    match s.stage with
    | .composing lookup key =>
      if s.loop.clock ≤ reading then
        (b.keyManagement.otaFields hmac reading key).map fun (kid, tok) =>
          { s with stage := .locking (begin b s.now lookup key reading kid tok) }
      else none
    | _ => none
  | .lockRead =>
    match s.stage with
    | .locking cycle =>
      some { s with stage := .choosing { cycle with topics := s.topics } s.topics }
    | _ => none
  | .next draw =>
    match s.stage with
    | .choosing cycle (topic :: rest) =>
      if b.useJitter then
        some { s with stage := .jittering cycle topic rest (s.now + jitterTime draw) }
      else some { s with stage := .publishing cycle topic rest }
    | _ => none
  | .wake =>
    match s.stage with
    | .jittering cycle topic rest wake =>
      if wake ≤ s.now then some { s with stage := .publishing cycle topic rest } else none
    | .resting cycle wake => if wake ≤ s.now then some (s.release cycle) else none
    | _ => none
  | .published _ =>
    -- a failed publish is logged
    match s.stage with
    | .publishing cycle topic rest =>
      some { s with stage := .choosing { cycle with sent := cycle.sent ++ [(topic, s.now)] } rest }
    | _ => none
  | .rest =>
    match s.stage with
    | .choosing cycle [] =>
      -- `saturating_sub`
      let remaining := b.period - (s.now - cycle.start)
      if b.useJitter ∧ remaining ≠ 0 then
        some { s with stage := .resting cycle (s.now + remaining) }
      else some (s.release cycle)
    | _ => none
  | .write topics => if s.stage.locked then none else some { s with topics }

/-! ### What a step can do -/

inductive Steps (s : BroadcastTask) : BroadcastAction → BroadcastTask → Prop where
  | elapsed (time : Nat) : Steps s (.elapse time) { s with now := s.now + time }
  | ticked (interval : TickInterval) (ticking : s.stage = .ticking)
      (due : s.interval.tick s.now = some interval) :
      Steps s .tick { s with interval, stage := .keying, ticks := s.ticks ++ [s.now] }
  | keyed (action : KeyAction) (loop : BroadcastLoop) (keying : s.stage = .keying)
      (stepped : s.loop.step b.keyManagement action = some loop) :
      Steps s (.key action) { s with loop, stage := afterStatement s.loop.phase loop.phase }
  | composed (lookup reading : Nat) (key : BroadcastKey) (kid tok : String)
      (composing : s.stage = .composing lookup key) (later : s.loop.clock ≤ reading)
      (fields : b.keyManagement.otaFields hmac reading key = some (kid, tok)) :
      Steps s (.compose reading)
        { s with stage := .locking (begin b s.now lookup key reading kid tok) }
  | locked (cycle : BroadcastCycle) (locking : s.stage = .locking cycle) :
      Steps s .lockRead
        { s with stage := .choosing { cycle with topics := s.topics } s.topics }
  | drew (cycle : BroadcastCycle) (topic : String) (rest : List String) (draw : UInt64)
      (choosing : s.stage = .choosing cycle (topic :: rest)) (jitter : b.useJitter) :
      Steps s (.next draw)
        { s with stage := .jittering cycle topic rest (s.now + jitterTime draw) }
  | chose (cycle : BroadcastCycle) (topic : String) (rest : List String) (draw : UInt64)
      (choosing : s.stage = .choosing cycle (topic :: rest)) (plain : b.useJitter = false) :
      Steps s (.next draw) { s with stage := .publishing cycle topic rest }
  | woke (cycle : BroadcastCycle) (topic : String) (rest : List String) (wake : Nat)
      (jittering : s.stage = .jittering cycle topic rest wake) (elapsed : wake ≤ s.now) :
      Steps s .wake { s with stage := .publishing cycle topic rest }
  | rested (cycle : BroadcastCycle) (wake : Nat) (resting : s.stage = .resting cycle wake)
      (elapsed : wake ≤ s.now) : Steps s .wake (s.release cycle)
  | sent (cycle : BroadcastCycle) (topic : String) (rest : List String)
      (answer : Except String Unit) (publishing : s.stage = .publishing cycle topic rest) :
      Steps s (.published answer)
        { s with stage := .choosing { cycle with sent := cycle.sent ++ [(topic, s.now)] } rest }
  | paused (cycle : BroadcastCycle) (choosing : s.stage = .choosing cycle [])
      (jitter : b.useJitter) (early : b.period - (s.now - cycle.start) ≠ 0) :
      Steps s .rest
        { s with stage := .resting cycle (s.now + (b.period - (s.now - cycle.start))) }
  | ended (cycle : BroadcastCycle) (choosing : s.stage = .choosing cycle [])
      (due : b.useJitter = false ∨ b.period ≤ s.now - cycle.start) :
      Steps s .rest (s.release cycle)
  | wrote (topics : List String) (free : s.stage.locked = false) :
      Steps s (.write topics) { s with topics }

theorem step_cases {s s' : BroadcastTask} {action : BroadcastAction}
    (stepped : s.step b hmac action = some s') : Steps b hmac s action s' := by
  cases action with
  | elapse time =>
    cases stepped
    exact .elapsed time
  | tick =>
    obtain ⟨ticking, ticks⟩ := Option.ite_none_right_eq_some.mp stepped
    obtain ⟨interval, due, rfl⟩ := Option.map_eq_some_iff.mp ticks
    exact .ticked interval ticking due
  | key action =>
    obtain ⟨keying, steps⟩ := Option.ite_none_right_eq_some.mp stepped
    obtain ⟨loop, own, rfl⟩ := Option.map_eq_some_iff.mp steps
    exact .keyed action loop keying own
  | compose reading =>
    simp only [step] at stepped
    split at stepped
    next lookup key composing =>
      obtain ⟨later, composes⟩ := Option.ite_none_right_eq_some.mp stepped
      obtain ⟨⟨kid, tok⟩, fields, rfl⟩ := Option.map_eq_some_iff.mp composes
      exact .composed lookup reading key kid tok composing later fields
    next => cases stepped
  | lockRead =>
    simp only [step] at stepped
    split at stepped
    next cycle locking =>
      cases stepped
      exact .locked cycle locking
    next => cases stepped
  | next draw =>
    simp only [step] at stepped
    split at stepped
    next cycle topic rest choosing =>
      split at stepped
      next jitter =>
        cases stepped
        exact .drew cycle topic rest draw choosing jitter
      next plain =>
        cases stepped
        exact .chose cycle topic rest draw choosing (by simpa using plain)
    next => cases stepped
  | wake =>
    simp only [step] at stepped
    split at stepped
    next cycle topic rest wake jittering =>
      obtain ⟨elapsed, same⟩ := Option.ite_none_right_eq_some.mp stepped
      cases same
      exact .woke cycle topic rest wake jittering elapsed
    next cycle wake resting =>
      obtain ⟨elapsed, same⟩ := Option.ite_none_right_eq_some.mp stepped
      cases same
      exact .rested cycle wake resting elapsed
    next => cases stepped
  | published answer =>
    simp only [step] at stepped
    split at stepped
    next cycle topic rest publishing =>
      cases stepped
      exact .sent cycle topic rest answer publishing
    next => cases stepped
  | rest =>
    simp only [step] at stepped
    split at stepped
    next cycle choosing =>
      split at stepped
      next early =>
        cases stepped
        exact .paused cycle choosing early.1 early.2
      next due =>
        cases stepped
        refine .ended cycle choosing ?_
        rw [not_and_or, not_not, Nat.sub_eq_zero_iff_le] at due
        simpa using due
    next => cases stepped
  | write topics =>
    obtain ⟨free, same⟩ := Option.ite_none_left_eq_some.mp stepped
    cases same
    exact .wrote topics (by simpa using free)

end BroadcastTask

end Hamlet
