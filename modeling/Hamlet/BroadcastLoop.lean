import Hamlet.Lib.Runs
import Hamlet.Config
import Hamlet.BeaconManagement.KeyManagement

/-!
# The broadcast loop and its keys

The part of `run_broadcast_loop` that works on `broadcast_keys`, one database statement at a
time: every cycle looks up or rotates the key and then sweeps. The clock never goes back; how
far it moves between two readings is open.
-/

namespace Hamlet

inductive CyclePhase where
  /-- Between two cycles. -/
  | idle
  /-- In `rotate_key`, after a lookup with this reading that found no key. -/
  | rotating (lookup : Nat)
  /-- The old keys are retired and this one, created at `createdAt`, is to be inserted. -/
  | inserting (lookup createdAt : Nat) (key : BroadcastKey)
  /-- `get_or_rotate_key` has returned this key, which the cycle broadcasts. -/
  | sweeping (lookup : Nat) (key : BroadcastKey)
  deriving DecidableEq

structure BroadcastLoop where
  phase : CyclePhase
  keys : BroadcastKeys
  /-- The last reading of the clock. -/
  clock : Nat
  /-- The key of the last cycle that got one and is over. -/
  last : Option BroadcastKey
  /-- The rows retired so far, as they were before, each with the reading of its rotation. -/
  retired : List (Nat × BroadcastKeyRow)
  deriving DecidableEq

inductive KeyAction where
  | lookup (now : Nat) (answer : Except String Unit)
  | retire (now : Nat) (keyMaterial : KeyMaterialBytes) (keyId : KeyIdBytes)
      (answer : Except String Unit)
  | insert (answer : Except String Unit)
  | sweep (now : Nat) (answer : Except String Unit)

namespace BroadcastLoop

/-- A node that starts with an empty table. -/
def init : BroadcastLoop where
  phase := .idle
  keys := .empty
  clock := 0
  last := none
  retired := []

variable (m : BroadcastKeyManagement)

def step (s : BroadcastLoop) : KeyAction → Option BroadcastLoop
  | .lookup now answer =>
    match s.phase with
    | .idle =>
      if s.clock ≤ now then
        match answer with
        -- a failed lookup, like a corrupt row, skips the cycle
        | .error _ => some { s with clock := now }
        | .ok () =>
          match s.keys.selectActive now with
          | none => some { s with clock := now, phase := .rotating now }
          | some row =>
            match row.build with
            | .error _ => some { s with clock := now }
            | .ok key => some { s with clock := now, phase := .sweeping now key }
      else none
    | .rotating _ | .inserting _ _ _ | .sweeping _ _ => none
  | .retire now keyMaterial keyId answer =>
    match s.phase with
    | .rotating lookup =>
      if s.clock ≤ now then
        match answer with
        | .error _ => some { s with clock := now, phase := .idle }
        | .ok () =>
          some { s with
            clock := now
            keys := s.keys.retireActive
            retired := s.retired ++ (s.keys.rows.filter (·.isActive = 1)).map fun row => (now, row)
            phase := .inserting lookup now (m.newKey now keyMaterial keyId) }
      else none
    | .idle | .inserting _ _ _ | .sweeping _ _ => none
  | .insert answer =>
    match s.phase with
    | .inserting lookup createdAt key =>
      match s.keys.insertKey (key.activeRow createdAt) answer with
      | .error _ => some { s with phase := .idle }
      | .ok keys => some { s with keys, phase := .sweeping lookup key }
    | .idle | .rotating _ | .sweeping _ _ => none
  | .sweep now answer =>
    match s.phase with
    | .sweeping _ key =>
      -- a failed sweep is logged and the cycle goes on
      if s.clock ≤ now then
        some { s with
          clock := now
          keys := (BroadcastKeyManagement.sweepExpired now answer s.keys).2
          last := some key
          phase := .idle }
      else none
    | .idle | .rotating _ | .inserting _ _ _ => none

/-! ### What a step can do -/

inductive Steps (s : BroadcastLoop) : KeyAction → BroadcastLoop → Prop where
  | skipped (now : Nat) (answer : Except String Unit) (idle : s.phase = .idle)
      (later : s.clock ≤ now) : Steps s (.lookup now answer) { s with clock := now }
  | missed (now : Nat) (idle : s.phase = .idle) (later : s.clock ≤ now)
      (absent : s.keys.selectActive now = none) :
      Steps s (.lookup now (.ok ())) { s with clock := now, phase := .rotating now }
  | found (now : Nat) (row : BroadcastKeyRow) (key : BroadcastKey) (idle : s.phase = .idle)
      (later : s.clock ≤ now) (selected : s.keys.selectActive now = some row)
      (built : row.build = .ok key) :
      Steps s (.lookup now (.ok ())) { s with clock := now, phase := .sweeping now key }
  | notRetired (lookup now : Nat) (keyMaterial : KeyMaterialBytes) (keyId : KeyIdBytes) (e : String)
      (rotating : s.phase = .rotating lookup) (later : s.clock ≤ now) :
      Steps s (.retire now keyMaterial keyId (.error e)) { s with clock := now, phase := .idle }
  | retired (lookup now : Nat) (keyMaterial : KeyMaterialBytes) (keyId : KeyIdBytes)
      (rotating : s.phase = .rotating lookup) (later : s.clock ≤ now) :
      Steps s (.retire now keyMaterial keyId (.ok ()))
        { s with
          clock := now
          keys := s.keys.retireActive
          retired := s.retired ++ (s.keys.rows.filter (·.isActive = 1)).map fun row => (now, row)
          phase := .inserting lookup now (m.newKey now keyMaterial keyId) }
  | notInserted (lookup createdAt : Nat) (key : BroadcastKey) (answer : Except String Unit)
      (inserting : s.phase = .inserting lookup createdAt key) :
      Steps s (.insert answer) { s with phase := .idle }
  | inserted (lookup createdAt : Nat) (key : BroadcastKey) (keys : BroadcastKeys)
      (inserting : s.phase = .inserting lookup createdAt key)
      (stored : keys.rows = s.keys.rows ++ [key.activeRow createdAt]) :
      Steps s (.insert (.ok ())) { s with keys, phase := .sweeping lookup key }
  | notSwept (lookup now : Nat) (key : BroadcastKey) (e : String)
      (sweeping : s.phase = .sweeping lookup key) (later : s.clock ≤ now) :
      Steps s (.sweep now (.error e)) { s with clock := now, last := some key, phase := .idle }
  | swept (lookup now : Nat) (key : BroadcastKey) (sweeping : s.phase = .sweeping lookup key)
      (later : s.clock ≤ now) :
      Steps s (.sweep now (.ok ()))
        { s with
          clock := now
          keys := s.keys.deleteExpired now
          last := some key
          phase := .idle }

theorem step_cases (s s' : BroadcastLoop) (action : KeyAction)
    (stepped : s.step m action = some s') : Steps m s action s' := by
  cases action with
  | lookup now answer =>
    simp only [step] at stepped
    split at stepped
    next idle =>
      obtain ⟨later, stepped⟩ := Option.ite_none_right_eq_some.mp stepped
      split at stepped
      next =>
        cases stepped
        exact .skipped now _ idle later
      next =>
        split at stepped
        next absent =>
          cases stepped
          exact .missed now idle later absent
        next row selected =>
          split at stepped
          next =>
            cases stepped
            exact .skipped now _ idle later
          next key built =>
            cases stepped
            exact .found now row key idle later selected built
    all_goals cases stepped
  | retire now keyMaterial keyId answer =>
    simp only [step] at stepped
    split at stepped
    next lookup rotating =>
      obtain ⟨later, stepped⟩ := Option.ite_none_right_eq_some.mp stepped
      cases answer with
      | error e =>
        cases stepped
        exact .notRetired lookup now keyMaterial keyId e rotating later
      | ok u =>
        cases stepped
        exact .retired lookup now keyMaterial keyId rotating later
    all_goals cases stepped
  | insert answer =>
    simp only [step] at stepped
    split at stepped
    next lookup createdAt key inserting =>
      split at stepped
      next =>
        cases stepped
        exact .notInserted lookup createdAt key answer inserting
      next keys stored =>
        cases stepped
        obtain ⟨rfl, _, rows⟩ := (BroadcastKeys.insertKey_iff ..).mp stored
        exact .inserted lookup createdAt key keys inserting rows
    all_goals cases stepped
  | sweep now answer =>
    simp only [step] at stepped
    split at stepped
    next lookup key sweeping =>
      obtain ⟨later, stepped⟩ := Option.ite_none_right_eq_some.mp stepped
      cases answer with
      | error e =>
        cases stepped
        exact .notSwept lookup now key e sweeping later
      | ok u =>
        cases stepped
        exact .swept lookup now key sweeping later
    all_goals cases stepped

/-! ### One call of `get_or_rotate_key` -/

/-- The statements that `get_or_rotate_key` executes. -/
def statements (env : LookupEnv) (keys : BroadcastKeys) : List KeyAction :=
  .lookup env.now env.select ::
    match env.select, keys.selectActive env.now with
    | .ok (), none =>
      .retire env.rotation.now env.rotation.keyMaterial env.rotation.keyId env.rotation.retire ::
        match env.rotation.retire with
        | .ok () => [.insert env.rotation.insert]
        | .error _ => []
    | _, _ => []

/-- The steps of the loop are those of the function. -/
theorem run_statements (s : BroadcastLoop) (env : LookupEnv) (idle : s.phase = .idle)
    (begins : s.clock ≤ env.now) (rotates : env.now ≤ env.rotation.now) :
    ∃ s', Runs.run (step m) s (statements env s.keys) = some s' ∧
      s'.keys = (m.getOrRotateKey env s.keys).2 ∧
      s'.phase = match (m.getOrRotateKey env s.keys).1 with
        | .ok key => .sweeping env.now key
        | .error _ => .idle := by
  simp only [statements, BroadcastKeyManagement.getOrRotateKey]
  cases env.select with
  | error e => simp [Runs.run, step, idle, begins]
  | ok u =>
    cases selected : s.keys.selectActive env.now with
    | some row => cases built : row.build <;> simp [Runs.run, step, idle, begins, selected, built]
    | none =>
      cases retired : env.rotation.retire with
      | error e =>
        simp [Runs.run, step, idle, begins, rotates, selected, retired,
          BroadcastKeyManagement.rotateKey]
      | ok u =>
        cases inserted : s.keys.retireActive.insertKey
            ((m.newKey env.rotation.now env.rotation.keyMaterial env.rotation.keyId).activeRow
              env.rotation.now) env.rotation.insert <;>
          simp [Runs.run, step, idle, begins, rotates, selected, retired, inserted,
            BroadcastKeyManagement.rotateKey]

end BroadcastLoop

/-! ### Starting the loop -/

/-- `tokio::time::interval`: the period of the timer. A zero period panics. -/
def tokioInterval (period : Nat) : Option Nat := if period = 0 then none else some period

namespace BeaconManagementConfig

/-- The key manager that `App::initialize` builds. -/
def keyManagement (config : BeaconManagementConfig) : BroadcastKeyManagement where
  rotationInterval := config.keyRotationInterval.toNat
  keyExpiry := config.keyExpiry.toNat

/-- `run_broadcast_loop` before its first tick; `none` is a panic. -/
def startBroadcastLoop (config : BeaconManagementConfig) : Option BroadcastLoop :=
  (tokioInterval config.broadcastInterval.toNat).map fun _ => .init

end BeaconManagementConfig

end Hamlet
