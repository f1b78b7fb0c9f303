import Hamlet.Properties.KeyLifecycle

/-!
# Configurations of the broadcast loop

`BeaconManagementConfig::from_env` takes any three numbers of seconds. The timer of the loop does
not start with a zero period, a key with a zero rotation interval is never found again, and a key
that expires before it rotates is swept in the cycle that broadcasts it.
-/

namespace Hamlet

open RustStr BroadcastLoop

/-- A new process on the table that the last one left, at whatever point it stopped. -/
def BroadcastLoop.restart (s : BroadcastLoop) : BroadcastLoop :=
  { s with phase := .idle, last := none }

/-- The states of broadcast loops with these intervals, over any number of restarts. -/
inductive Reachable (m : BroadcastKeyManagement) : BroadcastLoop → Prop where
  | init : Reachable m .init
  | step {s s' : BroadcastLoop} (action : KeyAction) (before : Reachable m s)
      (stepped : s.step m action = some s') : Reachable m s'
  | restart {s : BroadcastLoop} (before : Reachable m s) : Reachable m s.restart

/-- In every cycle with one reading of the clock the broadcast key outlives the sweep. -/
def KeptAfterSweep (m : BroadcastKeyManagement) : Prop :=
  ∀ s s' now key answer, Reachable m s → s.phase = .sweeping now key →
    s.step m (.sweep now answer) = some s' → ∃ row ∈ s'.keys.rows, row.keyId = key.keyId.val

/-- Every new key is found at the reading of its creation. -/
def Selectable (m : BroadcastKeyManagement) : Prop :=
  ∀ env keys key keys', m.rotateKey env keys = (.ok key, keys') →
    ∀ lookup : LookupEnv, lookup.now = env.now → lookup.select = .ok () →
      m.getOrRotateKey lookup keys' = (.ok key, keys')

/-- What the broadcast loop needs of its configuration. -/
structure SafeToBroadcast (config : BeaconManagementConfig) : Prop where
  starts : config.startBroadcastLoop ≠ none
  keptAfterSweep : KeptAfterSweep config.keyManagement
  selectable : Selectable config.keyManagement

/-- The seconds a variable asks for: the number it spells, if that is below `limit`. -/
def spelledSeconds (limit default : Nat) (value : Option String) : Nat :=
  match value.bind fun text => parseDecimal (trim text) with
  | none => default
  | some n => if n < limit then n else default

/-- Neither interval is zero, and keys expire no earlier than they rotate. -/
def SpellsSafeIntervals (env : Env) : Prop :=
  0 < spelledSeconds 65536 60 (env "BROADCAST_INTERVAL") ∧
    0 < spelledSeconds 4294967296 3600 (env "KEY_ROTATION_INTERVAL") ∧
    spelledSeconds 4294967296 3600 (env "KEY_ROTATION_INTERVAL") ≤
      spelledSeconds 4294967296 7200 (env "KEY_EXPIRY")

/-! ### Reading the variables -/

/-- A variable read into a bounded type `α`, `mk` and `val` being its conversions. -/
theorem val_parse_getD {α : Type} (limit : Nat) (mk : (n : Nat) → n < limit → α) (val : α → Nat)
    (val_mk : ∀ n small, val (mk n small) = n) (value : Option String) (default : String)
    (fallback : α) (parse : String → Option α)
    (bounded : ∀ text, parse text = (parseDecimal text).bind fun n =>
      if small : n < limit then some (mk n small) else none)
    (agrees : parse (trim default) = some fallback) :
    val ((parse (trim (value.getD default))).getD fallback) =
      spelledSeconds limit (val fallback) value := by
  cases value with
  | none =>
    rw [Option.getD_none, agrees]
    rfl
  | some text =>
    simp only [Option.getD_some, spelledSeconds, Option.bind_some, bounded]
    cases parseDecimal (trim text) with
    | none => rfl
    | some n =>
      simp only [Option.bind_some]
      split
      next => exact val_mk n _
      next => rfl

theorem toNat_parseU16_getD (value : Option String) (default : String) (fallback : UInt16)
    (agrees : parseU16 (trim default) = some fallback) :
    ((parseU16 (trim (value.getD default))).getD fallback).toNat =
      spelledSeconds 65536 fallback.toNat value :=
  val_parse_getD 65536 UInt16.ofNatLT UInt16.toNat (fun _ _ => UInt16.toNat_ofNatLT) value default
    fallback parseU16 (fun _ => rfl) agrees

theorem toNat_parseU32_getD (value : Option String) (default : String) (fallback : UInt32)
    (agrees : parseU32 (trim default) = some fallback) :
    ((parseU32 (trim (value.getD default))).getD fallback).toNat =
      spelledSeconds 4294967296 fallback.toNat value :=
  val_parse_getD 4294967296 UInt32.ofNatLT UInt32.toNat (fun _ _ => UInt32.toNat_ofNatLT) value
    default fallback parseU32 (fun _ => rfl) agrees

theorem spellsSafeIntervals_iff (env : Env) :
    SpellsSafeIntervals env ↔
      0 < (BeaconManagementConfig.fromEnv env).broadcastInterval.toNat ∧
        1 ≤ (BeaconManagementConfig.fromEnv env).keyManagement.rotationInterval ∧
        (BeaconManagementConfig.fromEnv env).keyManagement.rotationInterval ≤
          (BeaconManagementConfig.fromEnv env).keyManagement.keyExpiry := by
  simp only [BeaconManagementConfig.fromEnv, BeaconManagementConfig.keyManagement, Env.text]
  rw [toNat_parseU16_getD _ "60" 60 (by decide), toNat_parseU32_getD _ "3600" 3600 (by decide),
    toNat_parseU32_getD _ "7200" 7200 (by decide)]
  rfl

/-! ### Finding a new key -/

theorem selectActive_of_append {keys keys' : BroadcastKeys} {row : BroadcastKeyRow} {now : Nat}
    (inactive : ∀ old ∈ keys.rows, old.isActive ≠ 1) (stored : keys'.rows = keys.rows ++ [row])
    (active : row.isActive = 1) (notDue : now < row.rotatesAt) :
    keys'.selectActive now = some row := by
  have none : keys.rows.filter (fun old => old.isActive = 1 ∧ now < old.rotatesAt) = [] := by
    rw [List.filter_eq_nil_iff]
    intro old member
    simp [inactive old member]
  rw [BroadcastKeys.selectActive, stored, List.filter_append, none]
  simp [active, notDue]

theorem selectable {m : BroadcastKeyManagement} (positive : 1 ≤ m.rotationInterval) :
    Selectable m := by
  intro env keys key keys' rotated lookup same answered
  obtain ⟨rfl, stored⟩ := BroadcastKeyManagement.rotateKey_ok rotated
  have notDue : lookup.now < env.now + m.rotationInterval := by omega
  have selected := selectActive_of_append (isActive_retireActive keys) stored rfl notDue
  simp only [BroadcastKeyManagement.getOrRotateKey, answered, selected, BroadcastKey.build_activeRow]

/-! ### Keys that are lost -/

/-- A key created at zero. -/
def firstKey (m : BroadcastKeyManagement) : BroadcastKey :=
  m.newKey 0 sampleMaterial collidingRotation.keyId

/-- The first cycle has created its key and is about to sweep. -/
def afterFirstRotation (m : BroadcastKeyManagement) : BroadcastLoop where
  phase := .sweeping 0 (firstKey m)
  keys := ⟨[(firstKey m).activeRow 0], by simp⟩
  clock := 0
  last := none
  retired := []

theorem run_firstRotation (m : BroadcastKeyManagement) :
    Runs.run (BroadcastLoop.step m) .init ((rotatingCycle 0 1).take 3) =
      some (afterFirstRotation m) := rfl

theorem deleteExpired_singleton {keys : BroadcastKeys} {row : BroadcastKeyRow}
    (only : keys.rows = [row]) (now : Nat) :
    (keys.deleteExpired now).rows = if row.expiresAt ≤ now then [] else [row] := by
  simp only [BroadcastKeys.deleteExpired, KeyedTable.deleteWhere, only, List.filter_cons,
    List.filter_nil]
  split <;> simp_all

section

variable {m : BroadcastKeyManagement} {s : BroadcastLoop} {lookup now : Nat} {key : BroadcastKey}

theorem step_sweep (sweeping : s.phase = .sweeping lookup key) (later : s.clock ≤ now) :
    s.step m (.sweep now (.ok ())) = some
      { s with clock := now, keys := s.keys.deleteExpired now, last := some key, phase := .idle } := by
  simp [BroadcastLoop.step, sweeping, later, BroadcastKeyManagement.sweepExpired]

theorem step_lookup {row : BroadcastKeyRow} (idle : s.phase = .idle) (later : s.clock ≤ now)
    (selected : s.keys.selectActive now = some row) (built : row.build = .ok key) :
    s.step m (.lookup now (.ok ())) = some { s with clock := now, phase := .sweeping now key } := by
  simp [BroadcastLoop.step, idle, later, selected, built]

end

/-- A key that expires before it rotates is broadcast at its expiry. -/
theorem exists_sweep_at_expiry (m : BroadcastKeyManagement)
    (short : m.keyExpiry < m.rotationInterval) :
    ∃ actions s, Runs.run (BroadcastLoop.step m) .init actions = some s ∧
      s.phase = .sweeping m.keyExpiry (firstKey m) ∧ s.clock ≤ m.keyExpiry ∧
      s.keys.rows = [(firstKey m).activeRow 0] := by
  have expires : ((firstKey m).activeRow 0).expiresAt = m.keyExpiry := Nat.zero_add _
  have rotates : ((firstKey m).activeRow 0).rotatesAt = m.rotationInterval := Nat.zero_add _
  by_cases zero : m.keyExpiry = 0
  · -- in the cycle that creates it
    refine ⟨_, afterFirstRotation m, run_firstRotation m, ?_, Nat.zero_le _, rfl⟩
    rw [zero]
    rfl
  · -- in a cycle of its own
    have kept : ((afterFirstRotation m).keys.deleteExpired 0).rows = [(firstKey m).activeRow 0] := by
      rw [deleteExpired_singleton rfl, if_neg]
      omega
    have selected : ((afterFirstRotation m).keys.deleteExpired 0).selectActive m.keyExpiry =
        some ((firstKey m).activeRow 0) := by
      rw [BroadcastKeys.selectActive, kept]
      have active : ((firstKey m).activeRow 0).isActive = 1 := rfl
      simp [active, rotates, short]
    have swept : (afterFirstRotation m).step m (.sweep 0 (.ok ())) = some _ :=
      step_sweep rfl (le_refl 0)
    have found := step_lookup (m := m) (s := { afterFirstRotation m with
        keys := (afterFirstRotation m).keys.deleteExpired 0,
        last := some (firstKey m), phase := .idle })
      rfl (Nat.zero_le m.keyExpiry) selected (BroadcastKey.build_activeRow ..)
    have later := (Runs.run_cons_iff (BroadcastLoop.step m) ..).mpr ⟨_, found, Runs.run_nil ..⟩
    have cycles := (Runs.run_cons_iff (BroadcastLoop.step m) ..).mpr ⟨_, swept, later⟩
    have ran := (Runs.run_append_iff ..).mpr ⟨_, run_firstRotation m, cycles⟩
    exact ⟨_, _, ran, rfl, le_refl _, kept⟩

theorem reachable_of_run {m : BroadcastKeyManagement} {actions : List KeyAction} {s : BroadcastLoop}
    (ran : Runs.run (BroadcastLoop.step m) .init actions = some s) : Reachable m s :=
  Runs.run_invariant _ (Reachable m) (fun _ action _ before stepped => .step action before stepped)
    .init s actions .init ran

/-- So a key that expires before it rotates is lost in some cycle. -/
theorem rotation_le_expiry_of_kept {m : BroadcastKeyManagement} (kept : KeptAfterSweep m) :
    m.rotationInterval ≤ m.keyExpiry := by
  by_contra! short
  obtain ⟨actions, s, ran, sweeping, later, only⟩ := exists_sweep_at_expiry m short
  obtain ⟨row, member, _⟩ := kept s _ m.keyExpiry (firstKey m) (.ok ()) (reachable_of_run ran)
    sweeping (step_sweep sweeping later)
  have expires : ((firstKey m).activeRow 0).expiresAt = m.keyExpiry := Nat.zero_add _
  rw [deleteExpired_singleton only, if_pos expires.le] at member
  cases member

/-- A restart leaves the table as it was. -/
theorem keyInvariant_of_reachable {m : BroadcastKeyManagement} (rotates : 1 ≤ m.rotationInterval)
    (outlives : m.rotationInterval ≤ m.keyExpiry) {s : BroadcastLoop} (reached : Reachable m s) :
    KeyInvariant m s := by
  induction reached with
  | init => exact keyInvariant_init m
  | step action before stepped inv => exact keyInvariant_step rotates outlives inv stepped
  | restart before inv =>
    refine ⟨inv.issued, inv.oneActive, ?_⟩
    intro old last
    cases last

theorem keptAfterSweep {m : BroadcastKeyManagement} (rotates : 1 ≤ m.rotationInterval)
    (outlives : m.rotationInterval ≤ m.keyExpiry) : KeptAfterSweep m := by
  intro s s' now key answer reached sweeping swept
  have inv := keyInvariant_of_reachable rotates outlives reached
  obtain ⟨createdAt, member⟩ :=
    stores_after_sweep outlives inv sweeping (Nat.le_add_right _ _) swept
  exact ⟨_, member, rfl⟩

/-- The first rotation, and a lookup at the same time whose own rotation would fail. -/
def firstRotation : RotationEnv := { collidingRotation with now := 0 }

def lookupAtOnce : LookupEnv where
  now := 0
  select := .ok ()
  rotation := { firstRotation with retire := .error "database is locked" }

/-- A key that is due when it is created is passed over. -/
theorem positive_of_selectable {m : BroadcastKeyManagement} (selectable : Selectable m) :
    1 ≤ m.rotationInterval := by
  by_contra! zero
  have found := selectable firstRotation .empty (firstKey m) (afterFirstRotation m).keys rfl
    lookupAtOnce rfl rfl
  -- it is due at once, so the lookup goes on to the rotation that fails
  have passed : (afterFirstRotation m).keys.selectActive 0 = none := by
    rw [BroadcastKeys.selectActive_eq_none]
    intro row member _
    rw [List.mem_singleton.mp member]
    show 0 + m.rotationInterval ≤ 0
    omega
  simp only [BroadcastKeyManagement.getOrRotateKey, lookupAtOnce, passed,
    BroadcastKeyManagement.rotateKey] at found
  cases found

theorem starts_iff (config : BeaconManagementConfig) :
    config.startBroadcastLoop ≠ none ↔ 0 < config.broadcastInterval.toNat := by
  rw [BeaconManagementConfig.startBroadcastLoop, ne_eq, Option.map_eq_none_iff, tokioInterval]
  constructor
  · intro period
    by_contra! zero
    exact period (if_pos (by omega))
  · intro positive panics
    rw [if_neg (by omega)] at panics
    cases panics

/-- The configuration read from the environment is safe to broadcast with exactly when the
variables spell safe intervals. -/
theorem configuration_safe_iff (env : Env) :
    SafeToBroadcast (BeaconManagementConfig.fromEnv env) ↔ SpellsSafeIntervals env := by
  rw [spellsSafeIntervals_iff]
  constructor
  · rintro ⟨starts, kept, found⟩
    exact ⟨(starts_iff _).mp starts, positive_of_selectable found, rotation_le_expiry_of_kept kept⟩
  · rintro ⟨period, positive, outlives⟩
    exact ⟨(starts_iff _).mpr period, keptAfterSweep positive outlives, selectable positive⟩

/-- Only `KEY_EXPIRY` is set. -/
def expiryEnv (text : String) : Env := fun name => if name = "KEY_EXPIRY" then some text else none

/-- `KEY_EXPIRY=0` is accepted, and the first key is deleted in the cycle that broadcasts it. -/
theorem zero_expiry_accepted :
    (BeaconManagementConfig.fromEnv (expiryEnv "0")).keyExpiry = 0 ∧
      ¬SafeToBroadcast (BeaconManagementConfig.fromEnv (expiryEnv "0")) := by
  refine ⟨by decide, fun safe => ?_⟩
  have short := rotation_le_expiry_of_kept safe.keptAfterSweep
  revert short
  decide

end Hamlet
