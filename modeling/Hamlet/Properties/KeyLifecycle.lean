import Hamlet.BroadcastLoop

/-!
# The life of a broadcast key

A key is created, broadcast until it rotates, kept for a while and deleted. The first part
shows what a cycle can rely on: one active key, not yet due, not swept under the broadcast
and not replaced early. The second part is about retired keys. The source counts their
expiry from the creation, the documentation from the rotation. The last part is about one
rotation, which is not one transaction.
-/

namespace Hamlet

open BroadcastLoop

def AtMostOneActive (keys : BroadcastKeys) : Prop :=
  (keys.rows.filter (·.isActive = 1)).length ≤ 1

def BroadcastKeys.Stores (keys : BroadcastKeys) (key : BroadcastKey) : Prop :=
  ∃ createdAt, key.activeRow createdAt ∈ keys.rows

/-- No row that a lookup can select is reported as corrupt. -/
def NeverCorrupt (keys : BroadcastKeys) : Prop :=
  ∀ now row, keys.selectActive now = some row → ∃ key, row.build = .ok key

/-- What a cycle relies on that broadcasts `key` after a lookup at `lookup`. -/
structure Broadcasts (m : BroadcastKeyManagement) (s : BroadcastLoop) (lookup : Nat)
    (key : BroadcastKey) : Prop where
  stored : s.keys.Stores key
  notDue : lookup < key.rotatesAt
  survivesSweep : ∀ now answer s', s.step m (.sweep now answer) = some s' →
    now ≤ lookup + (m.keyExpiry - m.rotationInterval) → s'.keys.Stores key
  changesWhenDue : ∀ old, s.last = some old → key.keyId ≠ old.keyId → old.rotatesAt ≤ lookup

/-! ### The invariant -/

/-- The row was written by `rotate_key`. -/
structure BroadcastKeyManagement.Issued (m : BroadcastKeyManagement) (row : BroadcastKeyRow) :
    Prop where
  idLength : row.keyId.length = 4
  materialLength : row.keyMaterial.length = 16
  rotatesAt : row.rotatesAt = row.createdAt + m.rotationInterval
  expiresAt : row.expiresAt = row.createdAt + m.keyExpiry

/-- The last key is the active one, or it was due. -/
def LastAccounted (s : BroadcastLoop) : Prop :=
  ∀ old, s.last = some old → s.keys.Stores old ∨ old.rotatesAt ≤ s.clock

/-- What holds in each phase of a cycle. -/
def PhaseInvariant (m : BroadcastKeyManagement) (s : BroadcastLoop) : Prop :=
  match s.phase with
  | .idle => LastAccounted s
  | .rotating lookup => lookup ≤ s.clock ∧ ∀ old, s.last = some old → old.rotatesAt ≤ lookup
  | .inserting lookup createdAt key =>
    (lookup ≤ createdAt ∧ createdAt ≤ s.clock) ∧ m.Issued (key.activeRow createdAt) ∧
      (∀ row ∈ s.keys.rows, row.isActive ≠ 1) ∧ ∀ old, s.last = some old → old.rotatesAt ≤ lookup
  | .sweeping lookup key =>
    s.keys.Stores key ∧ lookup < key.rotatesAt ∧
      ∀ old, s.last = some old → key = old ∨ old.rotatesAt ≤ lookup

structure KeyInvariant (m : BroadcastKeyManagement) (s : BroadcastLoop) : Prop where
  issued : ∀ row ∈ s.keys.rows, m.Issued row
  oneActive : AtMostOneActive s.keys
  phase : PhaseInvariant m s

theorem eq_of_active {keys : BroadcastKeys} (one : AtMostOneActive keys) {a b : BroadcastKeyRow}
    (ha : a ∈ keys.rows) (hb : b ∈ keys.rows) (activeA : a.isActive = 1)
    (activeB : b.isActive = 1) : a = b := by
  have memberA : a ∈ keys.rows.filter (·.isActive = 1) := by simp [ha, activeA]
  have memberB : b ∈ keys.rows.filter (·.isActive = 1) := by simp [hb, activeB]
  simp only [AtMostOneActive] at one
  match shape : keys.rows.filter (·.isActive = 1) with
  | [] => simp [shape] at memberA
  | [row] =>
    rw [shape, List.mem_singleton] at memberA memberB
    rw [memberA, memberB]
  | _ :: _ :: _ => simp [shape] at one

theorem atMostOneActive_of_none {keys : BroadcastKeys}
    (none : ∀ row ∈ keys.rows, row.isActive ≠ 1) : AtMostOneActive keys := by
  have empty : keys.rows.filter (·.isActive = 1) = [] := by
    simpa [List.filter_eq_nil_iff] using none
  simp [AtMostOneActive, empty]

theorem isActive_retireActive (keys : BroadcastKeys) (row : BroadcastKeyRow)
    (member : row ∈ keys.retireActive.rows) : row.isActive ≠ 1 := by
  rcases (keys.mem_retireActive row).mp member with ⟨_, inactive⟩ | ⟨old, _, _, rfl⟩
  · exact inactive
  · simp [BroadcastKeyRow.retire]

/-- An active row is the row of the key that `build_key` makes of it. -/
theorem activeRow_of_build {row : BroadcastKeyRow} {key : BroadcastKey} (active : row.isActive = 1)
    (built : row.build = .ok key) : row = key.activeRow row.createdAt := by
  obtain ⟨sameId, sameMaterial, rotates, expires⟩ := (row.build_eq_ok_iff key).mp built
  cases row
  simp only at active sameId sameMaterial rotates expires
  simp only [BroadcastKey.activeRow, active, sameId, sameMaterial, rotates, expires]

theorem BroadcastKeyManagement.Issued.build {m : BroadcastKeyManagement} {row : BroadcastKeyRow}
    (issued : m.Issued row) : ∃ key, row.build = .ok key :=
  ⟨⟨⟨row.keyId, issued.idLength⟩, ⟨row.keyMaterial, issued.materialLength⟩, row.rotatesAt,
    row.expiresAt⟩, (row.build_eq_ok_iff _).mpr ⟨rfl, rfl, rfl, rfl⟩⟩

theorem BroadcastKeyManagement.issued_newKey (m : BroadcastKeyManagement) (now : Nat)
    (keyMaterial : KeyMaterialBytes) (keyId : KeyIdBytes) :
    m.Issued ((m.newKey now keyMaterial keyId).activeRow now) where
  idLength := keyId.2
  materialLength := keyMaterial.2
  rotatesAt := rfl
  expiresAt := rfl

theorem neverCorrupt_of_issued {m : BroadcastKeyManagement} {keys : BroadcastKeys}
    (issued : ∀ row ∈ keys.rows, m.Issued row) : NeverCorrupt keys := by
  intro now row selected
  exact (issued row (keys.mem_of_selectActive now row selected).1).build

/-- The one active key is stored, so the lookup returns it or it is due. -/
theorem selected_eq_of_stores {keys : BroadcastKeys} (one : AtMostOneActive keys)
    {old key : BroadcastKey} {now : Nat} {row : BroadcastKeyRow} (stored : keys.Stores old)
    (selected : keys.selectActive now = some row) (built : row.build = .ok key) : key = old := by
  obtain ⟨createdAt, member⟩ := stored
  obtain ⟨memberRow, active, _⟩ := keys.mem_of_selectActive now row selected
  have same : row = old.activeRow createdAt := eq_of_active one memberRow member active rfl
  rw [same, BroadcastKey.build_activeRow, Except.ok.injEq] at built
  exact built.symm

section

variable {m : BroadcastKeyManagement} {s s' : BroadcastLoop} {action : KeyAction}

theorem lastAccounted_later {now : Nat} (accounted : LastAccounted s) (later : s.clock ≤ now) :
    LastAccounted { s with clock := now } := by
  intro old last
  rcases accounted old last with stored | due
  · exact .inl stored
  · exact .inr (due.trans later)

/-- A sweep deletes no key before it is due. -/
theorem stores_deleteExpired (outlives : m.rotationInterval ≤ m.keyExpiry)
    (issued : ∀ row ∈ s.keys.rows, m.Issued row) {key : BroadcastKey} (stored : s.keys.Stores key)
    (now : Nat) : (s.keys.deleteExpired now).Stores key ∨ key.rotatesAt ≤ now := by
  obtain ⟨createdAt, member⟩ := stored
  have rotates : key.rotatesAt = createdAt + m.rotationInterval := (issued _ member).rotatesAt
  have expires : key.expiresAt = createdAt + m.keyExpiry := (issued _ member).expiresAt
  by_cases kept : now < key.expiresAt
  · exact .inl ⟨createdAt, (BroadcastKeys.mem_deleteExpired ..).mpr ⟨member, kept⟩⟩
  · right
    omega

theorem keyInvariant_step (rotates : 1 ≤ m.rotationInterval)
    (outlives : m.rotationInterval ≤ m.keyExpiry) (inv : KeyInvariant m s)
    (stepped : s.step m action = some s') : KeyInvariant m s' := by
  obtain ⟨issued, one, phase⟩ := inv
  simp only [PhaseInvariant] at phase
  cases step_cases m s s' action stepped with
  | skipped now answer idle later =>
    rw [idle] at phase
    refine ⟨issued, one, ?_⟩
    simpa only [PhaseInvariant, idle] using lastAccounted_later phase later
  | missed now idle later absent =>
    rw [idle] at phase
    refine ⟨issued, one, le_refl now, fun old last => ?_⟩
    -- the last key was due before, or the lookup has just passed it over
    rcases phase old last with ⟨createdAt, member⟩ | due
    · exact (s.keys.selectActive_eq_none now).mp absent _ member rfl
    · exact due.trans later
  | found now row key idle later selected built =>
    rw [idle] at phase
    obtain ⟨member, active, notDue⟩ := s.keys.mem_of_selectActive now row selected
    have shape := activeRow_of_build active built
    rw [shape] at member notDue
    refine ⟨issued, one, ⟨_, member⟩, notDue, fun old last => ?_⟩
    rcases phase old last with stored | due
    · exact .inl (selected_eq_of_stores one stored selected built)
    · exact .inr (due.trans later)
  | notRetired lookup now keyMaterial keyId e rotating later =>
    rw [rotating] at phase
    refine ⟨issued, one, fun old last => .inr ?_⟩
    exact (phase.2 old last).trans (phase.1.trans later)
  | retired lookup now keyMaterial keyId rotating later =>
    rw [rotating] at phase
    have inactive := isActive_retireActive s.keys
    refine ⟨?_, atMostOneActive_of_none inactive, ⟨phase.1.trans later, le_refl now⟩,
      m.issued_newKey now keyMaterial keyId, inactive, phase.2⟩
    intro row member
    rcases (s.keys.mem_retireActive row).mp member with ⟨kept, _⟩ | ⟨old, kept, _, rfl⟩
    · exact issued row kept
    · exact ⟨(issued old kept).idLength, (issued old kept).materialLength,
        (issued old kept).rotatesAt, (issued old kept).expiresAt⟩
  | notInserted lookup createdAt key answer inserting =>
    rw [inserting] at phase
    obtain ⟨⟨before, past⟩, _, _, due⟩ := phase
    refine ⟨issued, one, fun old last => .inr ?_⟩
    exact (due old last).trans (before.trans past)
  | inserted lookup createdAt key keys inserting stored =>
    rw [inserting] at phase
    obtain ⟨⟨before, past⟩, fresh, inactive, due⟩ := phase
    have member : key.activeRow createdAt ∈ keys.rows := by simp [stored]
    have rotatesAt : key.rotatesAt = createdAt + m.rotationInterval := fresh.rotatesAt
    refine ⟨?_, ?_, ⟨createdAt, member⟩, by omega, fun old last => .inr (due old last)⟩
    · intro row rowMember
      rw [stored, List.mem_append, List.mem_singleton] at rowMember
      rcases rowMember with old | rfl
      · exact issued row old
      · exact fresh
    · -- nothing was active before the insert
      have none : s.keys.rows.filter (·.isActive = 1) = [] := by
        simpa [List.filter_eq_nil_iff] using inactive
      simp [AtMostOneActive, stored, List.filter_append, none, BroadcastKey.activeRow]
  | notSwept lookup now key e sweeping later =>
    rw [sweeping] at phase
    refine ⟨issued, one, fun old last => ?_⟩
    cases last
    exact .inl phase.1
  | swept lookup now key sweeping later =>
    rw [sweeping] at phase
    refine ⟨?_, ?_, fun old last => ?_⟩
    · intro row member
      exact issued row ((s.keys.mem_deleteExpired now row).mp member).1
    · have fewer : ((s.keys.deleteExpired now).rows.filter (·.isActive = 1)).length ≤
          (s.keys.rows.filter (·.isActive = 1)).length :=
        (List.filter_sublist.filter _).length_le
      exact fewer.trans one
    · cases last
      exact stores_deleteExpired outlives issued phase.1 now

/-- A sweep that comes soon enough after the lookup spares the key being broadcast. -/
theorem stores_after_sweep (outlives : m.rotationInterval ≤ m.keyExpiry) (inv : KeyInvariant m s)
    {lookup now : Nat} {key : BroadcastKey} {answer : Except String Unit}
    (sweeping : s.phase = .sweeping lookup key) (soon : now ≤ lookup + (m.keyExpiry - m.rotationInterval))
    (stepped : s.step m (.sweep now answer) = some s') : s'.keys.Stores key := by
  have phase := inv.phase
  simp only [PhaseInvariant] at phase
  rw [sweeping] at phase
  obtain ⟨⟨createdAt, member⟩, notDue, _⟩ := phase
  cases step_cases m s s' _ stepped with
  | notSwept => exact ⟨createdAt, member⟩
  | swept =>
    have rotatesAt : key.rotatesAt = createdAt + m.rotationInterval :=
      (inv.issued _ member).rotatesAt
    have expiresAt : key.expiresAt = createdAt + m.keyExpiry := (inv.issued _ member).expiresAt
    refine ⟨createdAt, (BroadcastKeys.mem_deleteExpired ..).mpr ⟨member, ?_⟩⟩
    show now < key.expiresAt
    omega

end

theorem keyInvariant_init (m : BroadcastKeyManagement) : KeyInvariant m .init where
  issued := by simp [BroadcastLoop.init, KeyedTable.empty]
  oneActive := by simp [AtMostOneActive, BroadcastLoop.init, KeyedTable.empty]
  phase := by
    intro old last
    cases last

theorem keyInvariant_run {m : BroadcastKeyManagement} (rotates : 1 ≤ m.rotationInterval)
    (outlives : m.rotationInterval ≤ m.keyExpiry) {actions : List KeyAction} {s : BroadcastLoop}
    (ran : Runs.run (BroadcastLoop.step m) .init actions = some s) : KeyInvariant m s :=
  Runs.run_invariant _ (KeyInvariant m)
    (fun _ _ _ inv stepped => keyInvariant_step rotates outlives inv stepped) .init s actions
    (keyInvariant_init m) ran

/-- Over every run of broadcast cycles, with any statement failing at any point: at most one
key is active; no lookup meets a corrupt row; and the key that a cycle broadcasts is stored,
active and not due at the reading of the lookup, survives a sweep that comes soon enough, and
has another `kid` than the last one only when that one was due. -/
theorem broadcast_key_lifecycle (m : BroadcastKeyManagement) (rotates : 1 ≤ m.rotationInterval)
    (outlives : m.rotationInterval < m.keyExpiry) (actions : List KeyAction) (s : BroadcastLoop)
    (ran : Runs.run (BroadcastLoop.step m) .init actions = some s) :
    AtMostOneActive s.keys ∧ NeverCorrupt s.keys ∧
      ∀ lookup key, s.phase = .sweeping lookup key → Broadcasts m s lookup key := by
  have inv := keyInvariant_run rotates outlives.le ran
  refine ⟨inv.oneActive, neverCorrupt_of_issued inv.issued, fun lookup key sweeping => ?_⟩
  have phase := inv.phase
  simp only [PhaseInvariant] at phase
  rw [sweeping] at phase
  obtain ⟨stored, notDue, changes⟩ := phase
  refine ⟨stored, notDue, ?_, ?_⟩
  · intro now answer s' stepped soon
    exact stores_after_sweep outlives.le inv sweeping soon stepped
  · intro old last differs
    rcases changes old last with same | due
    · exact absurd (congrArg BroadcastKey.keyId same) differs
    · exact due

/-- The default intervals: one hour and two hours. -/
def defaultKeys : BroadcastKeyManagement := ⟨3600, 7200⟩

def sampleMaterial : KeyMaterialBytes := ⟨List.replicate 16 0, rfl⟩

/-- One cycle that creates a key with the id `n 0 0 0`. -/
def rotatingCycle (now : Nat) (n : UInt8) : List KeyAction :=
  [.lookup now (.ok ()), .retire now sampleMaterial ⟨[n, 0, 0, 0], rfl⟩ (.ok ()),
   .insert (.ok ()), .sweep now (.ok ())]

/-- The second key is due one hour after the first. -/
theorem second_key_is_broadcast :
    ∃ s key, Runs.run (BroadcastLoop.step defaultKeys) .init
        (rotatingCycle 1000 1 ++ (rotatingCycle 4600 2).take 3) = some s ∧
      s.phase = .sweeping 4600 key ∧ s.last.isSome ∧ Broadcasts defaultKeys s 4600 key :=
  ⟨_, _, rfl, rfl, rfl, (broadcast_key_lifecycle defaultKeys (by decide) (by decide)
    (rotatingCycle 1000 1 ++ (rotatingCycle 4600 2).take 3) _ rfl).2.2 4600 _ rfl⟩

/-! ### Retired keys -/

/-- Every key that was retired less than `key_expiry` ago is still stored. -/
def GraceKept (m : BroadcastKeyManagement) (s : BroadcastLoop) : Prop :=
  ∀ retirement ∈ s.retired, s.clock < retirement.1 + m.keyExpiry →
    retirement.2.retire ∈ s.keys.rows

/-- A sweep that deletes runs before a retired key's `expires_at`, or `key_expiry` after its
retirement. -/
def SweepsOutsideGrace (m : BroadcastKeyManagement) (s : BroadcastLoop) : KeyAction → Prop
  | .sweep now (.ok ()) => ∀ retirement ∈ s.retired,
      now < retirement.1 + m.keyExpiry → now < retirement.2.expiresAt
  | .sweep _ (.error _) | .lookup _ _ | .retire _ _ _ _ | .insert _ => True

instance (m : BroadcastKeyManagement) (s : BroadcastLoop) : DecidablePred (SweepsOutsideGrace m s)
  | .sweep now (.ok ()) =>
    inferInstanceAs (Decidable (∀ retirement ∈ s.retired,
      now < retirement.1 + m.keyExpiry → now < retirement.2.expiresAt))
  | .sweep _ (.error _) | .lookup _ _ | .retire _ _ _ _ | .insert _ =>
    inferInstanceAs (Decidable True)

/-- Time passes. -/
theorem GraceKept.later {m : BroadcastKeyManagement} {s s' : BroadcastLoop} (kept : GraceKept m s)
    (keys : s'.keys = s.keys) (retired : s'.retired = s.retired) (clock : s.clock ≤ s'.clock) :
    GraceKept m s' := by
  intro retirement member grace
  rw [retired] at member
  rw [keys]
  exact kept retirement member (clock.trans_lt grace)

theorem graceKept_step_iff (m : BroadcastKeyManagement) (s s' : BroadcastLoop) (action : KeyAction)
    (kept : GraceKept m s) (stepped : s.step m action = some s') :
    GraceKept m s' ↔ SweepsOutsideGrace m s action := by
  cases step_cases m s s' action stepped with
  | skipped now answer idle later =>
    exact iff_of_true (kept.later rfl rfl later) trivial
  | missed now idle later absent =>
    exact iff_of_true (kept.later rfl rfl later) trivial
  | found now row key idle later selected built =>
    exact iff_of_true (kept.later rfl rfl later) trivial
  | notRetired lookup now keyMaterial keyId e rotating later =>
    exact iff_of_true (kept.later rfl rfl later) trivial
  | notInserted lookup createdAt key answer inserting =>
    exact iff_of_true (kept.later rfl rfl le_rfl) trivial
  | notSwept lookup now key e sweeping later =>
    exact iff_of_true (kept.later rfl rfl later) trivial
  | retired lookup now keyMaterial keyId rotating later =>
    refine iff_of_true (fun retirement member grace => ?_) trivial
    rw [BroadcastKeys.mem_retireActive]
    rcases List.mem_append.mp member with earlier | new
    · -- a row that is retired already is not touched again
      exact .inl ⟨kept retirement earlier (later.trans_lt grace), by simp [BroadcastKeyRow.retire]⟩
    · obtain ⟨row, active, rfl⟩ := List.mem_map.mp new
      have stored := List.mem_filter.mp active
      exact .inr ⟨row, stored.1, by simpa using stored.2, rfl⟩
  | inserted lookup createdAt key keys inserting stored =>
    refine iff_of_true (fun retirement member grace => ?_) trivial
    show retirement.2.retire ∈ keys.rows
    rw [stored]
    exact List.mem_append_left _ (kept retirement member grace)
  | swept lookup now key sweeping later =>
    constructor
    · intro kept' retirement member grace
      exact ((s.keys.mem_deleteExpired now _).mp (kept' retirement member grace)).2
    · intro outside retirement member grace
      exact (s.keys.mem_deleteExpired now _).mpr
        ⟨kept retirement member (later.trans_lt grace), outside retirement member grace⟩

/-- Along a run every retired key is kept for `key_expiry` after its retirement, exactly when
no sweep deletes between a retired key's `expires_at` and the end of that time. -/
theorem retired_keys_kept_iff (m : BroadcastKeyManagement) (actions : List KeyAction)
    (s : BroadcastLoop) (ran : Runs.run (BroadcastLoop.step m) .init actions = some s) :
    Runs.Always (BroadcastLoop.step m) (GraceKept m) .init actions ↔
      Runs.run (Runs.restrict (SweepsOutsideGrace m) (BroadcastLoop.step m)) .init actions =
        some s :=
  Runs.always_iff_restrict _ _ (fun _ => True) (GraceKept m) (fun _ _ _ _ _ => trivial)
    (fun s action s' _ kept stepped => graceKept_step_iff m s s' action kept stepped) .init s
    actions trivial (fun _ member => absurd member (by simp [BroadcastLoop.init])) ran

/-- A sweep between the first rotation and the first key's `expires_at`. -/
def earlySweep : List KeyAction :=
  rotatingCycle 0 1 ++ rotatingCycle 3600 2 ++ [.lookup 7199 (.ok ()), .sweep 7199 (.ok ())]

theorem retired_key_kept_by_early_sweep :
    ∃ s, Runs.run (BroadcastLoop.step defaultKeys) .init earlySweep = some s ∧
      s.retired.length = 1 ∧
      Runs.Always (BroadcastLoop.step defaultKeys) (GraceKept defaultKeys) .init earlySweep :=
  ⟨_, rfl, rfl, (retired_keys_kept_iff defaultKeys earlySweep _ rfl).mpr rfl⟩

/-- With hourly rotations the first key is deleted after two hours, one hour after it was
retired. -/
theorem hourly_sweep_deletes_retired_key :
    ∃ s, Runs.run (BroadcastLoop.step defaultKeys) .init
        (rotatingCycle 0 1 ++ rotatingCycle 3600 2 ++ rotatingCycle 7200 3) = some s ∧
      ¬GraceKept defaultKeys s := by
  refine ⟨_, rfl, fun kept => ?_⟩
  have stored := kept (3600, (defaultKeys.newKey 0 sampleMaterial ⟨[1, 0, 0, 0], rfl⟩).activeRow 0)
    (by decide) (by decide)
  revert stored
  decide

/-! ### One rotation -/

/-- An error leaves the table as it was. A key is added as active, and what was active is retired. -/
def AllOrNothing (before : BroadcastKeys) (createdAt : Nat)
    (outcome : Except String BroadcastKey × BroadcastKeys) : Prop :=
  match outcome.1 with
  | .error _ => outcome.2 = before
  | .ok key => outcome.2.rows =
      (before.rows.map fun row => if row.isActive = 1 then row.retire else row) ++
        [key.activeRow createdAt]

/-- The first statement fails, or it finds nothing to retire, or the second one succeeds. -/
def RotatesWhole (env : RotationEnv) (keys : BroadcastKeys) : Prop :=
  env.retire ≠ .ok () ∨ (∀ row ∈ keys.rows, row.isActive ≠ 1) ∨
    (env.insert = .ok () ∧ ∀ row ∈ keys.rows, row.keyId ≠ env.keyId.val)

theorem retireActive_rows (keys : BroadcastKeys) :
    keys.retireActive.rows =
      keys.rows.map fun row => if row.isActive = 1 then row.retire else row := by
  simp only [BroadcastKeys.retireActive, KeyedTable.updateWhere, decide_eq_true_eq]

theorem retireActive_eq_self_iff (keys : BroadcastKeys) :
    keys.retireActive = keys ↔ ∀ row ∈ keys.rows, row.isActive ≠ 1 := by
  constructor
  · intro same row member
    rw [← same] at member
    exact isActive_retireActive keys row member
  · intro inactive
    have rows : keys.retireActive.rows = keys.rows := by
      rw [retireActive_rows, List.map_congr_left (g := id), List.map_id]
      intro row member
      rw [if_neg (inactive row member), id]
    cases keys
    simpa [BroadcastKeys.retireActive, KeyedTable.updateWhere] using rows

/-- Retiring keeps the key ids. -/
theorem free_retireActive_iff (keys : BroadcastKeys) (keyId : List UInt8) :
    (∀ row ∈ keys.retireActive.rows, row.keyId ≠ keyId) ↔ ∀ row ∈ keys.rows, row.keyId ≠ keyId := by
  rw [retireActive_rows]
  simp only [List.forall_mem_map]
  apply forall₂_congr
  intro row member
  split
  · rw [BroadcastKeyRow.retire_keyId]
  · rfl

/-- A key whose id is free is inserted unless the database refuses. -/
theorem exists_insertKey (keys : BroadcastKeys) (row : BroadcastKeyRow)
    (free : ∀ stored ∈ keys.rows, stored.keyId ≠ row.keyId) :
    ∃ keys', keys.insertKey row (.ok ()) = .ok keys' := by
  simp only [BroadcastKeys.insertKey]
  cases inserted : keys.insert row with
  | some keys' => exact ⟨keys', rfl⟩
  | none =>
    simp only [KeyedTable.insert] at inserted
    split at inserted
    next taken =>
      obtain ⟨stored, member, same⟩ := List.mem_map.mp taken
      exact absurd same (free stored member)
    next => cases inserted

/-- A rotation is all or nothing exactly when it does not retire a key and then fail to insert
the next one. -/
theorem rotation_all_or_nothing_iff (m : BroadcastKeyManagement) (env : RotationEnv)
    (keys : BroadcastKeys) :
    AllOrNothing keys env.now (m.rotateKey env keys) ↔ RotatesWhole env keys := by
  simp only [BroadcastKeyManagement.rotateKey, RotatesWhole]
  cases retire : env.retire with
  | error e => exact iff_of_true rfl (.inl (by simp))
  | ok u =>
    simp only [ne_eq, not_true, false_or]
    split
    next e failed =>
      -- the table is left without its active keys
      have refused : ¬(env.insert = .ok () ∧ ∀ row ∈ keys.rows, row.keyId ≠ env.keyId.val) := by
        rintro ⟨answered, free⟩
        obtain ⟨keys', inserted⟩ := exists_insertKey keys.retireActive
          ((m.newKey env.now env.keyMaterial env.keyId).activeRow env.now)
          ((free_retireActive_iff keys _).mpr free)
        rw [answered, inserted] at failed
        cases failed
      simp only [AllOrNothing, retireActive_eq_self_iff, or_iff_left refused]
    next keys' inserted =>
      -- both statements have gone through
      obtain ⟨answered, free, rows⟩ := (BroadcastKeys.insertKey_iff ..).mp inserted
      refine iff_of_true ?_ (.inr ⟨answered, (free_retireActive_iff keys _).mp free⟩)
      rw [AllOrNothing, rows, retireActive_rows]

/-- One active key, which is due. -/
def dueKeys : BroadcastKeys where
  rows := [(defaultKeys.newKey 0 sampleMaterial ⟨[1, 0, 0, 0], rfl⟩).activeRow 0]
  unique := by decide

/-- The random id of the next key is the one in use. -/
def collidingRotation : RotationEnv where
  now := 3600
  keyMaterial := sampleMaterial
  keyId := ⟨[1, 0, 0, 0], rfl⟩
  retire := .ok ()
  insert := .ok ()

/-- The rotation fails, and the table has no active key any more. -/
theorem colliding_rotation_retires_key :
    (∃ e, (defaultKeys.rotateKey collidingRotation dueKeys).1 = .error e) ∧
      (defaultKeys.rotateKey collidingRotation dueKeys).2 ≠ dueKeys ∧
      ¬AllOrNothing dueKeys collidingRotation.now (defaultKeys.rotateKey collidingRotation dueKeys) := by
  have changed : (defaultKeys.rotateKey collidingRotation dueKeys).2 ≠ dueKeys := by decide
  exact ⟨⟨_, rfl⟩, changed, changed⟩

end Hamlet
