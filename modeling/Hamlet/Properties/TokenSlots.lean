import Hamlet.Properties.KeyLifecycle

/-!
# The slots of broadcast tokens

A token depends on the key and on the number of the current rotation interval, counted from the
Unix epoch. Keys are created at any time, so the life of a key as the active one touches two
intervals. Beacons accept the neighbours of their own slot, which covers clocks that are one
interval apart.
-/

namespace Hamlet

open BroadcastLoop

/-! ### Slots -/

/-- A time shorter than a slot touches two slots. -/
theorem slot_of_lifetime {length start now : Nat} (positive : 1 ≤ length) (after : start ≤ now)
    (before : now < start + length) :
    now / length = start / length ∨ now / length = start / length + 1 := by
  have lower : start / length ≤ now / length := Nat.div_le_div_right after
  have upper : now / length ≤ start / length + 1 := by
    rw [← Nat.add_div_right start positive]
    exact Nat.div_le_div_right before.le
  omega

/-- Clocks at most one slot apart are in the same or in neighbouring slots. -/
theorem slot_of_drift {length now verifier : Nat} (positive : 1 ≤ length)
    (behind : now ≤ verifier + length) (ahead : verifier ≤ now + length) :
    now / length + 1 = verifier / length ∨ now / length = verifier / length ∨
      now / length = verifier / length + 1 := by
  have lower : verifier / length ≤ now / length + 1 := by
    rw [← Nat.add_div_right now positive]
    exact Nat.div_le_div_right ahead
  have upper : now / length ≤ verifier / length + 1 := by
    rw [← Nat.add_div_right verifier positive]
    exact Nat.div_le_div_right behind
  omega

section

variable (hmac : HmacSha256) (m : BroadcastKeyManagement)

/-- The divisor is never zero. -/
theorem tokenSlot_eq (now : Nat) : m.tokenSlot now = some (now / max m.rotationInterval 1) := by
  have positive : 1 ≤ max m.rotationInterval 1 := Nat.le_max_right _ _
  rw [BroadcastKeyManagement.tokenSlot, divU64, if_neg (by omega)]

theorem generateToken_eq (now : Nat) (key : BroadcastKey) :
    m.generateToken hmac now key = some (slotToken hmac key (now / max m.rotationInterval 1)) := by
  rw [BroadcastKeyManagement.generateToken, tokenSlot_eq, Option.map_some]

/-- The tokens of a key that was created at `createdAt`, up to its rotation. -/
structure TokensWithinDrift (createdAt : Nat) (key : BroadcastKey) : Prop where
  slots : ∀ now, createdAt ≤ now → now < key.rotatesAt →
    ∃ slot, m.tokenSlot now = some slot ∧
      m.generateToken hmac now key = some (slotToken hmac key slot) ∧
      (slot = createdAt / m.rotationInterval ∨ slot = createdAt / m.rotationInterval + 1) ∧
      ∀ verifier, now ≤ verifier + m.rotationInterval → verifier ≤ now + m.rotationInterval →
        slot + 1 = verifier / m.rotationInterval ∨ slot = verifier / m.rotationInterval ∨
          slot = verifier / m.rotationInterval + 1
  twoTokens : ∃ first second, ∀ now kid tok, createdAt ≤ now → now < key.rotatesAt →
    m.otaFields hmac now key = some (kid, tok) →
    kid = hexEncode key.keyId.val ∧ (tok = first ∨ tok = second)

theorem tokensWithinDrift (positive : 1 ≤ m.rotationInterval) {createdAt : Nat} {key : BroadcastKey}
    (rotates : key.rotatesAt = createdAt + m.rotationInterval) :
    TokensWithinDrift hmac m createdAt key := by
  have length : max m.rotationInterval 1 = m.rotationInterval := Nat.max_eq_left positive
  constructor
  · intro now after before
    rw [rotates] at before
    refine ⟨now / m.rotationInterval, ?_, ?_, slot_of_lifetime positive after before, ?_⟩
    · rw [tokenSlot_eq, length]
    · rw [generateToken_eq, length]
    · intro verifier behind ahead
      exact slot_of_drift positive behind ahead
  · refine ⟨hexEncode (slotToken hmac key (createdAt / m.rotationInterval)).val,
      hexEncode (slotToken hmac key (createdAt / m.rotationInterval + 1)).val, ?_⟩
    intro now kid tok after before fields
    rw [rotates] at before
    rw [BroadcastKeyManagement.otaFields, generateToken_eq, length, Option.map_some,
      Option.some.injEq, Prod.mk.injEq] at fields
    refine ⟨fields.1.symm, ?_⟩
    rw [← fields.2]
    rcases slot_of_lifetime positive after before with same | next
    · rw [same]
      exact .inl rfl
    · rw [next]
      exact .inr rfl

end

/-! ### Keys of a run -/

/-- In this run `rotate_key` has created `key` at the reading `createdAt` and stored it. -/
def CreatedIn (m : BroadcastKeyManagement) (actions : List KeyAction) (createdAt : Nat)
    (key : BroadcastKey) : Prop :=
  ∃ before after s s' lookup, actions = before ++ .insert (.ok ()) :: after ∧
    Runs.run (BroadcastLoop.step m) .init before = some s ∧
    s.phase = .inserting lookup createdAt key ∧
    s.step m (.insert (.ok ())) = some s' ∧ s'.phase = .sweeping lookup key

theorem CreatedIn.later {m : BroadcastKeyManagement} {actions : List KeyAction} {createdAt : Nat}
    {key : BroadcastKey} (created : CreatedIn m actions createdAt key) (more : List KeyAction) :
    CreatedIn m (actions ++ more) createdAt key := by
  obtain ⟨before, after, s, s', lookup, rfl, rest⟩ := created
  exact ⟨before, after ++ more, s, s', lookup, by simp, rest⟩

/-- The row holds this key, active or retired. -/
def BroadcastKeys.Holds (keys : BroadcastKeys) (key : BroadcastKey) : Prop :=
  ∃ row ∈ keys.rows, row.build = .ok key

/-- A row was created in the run, before now. -/
structure Traced (m : BroadcastKeyManagement) (past : List KeyAction) (clock : Nat)
    (row : BroadcastKeyRow) : Prop where
  before : row.createdAt ≤ clock
  created : ∃ key, row.build = .ok key ∧ CreatedIn m past row.createdAt key

def CreationPhase (m : BroadcastKeyManagement) (s : BroadcastLoop) : Prop :=
  match s.phase with
  | .idle => True
  | .rotating lookup => lookup ≤ s.clock
  | .inserting lookup createdAt key =>
    lookup ≤ createdAt ∧ createdAt ≤ s.clock ∧ key.rotatesAt = createdAt + m.rotationInterval
  | .sweeping lookup key =>
    s.keys.Holds key ∧ (1 ≤ m.rotationInterval → lookup < key.rotatesAt)

structure CreationInvariant (m : BroadcastKeyManagement) (past : List KeyAction)
    (s : BroadcastLoop) : Prop where
  rows : ∀ row ∈ s.keys.rows, Traced m past s.clock row
  phase : CreationPhase m s

theorem Traced.later {m : BroadcastKeyManagement} {past : List KeyAction} {clock clock' : Nat}
    {row : BroadcastKeyRow} (traced : Traced m past clock row) (later : clock ≤ clock')
    (action : KeyAction) : Traced m (past ++ [action]) clock' row := by
  obtain ⟨before, key, built, created⟩ := traced
  exact ⟨before.trans later, key, built, created.later [action]⟩

theorem creationInvariant_step {m : BroadcastKeyManagement} {past : List KeyAction}
    {s s' : BroadcastLoop} {action : KeyAction}
    (ran : Runs.run (BroadcastLoop.step m) .init past = some s) (inv : CreationInvariant m past s)
    (stepped : s.step m action = some s') : CreationInvariant m (past ++ [action]) s' := by
  obtain ⟨rows, phase⟩ := inv
  simp only [CreationPhase] at phase
  cases step_cases m s s' action stepped with
  | skipped now answer idle later =>
    refine ⟨fun row member => (rows row member).later later _, ?_⟩
    simp only [CreationPhase, idle]
  | missed now idle later absent =>
    exact ⟨fun row member => (rows row member).later later _, le_refl now⟩
  | found now row key idle later selected built =>
    obtain ⟨member, active, notDue⟩ := s.keys.mem_of_selectActive now row selected
    rw [activeRow_of_build active built] at notDue
    exact ⟨fun row member => (rows row member).later later _, ⟨row, member, built⟩, fun _ => notDue⟩
  | notRetired lookup now keyMaterial keyId e rotating later =>
    exact ⟨fun row member => (rows row member).later later _, trivial⟩
  | retired lookup now keyMaterial keyId rotating later =>
    rw [rotating] at phase
    refine ⟨fun row member => ?_, phase.trans later, le_refl now, rfl⟩
    -- retiring changes neither the key of a row nor when it was created
    rcases (s.keys.mem_retireActive row).mp member with ⟨kept, _⟩ | ⟨old, kept, _, rfl⟩
    · exact (rows row kept).later later _
    · obtain ⟨before, key, built, created⟩ := (rows old kept).later later
        (.retire now keyMaterial keyId (.ok ()))
      exact ⟨before, key, built, created⟩
  | notInserted lookup createdAt key answer inserting =>
    exact ⟨fun row member => (rows row member).later (le_refl s.clock) _, trivial⟩
  | inserted lookup createdAt key keys inserting stored =>
    rw [inserting] at phase
    obtain ⟨before, past', rotates⟩ := phase
    refine ⟨fun row member => ?_, ⟨key.activeRow createdAt, by simp [stored], by simp⟩, ?_⟩
    · rw [stored, List.mem_append, List.mem_singleton] at member
      rcases member with old | rfl
      · exact (rows row old).later (le_refl s.clock) _
      · refine ⟨past', key, by simp, ?_⟩
        exact ⟨past, [], s, _, lookup, rfl, ran, inserting, stepped, rfl⟩
    · intro positive
      omega
  | notSwept lookup now key e sweeping later =>
    exact ⟨fun row member => (rows row member).later later _, trivial⟩
  | swept lookup now key sweeping later =>
    refine ⟨fun row member => ?_, trivial⟩
    exact (rows row ((s.keys.mem_deleteExpired now row).mp member).1).later later _

theorem creationInvariant_run {m : BroadcastKeyManagement} {actions : List KeyAction}
    {s : BroadcastLoop} (ran : Runs.run (BroadcastLoop.step m) .init actions = some s) :
    CreationInvariant m actions s := by
  refine Runs.run_history _ (CreationInvariant m) .init s actions ?_ ?_ ran
  · refine ⟨?_, trivial⟩
    simp [BroadcastLoop.init, KeyedTable.empty]
  · intro past t action u before inv stepped
    exact creationInvariant_step before inv stepped

theorem CreatedIn.rotatesAt {m : BroadcastKeyManagement} {actions : List KeyAction}
    {createdAt : Nat} {key : BroadcastKey} (created : CreatedIn m actions createdAt key) :
    key.rotatesAt = createdAt + m.rotationInterval := by
  obtain ⟨before, after, s, s', lookup, _, ran, inserting, _⟩ := created
  have phase := (creationInvariant_run ran).phase
  simp only [CreationPhase] at phase
  rw [inserting] at phase
  exact phase.2.2

/-- `key_id` is the primary key, so a stored `kid` stands for one key. -/
theorem BroadcastKeys.Holds.unique {keys : BroadcastKeys} {key key' : BroadcastKey}
    (holds : keys.Holds key) (holds' : keys.Holds key') (same : key'.keyId = key.keyId) :
    key' = key := by
  obtain ⟨row, member, built⟩ := holds
  obtain ⟨row', member', built'⟩ := holds'
  have id := ((row.build_eq_ok_iff key).mp built).1
  have id' := ((row'.build_eq_ok_iff key').mp built').1
  rw [same] at id'
  -- both rows are found under the one id
  have found := (keys.find?_iff key.keyId.val row).mpr ⟨member, id⟩
  have found' := (keys.find?_iff key.keyId.val row').mpr ⟨member', id'⟩
  cases found.symm.trans found'
  rw [built, Except.ok.injEq] at built'
  exact built'.symm

/-- A key that `rotate_key` creates has tokens of two slots before it rotates, and these are next
to the slot of every clock that is at most one interval off. In every run of broadcast cycles a
key that a cycle gets was created so, earlier in the run, is not due at the lookup, and shares its
`kid` with no other stored key. The slot is defined for every interval, zero included. -/
theorem token_slots_within_drift (hmac : HmacSha256) (m : BroadcastKeyManagement)
    (actions : List KeyAction) (s : BroadcastLoop)
    (ran : Runs.run (BroadcastLoop.step m) .init actions = some s) :
    (1 ≤ m.rotationInterval →
      (∀ env keys key keys', m.rotateKey env keys = (.ok key, keys') →
        TokensWithinDrift hmac m env.now key) ∧
      ∀ lookup key, s.phase = .sweeping lookup key →
        lookup < key.rotatesAt ∧
        (∃ createdAt, createdAt ≤ s.clock ∧ CreatedIn m actions createdAt key ∧
          TokensWithinDrift hmac m createdAt key) ∧
        ∀ other, s.keys.Holds other → key.keyId = other.keyId → key = other) ∧
    ∀ now key, ∃ token, m.generateToken hmac now key = some token := by
  refine ⟨fun positive => ⟨?_, ?_⟩, ?_⟩
  · intro env keys key keys' rotated
    obtain ⟨rfl, _⟩ := BroadcastKeyManagement.rotateKey_ok rotated
    exact tokensWithinDrift hmac m positive rfl
  · intro lookup key sweeping
    obtain ⟨rows, phase⟩ := creationInvariant_run ran
    simp only [CreationPhase] at phase
    rw [sweeping] at phase
    obtain ⟨⟨row, member, built⟩, notDue⟩ := phase
    refine ⟨notDue positive, ?_, fun other holds same => holds.unique ⟨row, member, built⟩ same⟩
    obtain ⟨before, key', built', created⟩ := rows row member
    cases built.symm.trans built'
    exact ⟨row.createdAt, before, created, tokensWithinDrift hmac m positive created.rotatesAt⟩
  · intro now key
    exact ⟨_, generateToken_eq hmac m now key⟩

/-- HMAC-SHA256 under `sampleMaterial` of the slots 0 and 1. -/
def sampleHmac : HmacSha256 := fun _ message =>
  if message = toBeBytes 0 then
    ⟨[243, 117, 24, 10, 186, 146, 136, 132, 1, 241, 145, 155, 228, 168, 113, 90,
      98, 118, 59, 101, 193, 193, 14, 29, 8, 88, 232, 29, 77, 111, 159, 210], rfl⟩
  else
    ⟨[164, 161, 28, 229, 251, 232, 249, 107, 243, 2, 128, 53, 40, 108, 44, 146,
      116, 205, 66, 89, 203, 194, 36, 227, 122, 115, 217, 113, 146, 57, 3, 211], rfl⟩

/-- The first key with the default intervals: its life begins in slot 0 and ends in slot 1. -/
theorem first_key_has_two_tokens :
    ∃ s key, Runs.run (BroadcastLoop.step defaultKeys) .init ((rotatingCycle 1000 1).take 3) = some s ∧
      s.phase = .sweeping 1000 key ∧
      (∃ createdAt, createdAt ≤ 1000 ∧
        CreatedIn defaultKeys ((rotatingCycle 1000 1).take 3) createdAt key ∧
        TokensWithinDrift sampleHmac defaultKeys createdAt key) ∧
      defaultKeys.otaFields sampleHmac 1000 key = some ("01000000", "f375180a") ∧
      defaultKeys.otaFields sampleHmac 4599 key = some ("01000000", "a4a11ce5") := by
  refine ⟨_, _, rfl, rfl, ?_, by decide, by decide⟩
  exact (((token_slots_within_drift sampleHmac defaultKeys ((rotatingCycle 1000 1).take 3) _ rfl).1
    (by decide)).2 1000 _ rfl).2.1

end Hamlet
