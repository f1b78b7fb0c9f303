import Mathlib.Data.List.MinMax
import Mathlib.Data.Vector.Defs
import Hamlet.Lib.KeyedTable

/-!
# Broadcast keys

`BroadcastKeyManagement` over the table `broadcast_keys`. Times are Unix seconds. A statement
that the database refuses changes nothing; what it answers, the clock readings and the random
bytes are inputs.
-/

namespace Hamlet

abbrev KeyIdBytes : Type := List.Vector UInt8 4

abbrev KeyMaterialBytes : Type := List.Vector UInt8 16

structure BroadcastKey where
  keyId : KeyIdBytes
  keyMaterial : KeyMaterialBytes
  /-- When the key stops being the active outbound key. -/
  rotatesAt : Nat
  /-- When the key is deleted from the table. -/
  expiresAt : Nat
  deriving DecidableEq

/-- A row of `broadcast_keys`. -/
structure BroadcastKeyRow where
  keyId : List UInt8
  keyMaterial : List UInt8
  createdAt : Nat
  rotatesAt : Nat
  expiresAt : Nat
  isActive : Nat
  deriving DecidableEq, Repr

/-- `key_id` is the primary key. -/
abbrev BroadcastKeys : Type := KeyedTable (List UInt8) BroadcastKeyRow BroadcastKeyRow.keyId

structure BroadcastKeyManagement where
  rotationInterval : Nat
  keyExpiry : Nat
  deriving DecidableEq, Repr

/-- The row that a key is inserted as. -/
def BroadcastKey.activeRow (key : BroadcastKey) (createdAt : Nat) : BroadcastKeyRow where
  keyId := key.keyId.val
  keyMaterial := key.keyMaterial.val
  createdAt := createdAt
  rotatesAt := key.rotatesAt
  expiresAt := key.expiresAt
  isActive := 1

def BroadcastKeyRow.retire (row : BroadcastKeyRow) : BroadcastKeyRow := { row with isActive := 0 }

@[simp] theorem BroadcastKeyRow.retire_keyId (row : BroadcastKeyRow) :
    row.retire.keyId = row.keyId := rfl

/-- `build_key`. -/
def buildKey (keyId keyMaterial : List UInt8) (rotatesAt expiresAt : Nat) :
    Except String BroadcastKey :=
  if idLength : keyId.length = 4 then
    if materialLength : keyMaterial.length = 16 then
      .ok ⟨⟨keyId, idLength⟩, ⟨keyMaterial, materialLength⟩, rotatesAt, expiresAt⟩
    else
      .error ("Corrupt broadcast_keys row: key_material is " ++ toString keyMaterial.length ++
        " bytes, expected 16")
  else
    .error ("Corrupt broadcast_keys row: key_id is " ++ toString keyId.length ++
      " bytes, expected 4")

def BroadcastKeyRow.build (row : BroadcastKeyRow) : Except String BroadcastKey :=
  buildKey row.keyId row.keyMaterial row.rotatesAt row.expiresAt

/-! ### The statements -/

namespace BroadcastKeys

/-- `SELECT … WHERE is_active = 1 AND rotates_at > ? ORDER BY rotates_at DESC LIMIT 1`. -/
def selectActive (keys : BroadcastKeys) (now : Nat) : Option BroadcastKeyRow :=
  (keys.rows.filter fun row => row.isActive = 1 ∧ now < row.rotatesAt).argmax (·.rotatesAt)

/-- `UPDATE … SET is_active = 0 WHERE is_active = 1`. -/
def retireActive (keys : BroadcastKeys) : BroadcastKeys :=
  keys.updateWhere (·.isActive = 1) .retire BroadcastKeyRow.retire_keyId

/-- `INSERT`: besides what the database answers, a taken `key_id` is refused. -/
def insertKey (keys : BroadcastKeys) (row : BroadcastKeyRow) (answer : Except String Unit) :
    Except String BroadcastKeys :=
  match answer with
  | .error e => .error e
  | .ok () =>
    match keys.insert row with
    | none =>
      .error ("error returned from database: (code: 1555) UNIQUE constraint failed: " ++
        "broadcast_keys.key_id")
    | some keys => .ok keys

/-- `DELETE … WHERE expires_at <= ?`. -/
def deleteExpired (keys : BroadcastKeys) (now : Nat) : BroadcastKeys :=
  keys.deleteWhere (·.expiresAt ≤ now)

end BroadcastKeys

/-! ### The operations -/

/-- What one call of `rotate_key` gets from outside. -/
structure RotationEnv where
  now : Nat
  keyMaterial : KeyMaterialBytes
  keyId : KeyIdBytes
  retire : Except String Unit
  insert : Except String Unit

/-- What one call of `get_or_rotate_key` gets from outside; `rotation` is used if it rotates. -/
structure LookupEnv where
  now : Nat
  select : Except String Unit
  rotation : RotationEnv

namespace BroadcastKeyManagement

variable (m : BroadcastKeyManagement)

/-- The key that `rotate_key` generates. Both deadlines count from now. -/
def newKey (now : Nat) (keyMaterial : KeyMaterialBytes) (keyId : KeyIdBytes) : BroadcastKey where
  keyId := keyId
  keyMaterial := keyMaterial
  rotatesAt := now + m.rotationInterval
  expiresAt := now + m.keyExpiry

/-- Two statements without a transaction: a failed insert leaves the old key retired. -/
def rotateKey (env : RotationEnv) (keys : BroadcastKeys) :
    Except String BroadcastKey × BroadcastKeys :=
  let key := m.newKey env.now env.keyMaterial env.keyId
  match env.retire with
  | .error e => (.error ("Failed to retire active broadcast keys: " ++ e), keys)
  | .ok () =>
    let keys := keys.retireActive
    match keys.insertKey (key.activeRow env.now) env.insert with
    | .error e => (.error ("Failed to insert new broadcast key: " ++ e), keys)
    | .ok keys => (.ok key, keys)

def getOrRotateKey (env : LookupEnv) (keys : BroadcastKeys) :
    Except String BroadcastKey × BroadcastKeys :=
  match env.select with
  | .error e => (.error ("Failed to query broadcast keys: " ++ e), keys)
  | .ok () =>
    match keys.selectActive env.now with
    | some row => (row.build, keys)
    | none => m.rotateKey env.rotation keys

/-- `sweep_expired`: the number of deleted rows. -/
def sweepExpired (now : Nat) (answer : Except String Unit) (keys : BroadcastKeys) :
    Except String Nat × BroadcastKeys :=
  match answer with
  | .error e => (.error ("Failed to sweep expired broadcast keys: " ++ e), keys)
  | .ok () =>
    (.ok (keys.rows.length - (keys.deleteExpired now).rows.length), keys.deleteExpired now)

end BroadcastKeyManagement

/-! ### Tokens -/

/-- HMAC-SHA256 of the `hmac` and `sha2` crates, from key and message to the digest. -/
abbrev HmacSha256 : Type := List UInt8 → List UInt8 → List.Vector UInt8 32

/-- Division of `u64`, which panics on a zero divisor. -/
def divU64 (a b : Nat) : Option Nat := if b = 0 then none else some (a / b)

/-- `u64::to_be_bytes`. -/
def toBeBytes (n : Nat) : List UInt8 :=
  (List.range 8).reverse.map fun i => UInt8.ofNat (n >>> (8 * i))

/-- `hex_encode`. -/
def hexEncode (bytes : List UInt8) : String :=
  String.ofList (bytes.flatMap fun b => [Nat.digitChar (b.toNat / 16), Nat.digitChar (b.toNat % 16)])

example : toBeBytes 0x0102 = [0, 0, 0, 0, 0, 0, 1, 2] ∧ hexEncode [0x0f, 0xa0] = "0fa0" := by
  decide

/-- The first four bytes of the digest for a slot. -/
def slotToken (hmac : HmacSha256) (key : BroadcastKey) (slot : Nat) : List.Vector UInt8 4 :=
  ⟨(hmac key.keyMaterial.val (toBeBytes slot)).val.take 4, by
    rw [List.length_take, (hmac key.keyMaterial.val (toBeBytes slot)).2]
    rfl⟩

namespace BroadcastKeyManagement

variable (m : BroadcastKeyManagement) (hmac : HmacSha256)

/-- The slot of a token that is computed at `now`. -/
def tokenSlot (now : Nat) : Option Nat := divU64 now (max m.rotationInterval 1)

/-- `generate_token`; `none` is a panic. -/
def generateToken (now : Nat) (key : BroadcastKey) : Option (List.Vector UInt8 4) :=
  (m.tokenSlot now).map (slotToken hmac key)

/-- `ota_fields`: the pair `(kid, tok)`. -/
def otaFields (now : Nat) (key : BroadcastKey) : Option (String × String) :=
  (m.generateToken hmac now key).map fun token =>
    (hexEncode key.keyId.val, hexEncode token.val)

end BroadcastKeyManagement

/-! ### Reading back -/

/-- A key is built from a row whose two byte strings have its lengths, with the row's deadlines. -/
theorem BroadcastKeyRow.build_eq_ok_iff (row : BroadcastKeyRow) (key : BroadcastKey) :
    row.build = .ok key ↔ row.keyId = key.keyId.val ∧ row.keyMaterial = key.keyMaterial.val ∧
      row.rotatesAt = key.rotatesAt ∧ row.expiresAt = key.expiresAt := by
  constructor
  · intro built
    simp only [build, buildKey] at built
    split at built
    next =>
      split at built
      next =>
        cases built
        exact ⟨rfl, rfl, rfl, rfl⟩
      next => cases built
    next => cases built
  · obtain ⟨⟨keyId, idLength⟩, ⟨keyMaterial, materialLength⟩, rotatesAt, expiresAt⟩ := key
    rintro ⟨sameId, sameMaterial, rotates, expires⟩
    simp only at sameId sameMaterial rotates expires
    simp [build, buildKey, sameId, sameMaterial, rotates, expires, idLength, materialLength]

@[simp] theorem BroadcastKey.build_activeRow (key : BroadcastKey) (createdAt : Nat) :
    (key.activeRow createdAt).build = .ok key :=
  (BroadcastKeyRow.build_eq_ok_iff ..).mpr ⟨rfl, rfl, rfl, rfl⟩

namespace BroadcastKeys

variable (keys : BroadcastKeys)

theorem mem_of_selectActive (now : Nat) (row : BroadcastKeyRow)
    (selected : keys.selectActive now = some row) :
    row ∈ keys.rows ∧ row.isActive = 1 ∧ now < row.rotatesAt := by
  have member := List.mem_filter.mp (List.argmax_mem selected)
  simpa using member

theorem selectActive_eq_none (now : Nat) :
    keys.selectActive now = none ↔
      ∀ row ∈ keys.rows, row.isActive = 1 → row.rotatesAt ≤ now := by
  simp [selectActive, List.argmax_eq_none, List.filter_eq_nil_iff]

theorem mem_retireActive (row : BroadcastKeyRow) :
    row ∈ keys.retireActive.rows ↔
      (row ∈ keys.rows ∧ row.isActive ≠ 1) ∨
        ∃ old ∈ keys.rows, old.isActive = 1 ∧ old.retire = row := by
  simp [retireActive, KeyedTable.mem_updateWhere]

theorem mem_deleteExpired (now : Nat) (row : BroadcastKeyRow) :
    row ∈ (keys.deleteExpired now).rows ↔ row ∈ keys.rows ∧ now < row.expiresAt := by
  simp [deleteExpired, KeyedTable.mem_deleteWhere]

theorem insertKey_iff (keys' : BroadcastKeys) (row : BroadcastKeyRow)
    (answer : Except String Unit) :
    keys.insertKey row answer = .ok keys' ↔
      answer = .ok () ∧ (∀ r ∈ keys.rows, r.keyId ≠ row.keyId) ∧
        keys'.rows = keys.rows ++ [row] := by
  cases answer with
  | error e => simp [insertKey]
  | ok u =>
    rw [← KeyedTable.insert_iff]
    simp only [insertKey]
    cases keys.insert row <;> simp

end BroadcastKeys

/-- A rotation that succeeds has retired the table and added the new key. -/
theorem BroadcastKeyManagement.rotateKey_ok {m : BroadcastKeyManagement} {env : RotationEnv}
    {keys keys' : BroadcastKeys} {key : BroadcastKey} (rotated : m.rotateKey env keys = (.ok key, keys')) :
    key = m.newKey env.now env.keyMaterial env.keyId ∧
      keys'.rows = keys.retireActive.rows ++ [key.activeRow env.now] := by
  simp only [BroadcastKeyManagement.rotateKey] at rotated
  split at rotated
  next => cases rotated
  next =>
    split at rotated
    next => cases rotated
    next inserted =>
      cases rotated
      exact ⟨rfl, ((BroadcastKeys.insertKey_iff ..).mp inserted).2.2⟩

end Hamlet
