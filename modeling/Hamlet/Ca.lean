import Hamlet.Lib.KeyedTable

/-!
# The certificate authority

`CaService` over the `device_certs` table. Parsing and signing a CSR is the work of
`rcgen` and stays a parameter; every database statement is told whether it succeeds.
-/

namespace Hamlet

/-- A row of `device_certs`. The surrogate `id` column is never read. -/
structure DeviceCert where
  deviceId : String
  certPem : String
  issuedAt : Int
  expiresAt : Int
  revoked : Int
  deriving DecidableEq, Repr

abbrev DeviceCerts := KeyedTable String DeviceCert DeviceCert.deviceId

structure DeviceCertRecord where
  deviceId : String
  certPem : String
  issuedAt : Int
  expiresAt : Int
  revoked : Bool
  deriving DecidableEq, Repr

structure CaState where
  subjectCn : String
  certPem : String
  keyPem : String
  deriving DecidableEq, Repr

/-- `rcgen`: CSR parsing and signing. A signature may use fresh entropy. -/
structure Rcgen where
  csrFromPem : String → Except String (List UInt8)
  signedBy : List UInt8 → CaState → (entropy : Nat) → Except String String

/-- `operations::sign_csr`: the certificate and its issue and expiry times. -/
def operations.signCsr (rcgen : Rcgen) (ca : CaState) (csrPem : String) (now : Int)
    (entropy : Nat) : Except String (String × Int × Int) :=
  match rcgen.csrFromPem csrPem with
  | .error e => .error ("Invalid CSR: " ++ e)
  | .ok csr =>
    match rcgen.signedBy csr ca entropy with
    | .error e => .error ("Failed to sign CSR: " ++ e)
    | .ok certPem => .ok (certPem, now, now + 365 * 24 * 60 * 60)

structure CaService where
  state : Option CaState
  deviceCerts : DeviceCerts
  /-- The `Issued and stored certificate` log: device id and certificate, oldest first. -/
  issued : List (String × String)
  deriving DecidableEq

/-- Clock, entropy and database of one `sign_csr` call. -/
structure SigningEnv where
  now : Int
  entropy : Nat
  execute : Except String Unit

namespace CaService

/-- The row `sign_csr` stores, or its error before the database is reached. -/
def signedRow (rcgen : Rcgen) (env : SigningEnv) (state : Option CaState)
    (deviceId csrPem : String) : Except String DeviceCert :=
  match state with
  | none => .error "CA not initialised"
  | some ca =>
    match operations.signCsr rcgen ca csrPem env.now env.entropy with
    | .error e => .error e
    | .ok (certPem, issuedAt, expiresAt) =>
      -- the upsert binds `revoked` to 0 on insert and on conflict
      .ok { deviceId, certPem, issuedAt, expiresAt, revoked := 0 }

/-- The upsert of a signed row and its log line. -/
def store (svc : CaService) (row : DeviceCert) : CaService :=
  { svc with
    deviceCerts := svc.deviceCerts.upsert row
    issued := svc.issued ++ [(row.deviceId, row.certPem)] }

/-- `sign_csr`: sign, store under `deviceId` replacing an older certificate, log. -/
def signCsr (rcgen : Rcgen) (env : SigningEnv) (svc : CaService) (deviceId csrPem : String) :
    Except String String × CaService :=
  match signedRow rcgen env svc.state deviceId csrPem with
  | .error e => (.error e, svc)
  | .ok row =>
    match env.execute with
    | .error e => (.error ("Failed to persist device cert: " ++ e), svc)
    | .ok () => (.ok row.certPem, svc.store row)

def markRevoked (row : DeviceCert) : DeviceCert := { row with revoked := 1 }

theorem markRevoked_deviceId (row : DeviceCert) : (markRevoked row).deviceId = row.deviceId := rfl

/-- `revoke`: fails for an id that has no row. -/
def revoke (execute : Except String Unit) (svc : CaService) (deviceId : String) :
    Except String Unit × CaService :=
  match execute with
  | .error e => (.error ("Failed to revoke device cert: " ++ e), svc)
  | .ok () =>
    -- the statement runs before the affected rows are counted
    let updated :=
      { svc with deviceCerts := svc.deviceCerts.modify deviceId markRevoked markRevoked_deviceId }
    match svc.deviceCerts.find? deviceId with
    | none => (.error ("Unknown device: " ++ deviceId), updated)
    | some _ => (.ok (), updated)

def getCert (fetch : Except String Unit) (svc : CaService) (deviceId : String) :
    Except String (Option String) :=
  match fetch with
  | .error e => .error ("Failed to query device cert: " ++ e)
  | .ok () => .ok ((svc.deviceCerts.find? deviceId).map DeviceCert.certPem)

def listDevices (fetch : Except String Unit) (svc : CaService) :
    Except String (List DeviceCertRecord) :=
  match fetch with
  | .error e => .error ("Failed to list device certs: " ++ e)
  | .ok () => .ok (svc.deviceCerts.rows.map fun (row : DeviceCert) =>
      { deviceId := row.deviceId, certPem := row.certPem, issuedAt := row.issuedAt
        expiresAt := row.expiresAt, revoked := decide (row.revoked ≠ 0) })

def isRevoked (fetch : Except String Unit) (svc : CaService) (deviceId : String) :
    Except String Bool :=
  match fetch with
  | .error e => .error ("Failed to query revocation status: " ++ e)
  | .ok () => .ok (((svc.deviceCerts.find? deviceId).map fun row => decide (row.revoked ≠ 0)).getD false)

def caCertPem (svc : CaService) : Except String String :=
  match svc.state with
  | none => .error "CA not initialised"
  | some ca => .ok ca.certPem

/-! ### What the operations do to the store -/

/-- The row a call of `sign_csr` gets into the table, if any. -/
def storedRow (rcgen : Rcgen) (env : SigningEnv) (state : Option CaState)
    (deviceId csrPem : String) : Option DeviceCert :=
  match signedRow rcgen env state deviceId csrPem, env.execute with
  | .ok row, .ok () => some row
  | _, _ => none

/-- All that `sign_csr` can do: fail and change nothing, or store and log one row. -/
theorem signCsr_cases (rcgen : Rcgen) (env : SigningEnv) (svc : CaService)
    (deviceId csrPem : String) :
    (storedRow rcgen env svc.state deviceId csrPem = none ∧
      ∃ e, signCsr rcgen env svc deviceId csrPem = (.error e, svc)) ∨
    ∃ row, storedRow rcgen env svc.state deviceId csrPem = some row ∧
      signCsr rcgen env svc deviceId csrPem = (.ok row.certPem, svc.store row) := by
  unfold signCsr storedRow
  cases signedRow rcgen env svc.state deviceId csrPem with
  | error e => exact .inl ⟨rfl, e, rfl⟩
  | ok row =>
    cases env.execute with
    | error e => exact .inl ⟨rfl, _, rfl⟩
    | ok u => exact .inr ⟨row, rfl, rfl⟩

theorem storedRow_spec (rcgen : Rcgen) (env : SigningEnv) (state : Option CaState)
    (deviceId csrPem : String) (row : DeviceCert)
    (stored : storedRow rcgen env state deviceId csrPem = some row) :
    row.deviceId = deviceId ∧ row.revoked = 0 ∧ ∃ ca, state = some ca := by
  unfold storedRow signedRow at stored
  cases state with
  | none => simp at stored
  | some ca =>
    -- only the last branch of `signedRow` makes a row
    dsimp only at stored
    split at stored
    next row' _ signed _ =>
      cases stored
      split at signed
      · cases signed
      · cases signed
        exact ⟨rfl, rfl, ca, rfl⟩
    · cases stored

end CaService

end Hamlet
