import Mathlib.Logic.Function.Basic
import Hamlet.Lib.Runs

/-!
# The identity of the CA and of the node

`load_or_generate_ca` and `ensure_node_identity` as calls that run concurrently on one database.
Each looks for its row, generates one if there is none, and inserts it: three steps, between
which other calls take theirs. Both tables have a single row by their primary key, so a table is
an `Option`. A restart of the process ends every call and leaves the database.

Of the lock on the CA state nothing is modelled: it can only rule out orders of steps.
-/

namespace Hamlet

inductive KeyUsagePurpose where
  | keyCertSign
  | crlSign
  deriving DecidableEq, Repr

inductive ExtendedKeyUsagePurpose where
  | clientAuth
  deriving DecidableEq, Repr

/-- The fields that the source sets. -/
structure CertificateParams where
  isCa : Bool
  keyUsages : List KeyUsagePurpose
  commonName : String
  organizationName : String
  extendedKeyUsages : List ExtendedKeyUsagePurpose
  deriving DecidableEq, Repr

/-- `rcgen`: key pairs and certificates. What a call draws at random is its `entropy`. -/
structure KeyTool (Key Cert : Type) where
  generate : (entropy : Nat) → Except String Key
  serializePem : Key → String
  fromPem : String → Except String Key
  fromCaCertPem : String → Except String CertificateParams
  selfSigned : CertificateParams → Key → (entropy : Nat) → Except String Cert
  signedBy : CertificateParams → Key → (issuer : Cert) → (issuerKey : Key) → (entropy : Nat) →
    Except String Cert
  pem : Cert → String

/-- `CA_CN`. -/
def caCn : String := "PlaceNet Root CA"

/-- `CaState`, with the key pair that signs. -/
structure LiveCa (Key Cert : Type) where
  subjectCn : String
  cert : Cert
  keyPair : Key
  deriving DecidableEq

/-- The row of `ca_keys`. -/
structure CaKeysRow where
  certPem : String
  keyPem : String
  deriving DecidableEq, Repr

/-- The row of `node_identity`. -/
structure NodeIdentityRow where
  certPem : String
  keyPem : String
  issuedAt : Int
  expiresAt : Int
  deriving DecidableEq, Repr

structure IdentityDb where
  caKeys : Option CaKeysRow
  nodeIdentity : Option NodeIdentityRow
  deriving DecidableEq, Repr

/-- A call of `load_or_generate_ca` or `ensure_node_identity`, at its next step. -/
inductive IdentityCall (Key Cert : Type) where
  | idle
  | caSelecting
  | caMissing
  | caInserting (ca : LiveCa Key Cert)
  | caLoaded (ca : LiveCa Key Cert)
  | nodeSelecting
  | nodeMissing
  | nodeInserting (row : NodeIdentityRow)
  | nodeLoaded (pair : String × String)

/-- A call goes on or returns. -/
inductive IdentityOutcome (Key Cert : Type) where
  | goesOn (call : IdentityCall Key Cert)
  | caReturned (result : Except String (LiveCa Key Cert))
  | nodeReturned (result : Except String (String × String))

namespace CaIdentity

variable {Key Cert : Type} (rcgen : KeyTool Key Cert)

/-- The CA that `load_ca_from_db` makes of a row. -/
def loadCa (row : CaKeysRow) (entropy : Nat) : Except String (LiveCa Key Cert) :=
  match rcgen.fromPem row.keyPem with
  | .error e => .error ("Failed to parse CA private key: " ++ e)
  | .ok keyPair =>
    match rcgen.fromCaCertPem row.certPem with
    | .error e => .error ("Failed to parse CA certificate: " ++ e)
    | .ok params =>
      -- the certificate is signed anew, only the key is the stored one
      match rcgen.selfSigned params keyPair entropy with
      | .error e => .error ("Failed to reconstruct CA cert: " ++ e)
      | .ok cert => .ok { subjectCn := caCn, cert, keyPair }

def caParams : CertificateParams where
  isCa := true
  keyUsages := [.keyCertSign, .crlSign]
  commonName := caCn
  organizationName := "PlaceNet"
  extendedKeyUsages := []

/-- `generate_and_persist_ca` up to its `INSERT`. -/
def generateCa (entropy : Nat) : Except String (LiveCa Key Cert) :=
  match rcgen.generate entropy with
  | .error e => .error ("Failed to generate CA key pair: " ++ e)
  | .ok keyPair =>
    match rcgen.selfSigned caParams keyPair entropy with
    | .error e => .error ("Failed to self-sign CA certificate: " ++ e)
    | .ok cert => .ok { subjectCn := caCn, cert, keyPair }

def caKeysRow (ca : LiveCa Key Cert) : CaKeysRow where
  certPem := rcgen.pem ca.cert
  keyPem := rcgen.serializePem ca.keyPair

def nodeParams : CertificateParams where
  isCa := false
  keyUsages := []
  commonName := "hamlet"
  organizationName := "PlaceNet"
  extendedKeyUsages := [.clientAuth]

def generateNodeIdentity (ca : LiveCa Key Cert) (entropy : Nat) (now : Int) :
    Except String NodeIdentityRow :=
  match rcgen.generate entropy with
  | .error e => .error ("Failed to generate node identity key pair: " ++ e)
  | .ok keyPair =>
    match rcgen.signedBy nodeParams keyPair ca.cert ca.keyPair entropy with
    | .error e => .error ("Failed to sign node identity certificate: " ++ e)
    | .ok cert =>
      .ok { certPem := rcgen.pem cert
            keyPem := rcgen.serializePem keyPair
            issuedAt := now
            expiresAt := now + 365 * 24 * 60 * 60 }

/-- What an `INSERT` answers when the single row is there already. -/
def taken (table : String) : String :=
  "error returned from database: (code: 1555) UNIQUE constraint failed: " ++ table ++ ".id"

/-! ### The steps of one call -/

/-- The `SELECT` and what is made of its row. -/
def select (db : IdentityDb) (fetch : Except String Unit) (entropy : Nat) :
    IdentityCall Key Cert → Option (IdentityOutcome Key Cert)
  | .caSelecting =>
    match fetch, db.caKeys with
    | .error e, _ => some (.caReturned (.error ("Failed to query CA from database: " ++ e)))
    | .ok (), none => some (.goesOn .caMissing)
    | .ok (), some row =>
      match loadCa rcgen row entropy with
      | .error e => some (.caReturned (.error e))
      | .ok ca => some (.goesOn (.caLoaded ca))
  | .nodeSelecting =>
    match fetch, db.nodeIdentity with
    | .error e, _ => some (.nodeReturned (.error ("Failed to query node identity: " ++ e)))
    | .ok (), none => some (.goesOn .nodeMissing)
    | .ok (), some row => some (.goesOn (.nodeLoaded (row.certPem, row.keyPem)))
  | _ => none

/-- Fresh keys and certificates, for a row that was not there. -/
def generate (state : Option (LiveCa Key Cert)) (entropy : Nat) (now : Int) :
    IdentityCall Key Cert → Option (IdentityOutcome Key Cert)
  | .caMissing =>
    match generateCa rcgen entropy with
    | .error e => some (.caReturned (.error e))
    | .ok ca => some (.goesOn (.caInserting ca))
  | .nodeMissing =>
    -- read after the `SELECT`: an `init` may have come in between
    match state with
    | none => some (.nodeReturned (.error "CA not initialised"))
    | some ca =>
      match generateNodeIdentity rcgen ca entropy now with
      | .error e => some (.nodeReturned (.error e))
      | .ok row => some (.goesOn (.nodeInserting row))
  | _ => none

/-- The `INSERT`, refused when another call was faster. -/
def insert (db : IdentityDb) (execute : Except String Unit) :
    IdentityCall Key Cert → Option (IdentityDb × IdentityOutcome Key Cert)
  | .caInserting ca =>
    match execute, db.caKeys with
    | .error e, _ => some (db, .caReturned (.error ("Failed to persist CA to database: " ++ e)))
    | .ok (), some _ =>
      -- the generated key is lost with the call
      some (db, .caReturned (.error ("Failed to persist CA to database: " ++ taken "ca_keys")))
    | .ok (), none => some ({ db with caKeys := some (caKeysRow rcgen ca) }, .goesOn (.caLoaded ca))
  | .nodeInserting row =>
    match execute, db.nodeIdentity with
    | .error e, _ => some (db, .nodeReturned (.error ("Failed to persist node identity: " ++ e)))
    | .ok (), some _ =>
      some (db, .nodeReturned (.error ("Failed to persist node identity: " ++ taken "node_identity")))
    | .ok (), none =>
      some ({ db with nodeIdentity := some row }, .goesOn (.nodeLoaded (row.certPem, row.keyPem)))
  | _ => none

/-- The call returns what it has. -/
def finish : IdentityCall Key Cert → Option (IdentityOutcome Key Cert)
  | .caLoaded ca => some (.caReturned (.ok ca))
  | .nodeLoaded pair => some (.nodeReturned (.ok pair))
  | _ => none

end CaIdentity

/-! ### All calls -/

inductive IdentityAction where
  /-- `CaService::init` calls `load_or_generate_ca`. -/
  | init (caller : Nat)
  | ensureNodeIdentity (caller : Nat)
  | select (caller : Nat) (fetch : Except String Unit) (entropy : Nat)
  | generate (caller : Nat) (entropy : Nat) (now : Int)
  | insert (caller : Nat) (execute : Except String Unit)
  | finish (caller : Nat)
  /-- The future of a call is dropped. -/
  | drop (caller : Nat)
  | restart

structure IdentitySystem (Key Cert : Type) where
  db : IdentityDb
  /-- The CA in memory. -/
  state : Option (LiveCa Key Cert)
  calls : Nat → IdentityCall Key Cert
  /-- What calls of `load_or_generate_ca` have returned, oldest first. -/
  caAnswers : List (Except String (LiveCa Key Cert))
  /-- What calls of `ensure_node_identity` have returned, oldest first. -/
  nodeAnswers : List (Except String (String × String))

namespace IdentitySystem

variable {Key Cert : Type}

def start (db : IdentityDb) : IdentitySystem Key Cert where
  db := db
  state := none
  calls _ := .idle
  caAnswers := []
  nodeAnswers := []

def setCall (s : IdentitySystem Key Cert) (caller : Nat) (call : IdentityCall Key Cert) :
    IdentitySystem Key Cert :=
  { s with calls := Function.update s.calls caller call }

/-- `init` keeps the CA that its call has returned. -/
def settle (s : IdentitySystem Key Cert) (caller : Nat) :
    IdentityOutcome Key Cert → IdentitySystem Key Cert
  | .goesOn call => s.setCall caller call
  | .caReturned (.ok ca) =>
    { s.setCall caller .idle with state := some ca, caAnswers := s.caAnswers ++ [.ok ca] }
  | .caReturned (.error e) => { s.setCall caller .idle with caAnswers := s.caAnswers ++ [.error e] }
  | .nodeReturned result =>
    { s.setCall caller .idle with nodeAnswers := s.nodeAnswers ++ [result] }

def step (rcgen : KeyTool Key Cert) (s : IdentitySystem Key Cert) :
    IdentityAction → Option (IdentitySystem Key Cert)
  | .init caller =>
    match s.calls caller with
    | .idle => some (s.setCall caller .caSelecting)
    | _ => none
  | .ensureNodeIdentity caller =>
    match s.calls caller with
    | .idle => some (s.setCall caller .nodeSelecting)
    | _ => none
  | .select caller fetch entropy =>
    (CaIdentity.select rcgen s.db fetch entropy (s.calls caller)).map (s.settle caller)
  | .generate caller entropy now =>
    (CaIdentity.generate rcgen s.state entropy now (s.calls caller)).map (s.settle caller)
  | .insert caller execute =>
    (CaIdentity.insert rcgen s.db execute (s.calls caller)).map fun (db, outcome) =>
      { s with db }.settle caller outcome
  | .finish caller => (CaIdentity.finish (s.calls caller)).map (s.settle caller)
  | .drop caller => some (s.setCall caller .idle)
  | .restart => some { s with state := none, calls := fun _ => .idle }

end IdentitySystem

end Hamlet
