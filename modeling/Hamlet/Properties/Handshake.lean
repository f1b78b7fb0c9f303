import Hamlet.BeaconManagement.Handlers

/-!
# Effects of a handshake on the node

What a request leaves behind when it is refused, and what a later request can do to a
revoked certificate.
-/

namespace Hamlet

/-! ### A sample device

One device with an acceptable CSR, for the concrete runs below. -/

def sampleCsr : String := "-----BEGIN CERTIFICATE REQUEST-----"

def sampleRcgen : Rcgen where
  csrFromPem pem := if pem = sampleCsr then .ok [48, 130] else .error "no PEM block"
  signedBy _ ca entropy := .ok (ca.certPem ++ " signs " ++ toString entropy)

/-- The payload parser on the body of a device with this hostname. -/
def sampleSerde (hostname : String) : Serde where
  deviceInfo _ := .ok { address := "10.0.0.7", mdns := ⟨hostname, 80⟩, csrPem := sampleCsr }
  csrPem _ := .ok sampleCsr

def sampleApp (brokerage : Option MqttBrokerageConfig) : AppState where
  brokerageInfo := { address := "localhost", port := 8883, caCertPem := "ca" }
  brokerage := brokerage
  upstreamPort := 3000

/-- `X-PlaceNet-Init: 0.0.1`. -/
def initRequest : Request where
  headers := [(headerInit, [48, 46, 48, 46, 49])]
  body := .ok []

def sampleEnv (entropy : Nat) (writeFile : Except String Unit) : RequestEnv where
  signing := { now := 1000, entropy, execute := .ok () }
  writeFile := writeFile
  uuid := "7b1d"
  upstream := .error "refused"

def sampleNode : Node where
  ca := { state := some ⟨"PlaceNet Root CA", "root", "key"⟩, deviceCerts := .empty, issued := [] }
  identityFiles := []
  beaconTopicTx := some ⟨.empty, true⟩

section

variable (rcgen : Rcgen) (serde : Serde) (app : AppState)

/-! ### Refused requests -/

/-- An answer outside 2xx leaves the certificate table and the topic queue alone. -/
def FailureChangesNothing (before : Node) (outcome : Response × Node) : Prop :=
  ¬outcome.1.IsSuccess →
    outcome.2.ca.deviceCerts = before.ca.deviceCerts ∧
      outcome.2.beaconTopicTx = before.beaconTopicTx

/-- The certificate is signed and stored, differs from what the table held for the
hostname, and then the identity file cannot be written. -/
def StrandsCertificate (env : RequestEnv) (req : Request) (node : Node) : Prop :=
  ∃ request row, DeviceInitRequest.processRequest serde req = .ok request ∧
    CaService.storedRow rcgen env.signing node.ca.state request.device.mdns.hostname
      request.device.csrPem = some row ∧
    node.ca.deviceCerts.find? request.device.mdns.hostname ≠ some row ∧
    IdentityFails app env request.device.mdns.hostname

private theorem clientRegister_failure (env : RequestEnv) (req : Request) (node : Node) :
    FailureChangesNothing node (handleClientRegister rcgen serde env req node) := by
  rcases handleClientRegister_cases rcgen serde env req node with
    ⟨response, _, handled⟩ | ⟨request, _, ⟨_, handled⟩ | ⟨row, ca, _, _, handled⟩⟩
  · rw [handled]
    exact fun _ => ⟨rfl, rfl⟩
  · rw [handled]
    exact fun _ => ⟨rfl, rfl⟩
  · rw [handled]
    exact fun refused => absurd (by simp) refused

private theorem deviceInit_failure_iff (env : RequestEnv) (req : Request) (node : Node) :
    FailureChangesNothing node (handleDeviceInit rcgen serde app env req node) ↔
      ¬StrandsCertificate rcgen serde app env req node := by
  rcases handleDeviceInit_cases rcgen serde app env req node with
    ⟨response, parsed, handled⟩ | ⟨request, parsed, ⟨stored, handled⟩ |
      ⟨row, stored, ⟨fails, handled⟩ | ⟨succeeds, handled⟩⟩⟩
  · rw [handled]
    refine iff_of_true (fun _ => ⟨rfl, rfl⟩) ?_
    rintro ⟨request, row, parsed', _⟩
    simp [parsed] at parsed'
  · rw [handled]
    refine iff_of_true (fun _ => ⟨rfl, rfl⟩) ?_
    rintro ⟨request', row, parsed', stored', _⟩
    cases parsed.symm.trans parsed'
    simp [stored] at stored'
  · rw [handled]
    -- the only early return after the upsert
    obtain ⟨sameId, _⟩ := CaService.storedRow_spec _ _ _ _ _ _ stored
    have refused : ¬(textResponse 500 "Failed to register device MQTT identity").IsSuccess := by
      simp
    constructor
    · rintro unchanged ⟨request', row', parsed', stored', changed, _⟩
      cases parsed.symm.trans parsed'
      cases stored.symm.trans stored'
      have same : node.ca.deviceCerts.upsert row = node.ca.deviceCerts := (unchanged refused).1
      exact changed (sameId ▸ (KeyedTable.upsert_eq_self_iff _ _).mp same)
    · intro harmless _
      refine ⟨?_, rfl⟩
      -- an upsert changes the table unless the same row is there
      by_contra changed
      refine harmless ⟨request, row, parsed, stored, ?_, fails⟩
      intro found
      exact changed ((KeyedTable.upsert_eq_self_iff _ _).mpr (sameId.symm ▸ found))
  · rw [handled]
    refine iff_of_true (fun refused => absurd (by simp) refused) ?_
    rintro ⟨request', row', parsed', _, _, fails⟩
    cases parsed.symm.trans parsed'
    exact succeeds fails

/-- A refused request changes nothing, except that a device handshake whose identity file
cannot be written leaves the certificate it has just stored. -/
theorem refused_request_changes_nothing_iff (env : RequestEnv) (req : Request) (node : Node) :
    (FailureChangesNothing node (handleDeviceInit rcgen serde app env req node) ∧
      FailureChangesNothing node (handleClientRegister rcgen serde env req node)) ↔
    ¬StrandsCertificate rcgen serde app env req node := by
  rw [and_iff_left (clientRegister_failure rcgen serde env req node)]
  exact deviceInit_failure_iff rcgen serde app env req node

/-- A full disk turns the handshake into a 500 that has already stored a certificate. -/
theorem refused_handshake_strands_certificate :
    ¬FailureChangesNothing sampleNode (handleDeviceInit sampleRcgen (sampleSerde "lamp")
      (sampleApp (some (Config.fromEnv (.ofRest "opt/hamlet".toList) fun _ => none).mqttBrokerage))
      (sampleEnv 1 (.error "No space left on device")) initRequest sampleNode) := by
  intro unchanged
  have stored := (unchanged (by decide)).1
  revert stored
  decide

/-! ### Requests after a revocation -/

/-- Requests handled one after the other, each with what the world answers to it. -/
def serve (node : Node) (requests : List (RequestEnv × Request)) : Node :=
  requests.foldl (fun node r => (dispatch rcgen serde app r.1 r.2 node).2) node

end

end Hamlet
