import Hamlet.Lib.History
import Hamlet.Ca

/-!
# The device certificate store as a map

Seen from outside, the `device_certs` table is a map from device ids to a certificate and a
revocation mark. `sign_csr` sets an entry, `revoke` marks one, and the other calls read. What the
calls answer then follows from the successful ones before.
-/

namespace Hamlet

/-- A successful call that changes the store. -/
inductive CertEvent where
  | signed (deviceId certPem : String)
  | revoked (deviceId : String)
  deriving DecidableEq, Repr

namespace CertEvent

def deviceId : CertEvent → String
  | .signed id _ | .revoked id => id

def certPem? : CertEvent → Option String
  | .signed _ certPem => some certPem
  | .revoked _ => none

def isRevocation : CertEvent → Bool
  | .signed _ _ => false
  | .revoked _ => true

def concerns (id : String) (e : CertEvent) : Bool := e.deviceId = id

def signs (id : String) (e : CertEvent) : Bool := e.deviceId = id && e.certPem?.isSome

end CertEvent

open CertEvent

/-! ### The abstract map -/

/-- What is known of a device: its certificate, and whether it is revoked. -/
abbrev DeviceMap := String → Option (String × Bool)

namespace DeviceMap

def empty : DeviceMap := fun _ => none

def apply (m : DeviceMap) : CertEvent → DeviceMap
  | .signed id certPem => Function.update m id (some (certPem, false))
  | .revoked id => Function.update m id ((m id).map fun entry => (entry.1, true))

/-- The map after some events. -/
def after (events : List CertEvent) : DeviceMap := events.foldl apply empty

theorem after_concat (events : List CertEvent) (e : CertEvent) :
    after (events ++ [e]) = (after events).apply e := by
  rw [after, List.foldl_append]
  rfl

theorem apply_other (m : DeviceMap) {e : CertEvent} {id : String} (other : ¬e.concerns id) :
    m.apply e id = m id := by
  have differs : id ≠ e.deviceId := by
    rintro rfl
    exact other (decide_eq_true rfl)
  cases e with
  | signed _ _ | revoked _ => exact Function.update_of_ne differs ..

end DeviceMap

/-- The certificate of the last successful `sign_csr` for a device. -/
def lastSigned (id : String) (events : List CertEvent) : Option String :=
  (History.latest (signs id) events).bind certPem?

/-- The last successful `sign_csr` or `revoke` on a device was a `revoke`. -/
def lastIsRevocation (id : String) (events : List CertEvent) : Bool :=
  (History.latest (concerns id) events).any isRevocation

theorem map_fst_after (events : List CertEvent) (id : String) :
    (DeviceMap.after events id).map Prod.fst = lastSigned id events := by
  induction events using List.reverseRecOn with
  | nil => rfl
  | append_singleton events e ih =>
    rw [DeviceMap.after_concat, lastSigned, History.latest_concat]
    by_cases here : e.concerns id
    · cases e with
      | signed device certPem =>
        obtain rfl : device = id := of_decide_eq_true here
        simp [DeviceMap.apply, signs, certPem?, CertEvent.deviceId]
      | revoked device =>
        -- a revocation keeps the certificate
        obtain rfl : device = id := of_decide_eq_true here
        have unsigned : ¬(CertEvent.revoked device).signs device := by
          simp [signs, certPem?]
        rw [if_neg unsigned, ← lastSigned, ← ih, DeviceMap.apply, Function.update_self,
          Option.map_map]
        rfl
    · have unsigned : ¬e.signs id := by
        intro signed
        exact here (Bool.and_eq_true_iff.mp signed).1
      rw [DeviceMap.apply_other _ here, if_neg unsigned]
      exact ih

theorem snd_after (events : List CertEvent) (id certPem : String) (revoked : Bool)
    (entry : DeviceMap.after events id = some (certPem, revoked)) :
    revoked = lastIsRevocation id events := by
  induction events using List.reverseRecOn with
  | nil => cases entry
  | append_singleton events e ih =>
    rw [DeviceMap.after_concat] at entry
    rw [lastIsRevocation, History.latest_concat]
    by_cases here : e.concerns id
    · rw [if_pos here]
      cases e with
      | signed device pem =>
        obtain rfl : device = id := of_decide_eq_true here
        rw [DeviceMap.apply, Function.update_self] at entry
        cases entry
        rfl
      | revoked device =>
        obtain rfl : device = id := of_decide_eq_true here
        rw [DeviceMap.apply, Function.update_self, Option.map_eq_some_iff] at entry
        obtain ⟨_, _, shape⟩ := entry
        cases shape
        rfl
    · rw [DeviceMap.apply_other _ here] at entry
      rw [if_neg here]
      exact ih entry

theorem after_isSome_iff (events : List CertEvent) (id : String) :
    (DeviceMap.after events id).isSome ↔ ∃ certPem, .signed id certPem ∈ events := by
  induction events using List.reverseRecOn with
  | nil => simp [DeviceMap.after, DeviceMap.empty]
  | append_singleton events e ih =>
    rw [DeviceMap.after_concat]
    by_cases here : e.concerns id
    · cases e with
      | signed device certPem =>
        obtain rfl : device = id := of_decide_eq_true here
        simp [DeviceMap.apply]
      | revoked device =>
        obtain rfl : device = id := of_decide_eq_true here
        simpa [DeviceMap.apply] using ih
    · rw [DeviceMap.apply_other _ here, ih]
      have other : ∀ certPem, .signed id certPem ≠ e := by
        rintro certPem rfl
        exact here (decide_eq_true rfl)
      simp [other]

/-! ### Calls -/

inductive CaCall where
  | signCsr (deviceId csrPem : String) (env : SigningEnv)
  | revoke (deviceId : String) (execute : Except String Unit)
  | getCert (deviceId : String) (fetch : Except String Unit)
  | isRevoked (deviceId : String) (fetch : Except String Unit)
  | listDevices (fetch : Except String Unit)

inductive CaAnswer where
  | signed (result : Except String String)
  | revoked (result : Except String Unit)
  | cert (result : Except String (Option String))
  | flag (result : Except String Bool)
  | devices (result : Except String (List DeviceCertRecord))

/-- A service and what it has answered so far, oldest first. -/
structure CaTranscript where
  svc : CaService
  answered : List (CaCall × CaAnswer)

/-- The effect of a call that has succeeded. -/
def CaCall.event? : CaCall × CaAnswer → Option CertEvent
  | (.signCsr id _ _, .signed (.ok certPem)) => some (.signed id certPem)
  | (.revoke id _, .revoked (.ok ())) => some (.revoked id)
  | _ => none

namespace CaTranscript

/-- An initialised service with an empty table. -/
def start (ca : CaState) : CaTranscript where
  svc := { state := some ca, deviceCerts := .empty, issued := [] }
  answered := []

def answer (t : CaTranscript) (call : CaCall) (result : CaAnswer) (svc : CaService) : CaTranscript where
  svc := svc
  answered := t.answered ++ [(call, result)]

def perform (rcgen : Rcgen) (t : CaTranscript) (call : CaCall) : CaTranscript :=
  match call with
  | .signCsr id csrPem env =>
    let result := CaService.signCsr rcgen env t.svc id csrPem
    t.answer call (.signed result.1) result.2
  | .revoke id execute =>
    let result := CaService.revoke execute t.svc id
    t.answer call (.revoked result.1) result.2
  | .getCert id fetch => t.answer call (.cert (t.svc.getCert fetch id)) t.svc
  | .isRevoked id fetch => t.answer call (.flag (t.svc.isRevoked fetch id)) t.svc
  | .listDevices fetch => t.answer call (.devices (t.svc.listDevices fetch)) t.svc

/-- The successful calls that changed the store. -/
def events (t : CaTranscript) : List CertEvent := t.answered.filterMap CaCall.event?

end CaTranscript

def DeviceCert.entry (row : DeviceCert) : String × Bool := (row.certPem, decide (row.revoked ≠ 0))

/-- The table holds the map of the events. -/
structure StoreRefines (svc : CaService) (events : List CertEvent) : Prop where
  entries : ∀ id, (svc.deviceCerts.find? id).map DeviceCert.entry = DeviceMap.after events id
  /-- Only what was signed is revoked. -/
  revoked : ∀ id, .revoked id ∈ events → ∃ certPem, .signed id certPem ∈ events

namespace StoreRefines

variable {svc : CaService} {events : List CertEvent}

theorem store (refines : StoreRefines svc events) (row : DeviceCert) (valid : row.revoked = 0) :
    StoreRefines (svc.store row) (events ++ [.signed row.deviceId row.certPem]) := by
  constructor
  · intro id
    rw [DeviceMap.after_concat, CaService.store, DeviceMap.apply]
    -- the upsert also clears the mark of an older certificate
    by_cases here : id = row.deviceId
    · subst here
      rw [KeyedTable.find?_upsert_self, Function.update_self, Option.map_some, DeviceCert.entry, valid]
      rfl
    · rw [KeyedTable.find?_upsert_ne _ _ _ here, Function.update_of_ne here]
      exact refines.entries id
  · intro id member
    have old : .revoked id ∈ events := by
      simpa using member
    obtain ⟨certPem, signed⟩ := refines.revoked id old
    exact ⟨certPem, List.mem_append_left _ signed⟩

theorem isSome_iff (refines : StoreRefines svc events) (id : String) :
    (svc.deviceCerts.find? id).isSome ↔ ∃ certPem, .signed id certPem ∈ events := by
  rw [← after_isSome_iff, ← refines.entries id, Option.isSome_map]

theorem revoke (refines : StoreRefines svc events) (id : String)
    (present : (svc.deviceCerts.find? id).isSome) :
    StoreRefines
      { svc with
        deviceCerts := svc.deviceCerts.modify id CaService.markRevoked CaService.markRevoked_deviceId }
      (events ++ [.revoked id]) := by
  constructor
  · intro other
    rw [DeviceMap.after_concat, DeviceMap.apply]
    by_cases here : other = id
    · subst here
      rw [KeyedTable.find?_modify_self, Function.update_self, ← refines.entries other, Option.map_map,
        Option.map_map]
      rfl
    · rw [KeyedTable.find?_modify_ne _ _ _ _ _ here, Function.update_of_ne here]
      exact refines.entries other
  · intro other member
    rcases List.mem_append.mp member with old | new
    · obtain ⟨certPem, signed⟩ := refines.revoked other old
      exact ⟨certPem, List.mem_append_left _ signed⟩
    · -- a revocation succeeds only on a row, and a row was signed
      cases List.mem_singleton.mp new
      obtain ⟨certPem, signed⟩ := (refines.isSome_iff id).mp present
      exact ⟨certPem, List.mem_append_left _ signed⟩

end StoreRefines

/-! ### Runs of calls -/

section

variable (rcgen : Rcgen) (t : CaTranscript)

theorem CaTranscript.events_answer (call : CaCall) (result : CaAnswer) (svc : CaService) :
    (t.answer call result svc).events = t.events ++ (CaCall.event? (call, result)).toList := by
  simp only [events, answer, List.filterMap_append, List.filterMap_cons, List.filterMap_nil]
  cases CaCall.event? (call, result) <;> rfl

/-- All that `revoke` can do: fail and change nothing, or mark the row that is there. -/
theorem CaService.revoke_cases (execute : Except String Unit) (svc : CaService) (id : String) :
    (∃ e, svc.revoke execute id = (.error e, svc)) ∨
    ((svc.deviceCerts.find? id).isSome ∧ svc.revoke execute id =
      (.ok (), { svc with
        deviceCerts := svc.deviceCerts.modify id markRevoked markRevoked_deviceId })) := by
  simp only [revoke]
  cases execute with
  | error e => exact .inl ⟨_, rfl⟩
  | ok u =>
    cases found : svc.deviceCerts.find? id with
    | none =>
      -- the statement has updated no row
      rw [KeyedTable.modify_of_absent _ _ _ _ found]
      exact .inl ⟨_, rfl⟩
    | some row => exact .inr ⟨rfl, rfl⟩

theorem storeRefines_perform (refines : StoreRefines t.svc t.events) (call : CaCall) :
    StoreRefines (t.perform rcgen call).svc (t.perform rcgen call).events := by
  cases call with
  | signCsr id csrPem env =>
    simp only [CaTranscript.perform, CaTranscript.events_answer]
    obtain ⟨_, e, failed⟩ | ⟨row, stored, signed⟩ :=
      CaService.signCsr_cases rcgen env t.svc id csrPem
    · simpa [failed, CaTranscript.answer, CaCall.event?] using refines
    · obtain ⟨rfl, valid, _⟩ := CaService.storedRow_spec _ _ _ _ _ _ stored
      simpa [signed, CaTranscript.answer, CaCall.event?] using refines.store row valid
  | revoke id execute =>
    simp only [CaTranscript.perform, CaTranscript.events_answer]
    obtain ⟨e, failed⟩ | ⟨present, revoked⟩ := t.svc.revoke_cases execute id
    · simpa [failed, CaTranscript.answer, CaCall.event?] using refines
    · simpa [revoked, CaTranscript.answer, CaCall.event?] using refines.revoke id present
  | getCert | isRevoked | listDevices =>
    simp only [CaTranscript.perform, CaTranscript.events_answer]
    simpa [CaTranscript.answer, CaCall.event?] using refines

theorem storeRefines_run (calls : List CaCall) (refines : StoreRefines t.svc t.events) :
    StoreRefines (calls.foldl (CaTranscript.perform rcgen) t).svc
      (calls.foldl (CaTranscript.perform rcgen) t).events := by
  induction calls generalizing t with
  | nil => exact refines
  | cons call calls ih => exact ih (t.perform rcgen call) (storeRefines_perform rcgen t refines call)

end

/-- What the service answers, from the successful calls alone. -/
structure AnswersBy (svc : CaService) (events : List CertEvent) : Prop where
  devices : ∃ records, svc.listDevices (.ok ()) = .ok records ∧
    (records.map (·.deviceId)).Nodup ∧
    (∀ id, id ∈ records.map (·.deviceId) ↔ ∃ certPem, .signed id certPem ∈ events) ∧
    ∀ r ∈ records, lastSigned r.deviceId events = some r.certPem ∧
      r.revoked = lastIsRevocation r.deviceId events
  cert : ∀ id, svc.getCert (.ok ()) id = .ok (lastSigned id events)
  flag : ∀ id, svc.isRevoked (.ok ()) id = .ok (lastIsRevocation id events)
  unknown : ∀ id, (∃ e, (svc.revoke (.ok ()) id).1 = .error e) ↔
    ∀ certPem, .signed id certPem ∉ events

/-- Two services that no call can tell apart by what is stored. -/
def SameAnswers (svc svc' : CaService) : Prop :=
  ∀ database, svc'.listDevices database = svc.listDevices database ∧
    ∀ id, svc'.getCert database id = svc.getCert database id ∧
      svc'.isRevoked database id = svc.isRevoked database id ∧
      (svc'.revoke database id).1 = (svc.revoke database id).1

namespace StoreRefines

variable {svc : CaService} {events : List CertEvent}

/-- The entry of a stored row. -/
theorem entry_of_find? (refines : StoreRefines svc events) {id : String} {row : DeviceCert}
    (found : svc.deviceCerts.find? id = some row) :
    lastSigned id events = some row.certPem ∧
      decide (row.revoked ≠ 0) = lastIsRevocation id events := by
  have entry := refines.entries id
  rw [found, Option.map_some] at entry
  constructor
  · rw [← map_fst_after, ← entry]
    rfl
  · exact snd_after events id row.certPem _ entry.symm

theorem absent (refines : StoreRefines svc events) {id : String}
    (none_found : svc.deviceCerts.find? id = none) :
    lastSigned id events = none ∧ lastIsRevocation id events = false := by
  have entry := refines.entries id
  rw [none_found, Option.map_none] at entry
  constructor
  · rw [← map_fst_after, ← entry]
    rfl
  · -- a revocation would need a certificate before it
    have unsigned : ¬∃ certPem, .signed id certPem ∈ events := by
      rw [← refines.isSome_iff, none_found]
      simp
    rw [lastIsRevocation]
    cases latest : History.latest (concerns id) events with
    | none => rfl
    | some e =>
      obtain ⟨member, here⟩ := History.latest_mem latest
      cases e with
      | signed device certPem => rfl
      | revoked device =>
        obtain rfl : device = id := of_decide_eq_true here
        exact absurd (refines.revoked device member) unsigned

theorem answersBy (refines : StoreRefines svc events) : AnswersBy svc events where
  devices := by
    refine ⟨_, rfl, ?_, ?_, ?_⟩
    · rw [List.map_map]
      exact svc.deviceCerts.unique
    · intro id
      rw [← refines.isSome_iff, Option.isSome_iff_exists]
      simp only [KeyedTable.find?_iff, List.map_map, List.mem_map, Function.comp_apply]
    · intro r member
      obtain ⟨row, stored, rfl⟩ := List.mem_map.mp member
      have found := (KeyedTable.find?_iff svc.deviceCerts row.deviceId row).mpr ⟨stored, rfl⟩
      exact refines.entry_of_find? found
  cert := by
    intro id
    rw [CaService.getCert]
    cases found : svc.deviceCerts.find? id with
    | none => rw [(refines.absent found).1, Option.map_none]
    | some row => rw [(refines.entry_of_find? found).1, Option.map_some]
  flag := by
    intro id
    rw [CaService.isRevoked]
    cases found : svc.deviceCerts.find? id with
    | none => rw [(refines.absent found).2, Option.map_none, Option.getD_none]
    | some row => rw [← (refines.entry_of_find? found).2, Option.map_some, Option.getD_some]
  unknown := by
    intro id
    rw [← not_exists, ← refines.isSome_iff]
    simp only [CaService.revoke]
    cases svc.deviceCerts.find? id <;> simp

end StoreRefines

theorem sameAnswers_of_eq {svc svc' : CaService} (same : svc'.deviceCerts = svc.deviceCerts) :
    SameAnswers svc svc' := by
  intro database
  simp only [CaService.listDevices, CaService.getCert, CaService.isRevoked, CaService.revoke, same]
  refine ⟨trivial, fun id => ⟨trivial, trivial, ?_⟩⟩
  cases database with
  | error e => rfl
  | ok u => cases svc.deviceCerts.find? id <;> rfl

/-- After any calls the service answers as the map of the successful ones does, and a failed
`sign_csr` or `revoke` cannot be told from no call at all. -/
theorem device_certs_refine_map (rcgen : Rcgen) (ca : CaState) (calls : List CaCall) :
    AnswersBy (calls.foldl (CaTranscript.perform rcgen) (.start ca)).svc
      (calls.foldl (CaTranscript.perform rcgen) (.start ca)).events ∧
    (∀ env id csrPem e svc',
      CaService.signCsr rcgen env (calls.foldl (CaTranscript.perform rcgen) (.start ca)).svc id csrPem =
        (.error e, svc') →
      SameAnswers (calls.foldl (CaTranscript.perform rcgen) (.start ca)).svc svc') ∧
    ∀ execute id e svc',
      CaService.revoke execute (calls.foldl (CaTranscript.perform rcgen) (.start ca)).svc id =
        (.error e, svc') →
      SameAnswers (calls.foldl (CaTranscript.perform rcgen) (.start ca)).svc svc' := by
  have initial : StoreRefines (CaTranscript.start ca).svc (CaTranscript.start ca).events := by
    constructor
    · intro id
      rfl
    · intro id member
      cases member
  refine ⟨(storeRefines_run rcgen _ calls initial).answersBy, ?_, ?_⟩
  · intro env id csrPem e svc' failed
    apply sameAnswers_of_eq
    obtain ⟨_, _, same⟩ | ⟨row, _, signed⟩ := CaService.signCsr_cases rcgen env _ id csrPem
    · cases same.symm.trans failed
      rfl
    · cases signed.symm.trans failed
  · intro execute id e svc' failed
    apply sameAnswers_of_eq
    obtain ⟨_, same⟩ | ⟨_, revoked⟩ := CaService.revoke_cases execute _ id
    · cases same.symm.trans failed
      rfl
    · cases revoked.symm.trans failed

end Hamlet
