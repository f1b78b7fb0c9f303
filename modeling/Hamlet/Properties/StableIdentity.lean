import Hamlet.Lib.RustStr
import Hamlet.CaIdentity

/-!
# Racing calls agree on one identity

Two calls may both find a table empty and both generate keys. Only one row fits into the table,
and a call returns keys only when they are in it. Since no statement changes or deletes the row,
all calls return the same keys, before and after every restart.
-/

namespace Hamlet

section

variable {Key Cert : Type} (rcgen : KeyTool Key Cert)

/-- The row of `ca_keys` holds this private key. -/
def IdentityDb.HasKey (db : IdentityDb) (key : Key) : Prop :=
  ∃ row, db.caKeys = some row ∧ rcgen.fromPem row.keyPem = .ok key

/-- The row of `node_identity` holds this certificate and key. -/
def IdentityDb.HasPair (db : IdentityDb) (pair : String × String) : Prop :=
  ∃ row, db.nodeIdentity = some row ∧ (row.certPem, row.keyPem) = pair

/-- Rows that are there stay as they are. -/
structure IdentityDb.Extends (db db' : IdentityDb) : Prop where
  caKeys : ∀ row, db.caKeys = some row → db'.caKeys = some row
  nodeIdentity : ∀ row, db.nodeIdentity = some row → db'.nodeIdentity = some row

theorem IdentityDb.Extends.refl (db : IdentityDb) : db.Extends db :=
  ⟨fun _ stored => stored, fun _ stored => stored⟩

theorem IdentityDb.Extends.trans {a b c : IdentityDb} (first : a.Extends b) (second : b.Extends c) :
    a.Extends c where
  caKeys row stored := second.caKeys row (first.caKeys row stored)
  nodeIdentity row stored := second.nodeIdentity row (first.nodeIdentity row stored)

variable {rcgen} {db db' : IdentityDb}

theorem IdentityDb.HasKey.mono {key : Key} (has : db.HasKey rcgen key) (more : db.Extends db') :
    db'.HasKey rcgen key := by
  obtain ⟨row, stored, parsed⟩ := has
  exact ⟨row, more.caKeys row stored, parsed⟩

theorem IdentityDb.HasPair.mono {pair : String × String} (has : db.HasPair pair)
    (more : db.Extends db') : db'.HasPair pair := by
  obtain ⟨row, stored, same⟩ := has
  exact ⟨row, more.nodeIdentity row stored, same⟩

/-- There is one row, so there is one key. -/
theorem IdentityDb.HasKey.unique {key key' : Key} (first : db.HasKey rcgen key)
    (second : db.HasKey rcgen key') : key = key' := by
  obtain ⟨row, stored, parsed⟩ := first
  obtain ⟨row', stored', parsed'⟩ := second
  cases stored.symm.trans stored'
  exact Except.ok.inj (parsed.symm.trans parsed')

theorem IdentityDb.HasPair.unique {pair pair' : String × String} (first : db.HasPair pair)
    (second : db.HasPair pair') : pair = pair' := by
  obtain ⟨row, stored, same⟩ := first
  obtain ⟨row', stored', same'⟩ := second
  cases stored.symm.trans stored'
  exact same.symm.trans same'

end

/-! ### One call -/

section

variable {Key Cert : Type} (rcgen : KeyTool Key Cert)

/-- A call that is about to return keys has them from the table. -/
def CallSound (db : IdentityDb) : IdentityCall Key Cert → Prop
  | .caLoaded ca => db.HasKey rcgen ca.keyPair
  | .nodeLoaded pair => db.HasPair pair
  | _ => True

def OutcomeSound (db : IdentityDb) : IdentityOutcome Key Cert → Prop
  | .goesOn call => CallSound rcgen db call
  | .caReturned result => ∀ ca, result = .ok ca → db.HasKey rcgen ca.keyPair
  | .nodeReturned result => ∀ pair, result = .ok pair → db.HasPair pair

variable {rcgen} {db db' : IdentityDb} {call : IdentityCall Key Cert}
  {outcome : IdentityOutcome Key Cert}

theorem CallSound.mono (sound : CallSound rcgen db call) (more : db.Extends db') :
    CallSound rcgen db' call := by
  cases call with
  | caLoaded ca => exact IdentityDb.HasKey.mono sound more
  | nodeLoaded pair => exact IdentityDb.HasPair.mono sound more
  | idle | caSelecting | caMissing | caInserting | nodeSelecting | nodeMissing | nodeInserting =>
    trivial

theorem caReturned_error (e : String) : OutcomeSound rcgen db (.caReturned (.error e)) := by
  intro ca ok
  cases ok

theorem nodeReturned_error (e : String) : OutcomeSound rcgen db (.nodeReturned (.error e)) := by
  intro pair ok
  cases ok

/-- The loaded key is the one in the row. -/
theorem loadCa_keyPair {row : CaKeysRow} {entropy : Nat} {ca : LiveCa Key Cert}
    (loaded : CaIdentity.loadCa rcgen row entropy = .ok ca) :
    rcgen.fromPem row.keyPem = .ok ca.keyPair := by
  simp only [CaIdentity.loadCa] at loaded
  split at loaded
  next => cases loaded
  next keyPair parsed =>
    split at loaded
    next => cases loaded
    next =>
      split at loaded
      next => cases loaded
      next =>
        cases loaded
        exact parsed

theorem select_sound {fetch : Except String Unit} {entropy : Nat}
    (selected : CaIdentity.select rcgen db fetch entropy call = some outcome) :
    OutcomeSound rcgen db outcome := by
  cases call with
  | caSelecting =>
    simp only [CaIdentity.select] at selected
    split at selected
    next =>
      cases selected
      exact caReturned_error _
    next =>
      cases selected
      trivial
    next row stored =>
      split at selected
      next e failed =>
        cases selected
        exact caReturned_error e
      next ca loaded =>
        -- the key comes out of the row
        cases selected
        exact ⟨row, stored, loadCa_keyPair loaded⟩
  | nodeSelecting =>
    simp only [CaIdentity.select] at selected
    split at selected
    next =>
      cases selected
      exact nodeReturned_error _
    next =>
      cases selected
      trivial
    next row stored =>
      cases selected
      exact ⟨row, stored, rfl⟩
  | idle | caMissing | caInserting | caLoaded | nodeMissing | nodeInserting | nodeLoaded =>
    cases selected

theorem generate_sound {state : Option (LiveCa Key Cert)} {entropy : Nat} {now : Int}
    (generated : CaIdentity.generate rcgen state entropy now call = some outcome) :
    OutcomeSound rcgen db outcome := by
  cases call with
  | caMissing =>
    simp only [CaIdentity.generate] at generated
    split at generated
    next e failed =>
      cases generated
      exact caReturned_error e
    next =>
      cases generated
      trivial
  | nodeMissing =>
    simp only [CaIdentity.generate] at generated
    split at generated
    next =>
      cases generated
      exact nodeReturned_error _
    next =>
      split at generated
      next e failed =>
        cases generated
        exact nodeReturned_error e
      next =>
        cases generated
        trivial
  | idle | caSelecting | caInserting | caLoaded | nodeSelecting | nodeInserting | nodeLoaded =>
    cases generated

/-- A row is written only where there was none, and then it holds the keys of the call. -/
theorem insert_sound (roundTrip : ∀ key, rcgen.fromPem (rcgen.serializePem key) = .ok key)
    {execute : Except String Unit}
    (inserted : CaIdentity.insert rcgen db execute call = some (db', outcome)) :
    db.Extends db' ∧ OutcomeSound rcgen db' outcome := by
  cases call with
  | caInserting ca =>
    simp only [CaIdentity.insert] at inserted
    split at inserted
    next =>
      cases inserted
      exact ⟨.refl db, caReturned_error _⟩
    next =>
      cases inserted
      exact ⟨.refl db, caReturned_error _⟩
    next empty =>
      -- the table was empty, and the row parses to the key that was serialised
      cases inserted
      refine ⟨⟨?_, fun _ stored => stored⟩, ?_⟩
      · intro row stored
        cases empty.symm.trans stored
      · exact ⟨_, rfl, roundTrip ca.keyPair⟩
  | nodeInserting row =>
    simp only [CaIdentity.insert] at inserted
    split at inserted
    next =>
      cases inserted
      exact ⟨.refl db, nodeReturned_error _⟩
    next =>
      cases inserted
      exact ⟨.refl db, nodeReturned_error _⟩
    next empty =>
      cases inserted
      refine ⟨⟨fun _ stored => stored, ?_⟩, ?_⟩
      · intro old stored
        cases empty.symm.trans stored
      · exact ⟨row, rfl, rfl⟩
  | idle | caSelecting | caMissing | caLoaded | nodeSelecting | nodeMissing | nodeLoaded =>
    cases inserted

theorem finish_sound (sound : CallSound rcgen db call)
    (finished : CaIdentity.finish call = some outcome) : OutcomeSound rcgen db outcome := by
  cases call with
  | caLoaded ca =>
    cases finished
    intro returned same
    cases same
    exact sound
  | nodeLoaded pair =>
    cases finished
    intro returned same
    cases same
    exact sound
  | idle | caSelecting | caMissing | caInserting | nodeSelecting | nodeMissing | nodeInserting =>
    cases finished

end

/-! ### All calls -/

section

variable {Key Cert : Type} (rcgen : KeyTool Key Cert)

/-- Whatever was returned is in the database. -/
structure IdentityInvariant (s : IdentitySystem Key Cert) : Prop where
  calls : ∀ caller, CallSound rcgen s.db (s.calls caller)
  caAnswers : ∀ ca, .ok ca ∈ s.caAnswers → s.db.HasKey rcgen ca.keyPair
  nodeAnswers : ∀ pair, .ok pair ∈ s.nodeAnswers → s.db.HasPair pair

variable {rcgen} {s s' : IdentitySystem Key Cert}

namespace IdentityInvariant

theorem setCall (inv : IdentityInvariant rcgen s) (caller : Nat) (call : IdentityCall Key Cert)
    (sound : CallSound rcgen s.db call) : IdentityInvariant rcgen (s.setCall caller call) := by
  refine ⟨?_, inv.caAnswers, inv.nodeAnswers⟩
  intro other
  simp only [IdentitySystem.setCall, Function.update_apply]
  split
  · exact sound
  · exact inv.calls other

theorem settle (inv : IdentityInvariant rcgen s) (caller : Nat) (outcome : IdentityOutcome Key Cert)
    (sound : OutcomeSound rcgen s.db outcome) : IdentityInvariant rcgen (s.settle caller outcome) := by
  have ended := inv.setCall caller .idle trivial
  cases outcome with
  | goesOn call => exact inv.setCall caller call sound
  | caReturned result =>
    have answers : ∀ ca, .ok ca ∈ s.caAnswers ++ [result] → s.db.HasKey rcgen ca.keyPair := by
      intro ca member
      rcases List.mem_append.mp member with old | new
      · exact inv.caAnswers ca old
      · exact sound ca (List.mem_singleton.mp new).symm
    cases result with
    | ok ca => exact ⟨ended.calls, answers, inv.nodeAnswers⟩
    | error e => exact ⟨ended.calls, answers, inv.nodeAnswers⟩
  | nodeReturned result =>
    refine ⟨ended.calls, inv.caAnswers, ?_⟩
    intro pair member
    rcases List.mem_append.mp member with old | new
    · exact inv.nodeAnswers pair old
    · exact sound pair (List.mem_singleton.mp new).symm

theorem mono (inv : IdentityInvariant rcgen s) {db : IdentityDb} (more : s.db.Extends db) :
    IdentityInvariant rcgen { s with db } where
  calls caller := (inv.calls caller).mono more
  caAnswers ca member := (inv.caAnswers ca member).mono more
  nodeAnswers pair member := (inv.nodeAnswers pair member).mono more

end IdentityInvariant

theorem settle_db (caller : Nat) (outcome : IdentityOutcome Key Cert) :
    (s.settle caller outcome).db = s.db := by
  cases outcome with
  | goesOn | nodeReturned => rfl
  | caReturned result => cases result <;> rfl

theorem identity_step (roundTrip : ∀ key, rcgen.fromPem (rcgen.serializePem key) = .ok key)
    (inv : IdentityInvariant rcgen s) (action : IdentityAction)
    (stepped : s.step rcgen action = some s') :
    IdentityInvariant rcgen s' ∧ s.db.Extends s'.db := by
  cases action with
  | init caller | ensureNodeIdentity caller =>
    simp only [IdentitySystem.step] at stepped
    split at stepped
    · cases stepped
      exact ⟨inv.setCall caller _ trivial, .refl s.db⟩
    · cases stepped
  | select caller fetch entropy =>
    obtain ⟨outcome, selected, rfl⟩ := Option.map_eq_some_iff.mp stepped
    rw [settle_db]
    exact ⟨inv.settle caller outcome (select_sound selected), .refl s.db⟩
  | generate caller entropy now =>
    obtain ⟨outcome, generated, rfl⟩ := Option.map_eq_some_iff.mp stepped
    rw [settle_db]
    exact ⟨inv.settle caller outcome (generate_sound generated), .refl s.db⟩
  | insert caller execute =>
    -- the only step that writes
    obtain ⟨⟨db, outcome⟩, inserted, rfl⟩ := Option.map_eq_some_iff.mp stepped
    obtain ⟨more, sound⟩ := insert_sound roundTrip inserted
    rw [settle_db]
    exact ⟨(inv.mono more).settle caller outcome sound, more⟩
  | finish caller =>
    obtain ⟨outcome, finished, rfl⟩ := Option.map_eq_some_iff.mp stepped
    rw [settle_db]
    exact ⟨inv.settle caller outcome (finish_sound (inv.calls caller) finished), .refl s.db⟩
  | drop caller =>
    cases stepped
    exact ⟨inv.setCall caller .idle trivial, .refl s.db⟩
  | restart =>
    -- the answers given before the restart are still those of the database
    cases stepped
    exact ⟨⟨fun _ => trivial, inv.caAnswers, inv.nodeAnswers⟩, .refl s.db⟩

theorem identity_run (roundTrip : ∀ key, rcgen.fromPem (rcgen.serializePem key) = .ok key)
    (inv : IdentityInvariant rcgen s) (actions : List IdentityAction)
    (ran : Runs.run (IdentitySystem.step rcgen) s actions = some s') :
    IdentityInvariant rcgen s' ∧ s.db.Extends s'.db := by
  apply Runs.run_invariant _ (fun t => IdentityInvariant rcgen t ∧ s.db.Extends t.db) _ s s' actions
    ⟨inv, .refl s.db⟩ ran
  rintro t action t' ⟨sound, more⟩ stepped
  obtain ⟨sound', more'⟩ := identity_step roundTrip sound action stepped
  exact ⟨sound', more.trans more'⟩

end

/-- Whatever the interleaving of calls, failures and restarts: all successful calls have returned
the CA key, or the node's certificate and key, that the database holds, and what it holds stays. -/
theorem racing_calls_agree {Key Cert : Type} (rcgen : KeyTool Key Cert)
    (roundTrip : ∀ key, rcgen.fromPem (rcgen.serializePem key) = .ok key) (db : IdentityDb)
    (actions : List IdentityAction) (s : IdentitySystem Key Cert)
    (ran : Runs.run (IdentitySystem.step rcgen) (.start db) actions = some s) :
    (∀ ca ca', .ok ca ∈ s.caAnswers → .ok ca' ∈ s.caAnswers → ca.keyPair = ca'.keyPair) ∧
    (∀ pair pair', .ok pair ∈ s.nodeAnswers → .ok pair' ∈ s.nodeAnswers → pair = pair') ∧
    (∀ ca, .ok ca ∈ s.caAnswers → s.db.HasKey rcgen ca.keyPair) ∧
    (∀ pair, .ok pair ∈ s.nodeAnswers → s.db.HasPair pair) ∧
    db.Extends s.db ∧
    ∀ more s', Runs.run (IdentitySystem.step rcgen) s more = some s' → s.db.Extends s'.db := by
  have initial : IdentityInvariant rcgen (.start db : IdentitySystem Key Cert) := by
    refine ⟨fun _ => trivial, ?_, ?_⟩
    · intro ca member
      cases member
    · intro pair member
      cases member
  obtain ⟨inv, kept⟩ := identity_run roundTrip initial actions ran
  refine ⟨?_, ?_, inv.caAnswers, inv.nodeAnswers, kept, ?_⟩
  · intro ca ca' first second
    exact (inv.caAnswers ca first).unique (inv.caAnswers ca' second)
  · intro pair pair' first second
    exact (inv.nodeAnswers pair first).unique (inv.nodeAnswers pair' second)
  · intro more s' ran'
    exact (identity_run roundTrip inv more ran').2

def pemFooter : String := "\n-----END PRIVATE KEY-----"

/-- Keys and certificates as plain texts. -/
def plainKeyTool : KeyTool String String where
  generate entropy := .ok ("key " ++ toString entropy)
  serializePem key := key ++ pemFooter
  fromPem pem :=
    match RustStr.stripSuffix pem pemFooter with
    | some key => .ok key
    | none => .error "Could not parse key pair"
  fromCaCertPem _ := .ok CaIdentity.caParams
  selfSigned params key _ := .ok (params.commonName ++ " by " ++ key)
  signedBy params key issuer _ _ := .ok (params.commonName ++ " with " ++ key ++ " by " ++ issuer)
  pem cert := cert

theorem plainKeyTool_roundTrip (key : String) :
    plainKeyTool.fromPem (plainKeyTool.serializePem key) = .ok key := by
  have stripped : RustStr.stripSuffix (key ++ pemFooter) pemFooter = some key :=
    (RustStr.stripSuffix_iff ..).mpr rfl
  simp only [plainKeyTool, stripped]

/-- Two calls find the table empty and generate a key each; a third one comes after a restart. -/
def racingInits : List IdentityAction :=
  [.init 0, .init 1, .select 0 (.ok ()) 0, .select 1 (.ok ()) 0, .generate 0 7 0, .generate 1 8 0,
    .insert 1 (.ok ()), .insert 0 (.ok ()), .finish 1, .restart, .init 2, .select 2 (.ok ()) 0, .finish 2]

theorem racing_inits_agree :
    ∃ s, Runs.run (IdentitySystem.step plainKeyTool) (.start ⟨none, none⟩) racingInits = some s ∧
      s.caAnswers.map Except.toOption = [none, some ⟨caCn, "PlaceNet Root CA by key 8", "key 8"⟩,
        some ⟨caCn, "PlaceNet Root CA by key 8", "key 8"⟩] ∧
      s.db.HasKey plainKeyTool "key 8" := by
  refine ⟨_, rfl, rfl, ?_⟩
  have stored := (racing_calls_agree plainKeyTool plainKeyTool_roundTrip ⟨none, none⟩ racingInits _ rfl).2.2.1
  exact stored ⟨caCn, "PlaceNet Root CA by key 8", "key 8"⟩ (List.mem_cons_of_mem _ (List.mem_cons_self ..))

end Hamlet
