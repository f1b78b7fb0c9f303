import Hamlet.Lib.History
import Hamlet.Properties.GatewayPublishes

/-!
# Logins of the gateway connection

The task keeps the answer of a login until a broker refuses it. What is cached is therefore told
by the latest login or refusal in the history, and everything else about logins and connections
follows from that.
-/

namespace Hamlet

namespace GatewayMqttEvent

def isLoggedIn : GatewayMqttEvent → Bool
  | .loggedIn _ => true
  | _ => false

def isBuilt : GatewayMqttEvent → Bool
  | .built _ _ => true
  | _ => false

/-- A login, or the refusal of one. -/
def settlesLogin : GatewayMqttEvent → Bool
  | .loggedIn _ | .refused _ => true
  | _ => false

/-- Neither a login nor a connection begins or ends with it. -/
def isNeutral : GatewayMqttEvent → Bool
  | .pass | .login | .connAck | .waited _ => true
  | .loggedIn _ | .built _ _ | .refused _ => false

end GatewayMqttEvent

open GatewayMqttEvent

/-- After a login, a connection built from it has ended with a refusal. -/
def RefusedSince (creds : LoginResponse) (events : List GatewayMqttEvent) : Prop :=
  ∃ earlier client served later,
    events = earlier ++ .built creds client :: (served ++ .refused creds :: later) ∧
      (∀ e ∈ earlier, ¬e.isLoggedIn) ∧ ∀ e ∈ served, ¬e.isLoggedIn ∧ ¬e.isBuilt

/-- After a login, the connection built last is built from it and still in use. -/
def ServedSince (creds : LoginResponse) (events : List GatewayMqttEvent) : Prop :=
  ∃ earlier client served, events = earlier ++ .built creds client :: served ∧
    ∀ e ∈ served, ¬e.isBuilt

/-- What the history of a task tells about logins. -/
structure LoginDiscipline (config : GatewayMqttConfig) (log : List GatewayMqttEvent) : Prop where
  /-- Every connection is built from the most recent login. -/
  mostRecent : ∀ before creds client after, log = before ++ .built creds client :: after →
    History.latest isLoggedIn before = some (.loggedIn creds) ∧ client = config.clientConfig creds
  /-- Between two logins a connection of the first was refused. -/
  refusedBetween : ∀ before first between second after,
    log = before ++ .loggedIn first :: (between ++ .loggedIn second :: after) →
      RefusedSince first between
  /-- After a refusal a login comes before the next connection. -/
  loginBetween : ∀ before refused between creds client after,
    log = before ++ .refused refused :: (between ++ .built creds client :: after) →
      ∃ login, .loggedIn login ∈ between

/-- The same, as a law that each event obeys. -/
def LoginLaw (config : GatewayMqttConfig) (before : List GatewayMqttEvent) :
    GatewayMqttEvent → Prop
  | .built creds client =>
    History.latest settlesLogin before = some (.loggedIn creds) ∧ client = config.clientConfig creds
  | .loggedIn _ => ∀ first, History.latest isLoggedIn before = some (.loggedIn first) →
    RefusedSince first (History.since isLoggedIn before)
  | _ => True

theorem latest_isLoggedIn {log : List GatewayMqttEvent} {creds : LoginResponse}
    (latest : History.latest settlesLogin log = some (.loggedIn creds)) :
    History.latest isLoggedIn log = some (.loggedIn creds) := by
  apply History.latest_of_imp _ latest rfl
  intro e login
  cases e <;> first | rfl | cases login

theorem RefusedSince.append {creds : LoginResponse} {events : List GatewayMqttEvent}
    (ended : RefusedSince creds events) (more : List GatewayMqttEvent) :
    RefusedSince creds (events ++ more) := by
  obtain ⟨earlier, client, served, later, rfl, sameLogin, sameClient⟩ := ended
  exact ⟨earlier, client, served, later ++ more, by simp, sameLogin, sameClient⟩

/-! ### From the law to the discipline -/

/-- The first login from `between` on. -/
theorem first_login (between : List GatewayMqttEvent) (second : LoginResponse)
    (after : List GatewayMqttEvent) :
    ∃ quiet third rest tail, between ++ .loggedIn second :: after = quiet ++ .loggedIn third :: rest ∧
      between = quiet ++ tail ∧ ∀ e ∈ quiet, ¬e.isLoggedIn := by
  induction between with
  | nil => exact ⟨[], second, after, [], rfl, rfl, by simp⟩
  | cons e between ih =>
    by_cases login : e.isLoggedIn
    · cases e with
      | loggedIn third => exact ⟨[], third, _, _, rfl, rfl, by simp⟩
      | pass | login | built | connAck | refused | waited => cases login
    · obtain ⟨quiet, third, rest, tail, next, shape, none⟩ := ih
      refine ⟨e :: quiet, third, rest, tail, by simp [next], by simp [shape], ?_⟩
      exact List.forall_mem_cons.mpr ⟨login, none⟩

theorem loginDiscipline_of_each {config : GatewayMqttConfig} {log : List GatewayMqttEvent}
    (each : History.Each (LoginLaw config) log) : LoginDiscipline config log where
  mostRecent := by
    intro before creds client after shape
    obtain ⟨latest, built⟩ := each before (.built creds client) after shape
    exact ⟨latest_isLoggedIn latest, built⟩
  refusedBetween := by
    intro before first between second after shape
    -- the law speaks of the next login, which need not be the second one
    obtain ⟨quiet, third, rest, tail, next, split, none⟩ := first_login between second after
    have latest := History.latest_append_marked isLoggedIn before (.loggedIn first) rfl quiet none
    have since := History.since_append isLoggedIn before (.loggedIn first) rfl quiet none
    have ended := each (before ++ .loggedIn first :: quiet) (.loggedIn third) rest
      (by simp [shape, next]) first latest
    rw [since] at ended
    rw [split]
    exact ended.append tail
  loginBetween := by
    intro before refused between creds client after shape
    obtain ⟨latest, _⟩ := each (before ++ .refused refused :: between) (.built creds client) after
      (by simp [shape])
    rw [List.append_cons, History.latest_append, History.latest_concat] at latest
    -- the refusal is not the last word before the connection
    cases found : History.latest settlesLogin between with
    | none =>
      rw [found] at latest
      cases latest
    | some e =>
      rw [found] at latest
      cases latest
      exact ⟨creds, (History.latest_mem found).1⟩

/-! ### The task -/

/-- How far a pass through the `'reconnect` loop has got. -/
inductive LoginStage where
  | idle
  | loggingIn
  | building (creds : LoginResponse)
  | serving (creds : LoginResponse)

def GatewayMqttPhase.stage : GatewayMqttPhase → LoginStage
  | .loggingIn => .loggingIn
  | .building creds => .building creds
  | .selecting creds | .publishing creds _ | .connecting creds _ _ => .serving creds
  | .reconnecting | .disconnecting | .backingOff | .stopped => .idle

@[simp] theorem connectingWith_stage (creds : LoginResponse) (requests : List GatewayRequest) :
    (GatewayMqtt.connectingWith creds requests).stage = .serving creds := by
  cases requests <;> rfl

/-- What the history tells about the cached login. -/
def CachedBy (log : List GatewayMqttEvent) : Option LoginResponse → Prop
  | some creds => History.latest settlesLogin log = some (.loggedIn creds)
  | none => ∀ creds, History.latest isLoggedIn log = some (.loggedIn creds) →
    RefusedSince creds (History.since isLoggedIn log)

/-- A stage works with the cached login. -/
def StageAgrees (cached : Option LoginResponse) (log : List GatewayMqttEvent) : LoginStage → Prop
  | .idle => True
  | .loggingIn => cached = none
  | .building creds => cached = some creds
  | .serving creds => cached = some creds ∧ ServedSince creds (History.since isLoggedIn log)

structure LoginInvariant (config : GatewayMqttConfig) (s : GatewayMqtt) : Prop where
  history : History.Each (LoginLaw config) s.log
  cached : CachedBy s.log s.cached
  stage : StageAgrees s.cached s.log s.phase.stage

section

variable {log : List GatewayMqttEvent} {e : GatewayMqttEvent}

theorem not_isLoggedIn_of_isNeutral (neutral : e.isNeutral) : ¬e.isLoggedIn := by
  cases e <;> simp_all [isNeutral, isLoggedIn]

theorem not_settlesLogin_of_isNeutral (neutral : e.isNeutral) : ¬e.settlesLogin := by
  cases e <;> simp_all [isNeutral, settlesLogin]

theorem since_neutral (neutral : e.isNeutral) :
    History.since isLoggedIn (log ++ [e]) = History.since isLoggedIn log ++ [e] := by
  rw [History.since_concat, if_neg (not_isLoggedIn_of_isNeutral neutral)]

theorem each_neutral {config : GatewayMqttConfig} (each : History.Each (LoginLaw config) log)
    (neutral : e.isNeutral) : History.Each (LoginLaw config) (log ++ [e]) := by
  rw [History.each_concat]
  constructor
  · exact each
  · cases e <;> trivial

theorem CachedBy.neutral {cached : Option LoginResponse} (by_log : CachedBy log cached)
    (neutral : e.isNeutral) : CachedBy (log ++ [e]) cached := by
  cases cached with
  | some creds =>
    simp only [CachedBy] at by_log ⊢
    rw [History.latest_concat, if_neg (not_settlesLogin_of_isNeutral neutral)]
    exact by_log
  | none =>
    intro creds latest
    rw [History.latest_concat, if_neg (not_isLoggedIn_of_isNeutral neutral)] at latest
    rw [since_neutral neutral]
    exact (by_log creds latest).append [e]

theorem ServedSince.neutral {creds : LoginResponse}
    (served : ServedSince creds (History.since isLoggedIn log)) (neutral : e.isNeutral) :
    ServedSince creds (History.since isLoggedIn (log ++ [e])) := by
  obtain ⟨earlier, client, requests, shape, sameClient⟩ := served
  refine ⟨earlier, client, requests ++ [e], ?_, ?_⟩
  · rw [since_neutral neutral, shape]
    simp
  · have other : ¬e.isBuilt := by
      cases e <;> simp_all [isNeutral, isBuilt]
    intro x member
    rcases List.mem_append.mp member with old | new
    · exact sameClient x old
    · rw [List.mem_singleton.mp new]
      exact other

/-- The refusal of the connection in use. -/
theorem ServedSince.refused {creds : LoginResponse}
    (served : ServedSince creds (History.since isLoggedIn log)) :
    RefusedSince creds (History.since isLoggedIn (log ++ [.refused creds])) := by
  obtain ⟨earlier, client, requests, shape, sameClient⟩ := served
  have sameLogin : ∀ e ∈ earlier ++ .built creds client :: requests, ¬e.isLoggedIn := by
    intro e member
    rw [← shape] at member
    exact History.not_mark_of_mem_since member
  refine ⟨earlier, client, requests, [], ?_, ?_, ?_⟩
  · rw [History.since_concat, shape]
    simp [isLoggedIn]
  · intro e member
    exact sameLogin e (List.mem_append_left _ member)
  · intro e member
    exact ⟨sameLogin e (by simp [member]), sameClient e member⟩

end

section

variable {config : GatewayMqttConfig} {accepts : GatewayRequest → Bool} {s s' : GatewayMqtt}

/-- A step that neither writes the history nor changes the cache, nor starts a new stage. -/
theorem LoginInvariant.silent (inv : LoginInvariant config s) (log : s'.log = s.log)
    (cached : s'.cached = s.cached) (stage : s'.phase.stage = s.phase.stage ∨ s'.phase.stage = .idle) :
    LoginInvariant config s' := by
  constructor
  · rw [log]
    exact inv.history
  · rw [log, cached]
    exact inv.cached
  · rw [log, cached]
    rcases stage with same | idle
    · rw [same]
      exact inv.stage
    · rw [idle]
      trivial

theorem loginInvariant_step (inv : LoginInvariant config s) (action : GatewayMqttAction)
    (stepped : s.step config accepts action = some s') : LoginInvariant config s' := by
  have stage := inv.stage
  cases GatewayMqtt.step_cases config accepts s s' action stepped with
  | enqueued | signalled | polled | sent | acknowledged => exact inv.silent rfl rfl (.inl rfl)
  | reusedLogin creds phase cached =>
    exact ⟨each_neutral inv.history rfl, inv.cached.neutral rfl, cached⟩
  | beganLogin phase cached =>
    have shape : s.log ++ [.pass, .login] = (s.log ++ [.pass]) ++ [.login] := by simp
    simp only [shape]
    exact ⟨each_neutral (each_neutral inv.history rfl) rfl, (inv.cached.neutral rfl).neutral rfl, cached⟩
  | loggedIn creds phase =>
    -- the task logs in only with an empty cache
    rw [phase] at stage
    have uncached := inv.cached
    rw [stage] at uncached
    refine ⟨(History.each_concat ..).mpr ⟨inv.history, uncached⟩, ?_, rfl⟩
    exact History.latest_concat ..
  | built world creds phase ok =>
    -- the client is built from what is cached
    rw [phase] at stage
    have cached := inv.cached
    rw [stage] at cached
    refine ⟨(History.each_concat ..).mpr ⟨inv.history, cached, rfl⟩, ?_, stage, ?_⟩
    · rw [stage, CachedBy, History.latest_concat]
      exact cached
    · exact ⟨History.since isLoggedIn s.log, _, [], History.since_concat .., by simp⟩
  | connected creds phase fresh =>
    rw [phase] at stage
    refine ⟨each_neutral inv.history rfl, inv.cached.neutral rfl, ?_⟩
    simp only [connectingWith_stage]
    exact ⟨stage.1, stage.2.neutral rfl⟩
  | refused creds code phase =>
    rw [phase] at stage
    have cached := inv.cached
    rw [stage.1] at cached
    refine ⟨(History.each_concat ..).mpr ⟨inv.history, trivial⟩, ?_, trivial⟩
    intro login latest
    -- the login whose connection was refused is the latest one
    have same : History.latest isLoggedIn s.log = some (.loggedIn login) :=
      (History.latest_concat isLoggedIn s.log (.refused creds)).symm.trans latest
    cases (latest_isLoggedIn cached).symm.trans same
    exact stage.2.refused
  | woke phase => exact ⟨each_neutral inv.history rfl, inv.cached.neutral rfl, trivial⟩
  | took creds msg outbound phase popped =>
    exact inv.silent rfl rfl (.inl (by rw [phase]; rfl))
  | published creds msg requests phase called =>
    exact inv.silent rfl rfl (.inl (by rw [phase]; rfl))
  | requested creds request rest requests phase called =>
    exact inv.silent rfl rfl (.inl (by rw [phase]; exact connectingWith_stage ..))
  | loginFailed | buildFailed | abandonedLogin | shuttingDown | abandonedWait | disconnected
  | broken => exact inv.silent rfl rfl (.inr rfl)

end

/-- In every run of the task, whatever the results of logins, options and polls. -/
theorem login_discipline (config : GatewayMqttConfig) (accepts : GatewayRequest → Bool)
    (actions : List GatewayMqttAction) (s : GatewayMqtt)
    (ran : Runs.run (GatewayMqtt.step config accepts) .init actions = some s) :
    LoginDiscipline config s.log := by
  have initial : LoginInvariant config .init := by
    refine ⟨History.each_nil _, ?_, trivial⟩
    intro creds latest
    cases latest
  have inv : LoginInvariant config s :=
    Runs.run_invariant _ (LoginInvariant config)
      (fun _ action _ inv stepped => loginInvariant_step inv action stepped) .init s actions initial ran
  exact loginDiscipline_of_each inv.history

/-- The connection breaks, the next one is refused, and the task logs in again. -/
def refusedLogin : List GatewayMqttAction :=
  dialled ++ [.poll (.error (.other "reset"))] ++ redialled ++
    [.poll (.error (.connectionRefused "NotAuthorized")), .wake] ++ dialled

theorem refused_login_renewed :
    ∃ s, Runs.run (GatewayMqtt.step plainConfig fun _ => true) .init refusedLogin = some s ∧
      s.log.filter settlesLogin = [.loggedIn sampleLogin, .refused sampleLogin, .loggedIn sampleLogin] ∧
      LoginDiscipline plainConfig s.log :=
  ⟨_, rfl, rfl, login_discipline plainConfig (fun _ => true) refusedLogin _ rfl⟩

end Hamlet
