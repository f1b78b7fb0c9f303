import Hamlet.CloudGateway.ConnectionTask

/-!
# Sessions with a cloud gateway

The frames of each connection, and what becomes of the queued messages. On every connection
`Register` comes first; over all connections the queued messages go out in the order in which
they were accepted; and the `Close` frame ends everything. A message leaves the queue before it
is sent, so a failed send loses it.
-/

namespace Hamlet

/-- The message of a text frame. -/
def Frame.message? : Frame → Option GatewayMessage
  | .text msg => some msg
  | .pong _ | .close => none

/-- The messages of a connection after its first frame. -/
def queuedFrames (session : List Frame) : List GatewayMessage :=
  session.tail.filterMap Frame.message?

namespace GatewayLink

/-- The queued messages sent on all connections, oldest first. -/
def queuedSent (s : GatewayLink) : List GatewayMessage := s.sessions.reverse.flatMap queuedFrames

/-- The message being sent. -/
def inHand (s : GatewayLink) : List GatewayMessage :=
  match s.phase with
  | .sending msg => [msg]
  | _ => []

def closeSent (s : GatewayLink) : Prop := ∃ session ∈ s.sessions, Frame.close ∈ session

/-- The current connection has begun with `Register`. -/
def Registered (serverUrl : String) (s : GatewayLink) : Prop :=
  ∃ rest past, s.sessions = (.text (.register serverUrl) :: rest) :: past

theorem Registered.record {serverUrl : String} {s : GatewayLink} (registered : Registered serverUrl s)
    (frame : Frame) : Registered serverUrl (s.record frame) := by
  obtain ⟨rest, past, shape⟩ := registered
  exact ⟨rest ++ [frame], past, by simp [GatewayLink.record, shape]⟩

theorem Registered.queuedSent_record {serverUrl : String} {s : GatewayLink}
    (registered : Registered serverUrl s) (frame : Frame) :
    (s.record frame).queuedSent = s.queuedSent ++ frame.message?.toList := by
  obtain ⟨rest, past, shape⟩ := registered
  have recorded : (s.record frame).sessions =
      (.text (.register serverUrl) :: (rest ++ [frame])) :: past := by
    simp [GatewayLink.record, shape]
  cases message : frame.message? with
  | none => simp [queuedSent, recorded, shape, queuedFrames, message]
  | some msg => simp [queuedSent, recorded, shape, queuedFrames, message]

theorem mem_record {s : GatewayLink} {frame : Frame} {session : List Frame}
    (member : session ∈ (s.record frame).sessions) :
    session ∈ s.sessions ∨ ∃ current ∈ s.sessions, session = current ++ [frame] := by
  simp only [record] at member
  cases shape : s.sessions with
  | nil => simp [shape] at member
  | cons current past =>
    simp only [shape, List.modifyHead_cons, List.mem_cons] at member
    rcases member with rfl | member
    · exact .inr ⟨current, by simp, rfl⟩
    · exact .inl (by simp [member])

end GatewayLink

open GatewayLink

/-- The first frame, if any, is `Register`. -/
def RegisterFirst (serverUrl : String) (session : List Frame) : Prop :=
  ∀ frame ∈ session.head?, frame = .text (.register serverUrl)

/-- Where the current connection stands. -/
def SessionPhase (serverUrl : String) (s : GatewayLink) : Prop :=
  match s.phase with
  | .registering => ∃ past, s.sessions = [] :: past
  | .selecting | .sending _ | .ponging _ | .closing => Registered serverUrl s
  | .reconnecting | .connecting | .sleeping | .stopped => True

structure SessionInvariant (serverUrl : String) (s : GatewayLink) : Prop where
  registerFirst : ∀ session ∈ s.sessions, RegisterFirst serverUrl session
  phase : SessionPhase serverUrl s
  order : (s.queuedSent ++ s.inHand ++ s.outbound.buffer).Sublist s.accepted
  closed : s.closeSent → s.phase = .stopped

theorem sessionInvariant_init (serverUrl : String) : SessionInvariant serverUrl .init where
  registerFirst := by simp [GatewayLink.init]
  phase := trivial
  order := List.Sublist.refl _
  closed := by simp [GatewayLink.closeSent, GatewayLink.init]

section

variable {serverUrl : String} {s s' : GatewayLink}

theorem SessionInvariant.registered (inv : SessionInvariant serverUrl s)
    (phase : s.phase = .selecting ∨ (∃ msg, s.phase = .sending msg) ∨
      (∃ data, s.phase = .ponging data) ∨ s.phase = .closing) : Registered serverUrl s := by
  have current := inv.phase
  simp only [SessionPhase] at current
  rcases phase with phase | ⟨msg, phase⟩ | ⟨data, phase⟩ | phase
  all_goals
    rw [phase] at current
    exact current

theorem SessionInvariant.opened (inv : SessionInvariant serverUrl s)
    (phase : s.phase = .registering) : ∃ past, s.sessions = [] :: past := by
  have current := inv.phase
  simp only [SessionPhase] at current
  rw [phase] at current
  exact current

theorem SessionInvariant.notClosed (inv : SessionInvariant serverUrl s)
    (live : s.phase ≠ .stopped) {session : List Frame} (member : session ∈ s.sessions) :
    Frame.close ∉ session := by
  intro closing
  exact live (inv.closed ⟨session, member, closing⟩)

/-- A step of the task that sends nothing and takes nothing. -/
theorem SessionInvariant.moved (inv : SessionInvariant serverUrl s) (live : s.phase ≠ .stopped)
    {next : LinkPhase} {delay : Nat} {paces : List Pace}
    (free : GatewayLink.inHand { s with phase := next, delay, paces } = [])
    (phase : SessionPhase serverUrl { s with phase := next, delay, paces }) :
    SessionInvariant serverUrl { s with phase := next, delay, paces } where
  registerFirst := inv.registerFirst
  phase := phase
  order := by
    rw [free, List.append_nil]
    -- what was in hand is dropped
    have sent : s.queuedSent.Sublist (s.queuedSent ++ s.inHand) := List.sublist_append_left ..
    exact (sent.append (List.Sublist.refl _)).trans inv.order
  closed := by
    rintro ⟨session, member, closing⟩
    exact absurd closing (inv.notClosed live member)

/-- A frame that goes out on the current connection. -/
theorem SessionInvariant.recorded (inv : SessionInvariant serverUrl s)
    (registered : Registered serverUrl s) (live : s.phase ≠ .stopped) (frame : Frame)
    (next : LinkPhase) (delivers : frame.message?.toList = s.inHand)
    (free : GatewayLink.inHand { s.record frame with phase := next } = [])
    (closes : frame = .close → next = .stopped)
    (phase : SessionPhase serverUrl { s.record frame with phase := next }) :
    SessionInvariant serverUrl { s.record frame with phase := next } where
  registerFirst := by
    intro session member
    obtain ⟨rest, past, shape⟩ := registered
    have recorded : (s.record frame).sessions =
        (.text (.register serverUrl) :: (rest ++ [frame])) :: past := by
      simp [GatewayLink.record, shape]
    rcases List.mem_cons.mp (recorded ▸ member) with rfl | old
    · intro first begins
      simpa using begins.symm
    · exact inv.registerFirst session (by simp [shape, old])
  phase := phase
  order := by
    have sent : GatewayLink.queuedSent { s.record frame with phase := next } =
        s.queuedSent ++ s.inHand := by
      rw [← delivers]
      exact registered.queuedSent_record frame
    rw [sent, free, List.append_nil]
    exact inv.order
  closed := by
    rintro ⟨session, member, closing⟩
    rcases mem_record member with old | ⟨current, old, rfl⟩
    · exact absurd closing (inv.notClosed live old)
    · rcases List.mem_append.mp closing with earlier | new
      · exact absurd earlier (inv.notClosed live old)
      · exact closes (List.mem_singleton.mp new).symm

theorem sessionInvariant_step (inv : SessionInvariant serverUrl s) (action : LinkAction)
    (stepped : s.step serverUrl action = some s') : SessionInvariant serverUrl s' := by
  cases step_cases serverUrl s s' action stepped with
  | enqueued msg outbound live queued =>
    refine ⟨inv.registerFirst, inv.phase, ?_, inv.closed⟩
    have kept := inv.order.append (List.Sublist.refl [msg])
    rw [List.append_assoc, ← queued] at kept
    exact kept
  | signalled => exact ⟨inv.registerFirst, inv.phase, inv.order, inv.closed⟩
  | attempted phase => exact inv.moved (by simp [phase]) rfl trivial
  | refused e phase => exact inv.moved (by simp [phase]) rfl trivial
  | connected phase =>
    have free : s.inHand = [] := by simp [inHand, phase]
    have order := inv.order
    rw [free, List.append_nil] at order
    refine ⟨?_, ⟨s.sessions, rfl⟩, ?_, ?_⟩
    · intro session member
      rcases List.mem_cons.mp member with rfl | old
      · simp [RegisterFirst]
      · exact inv.registerFirst session old
    · simpa [queuedSent, queuedFrames, inHand] using order
    · rintro ⟨session, member, closing⟩
      rcases List.mem_cons.mp member with rfl | old
      · simp at closing
      · exact absurd closing (inv.notClosed (by simp [phase]) old)
  | registered phase =>
    obtain ⟨past, shape⟩ := inv.opened phase
    have order := inv.order
    have recorded : (s.record (.text (.register serverUrl))).sessions =
        [.text (.register serverUrl)] :: past := by
      simp [GatewayLink.record, shape]
    refine ⟨?_, ⟨[], past, recorded⟩, ?_, ?_⟩
    · intro session member
      rcases List.mem_cons.mp (recorded ▸ member) with rfl | old
      · simp [RegisterFirst]
      · exact inv.registerFirst session (by simp [shape, old])
    · -- the first frame is no queued message
      have same : queuedSent { s.record (.text (.register serverUrl)) with phase := .selecting } =
          s.queuedSent := by
        simp [queuedSent, recorded, shape, queuedFrames]
      rw [same]
      simpa [inHand, phase, GatewayLink.record] using order
    · rintro ⟨session, member, closing⟩
      rcases List.mem_cons.mp (recorded ▸ member) with rfl | old
      · simp at closing
      · have member : session ∈ s.sessions := by simp [shape, old]
        exact absurd closing (inv.notClosed (by simp [phase]) member)
  | unregistered serialised sent failed phase =>
    exact inv.moved (by simp [phase]) rfl trivial
  | abandoned signalled phase =>
    refine inv.moved ?_ rfl trivial
    rcases phase with phase | phase <;> simp [phase]
  | shuttingDown signalled phase =>
    exact inv.moved (by simp [phase]) rfl (inv.registered (.inl phase))
  | took msg outbound phase popped =>
    refine ⟨inv.registerFirst, inv.registered (.inl phase), ?_, ?_⟩
    · have order := inv.order
      simpa [inHand, phase, popped, queuedSent] using order
    · rintro ⟨session, member, closing⟩
      exact absurd closing (inv.notClosed (by simp [phase]) member)
  | sent msg phase =>
    have registered := inv.registered (.inr (.inl ⟨msg, phase⟩))
    exact inv.recorded registered (by simp [phase]) (.text msg) .selecting
      (by simp [Frame.message?, inHand, phase]) rfl (by simp) (registered.record _)
  | unsent msg serialised sent next failed phase goesOn =>
    have registered := inv.registered (.inr (.inl ⟨msg, phase⟩))
    rcases goesOn with rfl | rfl
    · exact inv.moved (by simp [phase]) rfl trivial
    · exact inv.moved (by simp [phase]) rfl registered
  | received item next phase goesOn =>
    have registered := inv.registered (.inl phase)
    rcases goesOn with rfl | rfl | ⟨data, rfl⟩
    · exact inv.moved (by simp [phase]) rfl registered
    · exact inv.moved (by simp [phase]) rfl trivial
    · exact inv.moved (by simp [phase]) rfl registered
  | ponged data phase =>
    have registered := inv.registered (.inr (.inr (.inl ⟨data, phase⟩)))
    exact inv.recorded registered (by simp [phase]) (.pong data) .selecting
      (by simp [Frame.message?, inHand, phase]) rfl (by simp) (registered.record _)
  | unponged data e phase =>
    have registered := inv.registered (.inr (.inr (.inl ⟨data, phase⟩)))
    exact inv.moved (by simp [phase]) rfl registered
  | closed phase =>
    have registered := inv.registered (.inr (.inr (.inr phase)))
    exact inv.recorded registered (by simp [phase]) .close .stopped
      (by simp [Frame.message?, inHand, phase]) rfl (fun _ => rfl) trivial
  | unclosed e phase => exact inv.moved (by simp [phase]) rfl trivial
  | woke phase => exact inv.moved (by simp [phase]) rfl trivial

/-- A task that has stopped sends nothing and dials nobody. -/
theorem stopped_step (stopped : s.phase = .stopped) (action : LinkAction)
    (stepped : s.step serverUrl action = some s') :
    s'.phase = .stopped ∧ s'.sessions = s.sessions ∧ s'.paces = s.paces := by
  cases step_cases serverUrl s s' action stepped with
  | signalled => exact ⟨stopped, rfl, rfl⟩
  | enqueued msg outbound live queued => exact absurd stopped live
  | abandoned signalled phase => rcases phase with phase | phase <;> simp [stopped] at phase
  | _ => simp_all

theorem stopped_run (stopped : s.phase = .stopped) (actions : List LinkAction)
    (ran : Runs.run (GatewayLink.step serverUrl) s actions = some s') :
    s'.sessions = s.sessions ∧ s'.paces = s.paces := by
  refine (Runs.run_invariant _
    (fun t => t.phase = .stopped ∧ t.sessions = s.sessions ∧ t.paces = s.paces) ?_ s s' actions
    ⟨stopped, rfl, rfl⟩ ran).2
  rintro before action after ⟨halted, sessions, paces⟩ stepped
  obtain ⟨halted', sessions', paces'⟩ := stopped_step halted action stepped
  exact ⟨halted', sessions'.trans sessions, paces'.trans paces⟩

end

/-- In every run: on each connection the first frame is `Register` with this server's URL; the
queued messages sent on all connections are, in order and without repetition, messages that
`send` accepted; and once the `Close` frame is sent, no frame and no attempt to connect
follows. -/
theorem session_order (serverUrl : String) (actions : List LinkAction) (s : GatewayLink)
    (ran : Runs.run (GatewayLink.step serverUrl) .init actions = some s) :
    (∀ session ∈ s.sessions, RegisterFirst serverUrl session) ∧
      s.queuedSent.Sublist s.accepted ∧
      (s.closeSent → ∀ more t, Runs.run (GatewayLink.step serverUrl) s more = some t →
        t.sessions = s.sessions ∧ t.paces = s.paces) := by
  have inv : SessionInvariant serverUrl s :=
    Runs.run_invariant _ (SessionInvariant serverUrl)
      (fun _ action _ inv stepped => sessionInvariant_step inv action stepped) .init s actions
      (sessionInvariant_init serverUrl) ran
  refine ⟨inv.registerFirst, ?_, fun closed more t later => ?_⟩
  · have sent : s.queuedSent.Sublist (s.queuedSent ++ s.inHand ++ s.outbound.buffer) := by
      rw [List.append_assoc]
      exact List.sublist_append_left ..
    exact sent.trans inv.order
  · exact stopped_run (inv.closed closed) more later

/-- One message is sent before the task shuts down. -/
def closingRun (msg : GatewayMessage) : List LinkAction :=
  [.attempt, .connect (.ok ()), .register (.ok ()) (.ok ()), .enqueue msg, .takeMessage,
    .send (.ok ()) (.ok ()), .signalShutdown, .takeShutdown, .sendClose (.ok ())]

theorem closed_session_is_final :
    ∃ s, Runs.run (GatewayLink.step "wss://here") .init (closingRun (.connect "peer")) = some s ∧
      s.sessions = [[.text (.register "wss://here"), .text (.connect "peer"), .close]] ∧
      s.queuedSent.Sublist s.accepted ∧
      ∀ more t, Runs.run (GatewayLink.step "wss://here") s more = some t →
        t.sessions = s.sessions ∧ t.paces = s.paces := by
  refine ⟨_, rfl, rfl, ?_⟩
  have order := session_order "wss://here" (closingRun (.connect "peer")) _ rfl
  exact ⟨order.2.1, order.2.2 ⟨_, List.mem_singleton.mpr rfl, by simp⟩⟩

/-! ### What becomes of the queued messages -/

/-- What was taken out of the queue has been sent, or is the message being sent, and what was
accepted has been taken or is still queued. -/
def NothingLost (s : GatewayLink) : Prop :=
  s.taken = s.queuedSent ++ s.inHand ∧ s.accepted = s.taken ++ s.outbound.buffer

/-- A queued message is serialised and sent. -/
def LinkAction.Delivers : LinkAction → Prop
  | .send serialised sent => serialised = .ok () ∧ sent = .ok ()
  | _ => True

instance : DecidablePred LinkAction.Delivers
  | .send serialised sent => inferInstanceAs (Decidable (serialised = .ok () ∧ sent = .ok ()))
  | .enqueue _ | .signalShutdown | .attempt | .connect _ | .register _ _ | .takeShutdown
  | .takeMessage | .receive _ | .sendPong _ | .sendClose _ | .wake => .isTrue trivial

section

variable {serverUrl : String} {s s' : GatewayLink}

/-- A step that takes nothing, and sends what was in hand if anything. -/
theorem NothingLost.same (kept : NothingLost s) {phase : LinkPhase} {delay : Nat} {shutdown : Bool}
    {sessions : List (List Frame)} {paces : List Pace}
    (sent : queuedSent { s with phase, delay, shutdown, sessions, paces } ++
        GatewayLink.inHand { s with phase, delay, shutdown, sessions, paces } =
      s.queuedSent ++ s.inHand) :
    NothingLost { s with phase, delay, shutdown, sessions, paces } := by
  constructor
  · rw [sent]
    exact kept.1
  · exact kept.2

/-- A frame that goes out on the current connection. -/
theorem NothingLost.recorded (kept : NothingLost s) (registered : Registered serverUrl s)
    (frame : Frame) (next : LinkPhase) (delivers : frame.message?.toList = s.inHand)
    (free : GatewayLink.inHand { s.record frame with phase := next } = []) :
    NothingLost { s.record frame with phase := next } := by
  have sent : queuedSent { s.record frame with phase := next } = s.queuedSent ++ s.inHand := by
    rw [← delivers]
    exact registered.queuedSent_record frame
  constructor
  · rw [sent, free, List.append_nil]
    exact kept.1
  · exact kept.2

theorem nothingLost_step_iff (inv : SessionInvariant serverUrl s) (kept : NothingLost s)
    (action : LinkAction) (stepped : s.step serverUrl action = some s') :
    NothingLost s' ↔ action.Delivers := by
  cases step_cases serverUrl s s' action stepped with
  | enqueued msg outbound live queued =>
    refine iff_of_true ⟨kept.1, ?_⟩ trivial
    rw [queued, ← List.append_assoc, ← kept.2]
  | signalled => exact iff_of_true (kept.same rfl) trivial
  | connected phase =>
    refine iff_of_true (kept.same ?_) trivial
    simp [queuedSent, queuedFrames, inHand, phase]
  | registered phase =>
    obtain ⟨past, shape⟩ := inv.opened phase
    refine iff_of_true (kept.same ?_) trivial
    simp [queuedSent, GatewayLink.record, shape, queuedFrames, inHand, phase]
  | took msg outbound phase popped =>
    obtain ⟨sent, split⟩ := kept
    refine iff_of_true ⟨?_, ?_⟩ trivial
    · simpa [inHand, phase, queuedSent] using sent
    · simpa [popped] using split
  | sent msg phase =>
    have registered := inv.registered (.inr (.inl ⟨msg, phase⟩))
    refine iff_of_true (kept.recorded registered (.text msg) .selecting ?_ rfl) ⟨rfl, rfl⟩
    simp [Frame.message?, inHand, phase]
  | unsent msg serialised sent next failed phase goesOn =>
    -- the message is neither sent nor in hand
    refine iff_of_false ?_ failed
    rintro ⟨gone, -⟩
    have dropped : GatewayLink.inHand { s with phase := next } = [] := by
      rcases goesOn with rfl | rfl <;> rfl
    have taken := kept.1
    rw [gone, dropped] at taken
    simp [queuedSent, inHand, phase] at taken
  | ponged data phase =>
    have registered := inv.registered (.inr (.inr (.inl ⟨data, phase⟩)))
    refine iff_of_true (kept.recorded registered (.pong data) .selecting ?_ rfl) trivial
    simp [Frame.message?, inHand, phase]
  | closed phase =>
    have registered := inv.registered (.inr (.inr (.inr phase)))
    refine iff_of_true (kept.recorded registered .close .stopped ?_ rfl) trivial
    simp [Frame.message?, inHand, phase]
  | abandoned signalled phase =>
    refine iff_of_true (kept.same ?_) trivial
    rcases phase with phase | phase <;> simp [queuedSent, inHand, phase]
  | received item next phase goesOn =>
    refine iff_of_true (kept.same ?_) trivial
    rcases goesOn with rfl | rfl | ⟨data, rfl⟩ <;> simp [queuedSent, inHand, phase]
  | attempted phase | refused e phase | unregistered _ _ _ phase | shuttingDown _ phase
  | unponged _ _ phase | unclosed _ phase | woke phase =>
    refine iff_of_true (kept.same ?_) trivial
    simp [queuedSent, inHand, phase]

end

/-- A run loses no message exactly when every message taken out of the queue is serialised
and sent. -/
theorem nothing_lost_iff (serverUrl : String) (actions : List LinkAction) (s : GatewayLink)
    (ran : Runs.run (GatewayLink.step serverUrl) .init actions = some s) :
    Runs.Always (GatewayLink.step serverUrl) NothingLost .init actions ↔
      ∀ action ∈ actions, action.Delivers := by
  have empty : NothingLost .init := ⟨rfl, rfl⟩
  exact Runs.always_iff_forall _ LinkAction.Delivers (SessionInvariant serverUrl) NothingLost
    (fun _ action _ inv stepped => sessionInvariant_step inv action stepped)
    (fun _ action _ inv kept stepped => nothingLost_step_iff inv kept action stepped) .init s
    actions (sessionInvariant_init serverUrl) empty ran

/-- A message is sent after the peer has closed the first connection. -/
def resumedRun (msg : GatewayMessage) : List LinkAction :=
  [.attempt, .connect (.ok ()), .register (.ok ()) (.ok ()), .receive none, .enqueue msg, .wake,
    .attempt, .connect (.ok ()), .register (.ok ()) (.ok ()), .takeMessage, .send (.ok ()) (.ok ())]

theorem message_survives_reconnect :
    ∃ s, Runs.run (GatewayLink.step "wss://here") .init (resumedRun (.connect "peer")) = some s ∧
      s.queuedSent = [.connect "peer"] ∧
      Runs.Always (GatewayLink.step "wss://here") NothingLost .init
        (resumedRun (.connect "peer")) := by
  refine ⟨_, rfl, rfl, (nothing_lost_iff "wss://here" _ _ rfl).mpr ?_⟩
  decide

/-- The peer is gone when the message is sent: it is in no queue and was never sent. -/
theorem message_lost_by_failed_send :
    ∃ s, Runs.run (GatewayLink.step "wss://here") .init
        [.attempt, .connect (.ok ()), .register (.ok ()) (.ok ()), .enqueue (.connect "peer"),
          .takeMessage, .send (.ok ()) (.error "broken pipe"), .wake, .attempt,
          .connect (.ok ()), .register (.ok ()) (.ok ())] = some s ∧
      s.accepted = [.connect "peer"] ∧ s.queuedSent = [] ∧ s.outbound.buffer = [] ∧
      ¬NothingLost s := by
  refine ⟨_, rfl, rfl, rfl, rfl, ?_⟩
  rintro ⟨taken, -⟩
  cases taken

end Hamlet
