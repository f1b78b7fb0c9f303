import Hamlet.Lib.Backoff
import Hamlet.Lib.BoundedQueue
import Hamlet.Lib.Runs
import Hamlet.CloudGateway.Connection

/-!
# The WebSocket connection task

`spawn_connection_task` of the cloud gateway: connect, announce this server by a `Register`
frame, then serve the outbound queue, the inbound stream and the shutdown signal until
something breaks. A step ends where the task awaits something; what the network, the
serialiser and the choice of `select!` yield is part of the action.
-/

namespace Hamlet

abbrev outboundCapacity : Nat := 64

/-- In seconds. -/
abbrev initialReconnectDelay : Nat := 2

/-- In seconds. -/
abbrev maxReconnectDelay : Nat := 60

/-- What the task sends. A text frame is the JSON of a message. -/
inductive Frame where
  | text (msg : GatewayMessage)
  | pong (data : List UInt8)
  | close
  deriving Repr

/-- What the other side sends. -/
inductive WsMessage where
  | text (body : String)
  | binary (data : List UInt8)
  | ping (data : List UInt8)
  | pong (data : List UInt8)
  | close
  deriving DecidableEq, Repr

inductive LinkPhase where
  /-- At the head of the `'reconnect` loop. -/
  | reconnecting
  /-- In `connect_async`. -/
  | connecting
  /-- Connected, about to send `Register`. -/
  | registering
  /-- At the inner `select!`. -/
  | selecting
  /-- Serialising and sending a message taken from the queue. -/
  | sending (msg : GatewayMessage)
  | ponging (data : List UInt8)
  | closing
  /-- In the pause before the next attempt. -/
  | sleeping
  | stopped
  deriving Repr

/-- What counts for the pace of the attempts. -/
inductive Pace where
  | attempt
  | connected
  | slept (secs : Nat)
  deriving DecidableEq, Repr

structure GatewayLink where
  phase : LinkPhase
  delay : Nat
  outbound : BoundedQueue GatewayMessage outboundCapacity
  /-- The shutdown sender was used or dropped. -/
  shutdown : Bool
  /-- Messages that `CloudGatewayHandle::send` has put on the queue. -/
  accepted : List GatewayMessage
  /-- Messages taken out of the queue. -/
  taken : List GatewayMessage
  /-- The frames sent on each connection, the latest connection first. -/
  sessions : List (List Frame)
  paces : List Pace

inductive LinkAction where
  /-- `CloudGatewayHandle::send`. -/
  | enqueue (msg : GatewayMessage)
  | signalShutdown
  | attempt
  | connect (result : Except String Unit)
  | register (serialised sent : Except String Unit)
  | takeShutdown
  | takeMessage
  | send (serialised sent : Except String Unit)
  /-- The next item of the inbound stream. -/
  | receive (item : Option (Except String WsMessage))
  | sendPong (sent : Except String Unit)
  | sendClose (sent : Except String Unit)
  | wake
  deriving Repr

namespace GatewayLink

def init : GatewayLink where
  phase := .reconnecting
  delay := initialReconnectDelay
  outbound := .empty
  shutdown := false
  accepted := []
  taken := []
  sessions := []
  paces := []

/-- A frame that the sink accepted, on the current connection. -/
def record (s : GatewayLink) (frame : Frame) : GatewayLink :=
  { s with sessions := s.sessions.modifyHead (· ++ [frame]) }

/-- `handle_inbound` logs a text and sends nothing. -/
def handleItem (s : GatewayLink) : Option (Except String WsMessage) → GatewayLink
  | some (.ok (.ping data)) => { s with phase := .ponging data }
  | some (.ok .close) | none | some (.error _) => { s with phase := .sleeping }
  | some (.ok (.text _)) | some (.ok (.binary _)) | some (.ok (.pong _)) => s

def step (serverUrl : String) (s : GatewayLink) : LinkAction → Option GatewayLink
  | .enqueue msg =>
    match s.phase with
    -- the receiver is gone with the task
    | .stopped => none
    | _ =>
      (s.outbound.push msg).map fun outbound =>
        { s with outbound, accepted := s.accepted ++ [msg] }
  | .signalShutdown => some { s with shutdown := true }
  | .attempt =>
    match s.phase with
    | .reconnecting => some { s with phase := .connecting, paces := s.paces ++ [.attempt] }
    | _ => none
  | .connect result =>
    match s.phase, result with
    | .connecting, .error _ => some { s with phase := .sleeping }
    | .connecting, .ok () =>
      some { s with
        phase := .registering
        delay := initialReconnectDelay
        sessions := [] :: s.sessions
        paces := s.paces ++ [.connected] }
    | _, _ => none
  | .register serialised sent =>
    match s.phase with
    | .registering =>
      match serialised, sent with
      | .ok (), .ok () => some { s.record (.text (.register serverUrl)) with phase := .selecting }
      -- back to the head of the loop without a pause
      | .ok (), .error _ | .error _, _ => some { s with phase := .reconnecting }
    | _ => none
  | .takeShutdown =>
    if s.shutdown then
      match s.phase with
      | .reconnecting | .connecting => some { s with phase := .stopped }
      | .selecting => some { s with phase := .closing }
      | _ => none
    else none
  | .takeMessage =>
    match s.phase with
    | .selecting =>
      s.outbound.pop.map fun (msg, outbound) =>
        { s with phase := .sending msg, outbound, taken := s.taken ++ [msg] }
    | _ => none
  | .send serialised sent =>
    match s.phase with
    | .sending msg =>
      match serialised, sent with
      | .ok (), .ok () => some { s.record (.text msg) with phase := .selecting }
      | .ok (), .error _ => some { s with phase := .sleeping }
      | .error _, _ => some { s with phase := .selecting }
    | _ => none
  | .receive item =>
    match s.phase with
    | .selecting => some (s.handleItem item)
    | _ => none
  | .sendPong sent =>
    match s.phase, sent with
    | .ponging data, .ok () => some { s.record (.pong data) with phase := .selecting }
    | .ponging _, .error _ => some { s with phase := .selecting }
    | _, _ => none
  | .sendClose sent =>
    match s.phase, sent with
    | .closing, .ok () => some { s.record .close with phase := .stopped }
    | .closing, .error _ => some { s with phase := .stopped }
    | _, _ => none
  | .wake =>
    match s.phase with
    | .sleeping =>
      some { s with
        phase := .reconnecting
        delay := Backoff.next maxReconnectDelay s.delay
        paces := s.paces ++ [.slept s.delay] }
    | _ => none

/-! ### What a step can do -/

inductive Steps (serverUrl : String) (s : GatewayLink) : LinkAction → GatewayLink → Prop where
  | enqueued (msg : GatewayMessage) (outbound : BoundedQueue GatewayMessage outboundCapacity)
      (live : s.phase ≠ .stopped) (queued : outbound.buffer = s.outbound.buffer ++ [msg]) :
      Steps serverUrl s (.enqueue msg) { s with outbound, accepted := s.accepted ++ [msg] }
  | signalled : Steps serverUrl s .signalShutdown { s with shutdown := true }
  | attempted (phase : s.phase = .reconnecting) :
      Steps serverUrl s .attempt { s with phase := .connecting, paces := s.paces ++ [.attempt] }
  | refused (e : String) (phase : s.phase = .connecting) :
      Steps serverUrl s (.connect (.error e)) { s with phase := .sleeping }
  | connected (phase : s.phase = .connecting) :
      Steps serverUrl s (.connect (.ok ()))
        { s with
          phase := .registering
          delay := initialReconnectDelay
          sessions := [] :: s.sessions
          paces := s.paces ++ [.connected] }
  | registered (phase : s.phase = .registering) :
      Steps serverUrl s (.register (.ok ()) (.ok ()))
        { s.record (.text (.register serverUrl)) with phase := .selecting }
  | unregistered (serialised sent : Except String Unit)
      (failed : ¬(serialised = .ok () ∧ sent = .ok ())) (phase : s.phase = .registering) :
      Steps serverUrl s (.register serialised sent) { s with phase := .reconnecting }
  | abandoned (signalled : s.shutdown) (phase : s.phase = .reconnecting ∨ s.phase = .connecting) :
      Steps serverUrl s .takeShutdown { s with phase := .stopped }
  | shuttingDown (signalled : s.shutdown) (phase : s.phase = .selecting) :
      Steps serverUrl s .takeShutdown { s with phase := .closing }
  | took (msg : GatewayMessage) (outbound : BoundedQueue GatewayMessage outboundCapacity)
      (phase : s.phase = .selecting) (popped : s.outbound.buffer = msg :: outbound.buffer) :
      Steps serverUrl s .takeMessage
        { s with phase := .sending msg, outbound, taken := s.taken ++ [msg] }
  | sent (msg : GatewayMessage) (phase : s.phase = .sending msg) :
      Steps serverUrl s (.send (.ok ()) (.ok ()))
        { s.record (.text msg) with phase := .selecting }
  | unsent (msg : GatewayMessage) (serialised sent : Except String Unit) (next : LinkPhase)
      (failed : ¬(serialised = .ok () ∧ sent = .ok ())) (phase : s.phase = .sending msg)
      (goesOn : next = .sleeping ∨ next = .selecting) :
      Steps serverUrl s (.send serialised sent) { s with phase := next }
  | received (item : Option (Except String WsMessage)) (next : LinkPhase)
      (phase : s.phase = .selecting)
      (goesOn : next = .selecting ∨ next = .sleeping ∨ ∃ data, next = .ponging data) :
      Steps serverUrl s (.receive item) { s with phase := next }
  | ponged (data : List UInt8) (phase : s.phase = .ponging data) :
      Steps serverUrl s (.sendPong (.ok ())) { s.record (.pong data) with phase := .selecting }
  | unponged (data : List UInt8) (e : String) (phase : s.phase = .ponging data) :
      Steps serverUrl s (.sendPong (.error e)) { s with phase := .selecting }
  | closed (phase : s.phase = .closing) :
      Steps serverUrl s (.sendClose (.ok ())) { s.record .close with phase := .stopped }
  | unclosed (e : String) (phase : s.phase = .closing) :
      Steps serverUrl s (.sendClose (.error e)) { s with phase := .stopped }
  | woke (phase : s.phase = .sleeping) :
      Steps serverUrl s .wake
        { s with
          phase := .reconnecting
          delay := Backoff.next maxReconnectDelay s.delay
          paces := s.paces ++ [.slept s.delay] }

theorem handleItem_cases (s : GatewayLink) (item : Option (Except String WsMessage))
    (phase : s.phase = .selecting) :
    ∃ next, s.handleItem item = { s with phase := next } ∧
      (next = .selecting ∨ next = .sleeping ∨ ∃ data, next = .ponging data) := by
  unfold handleItem
  split
  next data => exact ⟨.ponging data, rfl, .inr (.inr ⟨data, rfl⟩)⟩
  all_goals first
    | exact ⟨.sleeping, rfl, .inr (.inl rfl)⟩
    | exact ⟨.selecting, by rw [← phase], .inl rfl⟩

theorem step_cases (serverUrl : String) (s s' : GatewayLink) (action : LinkAction)
    (stepped : s.step serverUrl action = some s') : Steps serverUrl s action s' := by
  cases action with
  | enqueue msg =>
    simp only [step] at stepped
    split at stepped
    next => cases stepped
    next live =>
      obtain ⟨outbound, pushed, rfl⟩ := Option.map_eq_some_iff.mp stepped
      exact .enqueued msg outbound live ((BoundedQueue.push_iff ..).mp pushed).2
  | signalShutdown =>
    cases stepped
    exact .signalled
  | attempt =>
    simp only [step] at stepped
    split at stepped
    next phase =>
      cases stepped
      exact .attempted phase
    next => cases stepped
  | connect result =>
    simp only [step] at stepped
    split at stepped
    next e phase =>
      cases stepped
      exact .refused e phase
    next phase =>
      cases stepped
      exact .connected phase
    next => cases stepped
  | register serialised sent =>
    simp only [step] at stepped
    split at stepped
    next phase =>
      split at stepped
      next =>
        cases stepped
        exact .registered phase
      all_goals
        cases stepped
        exact .unregistered _ _ (by simp) phase
    next => cases stepped
  | takeShutdown =>
    simp only [step] at stepped
    obtain ⟨signalled, stepped⟩ := Option.ite_none_right_eq_some.mp stepped
    split at stepped
    next phase =>
      cases stepped
      exact .abandoned signalled (.inl phase)
    next phase =>
      cases stepped
      exact .abandoned signalled (.inr phase)
    next phase =>
      cases stepped
      exact .shuttingDown signalled phase
    next => cases stepped
  | takeMessage =>
    simp only [step] at stepped
    split at stepped
    next phase =>
      obtain ⟨⟨msg, outbound⟩, popped, rfl⟩ := Option.map_eq_some_iff.mp stepped
      exact .took msg outbound phase ((BoundedQueue.pop_iff ..).mp popped)
    next => cases stepped
  | send serialised sent =>
    simp only [step] at stepped
    split at stepped
    next msg phase =>
      split at stepped
      next =>
        cases stepped
        exact .sent msg phase
      next =>
        cases stepped
        exact .unsent msg _ _ .sleeping (by simp) phase (.inl rfl)
      next =>
        cases stepped
        exact .unsent msg _ _ .selecting (by simp) phase (.inr rfl)
    next => cases stepped
  | receive item =>
    simp only [step] at stepped
    split at stepped
    next phase =>
      obtain ⟨next, shape, goesOn⟩ := s.handleItem_cases item phase
      rw [shape] at stepped
      cases stepped
      exact .received item next phase goesOn
    next => cases stepped
  | sendPong sent =>
    simp only [step] at stepped
    split at stepped
    next data phase =>
      cases stepped
      exact .ponged data phase
    next data e phase =>
      cases stepped
      exact .unponged data e phase
    next => cases stepped
  | sendClose sent =>
    simp only [step] at stepped
    split at stepped
    next phase =>
      cases stepped
      exact .closed phase
    next e phase =>
      cases stepped
      exact .unclosed e phase
    next => cases stepped
  | wake =>
    simp only [step] at stepped
    split at stepped
    next phase =>
      cases stepped
      exact .woke phase
    next => cases stepped

end GatewayLink

end Hamlet
