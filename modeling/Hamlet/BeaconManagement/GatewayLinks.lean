import Hamlet.BeaconManagement.MessageLoop
import Hamlet.CloudGateway.ConnectionTask

/-!
# The connection tasks of the beacon message loop

`run_beacon_message_loop` with the tasks that `connect_to_gateway` spawns for it. A task runs
beside the loop from the moment on that it is spawned, also while the loop is still in
`handle.send`. What it hears of the loop is that one message, and the drop of its shutdown sender.

What an iteration does to the registry is seen by the loop alone, so it is done at once. The
senders that the registry lets go are dropped one by one, before the next iteration begins.
-/

namespace Hamlet

structure GatewayLinks where
  loop : MessageLoop
  /-- The task of each connection, in the same order. -/
  links : List GatewayLink
  /-- The loop is in `handle.send` on the last connection. -/
  queueing : Bool

inductive GatewayLinksAction where
  /-- An iteration of the loop, up to `handle.send` if it opens a connection. -/
  | loop (event : LoopEvent)
  /-- `handle.send(registration)`. -/
  | queue
  | dropSender (index : Nat)
  /-- The task of a connection goes on. -/
  | link (index : Nat) (action : LinkAction)

/-- What a connection task does itself. -/
def LinkAction.isOwn : LinkAction → Bool
  | .enqueue _ | .signalShutdown => false
  | .attempt | .connect _ | .register _ _ | .takeShutdown | .takeMessage | .send _ _ | .receive _
  | .sendPong _ | .sendClose _ | .wake => true

namespace GatewayLinks

def init (ownGatewayUrl : Option String) : GatewayLinks where
  loop := .init ownGatewayUrl
  links := []
  queueing := false

/-- A record holds the shutdown sender. -/
def Held (loop : MessageLoop) (tx : Nat) : Prop :=
  ∃ id ∈ loop.registry.records.keys,
    (loop.registry.records.lookup id).bind (·.gatewayShutdownTx) = some tx

instance (loop : MessageLoop) (tx : Nat) : Decidable (Held loop tx) :=
  inferInstanceAs (Decidable (∃ id ∈ loop.registry.records.keys, _))

/-- The loop is at its `select!`, and the senders that it has let go are dropped. -/
def Settled (s : GatewayLinks) : Prop :=
  s.queueing = false ∧
    ∀ tx < s.links.length, Held s.loop tx ∨ (s.links[tx]?).any (·.shutdown)

instance (s : GatewayLinks) : Decidable s.Settled :=
  inferInstanceAs (Decidable (_ ∧ ∀ tx < s.links.length, _))

/-- One task takes a step, or is acted upon. -/
def stepLink (serverUrl : String) (s : GatewayLinks) (index : Nat) (action : LinkAction) :
    Option GatewayLinks := do
  let link ← s.links[index]?
  let link ← link.step serverUrl action
  pure { s with links := s.links.set index link }

/-- What is queued on the last connection. -/
def registration (s : GatewayLinks) : Option GatewayMessage :=
  s.loop.connections.getLast?.bind (·.outbound.getLast?)

/-- `fromSlice` is `serde_json::from_slice`. -/
def step (fromSlice : List UInt8 → Option Json) (serverUrl : String) (s : GatewayLinks) :
    GatewayLinksAction → Option GatewayLinks
  | .loop event =>
    if s.Settled then
      (s.loop.step fromSlice serverUrl event).map fun loop =>
        if loop.connections.length = s.loop.connections.length then { s with loop }
        else { loop, links := s.links ++ [.init], queueing := true }
    else none
  | .queue =>
    if s.queueing then
      s.registration.bind fun msg =>
        (s.stepLink serverUrl (s.links.length - 1) (.enqueue msg)).map fun s =>
          { s with queueing := false }
    else none
  | .dropSender tx =>
    -- the sender of the last connection waits for `handle.send`
    if Held s.loop tx ∨ (s.links[tx]?).any (·.shutdown) ∨ s.queueing ∧ tx + 1 = s.links.length then
      none
    else s.stepLink serverUrl tx .signalShutdown
  | .link index action => if action.isOwn then s.stepLink serverUrl index action else none

end GatewayLinks

end Hamlet
