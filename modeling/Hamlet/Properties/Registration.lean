import Mathlib.Data.Finmap
import Hamlet.Lib.Runs
import Hamlet.BeaconManagement.Handlers

/-!
# Concurrent handshakes and the topic queue

The end of `handle_device_init` in small steps: handshakes run on different threads, so
the two sends of one handshake interleave with those of others and with the message
loop's receives. A handshake answers 200 whatever its sends return.

A beacon is registered with both channels exactly as long as every send finds a free slot.
-/

namespace Hamlet

/-- What a handshake does next. -/
inductive Stage where
  | listen
  | broadcast
  | respond
  | answered
  deriving DecidableEq, Repr

structure Intake where
  tx : TopicSender
  stages : Finmap fun _ : String => Stage
  /-- Everything the queue has accepted, oldest first. -/
  accepted : List TopicChannel

/-- A new handshake draws a fresh `beacon_id`. The message loop receives channels until it
ends, which drops the receiver and what is still queued. -/
inductive IntakeAction where
  | start (beaconId : String)
  | advance (beaconId : String)
  | receive
  | close
  deriving DecidableEq, Repr

namespace Intake

def init : Intake where
  tx := ⟨.empty, true⟩
  stages := ∅
  accepted := []

def setStage (s : Intake) (beaconId : String) (stage : Stage) : Intake :=
  { s with stages := s.stages.insert beaconId stage }

/-- `try_send`, whose failure is only logged. -/
def send (s : Intake) (channel : TopicChannel) : Intake :=
  match s.tx.trySend channel with
  | .ok tx => { s with tx, accepted := s.accepted ++ [channel] }
  | .error _ => s

def step (s : Intake) : IntakeAction → Option Intake
  | .start b => if b ∈ s.stages then none else some (s.setStage b .listen)
  | .advance b =>
    -- the stage advances whether or not the queue accepts the channel
    match s.stages.lookup b with
    | some .listen => some ((s.send (listenChannel b)).setStage b .broadcast)
    | some .broadcast => some ((s.send (broadcastChannel b)).setStage b .respond)
    | some .respond => some (s.setStage b .answered)
    | some .answered | none => none
  | .receive =>
    if s.tx.receiverAlive then
      s.tx.queue.pop.map fun received => { s with tx := { s.tx with queue := received.2 } }
    else none
  | .close => if s.tx.receiverAlive then some { s with tx := ⟨.empty, false⟩ } else none

/-- A handshake that nobody interrupts does to the queue what `announceBeacon` does. -/
theorem run_uninterrupted (s s' : Intake) (b : String)
    (ran : Runs.run step s [.start b, .advance b, .advance b, .advance b] = some s') :
    s'.tx = (s.tx.offer (listenChannel b)).offer (broadcastChannel b) := by
  have send_tx : ∀ (s : Intake) channel, (s.send channel).tx = s.tx.offer channel := by
    intro s channel
    unfold send TopicSender.offer
    cases s.tx.trySend channel <;> rfl
  have send_stages : ∀ (s : Intake) channel, (s.send channel).stages = s.stages := by
    intro s channel
    unfold send
    split <;> rfl
  obtain ⟨started, start, ran⟩ := (Runs.run_cons_iff ..).mp ran
  simp only [step, Option.ite_none_left_eq_some, Option.some.injEq] at start
  obtain ⟨_, rfl⟩ := start
  simp only [Runs.run, step, setStage, send_stages, Finmap.lookup_insert, Option.bind_some,
    Option.some.injEq] at ran
  rw [← ran]
  dsimp only
  rw [send_tx]
  dsimp only
  rw [send_tx]

end Intake

/-! ### Full registration -/

/-- Whoever was answered has both channels accepted, the listen channel first. -/
def FullyRegistered (s : Intake) : Prop :=
  ∀ b, s.stages.lookup b = some .answered → (handshakeChannels b).Sublist s.accepted

/-- Both sends are made and one of them was refused. -/
def HalfRegistered (s : Intake) (b : String) : Prop :=
  (s.stages.lookup b = some .respond ∨ s.stages.lookup b = some .answered) ∧
    ¬(listenChannel b ∈ s.accepted ↔ broadcastChannel b ∈ s.accepted)

/-- A handshake sends only while the message loop runs and the queue has a free slot. -/
def SendsWithRoom (s : Intake) : IntakeAction → Prop
  | .advance b =>
    s.stages.lookup b = some .listen ∨ s.stages.lookup b = some .broadcast →
      s.tx.receiverAlive ∧ ¬s.tx.queue.Full
  | _ => True

instance (s : Intake) : DecidablePred (SendsWithRoom s)
  | .advance _ => inferInstanceAs (Decidable (_ → _))
  | .start _ | .receive | .close => inferInstanceAs (Decidable True)

/-- The channels a handshake has sent before a stage. -/
def sentBefore (b : String) : Stage → List TopicChannel
  | .listen => []
  | .broadcast => [listenChannel b]
  | .respond | .answered => handshakeChannels b

/-- No send was refused so far. -/
def NothingRefused (s : Intake) : Prop :=
  ∀ b stage, s.stages.lookup b = some stage → (sentBefore b stage).Sublist s.accepted

theorem NothingRefused.fullyRegistered {s : Intake} (sound : NothingRefused s) :
    FullyRegistered s ∧ ∀ b, ¬HalfRegistered s b := by
  refine ⟨fun b answered => sound b .answered answered, ?_⟩
  rintro b ⟨done, differ⟩
  have both : (handshakeChannels b).Sublist s.accepted := by
    rcases done with stage | stage
    · exact sound b .respond stage
    · exact sound b .answered stage
  exact differ (iff_of_true (both.subset (List.mem_cons_self ..))
    (both.subset (List.mem_cons_of_mem _ (List.mem_cons_self ..))))

theorem send_accepted (s : Intake) (channel : TopicChannel) (alive : s.tx.receiverAlive)
    (room : ¬s.tx.queue.Full) :
    (s.send channel).accepted = s.accepted ++ [channel] ∧ (s.send channel).stages = s.stages := by
  cases pushed : s.tx.queue.push channel with
  | none => exact absurd ((BoundedQueue.push_none_iff ..).mp pushed) room
  | some queue => simp [Intake.send, TopicSender.trySend, alive, pushed]

/-- A handshake moves on to `stage` after `sent` was added to what it had sent before. -/
theorem NothingRefused.advance {s s' : Intake} (sound : NothingRefused s) (b : String)
    (old stage : Stage) (sent : List TopicChannel) (current : s.stages.lookup b = some old)
    (adds : sentBefore b stage = sentBefore b old ++ sent)
    (accepted : s'.accepted = s.accepted ++ sent) (stages : s'.stages = s.stages.insert b stage) :
    NothingRefused s' := by
  intro other stage' found
  rw [stages] at found
  rw [accepted]
  by_cases same : other = b
  · -- its own history grows by `sent`
    subst same
    rw [Finmap.lookup_insert, Option.some.injEq] at found
    rw [← found, adds]
    exact (sound other old current).append (List.Sublist.refl sent)
  · -- the others only see the accepted channels grow
    rw [Finmap.lookup_insert_of_ne _ same] at found
    exact (sound other stage' found).trans (List.sublist_append_left ..)

theorem nothingRefused_step (s s' : Intake) (action : IntakeAction) (sound : NothingRefused s)
    (room : SendsWithRoom s action) (stepped : s.step action = some s') : NothingRefused s' := by
  cases action with
  | start b =>
    simp only [Intake.step, Option.ite_none_left_eq_some, Option.some.injEq] at stepped
    obtain ⟨_, rfl⟩ := stepped
    intro other stage found
    by_cases same : other = b
    · subst same
      rw [Intake.setStage, Finmap.lookup_insert, Option.some.injEq] at found
      rw [← found]
      exact List.nil_sublist _
    · exact sound other stage (by rwa [Intake.setStage, Finmap.lookup_insert_of_ne _ same] at found)
  | advance b =>
    simp only [Intake.step] at stepped
    split at stepped
    next current =>
      cases stepped
      obtain ⟨alive, free⟩ := room (.inl current)
      obtain ⟨accepted, stages⟩ := send_accepted s (listenChannel b) alive free
      exact sound.advance b .listen .broadcast _ current rfl accepted
        (by rw [Intake.setStage, stages])
    next current =>
      cases stepped
      obtain ⟨alive, free⟩ := room (.inr current)
      obtain ⟨accepted, stages⟩ := send_accepted s (broadcastChannel b) alive free
      exact sound.advance b .broadcast .respond _ current rfl accepted
        (by rw [Intake.setStage, stages])
    next current =>
      cases stepped
      exact sound.advance b .respond .answered [] current rfl (List.append_nil _).symm rfl
    next => cases stepped
    next => cases stepped
  | receive =>
    simp only [Intake.step, Option.ite_none_right_eq_some, Option.map_eq_some_iff] at stepped
    obtain ⟨_, _, _, rfl⟩ := stepped
    exact sound
  | close =>
    simp only [Intake.step, Option.ite_none_right_eq_some, Option.some.injEq] at stepped
    obtain ⟨_, rfl⟩ := stepped
    exact sound

/-- In every interleaving in which each send finds the message loop running and a free slot,
an answered handshake is fully registered and none is half registered. -/
theorem answered_handshakes_are_registered (actions : List IntakeAction) (s : Intake)
    (ran : Runs.run (Runs.restrict SendsWithRoom Intake.step) .init actions = some s) :
    FullyRegistered s ∧ ∀ b, ¬HalfRegistered s b := by
  have initial : NothingRefused .init := by
    intro b stage found
    cases found
  refine NothingRefused.fullyRegistered
    (Runs.run_invariant _ NothingRefused ?_ .init s actions initial ran)
  intro before action after sound stepped
  obtain ⟨room, stepped⟩ := (Runs.restrict_iff ..).mp stepped
  exact nothingRefused_step before after action sound room stepped

/-- Two handshakes that interleave with each other and with a receive. -/
def interleavedHandshakes : List IntakeAction :=
  [.start "7b1d", .start "c20e", .advance "7b1d", .advance "c20e", .receive, .advance "c20e",
   .advance "7b1d", .advance "7b1d"]

theorem interleaved_handshakes_are_registered :
    ∃ s, Runs.run (Runs.restrict SendsWithRoom Intake.step) .init interleavedHandshakes = some s ∧
      s.stages.lookup "7b1d" = some .answered ∧ (FullyRegistered s ∧ ∀ b, ¬HalfRegistered s b) :=
  ⟨_, rfl, by decide, answered_handshakes_are_registered interleavedHandshakes _ rfl⟩

/-- The beacon id of the `n`th handshake of a burst. -/
def burstId (n : Nat) : String := String.ofList (List.replicate n 'a')

/-- Before the message loop receives anything, 31 handshakes leave two free slots, and two
more send their listen channels first. -/
def handshakeBurst : List IntakeAction :=
  ((List.range 31).flatMap fun n =>
    [.start (burstId n), .advance (burstId n), .advance (burstId n), .advance (burstId n)]) ++
  [.start "7b1d", .start "c20e", .advance "7b1d", .advance "c20e", .advance "7b1d",
   .advance "7b1d"]

theorem handshake_burst_registers_half :
    ∃ s, Runs.run Intake.step .init handshakeBurst = some s ∧
      ¬(FullyRegistered s ∧ ∀ b, ¬HalfRegistered s b) := by
  have outcome : (Runs.run Intake.step .init handshakeBurst).map (fun s =>
      (s.stages.lookup "7b1d", decide (listenChannel "7b1d" ∈ s.accepted),
        decide (broadcastChannel "7b1d" ∈ s.accepted))) = some (some .answered, true, false) := by
    decide +kernel
  obtain ⟨s, ran, facts⟩ := Option.map_eq_some_iff.mp outcome
  refine ⟨s, ran, ?_⟩
  simp only [Prod.mk.injEq, decide_eq_true_eq, decide_eq_false_iff_not] at facts
  obtain ⟨answered, listens, casts⟩ := facts
  exact fun registered => registered.2 "7b1d" ⟨.inr answered, fun same => casts (same.mp listens)⟩

end Hamlet
