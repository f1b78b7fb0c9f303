import Mathlib.Data.Finset.Basic
import Hamlet.Lib.BoundedQueue
import Hamlet.Lib.Runs

/-!
# Actors

A task that owns a state and serves the requests of a bounded mailbox one after the other. A
caller waits for a slot, then for its reply, and may give up at any time. The task leaves its
loop when the last handle is gone and the mailbox is empty, or, if it can be stopped, between two
requests after a signal; the mailbox is then dropped with what is left in it.

A served request is recorded with its reply; the records change nothing about a run.
-/

namespace Actor

variable {σ κ ε ρ α φ : Type}

/-- What the task does. `ε` and `φ` are what the outside world answers meanwhile. -/
structure Behaviour (σ ε ρ α φ : Type) where
  serve : ε → σ → ρ → α × σ
  /-- After the loop. -/
  finish : φ → σ → Option σ
  stoppable : Bool

inductive Outcome (α : Type) where
  | reply (value : α)
  /-- The request was not accepted: the receiver is gone. -/
  | closed
  /-- The request was accepted and dropped without a reply. -/
  | dropped
  deriving DecidableEq

inductive Call (ρ α : Type) where
  | sending (request : ρ)
  | waiting
  | ended (outcome : Outcome α)
  | cancelled
  deriving DecidableEq

def Call.Open : Call ρ α → Prop
  | sending _ | waiting => True
  | ended _ | cancelled => False

/-- A request that was served. -/
structure Entry (κ ε ρ α : Type) where
  caller : κ
  env : ε
  request : ρ
  reply : α

/-- The request as it stood in the mailbox. -/
def Entry.accepted (e : Entry κ ε ρ α) : κ × ρ := (e.caller, e.request)

structure System (σ κ ε ρ α : Type) (capacity : Nat) where
  state : σ
  mailbox : BoundedQueue (κ × ρ) capacity
  /-- The request being served. -/
  busy : Option (κ × ρ)
  calls : κ → Option (Call ρ α)
  /-- The calls in progress; each borrows a handle. -/
  borrowers : Finset κ
  handles : Nat
  signalled : Bool
  finished : Bool
  /-- The requests put into the mailbox, oldest first. -/
  accepted : List (κ × ρ)
  served : List (Entry κ ε ρ α)
  discarded : List (κ × ρ)

inductive Action (κ ε ρ φ : Type) where
  | call (caller : κ) (request : ρ)
  | enqueue (caller : κ)
  | refuse (caller : κ)
  | cancel (caller : κ)
  | take
  | complete (env : ε)
  | lose (caller : κ)
  | cloneHandle
  | dropHandle
  | signal
  | finish (env : φ)

namespace System

variable {capacity : Nat}

def init (state : σ) : System σ κ ε ρ α capacity where
  state := state
  mailbox := .empty
  busy := none
  calls _ := none
  borrowers := ∅
  handles := 1
  signalled := false
  finished := false
  accepted := []
  served := []
  discarded := []

variable [DecidableEq κ]

def setCall (s : System σ κ ε ρ α capacity) (caller : κ) (call : Call ρ α) :
    System σ κ ε ρ α capacity :=
  { s with calls := Function.update s.calls caller (some call) }

/-- The call is over, and its handle is free. -/
def endCall (s : System σ κ ε ρ α capacity) (caller : κ) (call : Call ρ α) :
    System σ κ ε ρ α capacity :=
  { s.setCall caller call with borrowers := s.borrowers.erase caller }

/-- The reply reaches its caller, unless that has given up. -/
def deliver (s : System σ κ ε ρ α capacity) (caller : κ) (reply : α) :
    System σ κ ε ρ α capacity :=
  match s.calls caller with
  | some .waiting => s.endCall caller (.ended (.reply reply))
  | _ => s

variable (b : Behaviour σ ε ρ α φ)

def step (s : System σ κ ε ρ α capacity) :
    Action κ ε ρ φ → Option (System σ κ ε ρ α capacity)
  | .call caller request =>
    match s.calls caller with
    | none =>
      if 0 < s.handles then
        some { s.setCall caller (.sending request) with borrowers := insert caller s.borrowers }
      else none
    | some _ => none
  | .enqueue caller =>
    match s.calls caller with
    | some (.sending request) =>
      if s.finished then none
      else (s.mailbox.push (caller, request)).map fun mailbox =>
        { s.setCall caller .waiting with
          mailbox, accepted := s.accepted ++ [(caller, request)] }
    | _ => none
  | .refuse caller =>
    match s.calls caller with
    | some (.sending _) => if s.finished then some (s.endCall caller (.ended .closed)) else none
    | _ => none
  | .cancel caller =>
    match s.calls caller with
    | some (.sending _) | some .waiting => some (s.endCall caller .cancelled)
    | _ => none
  | .take =>
    if s.finished = false ∧ s.busy.isNone then
      s.mailbox.pop.map fun (request, mailbox) => { s with busy := some request, mailbox }
    else none
  | .complete env =>
    match s.busy with
    | some (caller, request) =>
      let (reply, state) := b.serve env s.state request
      some { s.deliver caller reply with
        state, busy := none, served := s.served ++ [⟨caller, env, request, reply⟩] }
    | none => none
  | .lose caller =>
    -- the reply's sender went with the mailbox
    match s.calls caller with
    | some .waiting => if s.finished then some (s.endCall caller (.ended .dropped)) else none
    | _ => none
  | .cloneHandle => if 0 < s.handles then some { s with handles := s.handles + 1 } else none
  | .dropHandle =>
    -- a call in progress keeps one handle alive
    if 1 < s.handles ∨ (s.handles = 1 ∧ s.borrowers = ∅) then
      some { s with handles := s.handles - 1 }
    else none
  | .signal => if b.stoppable then some { s with signalled := true } else none
  | .finish env =>
    if s.finished = false ∧ s.busy.isNone ∧
        (s.signalled ∨ (s.handles = 0 ∧ s.mailbox.buffer = [])) then
      (b.finish env s.state).map fun state =>
        { s with state, finished := true, discarded := s.mailbox.buffer, mailbox := .empty }
    else none

/-! ### What a step can do -/

/-- The requests that are accepted and not served. -/
def pending (s : System σ κ ε ρ α capacity) : List (κ × ρ) :=
  s.busy.toList ++ s.mailbox.buffer ++ s.discarded

inductive Steps (s : System σ κ ε ρ α capacity) :
    Action κ ε ρ φ → System σ κ ε ρ α capacity → Prop where
  | called (caller : κ) (request : ρ) (new : s.calls caller = none) (live : 0 < s.handles) :
      Steps s (.call caller request)
        { s.setCall caller (.sending request) with borrowers := insert caller s.borrowers }
  | accepted (caller : κ) (request : ρ) (mailbox : BoundedQueue (κ × ρ) capacity)
      (sending : s.calls caller = some (.sending request)) (running : s.finished = false)
      (queued : mailbox.buffer = s.mailbox.buffer ++ [(caller, request)]) :
      Steps s (.enqueue caller)
        { s.setCall caller .waiting with mailbox, accepted := s.accepted ++ [(caller, request)] }
  | refused (caller : κ) (request : ρ) (sending : s.calls caller = some (.sending request))
      (halted : s.finished) : Steps s (.refuse caller) (s.endCall caller (.ended .closed))
  | cancelled (caller : κ) (call : Call ρ α) (was : s.calls caller = some call)
      (inProgress : call.Open) : Steps s (.cancel caller) (s.endCall caller .cancelled)
  | taken (request : κ × ρ) (mailbox : BoundedQueue (κ × ρ) capacity)
      (running : s.finished = false) (idle : s.busy = none)
      (popped : s.mailbox.buffer = request :: mailbox.buffer) :
      Steps s .take { s with busy := some request, mailbox }
  | replied (caller : κ) (request : ρ) (env : ε) (busy : s.busy = some (caller, request))
      (waiting : s.calls caller = some .waiting) :
      Steps s (.complete env)
        { s.endCall caller (.ended (.reply (b.serve env s.state request).1)) with
          state := (b.serve env s.state request).2
          busy := none
          served := s.served ++ [⟨caller, env, request, (b.serve env s.state request).1⟩] }
  | unheard (caller : κ) (request : ρ) (env : ε) (busy : s.busy = some (caller, request))
      (gone : s.calls caller ≠ some .waiting) :
      Steps s (.complete env)
        { s with
          state := (b.serve env s.state request).2
          busy := none
          served := s.served ++ [⟨caller, env, request, (b.serve env s.state request).1⟩] }
  | lost (caller : κ) (waiting : s.calls caller = some .waiting) (halted : s.finished) :
      Steps s (.lose caller) (s.endCall caller (.ended .dropped))
  | cloned (live : 0 < s.handles) : Steps s .cloneHandle { s with handles := s.handles + 1 }
  | released (spare : 1 < s.handles ∨ (s.handles = 1 ∧ s.borrowers = ∅)) :
      Steps s .dropHandle { s with handles := s.handles - 1 }
  | signalled (stoppable : b.stoppable) : Steps s .signal { s with signalled := true }
  | finished (env : φ) (state : σ) (running : s.finished = false) (idle : s.busy = none)
      (leaves : s.signalled ∨ (s.handles = 0 ∧ s.mailbox.buffer = []))
      (closing : b.finish env s.state = some state) :
      Steps s (.finish env)
        { s with state, finished := true, discarded := s.mailbox.buffer, mailbox := .empty }

theorem deliver_waiting (s : System σ κ ε ρ α capacity) (caller : κ) (reply : α)
    (waiting : s.calls caller = some .waiting) :
    s.deliver caller reply = s.endCall caller (.ended (.reply reply)) := by
  rw [deliver, waiting]

theorem deliver_unheard (s : System σ κ ε ρ α capacity) (caller : κ) (reply : α)
    (gone : s.calls caller ≠ some .waiting) : s.deliver caller reply = s := by
  unfold deliver
  split
  next waiting => exact absurd waiting gone
  next => rfl

theorem step_cases {s s' : System σ κ ε ρ α capacity} {action : Action κ ε ρ φ}
    (stepped : s.step b action = some s') : Steps b s action s' := by
  cases action with
  | call caller request =>
    simp only [step] at stepped
    split at stepped
    next new =>
      obtain ⟨live, same⟩ := Option.ite_none_right_eq_some.mp stepped
      cases same
      exact .called caller request new live
    next => cases stepped
  | enqueue caller =>
    simp only [step] at stepped
    split at stepped
    next request sending =>
      obtain ⟨running, same⟩ := Option.ite_none_left_eq_some.mp stepped
      obtain ⟨mailbox, pushed, rfl⟩ := Option.map_eq_some_iff.mp same
      have queued := ((BoundedQueue.push_iff ..).mp pushed).2
      exact .accepted caller request mailbox sending (by simpa using running) queued
    next => cases stepped
  | refuse caller =>
    simp only [step] at stepped
    split at stepped
    next request sending =>
      obtain ⟨halted, same⟩ := Option.ite_none_right_eq_some.mp stepped
      cases same
      exact .refused caller request sending halted
    next => cases stepped
  | cancel caller =>
    simp only [step] at stepped
    split at stepped
    next request sending =>
      cases stepped
      exact .cancelled caller _ sending trivial
    next waiting =>
      cases stepped
      exact .cancelled caller _ waiting trivial
    next => cases stepped
  | take =>
    simp only [step] at stepped
    obtain ⟨⟨running, idle⟩, same⟩ := Option.ite_none_right_eq_some.mp stepped
    obtain ⟨⟨request, mailbox⟩, popped, rfl⟩ := Option.map_eq_some_iff.mp same
    rw [BoundedQueue.pop_iff] at popped
    exact .taken request mailbox running (by simpa using idle) popped
  | complete env =>
    simp only [step] at stepped
    split at stepped
    next caller request busy =>
      cases stepped
      by_cases waiting : s.calls caller = some .waiting
      · rw [deliver_waiting s caller _ waiting]
        exact .replied caller request env busy waiting
      · rw [deliver_unheard s caller _ waiting]
        exact .unheard caller request env busy waiting
    next => cases stepped
  | lose caller =>
    simp only [step] at stepped
    split at stepped
    next waiting =>
      obtain ⟨halted, same⟩ := Option.ite_none_right_eq_some.mp stepped
      cases same
      exact .lost caller waiting halted
    next => cases stepped
  | cloneHandle =>
    obtain ⟨live, same⟩ := Option.ite_none_right_eq_some.mp stepped
    cases same
    exact .cloned live
  | dropHandle =>
    obtain ⟨spare, same⟩ := Option.ite_none_right_eq_some.mp stepped
    cases same
    exact .released spare
  | signal =>
    obtain ⟨stoppable, same⟩ := Option.ite_none_right_eq_some.mp stepped
    cases same
    exact .signalled stoppable
  | finish env =>
    obtain ⟨⟨running, idle, leaves⟩, same⟩ := Option.ite_none_right_eq_some.mp stepped
    obtain ⟨state, closing, rfl⟩ := Option.map_eq_some_iff.mp same
    exact .finished env state running (by simpa using idle) leaves closing

end System

end Actor
