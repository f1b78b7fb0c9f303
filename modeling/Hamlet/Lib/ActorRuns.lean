import Mathlib.Data.Finset.Card
import Hamlet.Lib.Actor

/-!
# What a run of an actor keeps

Every reply is that of a sequential execution, in the order in which the requests were accepted;
a caller waits as long as its request is pending; and a task that is not told to stop outlives
the calls to it. `invariant_run` has all of this for every run.
-/

namespace Actor

variable {σ κ ε ρ α φ : Type}

namespace System

variable {capacity : Nat} [DecidableEq κ] {b : Behaviour σ ε ρ α φ}

/-! ### The order of service -/

/-- A call whose request is in the mailbox or has left it. -/
def Sent (call : Option (Call ρ α)) : Prop :=
  call ≠ none ∧ ∀ request, call ≠ some (.sending request)

/-- The requests are served in the order in which they were accepted, each once. -/
structure Ordered (s : System σ κ ε ρ α capacity) : Prop where
  order : s.accepted = s.served.map Entry.accepted ++ s.pending
  distinct : (s.accepted.map Prod.fst).Nodup
  sent : ∀ caller ∈ s.accepted.map Prod.fst, Sent (s.calls caller)
  running : s.finished = false → s.discarded = []
  halted : s.finished → s.busy = none ∧ s.mailbox.buffer = []

omit [DecidableEq κ] in
theorem ordered_init (state : σ) : (init state : System σ κ ε ρ α capacity).Ordered := by
  constructor <;> simp [init, pending, BoundedQueue.empty]

/-- A call that is over, or that waits for its reply, has been sent. -/
theorem sent_update {calls : κ → Option (Call ρ α)} {caller other : κ} {call : Call ρ α}
    (sent : Sent (calls other)) (kind : ∀ request, call ≠ .sending request) :
    Sent (Function.update calls caller (some call) other) := by
  by_cases same : other = caller
  · rw [same, Function.update_self]
    exact ⟨nofun, fun request sending => kind request (Option.some.inj sending)⟩
  · rwa [Function.update_of_ne same]

omit [DecidableEq κ] in
/-- The request that was served is the first of those pending. -/
theorem Ordered.order_served {s : System σ κ ε ρ α capacity} (inv : s.Ordered) {caller : κ}
    {request : ρ} (busy : s.busy = some (caller, request)) (env : ε) (reply : α) :
    s.accepted = (s.served ++ [(⟨caller, env, request, reply⟩ : Entry κ ε ρ α)]).map
      Entry.accepted ++ ((none : Option (κ × ρ)).toList ++ s.mailbox.buffer ++ s.discarded) := by
  rw [inv.order]
  simp [pending, busy, Entry.accepted]

omit [DecidableEq κ] in
theorem Ordered.running_of_busy {s : System σ κ ε ρ α capacity} (inv : s.Ordered)
    {request : κ × ρ} (busy : s.busy = some request) : s.finished = false := by
  by_contra halted
  have idle := (inv.halted (by simpa using halted)).1
  rw [busy] at idle
  cases idle

omit [DecidableEq κ] in
/-- After the service the others are pending. -/
theorem Ordered.mem_pending_iff {s : System σ κ ε ρ α capacity} (inv : s.Ordered) {caller : κ}
    {request : ρ} (busy : s.busy = some (caller, request)) (other : κ) :
    other ∈ ((none : Option (κ × ρ)).toList ++ s.mailbox.buffer ++ s.discarded).map Prod.fst ↔
      other ∈ s.pending.map Prod.fst ∧ other ≠ caller := by
  have shape : s.pending = (caller, request) ::
      ((none : Option (κ × ρ)).toList ++ s.mailbox.buffer ++ s.discarded) := by
    simp [pending, busy]
  have distinct := inv.distinct
  rw [inv.order, List.map_append] at distinct
  have once := (List.nodup_append.mp distinct).2.1
  rw [shape, List.map_cons, List.nodup_cons] at once
  rw [shape, List.map_cons, List.mem_cons]
  constructor
  · intro member
    refine ⟨.inr member, ?_⟩
    rintro rfl
    exact once.1 member
  · rintro ⟨same | member, differs⟩
    · exact absurd same differs
    · exact member

theorem Ordered.step {s s' : System σ κ ε ρ α capacity} {action : Action κ ε ρ φ}
    (inv : s.Ordered) (stepped : Steps b s action s') : s'.Ordered := by
  cases stepped with
  | called caller request new live =>
    refine ⟨inv.order, inv.distinct, fun other member => ?_, inv.running, inv.halted⟩
    have differs : other ≠ caller := by
      rintro rfl
      exact (inv.sent other member).1 new
    show Sent (Function.update s.calls caller _ other)
    rw [Function.update_of_ne differs]
    exact inv.sent other member
  | accepted caller request mailbox sending running queued =>
    have new : caller ∉ s.accepted.map Prod.fst := fun member =>
      (inv.sent caller member).2 request sending
    refine ⟨?_, ?_, fun other member => ?_, inv.running, fun halted => ?_⟩
    · rw [inv.order]
      simp [pending, setCall, queued, inv.running running]
    · rw [List.map_append, List.nodup_append]
      refine ⟨inv.distinct, by simp, ?_⟩
      rintro first member second last rfl
      simp only [List.map_cons, List.map_nil, List.mem_singleton] at last
      exact new (last ▸ member)
    · rw [List.map_append, List.mem_append] at member
      rcases member with earlier | last
      · exact sent_update (inv.sent other earlier) nofun
      · simp only [List.map_cons, List.map_nil, List.mem_singleton] at last
        show Sent (Function.update s.calls caller _ other)
        rw [last, Function.update_self]
        exact ⟨nofun, nofun⟩
    · exact absurd halted (by simp [setCall, running])
  | refused caller request sending halted =>
    exact ⟨inv.order, inv.distinct, fun other member => sent_update (inv.sent other member) nofun,
      inv.running, inv.halted⟩
  | cancelled caller call was inProgress =>
    exact ⟨inv.order, inv.distinct, fun other member => sent_update (inv.sent other member) nofun,
      inv.running, inv.halted⟩
  | taken request mailbox running idle popped =>
    refine ⟨?_, inv.distinct, inv.sent, inv.running,
      fun halted => absurd halted (by simp [running])⟩
    rw [inv.order]
    simp [pending, idle, popped]
  | replied caller request env busy waiting =>
    refine ⟨?_, inv.distinct, fun other member => sent_update (inv.sent other member) nofun,
      inv.running, fun halted => ⟨rfl, (inv.halted halted).2⟩⟩
    exact inv.order_served busy _ _
  | unheard caller request env busy gone =>
    refine ⟨?_, inv.distinct, inv.sent, inv.running, fun halted => ⟨rfl, (inv.halted halted).2⟩⟩
    exact inv.order_served busy _ _
  | lost caller waiting halted =>
    exact ⟨inv.order, inv.distinct, fun other member => sent_update (inv.sent other member) nofun,
      inv.running, inv.halted⟩
  | cloned live => exact ⟨inv.order, inv.distinct, inv.sent, inv.running, inv.halted⟩
  | released spare => exact ⟨inv.order, inv.distinct, inv.sent, inv.running, inv.halted⟩
  | signalled stoppable => exact ⟨inv.order, inv.distinct, inv.sent, inv.running, inv.halted⟩
  | finished env state running idle leaves closing =>
    refine ⟨?_, inv.distinct, inv.sent, nofun, fun _ => ⟨idle, rfl⟩⟩
    rw [inv.order]
    simp [pending, idle, inv.running running, BoundedQueue.empty]

/-! ### Handles and the end of the task -/

/-- The borrowers are the calls in progress, and as long as there are some the task has a handle.
So a task that is not told to stop outlives its calls. -/
structure Borrowed (s : System σ κ ε ρ α capacity) : Prop where
  borrowers : ∀ caller, caller ∈ s.borrowers ↔ ∃ call, s.calls caller = some call ∧ call.Open
  live : s.borrowers.Nonempty → 0 < s.handles
  left : s.finished → s.signalled ∨ (s.handles = 0 ∧ s.discarded = [])
  errors : ∀ caller, s.calls caller = some (.ended .closed) ∨
    s.calls caller = some (.ended .dropped) → s.signalled

omit [DecidableEq κ] in
theorem borrowed_init (state : σ) : (init state : System σ κ ε ρ α capacity).Borrowed := by
  constructor <;> simp [init]

omit [DecidableEq κ] in
/-- A call in progress keeps the task alive, unless it is told to stop. -/
theorem Borrowed.signalled_of_over {s : System σ κ ε ρ α capacity} (inv : s.Borrowed) {caller : κ}
    {call : Call ρ α} (was : s.calls caller = some call) (inProgress : call.Open)
    (halted : s.finished) : s.signalled := by
  rcases inv.left halted with signalled | ⟨gone, _⟩
  · exact signalled
  · have live := inv.live ⟨caller, (inv.borrowers caller).mpr ⟨call, was, inProgress⟩⟩
    omega

/-- A call ends. -/
theorem Borrowed.endCall {s : System σ κ ε ρ α capacity} (inv : s.Borrowed) (caller : κ)
    (call : Call ρ α) (noLonger : ¬call.Open)
    (error : call = .ended .closed ∨ call = .ended .dropped → s.signalled) :
    (s.endCall caller call).Borrowed := by
  refine ⟨fun other => ?_, fun ⟨other, member⟩ => ?_, inv.left, fun other failed => ?_⟩
  · show other ∈ s.borrowers.erase caller ↔
      ∃ c, Function.update s.calls caller (some call) other = some c ∧ c.Open
    by_cases same : other = caller
    · rw [same, Function.update_self]
      simp [noLonger]
    · rw [Function.update_of_ne same, Finset.mem_erase, inv.borrowers other, and_iff_right same]
  · exact inv.live ⟨other, Finset.mem_of_mem_erase member⟩
  · simp only [System.endCall, setCall] at failed
    by_cases same : other = caller
    · rw [same, Function.update_self, Option.some.injEq, Option.some.injEq] at failed
      exact error failed
    · rw [Function.update_of_ne same] at failed
      exact inv.errors other failed

theorem Borrowed.step {s s' : System σ κ ε ρ α capacity} {action : Action κ ε ρ φ}
    (inv : s.Borrowed) (stepped : Steps b s action s') : s'.Borrowed := by
  cases stepped with
  | called caller request new live =>
    refine ⟨fun other => ?_, fun _ => live, inv.left, fun other failed => ?_⟩
    · show other ∈ insert caller s.borrowers ↔
        ∃ c, Function.update s.calls caller _ other = some c ∧ c.Open
      by_cases same : other = caller
      · rw [same, Function.update_self]
        simp [Call.Open]
      · rw [Function.update_of_ne same, Finset.mem_insert, inv.borrowers other, or_iff_right same]
    · simp only [setCall] at failed
      by_cases same : other = caller
      · rw [same, Function.update_self] at failed
        simp at failed
      · rw [Function.update_of_ne same] at failed
        exact inv.errors other failed
  | accepted caller request mailbox sending running queued =>
    refine ⟨fun other => ?_, inv.live, inv.left, fun other failed => ?_⟩
    · show other ∈ s.borrowers ↔ ∃ c, Function.update s.calls caller _ other = some c ∧ c.Open
      rw [inv.borrowers other]
      by_cases same : other = caller
      · rw [same, Function.update_self, sending]
        simp [Call.Open]
      · rw [Function.update_of_ne same]
    · simp only [setCall] at failed
      by_cases same : other = caller
      · rw [same, Function.update_self] at failed
        simp at failed
      · rw [Function.update_of_ne same] at failed
        exact inv.errors other failed
  | refused caller request sending halted =>
    exact inv.endCall caller _ id fun _ => inv.signalled_of_over sending trivial halted
  | cancelled caller call was inProgress => exact inv.endCall caller _ id (by simp)
  | taken request mailbox running idle popped =>
    exact ⟨inv.borrowers, inv.live, inv.left, inv.errors⟩
  | replied caller request env busy waiting =>
    have ended := inv.endCall caller (.ended (.reply (b.serve env s.state request).1)) id (by simp)
    exact ⟨ended.borrowers, ended.live, ended.left, ended.errors⟩
  | unheard caller request env busy gone => exact ⟨inv.borrowers, inv.live, inv.left, inv.errors⟩
  | lost caller waiting halted =>
    exact inv.endCall caller _ id fun _ => inv.signalled_of_over waiting trivial halted
  | cloned live =>
    refine ⟨inv.borrowers, fun _ => Nat.succ_pos _, fun halted => ?_, inv.errors⟩
    exact .inl ((inv.left halted).resolve_right fun gone => by omega)
  | released spare =>
    refine ⟨inv.borrowers, fun borrowed => ?_, fun halted => ?_, inv.errors⟩
    · show 0 < s.handles - 1
      rcases spare with more | ⟨_, free⟩
      · omega
      · rw [Finset.nonempty_iff_ne_empty] at borrowed
        exact absurd free borrowed
    · exact .inl ((inv.left halted).resolve_right fun gone => by omega)
  | signalled stoppable => exact ⟨inv.borrowers, inv.live, fun _ => .inl rfl, fun _ _ => rfl⟩
  | finished env state running idle leaves closing =>
    exact ⟨inv.borrowers, inv.live, fun _ => leaves, inv.errors⟩

/-! ### Replies -/

/-- A caller waits as long as its request is pending, and gets the reply to it. -/
structure Answered (s : System σ κ ε ρ α capacity) : Prop where
  waiting : ∀ caller, s.calls caller = some .waiting → caller ∈ s.pending.map Prod.fst
  replied : ∀ caller reply, s.calls caller = some (.ended (.reply reply)) →
    ∃ e ∈ s.served, e.caller = caller ∧ e.reply = reply
  heard : ∀ e ∈ s.served, s.calls e.caller = some (.ended (.reply e.reply)) ∨
    s.calls e.caller = some .cancelled
  undecided : s.finished = false → ∀ caller ∈ s.pending.map Prod.fst,
    s.calls caller = some .waiting ∨ s.calls caller = some .cancelled

omit [DecidableEq κ] in
theorem answered_init (state : σ) : (init state : System σ κ ε ρ α capacity).Answered := by
  constructor <;> simp [init, pending, BoundedQueue.empty]

omit [DecidableEq κ] in
/-- The caller of a served request is none of those in progress or yet to come. -/
theorem Answered.caller_ne {s : System σ κ ε ρ α capacity} (inv : s.Answered)
    {e : Entry κ ε ρ α} (member : e ∈ s.served) {caller : κ}
    (unserved : ∀ call, s.calls caller = some call → call.Open) : e.caller ≠ caller := by
  rintro rfl
  rcases inv.heard e member with replied | cancelled
  · exact unserved _ replied
  · exact unserved _ cancelled

/-- A call that was in progress, or was not made, changes to another that has no reply. -/
theorem Answered.update {s : System σ κ ε ρ α capacity} (inv : s.Answered) {caller : κ}
    (unserved : ∀ call, s.calls caller = some call → call.Open) (call : Call ρ α)
    (noReply : ∀ reply, call ≠ .ended (.reply reply)) :
    (∀ other reply, Function.update s.calls caller (some call) other =
        some (.ended (.reply reply)) → ∃ e ∈ s.served, e.caller = other ∧ e.reply = reply) ∧
      ∀ e ∈ s.served,
        Function.update s.calls caller (some call) e.caller = some (.ended (.reply e.reply)) ∨
        Function.update s.calls caller (some call) e.caller = some .cancelled := by
  constructor
  · intro other reply ended
    by_cases same : other = caller
    · rw [same, Function.update_self, Option.some.injEq] at ended
      exact absurd ended (noReply reply)
    · rw [Function.update_of_ne same] at ended
      exact inv.replied other reply ended
  · intro e member
    rw [Function.update_of_ne (inv.caller_ne member unserved)]
    exact inv.heard e member

/-- Nobody else begins to wait when one call changes. -/
theorem waiting_of_update {calls : κ → Option (Call ρ α)} {caller other : κ} {call : Call ρ α}
    (kind : call ≠ .waiting)
    (waiting : Function.update calls caller (some call) other = some .waiting) :
    other ≠ caller ∧ calls other = some .waiting := by
  by_cases same : other = caller
  · rw [same, Function.update_self, Option.some.injEq] at waiting
    exact absurd waiting kind
  · rw [Function.update_of_ne same] at waiting
    exact ⟨same, waiting⟩

/-- A call in progress ends without a reply. While the task runs, only by cancellation. -/
theorem Answered.endCall {s : System σ κ ε ρ α capacity} (inv : s.Answered) {caller : κ}
    {was : Call ρ α} (before : s.calls caller = some was) (inProgress : was.Open)
    (call : Call ρ α) (noLonger : ¬call.Open) (noReply : ∀ reply, call ≠ .ended (.reply reply))
    (givenUp : s.finished = false → call = .cancelled) : (s.endCall caller call).Answered := by
  have unserved : ∀ c, s.calls caller = some c → c.Open := by
    intro c same
    rw [before, Option.some.injEq] at same
    exact same ▸ inProgress
  obtain ⟨replied, heard⟩ := inv.update unserved call noReply
  refine ⟨fun other waiting => ?_, replied, heard, fun running other member => ?_⟩
  · have kind : call ≠ .waiting := by
      rintro rfl
      exact noLonger trivial
    exact inv.waiting other (waiting_of_update kind waiting).2
  · show Function.update s.calls caller (some call) other = _ ∨
      Function.update s.calls caller (some call) other = _
    by_cases same : other = caller
    · rw [same, Function.update_self, givenUp running]
      exact .inr rfl
    · rw [Function.update_of_ne same]
      exact inv.undecided running other member

theorem Answered.step {s s' : System σ κ ε ρ α capacity} {action : Action κ ε ρ φ}
    (inv : s.Answered) (ordered : s.Ordered) (stepped : Steps b s action s') : s'.Answered := by
  cases stepped with
  | called caller request new live =>
    have unserved : ∀ c, s.calls caller = some c → c.Open := by simp [new]
    obtain ⟨replied, heard⟩ := inv.update unserved (.sending request) (by simp)
    refine ⟨fun other waiting => ?_, replied, heard, fun running other member => ?_⟩
    · exact inv.waiting other (waiting_of_update (by simp) waiting).2
    · have differs : other ≠ caller := by
        rintro rfl
        have undecided := inv.undecided running other member
        simp [new] at undecided
      show Function.update s.calls caller _ other = _ ∨ Function.update s.calls caller _ other = _
      rw [Function.update_of_ne differs]
      exact inv.undecided running other member
  | accepted caller request mailbox sending running queued =>
    have unserved : ∀ c, s.calls caller = some c → c.Open := by
      rw [sending]
      rintro c ⟨⟩
      trivial
    obtain ⟨replied, heard⟩ := inv.update unserved .waiting (by simp)
    have grown : ∀ k, k ∈ (s.busy.toList ++ mailbox.buffer ++ s.discarded).map Prod.fst ↔
        k ∈ s.pending.map Prod.fst ∨ k = caller := by
      intro k
      simp only [pending, queued, List.map_append, List.mem_append, List.map_cons, List.map_nil,
        List.mem_singleton]
      tauto
    refine ⟨fun other waiting => ?_, replied, heard, fun running other member => ?_⟩
    · refine (grown other).mpr ?_
      by_cases same : other = caller
      · exact .inr same
      · have unchanged : Function.update s.calls caller (some .waiting) other = some .waiting :=
          waiting
        rw [Function.update_of_ne same] at unchanged
        exact .inl (inv.waiting other unchanged)
    · show Function.update s.calls caller _ other = _ ∨ Function.update s.calls caller _ other = _
      by_cases same : other = caller
      · rw [same, Function.update_self]
        exact .inl rfl
      · rw [Function.update_of_ne same]
        exact inv.undecided running other (((grown other).mp member).resolve_right same)
  | refused caller request sending halted =>
    exact inv.endCall sending trivial _ id (by simp) (by simp [halted])
  | cancelled caller call was inProgress =>
    exact inv.endCall was inProgress _ id (by simp) fun _ => rfl
  | taken request mailbox running idle popped =>
    have same : System.pending { s with busy := some request, mailbox } = s.pending := by
      simp [pending, idle, popped]
    refine ⟨fun other waiting => ?_, inv.replied, inv.heard, fun running other member => ?_⟩
    · rw [same]
      exact inv.waiting other waiting
    · rw [same] at member
      exact inv.undecided running other member
  | replied caller request env busy waiting =>
    have unserved : ∀ c, s.calls caller = some c → c.Open := by
      rw [waiting]
      rintro c ⟨⟩
      trivial
    refine ⟨fun other still => ?_, fun other reply ended => ?_, fun e member => ?_,
      fun running other member => ?_⟩
    · obtain ⟨differs, before⟩ := waiting_of_update (by simp) still
      exact (ordered.mem_pending_iff busy other).mpr ⟨inv.waiting other before, differs⟩
    · by_cases same : other = caller
      · refine ⟨_, List.mem_append_right _ (List.mem_singleton_self _), same.symm, ?_⟩
        have value : Function.update s.calls caller _ other = some (.ended (.reply reply)) := ended
        rw [same, Function.update_self] at value
        simpa using value
      · have before : Function.update s.calls caller _ other = some (.ended (.reply reply)) := ended
        rw [Function.update_of_ne same] at before
        obtain ⟨e, earlier, facts⟩ := inv.replied other reply before
        exact ⟨e, List.mem_append_left _ earlier, facts⟩
    · show Function.update s.calls caller _ e.caller = _ ∨
        Function.update s.calls caller _ e.caller = _
      rcases List.mem_append.mp member with earlier | last
      · rw [Function.update_of_ne (inv.caller_ne earlier unserved)]
        exact inv.heard e earlier
      · rw [List.mem_singleton.mp last, Function.update_self]
        exact .inl rfl
    · obtain ⟨before, differs⟩ := ((ordered.mem_pending_iff busy other).mp member)
      show Function.update s.calls caller _ other = _ ∨ Function.update s.calls caller _ other = _
      rw [Function.update_of_ne differs]
      exact inv.undecided running other before
  | unheard caller request env busy gone =>
    have running := ordered.running_of_busy busy
    refine ⟨fun other still => ?_, fun other reply ended => ?_, fun e member => ?_,
      fun running other member => ?_⟩
    · have differs : other ≠ caller := by
        rintro rfl
        exact gone still
      exact (ordered.mem_pending_iff busy other).mpr ⟨inv.waiting other still, differs⟩
    · obtain ⟨e, earlier, facts⟩ := inv.replied other reply ended
      exact ⟨e, List.mem_append_left _ earlier, facts⟩
    · rcases List.mem_append.mp member with earlier | last
      · exact inv.heard e earlier
      · rw [List.mem_singleton.mp last]
        have undecided := inv.undecided running caller (by simp [pending, busy])
        exact .inr (undecided.resolve_left gone)
    · exact inv.undecided running other ((ordered.mem_pending_iff busy other).mp member).1
  | lost caller waiting halted =>
    exact inv.endCall waiting trivial _ id (by simp) (by simp [halted])
  | cloned live => exact ⟨inv.waiting, inv.replied, inv.heard, inv.undecided⟩
  | released spare => exact ⟨inv.waiting, inv.replied, inv.heard, inv.undecided⟩
  | signalled stoppable => exact ⟨inv.waiting, inv.replied, inv.heard, inv.undecided⟩
  | finished env state running idle leaves closing =>
    refine ⟨fun other waiting => ?_, inv.replied, inv.heard, nofun⟩
    have pending := inv.waiting other waiting
    simpa [System.pending, idle, ordered.running running, BoundedQueue.empty] using pending

end System

/-! ### Sequential execution -/

/-- Served one after the other from `start`, the requests get these replies and lead to this
state. -/
inductive Sequential (b : Behaviour σ ε ρ α φ) (start : σ) : List (Entry κ ε ρ α) → σ → Prop where
  | nil : Sequential b start [] start
  | concat {entries : List (Entry κ ε ρ α)} {state : σ} (e : Entry κ ε ρ α)
      (before : Sequential b start entries state)
      (reply : (b.serve e.env state e.request).1 = e.reply) :
      Sequential b start (entries ++ [e]) (b.serve e.env state e.request).2

namespace System

variable {capacity : Nat} {b : Behaviour σ ε ρ α φ}

structure Invariant (b : Behaviour σ ε ρ α φ) (start : σ) (s : System σ κ ε ρ α capacity) :
    Prop where
  ordered : s.Ordered
  borrowed : s.Borrowed
  answered : s.Answered
  sequential : ∃ state, Sequential b start s.served state ∧
    (s.finished = false → s.state = state) ∧
    (s.finished → ∃ env, b.finish env state = some s.state)
  signalled : s.signalled → b.stoppable

theorem invariant_init (b : Behaviour σ ε ρ α φ) (start : σ) :
    Invariant b start (init start : System σ κ ε ρ α capacity) :=
  ⟨ordered_init start, borrowed_init start, answered_init start,
    ⟨start, .nil, fun _ => rfl, nofun⟩, nofun⟩

variable [DecidableEq κ]

theorem Invariant.step {start : σ} {s s' : System σ κ ε ρ α capacity} {action : Action κ ε ρ φ}
    (inv : Invariant b start s) (stepped : s.step b action = some s') : Invariant b start s' := by
  have step := step_cases b stepped
  obtain ⟨state, sequential, running, halted⟩ := inv.sequential
  refine ⟨inv.ordered.step step, inv.borrowed.step step, inv.answered.step inv.ordered step, ?_, ?_⟩
  · cases step with
    | replied caller request env busy waiting =>
      have alive := inv.ordered.running_of_busy busy
      refine ⟨_, .concat _ sequential (by rw [running alive]), fun _ => ?_, fun halted => ?_⟩
      · rw [running alive]
      · exact absurd halted (by simp [endCall, setCall, alive])
    | unheard caller request env busy gone =>
      have alive := inv.ordered.running_of_busy busy
      refine ⟨_, .concat _ sequential (by rw [running alive]), fun _ => ?_, fun halted => ?_⟩
      · rw [running alive]
      · exact absurd halted (by simp [alive])
    | finished env closed alive idle leaves closing =>
      refine ⟨state, sequential, nofun, fun _ => ⟨env, ?_⟩⟩
      rw [← running alive]
      exact closing
    | called | accepted | refused | cancelled | taken | lost | cloned | released | signalled =>
      exact ⟨state, sequential, running, halted⟩
  · cases step with
    | signalled stoppable => exact fun _ => stoppable
    | called | accepted | refused | cancelled | taken | replied | unheard | lost | cloned
    | released | finished => exact inv.signalled

theorem invariant_run {start : σ} {s : System σ κ ε ρ α capacity} {actions : List (Action κ ε ρ φ)}
    (ran : Runs.run (System.step b) (init start) actions = some s) : Invariant b start s :=
  Runs.run_invariant _ (Invariant b start) (fun _ _ _ inv stepped => inv.step stepped)
    (init start) s actions (invariant_init b start) ran

/-- Service is for good. -/
theorem served_prefix {s s' : System σ κ ε ρ α capacity} {actions : List (Action κ ε ρ φ)}
    (ran : Runs.run (System.step b) s actions = some s') : s.served <+: s'.served := by
  refine Runs.run_invariant _ (s.served <+: ·.served) ?_ s s' actions List.prefix_rfl ran
  intro t action t' before stepped
  cases step_cases b stepped with
  | replied | unheard => exact before.trans (List.prefix_append _ _)
  | called | accepted | refused | cancelled | taken | lost | cloned | released | signalled
  | finished => exact before

/-- A call that begins after another one has got its reply is served after it. -/
theorem served_after {start : σ} {s s' : System σ κ ε ρ α capacity}
    {before after : List (Action κ ε ρ φ)}
    (ran : Runs.run (System.step b) (init start) before = some s)
    (later : Runs.run (System.step b) s after = some s') {first second : κ} {reply : α}
    (replied : s.calls first = some (.ended (.reply reply))) (new : s.calls second = none)
    {e : Entry κ ε ρ α} (member : e ∈ s'.served) (caller : e.caller = second) :
    ∃ d rest, d.caller = first ∧ d.reply = reply ∧ d ∈ s.served ∧ e ∈ rest ∧
      s'.served = s.served ++ rest := by
  have inv := invariant_run ran
  obtain ⟨d, served, facts⟩ := inv.answered.replied first reply replied
  obtain ⟨rest, grown⟩ := served_prefix later
  refine ⟨d, rest, facts.1, facts.2, served, ?_, grown.symm⟩
  rw [← grown, List.mem_append] at member
  rcases member with earlier | inRest
  · rw [← caller] at new
    rcases inv.answered.heard e earlier with heard | heard
    · rw [new] at heard
      cases heard
    · rw [new] at heard
      cases heard
  · exact inRest

/-! ### Progress -/

/-- The task can always complete the request in hand. -/
theorem completes (b : Behaviour σ ε ρ α φ) (env : ε) (s : System σ κ ε ρ α capacity)
    (request : κ × ρ) (busy : s.busy = some request) :
    ∃ t, s.step b (.complete env) = some t ∧ t.finished = s.finished ∧ t.busy = none ∧
      t.mailbox = s.mailbox ∧ t.discarded = s.discarded := by
  obtain ⟨caller, request⟩ := request
  simp only [System.step, busy]
  refine ⟨_, rfl, ?_⟩
  by_cases waiting : s.calls caller = some .waiting
  · rw [deliver_waiting s caller _ waiting]
    exact ⟨rfl, rfl, rfl, rfl⟩
  · rw [deliver_unheard s caller _ waiting]
    exact ⟨rfl, rfl, rfl, rfl⟩

/-- One request is taken from the mailbox and served. -/
theorem serves_next (b : Behaviour σ ε ρ α φ) (env : ε) (s : System σ κ ε ρ α capacity)
    (running : s.finished = false) (idle : s.busy = none) (request : κ × ρ) (rest : List (κ × ρ))
    (queued : s.mailbox.buffer = request :: rest) :
    ∃ s', Runs.run (System.step b) s [.take, .complete env] = some s' ∧
      s'.finished = false ∧ s'.busy = none ∧ s'.mailbox.buffer = rest ∧
      s'.discarded = s.discarded := by
  have bounded : rest.length ≤ capacity := by
    have below := s.mailbox.bounded
    rw [queued, List.length_cons] at below
    omega
  have popped : s.mailbox.pop = some (request, ⟨rest, bounded⟩) :=
    (BoundedQueue.pop_iff ..).mpr queued
  have taken : s.step b .take = some { s with busy := some request, mailbox := ⟨rest, bounded⟩ } := by
    simp [System.step, running, idle, popped]
  obtain ⟨s', completed, halted, free, mailbox, discarded⟩ := completes b env
    { s with busy := some request, mailbox := ⟨rest, bounded⟩ } request rfl
  refine ⟨s', ?_, halted.trans running, free, by rw [mailbox], discarded⟩
  exact (Runs.run_cons_iff ..).mpr ⟨_, taken, (Runs.run_cons_iff ..).mpr ⟨s', completed, rfl⟩⟩

theorem drains_mailbox (b : Behaviour σ ε ρ α φ) (env : ε) (s : System σ κ ε ρ α capacity)
    (running : s.finished = false) (idle : s.busy = none) (kept : s.discarded = []) :
    ∃ (actions : List (Action κ ε ρ φ)) (s' : System σ κ ε ρ α capacity),
      (∀ action ∈ actions, action = .take ∨ action = .complete env) ∧
      Runs.run (System.step b) s actions = some s' ∧ s'.pending = [] := by
  generalize size : s.mailbox.buffer = queued
  induction queued generalizing s with
  | nil => exact ⟨[], s, by simp, rfl, by simp [pending, idle, size, kept]⟩
  | cons request rest ih =>
    obtain ⟨t, served, running, idle, shorter, same⟩ := serves_next b env s running idle request rest size
    obtain ⟨actions, s', own, ran, empty⟩ := ih t running idle (same.trans kept) shorter
    refine ⟨[.take, .complete env] ++ actions, s', ?_, ?_, empty⟩
    · simpa using own
    · exact (Runs.run_append_iff ..).mpr ⟨t, served, ran⟩

/-- Left alone, the task serves what is pending. -/
theorem drains (b : Behaviour σ ε ρ α φ) (env : ε) (s : System σ κ ε ρ α capacity)
    (running : s.finished = false) (kept : s.discarded = []) :
    ∃ (actions : List (Action κ ε ρ φ)) (s' : System σ κ ε ρ α capacity),
      (∀ action ∈ actions, action = .take ∨ action = .complete env) ∧
      Runs.run (System.step b) s actions = some s' ∧ s'.pending = [] := by
  cases busy : s.busy with
  | none => exact drains_mailbox b env s running busy kept
  | some request =>
    -- the request in hand first
    obtain ⟨t, stepped, halted, idle, _, discarded⟩ := completes b env s request busy
    obtain ⟨actions, s', own, ran, empty⟩ := drains_mailbox b env t (halted.trans running) idle
      (discarded.trans kept)
    refine ⟨.complete env :: actions, s', ?_, (Runs.run_cons_iff ..).mpr ⟨t, stepped, ran⟩, empty⟩
    simpa using own

/-- After the end of the task its callers return by themselves. -/
theorem releases (b : Behaviour σ ε ρ α φ) (s : System σ κ ε ρ α capacity) (inv : s.Borrowed)
    (halted : s.finished) :
    ∃ (actions : List (Action κ ε ρ φ)) (s' : System σ κ ε ρ α capacity),
      (∀ action ∈ actions, ∃ caller, action = .refuse caller ∨ action = .lose caller) ∧
      Runs.run (System.step b) s actions = some s' ∧ s'.borrowers = ∅ := by
  generalize size : s.borrowers.card = n
  induction n generalizing s with
  | zero => exact ⟨[], s, by simp, rfl, Finset.card_eq_zero.mp size⟩
  | succ n ih =>
    obtain ⟨caller, member⟩ : s.borrowers.Nonempty := Finset.card_pos.mp (by omega)
    obtain ⟨call, made, inProgress⟩ := (inv.borrowers caller).mp member
    -- the first of them returns
    have returns : ∃ action t, (action = .refuse caller ∨ action = .lose caller) ∧
        s.step b action = some t ∧ t.finished ∧ t.borrowers = s.borrowers.erase caller := by
      cases call with
      | sending request =>
        exact ⟨.refuse caller, s.endCall caller (.ended .closed), .inl rfl,
          by simp [System.step, made, halted], halted, rfl⟩
      | waiting =>
        exact ⟨.lose caller, s.endCall caller (.ended .dropped), .inr rfl,
          by simp [System.step, made, halted], halted, rfl⟩
      | ended | cancelled => exact absurd inProgress id
    obtain ⟨action, t, own, stepped, halted, fewer⟩ := returns
    have smaller : t.borrowers.card = n := by
      rw [fewer, Finset.card_erase_of_mem member]
      omega
    obtain ⟨actions, s', rest, ran, none⟩ :=
      ih t (inv.step (step_cases b stepped)) halted smaller
    refine ⟨action :: actions, s', ?_, (Runs.run_cons_iff ..).mpr ⟨t, stepped, ran⟩, none⟩
    intro a member
    rcases List.mem_cons.mp member with rfl | later
    · exact ⟨caller, own⟩
    · exact rest a later

end System

end Actor
