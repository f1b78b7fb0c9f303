import Hamlet.BroadcastTask
import Hamlet.Properties.TokenSlots

/-!
# What the broadcast task publishes, and when

The statements of the task on `broadcast_keys` are a run of `BroadcastLoop`, so what is known
about keys holds for it. A cycle publishes one payload, with the key it looked up, to every topic
of the list it locked, once and in their order; nobody changes the list meanwhile.

The timer bounds how many cycles there can be, not how close two of them come: it makes up for
missed ticks. Only the pause that goes with jitter keeps cycles a period apart; during it the list
stays locked.
-/

namespace Hamlet

/-- The statement of an action, if it is one. -/
def BroadcastAction.key? : BroadcastAction → Option KeyAction
  | .key action => some action
  | _ => none

variable {b : BroadcastState} {hmac : HmacSha256}

namespace BroadcastTask

/-- The task refines the loop over its statements. -/
theorem run_keys {s u : BroadcastTask} {actions : List BroadcastAction}
    (ran : Runs.run (step b hmac) s actions = some u) :
    Runs.run (BroadcastLoop.step b.keyManagement) s.loop (actions.filterMap BroadcastAction.key?) =
      some u.loop := by
  refine Runs.run_view (step b hmac) _ loop BroadcastAction.key? ?_ ?_ s u actions ran
  · intro s action t stepped silent
    cases step_cases b hmac stepped with
    | keyed => cases silent
    | elapsed | ticked | composed | locked | drew | chose | woke | rested | sent | paused | ended
    | wrote => rfl
  · intro s action t statement stepped own
    cases step_cases b hmac stepped with
    | keyed _ _ _ moved =>
      cases own
      exact moved
    | elapsed | ticked | composed | locked | drew | chose | woke | rested | sent | paused | ended
    | wrote => cases own

/-! ### What a cycle publishes -/

/-- The payload of a cycle goes with its key, and the key was made in this run. -/
structure Authentic (b : BroadcastState) (hmac : HmacSha256) (past : List KeyAction)
    (cycle : BroadcastCycle) : Prop where
  url : cycle.payload.url = b.serverUrl
  fields : b.keyManagement.otaFields hmac cycle.reading cycle.key =
    some (cycle.payload.kid, cycle.payload.tok)
  notDue : 1 ≤ b.keyManagement.rotationInterval → cycle.lookup < cycle.key.rotatesAt
  created : ∃ createdAt, CreatedIn b.keyManagement past createdAt cycle.key

/-- The key that a lookup has led to. -/
structure Chosen (b : BroadcastState) (past : List KeyAction) (lookup : Nat) (key : BroadcastKey) :
    Prop where
  notDue : 1 ≤ b.keyManagement.rotationInterval → lookup < key.rotatesAt
  created : ∃ createdAt, CreatedIn b.keyManagement past createdAt key

/-- Where a cycle stands in the list: it is published to in order, and nobody has changed it. -/
structure Publishing (cycle : BroadcastCycle) (topics rest : List String) : Prop where
  snapshot : cycle.topics = topics
  order : cycle.sent.map Prod.fst ++ rest = cycle.topics

def StageInvariant (b : BroadcastState) (hmac : HmacSha256) (past : List KeyAction)
    (s : BroadcastTask) : Prop :=
  match s.stage with
  | .ticking | .keying => True
  | .composing lookup key => Chosen b past lookup key
  | .locking cycle => Authentic b hmac past cycle ∧ cycle.sent = []
  | .choosing cycle rest => Authentic b hmac past cycle ∧ Publishing cycle s.topics rest
  | .jittering cycle topic rest _ | .publishing cycle topic rest =>
    Authentic b hmac past cycle ∧ Publishing cycle s.topics (topic :: rest)
  | .resting cycle _ => Authentic b hmac past cycle ∧ Publishing cycle s.topics []

structure CycleInvariant (b : BroadcastState) (hmac : HmacSha256) (past : List KeyAction)
    (s : BroadcastTask) : Prop where
  stage : StageInvariant b hmac past s
  completed : ∀ cycle ∈ s.cycles.map Prod.fst,
    Authentic b hmac past cycle ∧ cycle.sent.map Prod.fst = cycle.topics

theorem Authentic.later {past : List KeyAction} {cycle : BroadcastCycle}
    (authentic : Authentic b hmac past cycle) (more : List KeyAction) :
    Authentic b hmac (past ++ more) cycle := by
  obtain ⟨createdAt, created⟩ := authentic.created
  exact ⟨authentic.url, authentic.fields, authentic.notDue, createdAt, created.later more⟩

/-- After the sweep the cycle goes on with the key that the lookup has led to. -/
theorem chosen_of_sweeping {past : List KeyAction} {loop : BroadcastLoop}
    (ran : Runs.run (BroadcastLoop.step b.keyManagement) .init past = some loop) {lookup : Nat}
    {key : BroadcastKey} (sweeping : loop.phase = .sweeping lookup key) : Chosen b past lookup key := by
  obtain ⟨rows, phase⟩ := creationInvariant_run ran
  simp only [CreationPhase, sweeping] at phase
  obtain ⟨⟨row, member, built⟩, notDue⟩ := phase
  obtain ⟨_, key', built', created⟩ := rows row member
  rw [built, Except.ok.injEq] at built'
  exact ⟨notDue, row.createdAt, built' ▸ created⟩

theorem Publishing.done {cycle : BroadcastCycle} {topics : List String}
    (publishing : Publishing cycle topics []) : cycle.sent.map Prod.fst = cycle.topics := by
  rw [← publishing.order, List.append_nil]

/-- A cycle is over. -/
theorem CycleInvariant.release {past : List KeyAction} {s : BroadcastTask}
    (inv : CycleInvariant b hmac past s) {cycle : BroadcastCycle}
    (authentic : Authentic b hmac past cycle) (publishing : Publishing cycle s.topics []) :
    CycleInvariant b hmac past (s.release cycle) := by
  refine ⟨trivial, fun other member => ?_⟩
  simp only [BroadcastTask.release, List.map_append, List.map_cons, List.map_nil, List.mem_append,
    List.mem_singleton] at member
  rcases member with old | rfl
  · exact inv.completed other old
  · exact ⟨authentic, publishing.done⟩

theorem stageInvariant_of_stage {past : List KeyAction} {s s' : BroadcastTask}
    (inv : StageInvariant b hmac past s) (stage : s'.stage = s.stage)
    (topics : s'.stage.locked → s'.topics = s.topics) : StageInvariant b hmac past s' := by
  simp only [StageInvariant] at inv ⊢
  rw [stage]
  cases shape : s.stage with
  | ticking | keying => trivial
  | composing | locking => simpa [shape] using inv
  | choosing | jittering | publishing | resting =>
    rw [topics (by rw [stage, shape]; rfl)]
    simpa [shape] using inv

/-- A step that is no statement on the keys. -/
theorem CycleInvariant.step {past : List KeyAction} {s s' : BroadcastTask} {action : BroadcastAction}
    (inv : CycleInvariant b hmac past s) (stepped : Steps b hmac s action s')
    (silent : action.key? = none) : CycleInvariant b hmac past s' := by
  have stage := inv.stage
  simp only [StageInvariant] at stage
  cases stepped with
  | keyed => cases silent
  | elapsed => exact ⟨stageInvariant_of_stage inv.stage rfl fun _ => rfl, inv.completed⟩
  | wrote topics free =>
    exact ⟨stageInvariant_of_stage inv.stage rfl fun locked => by simp [free] at locked,
      inv.completed⟩
  | ticked => exact ⟨trivial, inv.completed⟩
  | composed lookup reading key kid tok composing later fields =>
    rw [composing] at stage
    exact ⟨⟨⟨rfl, fields, stage.notDue, stage.created⟩, rfl⟩, inv.completed⟩
  | locked cycle locking =>
    rw [locking] at stage
    obtain ⟨⟨url, fields, notDue, created⟩, unsent⟩ := stage
    exact ⟨⟨⟨url, fields, notDue, created⟩, rfl, by simp [unsent]⟩, inv.completed⟩
  | drew cycle topic rest draw choosing | chose cycle topic rest draw choosing =>
    rw [choosing] at stage
    exact ⟨stage, inv.completed⟩
  | woke cycle topic rest wake jittering =>
    rw [jittering] at stage
    exact ⟨stage, inv.completed⟩
  | sent cycle topic rest answer publishing =>
    rw [publishing] at stage
    obtain ⟨⟨url, fields, notDue, created⟩, snapshot, order⟩ := stage
    refine ⟨⟨⟨url, fields, notDue, created⟩, snapshot, ?_⟩, inv.completed⟩
    rw [List.map_append, List.append_assoc]
    exact order
  | paused cycle choosing =>
    rw [choosing] at stage
    exact ⟨stage, inv.completed⟩
  | rested cycle wake resting =>
    rw [resting] at stage
    exact inv.release stage.1 stage.2
  | ended cycle choosing =>
    rw [choosing] at stage
    exact inv.release stage.1 stage.2

theorem cycleInvariant_run {start : Nat} {topics : List String} {actions : List BroadcastAction}
    {s : BroadcastTask} (ran : Runs.run (BroadcastTask.step b hmac) (.init b start topics) actions = some s) :
    CycleInvariant b hmac (actions.filterMap BroadcastAction.key?) s := by
  refine Runs.run_history _
    (fun past s => CycleInvariant b hmac (past.filterMap BroadcastAction.key?) s) _ s actions ?_ ?_ ran
  · exact ⟨trivial, nofun⟩
  · intro past t action u before inv stepped
    have step := step_cases b hmac stepped
    rw [List.filterMap_append]
    cases own : action.key? with
    | none =>
      rw [List.filterMap_cons_none own, List.filterMap_nil, List.append_nil]
      exact inv.step step own
    | some statement =>
      rw [List.filterMap_cons_some own, List.filterMap_nil]
      -- the earlier cycles keep their keys; a sweep hands its key on
      cases step with
      | keyed action loop keying moved =>
        cases own
        refine ⟨?_, fun cycle member => ?_⟩
        · show StageInvariant b hmac _ { t with
            loop, stage := afterStatement t.loop.phase loop.phase }
          cases phase : t.loop.phase with
          | sweeping lookup key =>
            obtain ⟨notDue, createdAt, created⟩ := chosen_of_sweeping (run_keys before) phase
            exact ⟨notDue, createdAt, created.later _⟩
          | idle | rotating | inserting =>
            cases loop.phase <;> trivial
        · obtain ⟨authentic, all⟩ := inv.completed cycle member
          exact ⟨authentic.later _, all⟩
      | elapsed | ticked | composed | locked | drew | chose | woke | rested | sent | paused | ended
      | wrote => cases own

end BroadcastTask

open BroadcastTask

/-- The broadcast task refines the key loop, and every cycle of a run publishes as a whole: with
the fields of the key it looked up, which this run has created, once to every topic of the list,
in order. While it does, the list is the one it locked. -/
theorem broadcast_cycles (b : BroadcastState) (hmac : HmacSha256) (toVec : Json → List UInt8)
    (start : Nat) (topics : List String) (actions : List BroadcastAction) (s : BroadcastTask)
    (ran : Runs.run (BroadcastTask.step b hmac) (.init b start topics) actions = some s) :
    Runs.run (BroadcastLoop.step b.keyManagement) .init
        (actions.filterMap BroadcastAction.key?) = some s.loop ∧
      (∀ cycle ∈ s.cycles.map Prod.fst,
        Authentic b hmac (actions.filterMap BroadcastAction.key?) cycle ∧
        cycle.commands toVec = cycle.topics.map fun topic =>
          .publish topic .atLeastOnce (toVec cycle.payload.json)) ∧
      (∀ cycle, s.stage.cycle? = some cycle → s.stage.locked →
        Authentic b hmac (actions.filterMap BroadcastAction.key?) cycle ∧
        cycle.topics = s.topics ∧ cycle.sent.map Prod.fst <+: s.topics) := by
  have inv := cycleInvariant_run ran
  refine ⟨run_keys ran, fun cycle member => ?_, fun cycle current locked => ?_⟩
  · obtain ⟨authentic, all⟩ := inv.completed cycle member
    refine ⟨authentic, ?_⟩
    rw [← all, BroadcastCycle.commands, List.map_map]
    rfl
  · have stage := inv.stage
    simp only [StageInvariant] at stage
    cases shape : s.stage with
    | ticking | keying | composing | locking =>
      rw [shape] at locked
      cases locked
    | choosing cycle' rest | resting cycle' wake | jittering cycle' topic rest wake
    | publishing cycle' topic rest =>
      simp only [shape] at stage current
      cases current
      obtain ⟨authentic, snapshot, order⟩ := stage
      exact ⟨authentic, snapshot, snapshot ▸ order ▸ List.prefix_append _ _⟩

/-! ### When -/

namespace BroadcastTask

/-- The timer follows its schedule, and each tick starts one cycle at most. -/
structure Timed (b : BroadcastState) (start : Nat) (s : BroadcastTask) : Prop where
  period : s.interval.period = b.period
  behavior : s.interval.behavior = .burst
  deadline : s.interval.deadline = start + s.ticks.length * b.period
  ticks : ∀ i t, s.ticks[i]? = some t → start + i * b.period ≤ t ∧ t ≤ s.now
  count : s.cycles.length + (if s.stage = .ticking then 0 else 1) ≤ s.ticks.length

theorem timed_init (start : Nat) (topics : List String) : Timed b start (init b start topics) where
  period := rfl
  behavior := rfl
  deadline := by simp [init, TickInterval.start]
  ticks := by simp [init]
  count := by simp [init]

/-- The timer and the number of cycles stay as they are. -/
theorem Timed.keep {start : Nat} {s s' : BroadcastTask} (inv : Timed b start s)
    (interval : s'.interval = s.interval) (ticks : s'.ticks = s.ticks) (later : s.now ≤ s'.now)
    (cycles : s'.cycles.length + (if s'.stage = .ticking then 0 else 1) ≤
      s.cycles.length + (if s.stage = .ticking then 0 else 1)) : Timed b start s' where
  period := interval ▸ inv.period
  behavior := interval ▸ inv.behavior
  deadline := by rw [interval, ticks, inv.deadline]
  ticks := by
    intro i t found
    obtain ⟨due, past⟩ := inv.ticks i t (ticks ▸ found)
    exact ⟨due, past.trans later⟩
  count := by
    rw [ticks]
    exact cycles.trans inv.count

theorem Timed.step {start : Nat} {s s' : BroadcastTask} {action : BroadcastAction}
    (inv : Timed b start s) (stepped : Steps b hmac s action s') : Timed b start s' := by
  cases stepped with
  | elapsed time => exact inv.keep rfl rfl (Nat.le_add_right _ _) le_rfl
  | wrote => exact inv.keep rfl rfl le_rfl le_rfl
  | ticked interval ticking due =>
    obtain ⟨passed, period, behavior, next⟩ := TickInterval.tick_cases due
    have scheduled : interval.deadline = s.interval.deadline + s.interval.period :=
      next.resolve_right fun delayed => by simp [inv.behavior] at delayed
    have count := inv.count
    rw [ticking, if_pos rfl] at count
    rw [inv.deadline] at passed
    refine ⟨period.trans inv.period, behavior.trans inv.behavior, ?_, fun i t found => ?_, ?_⟩
    · rw [scheduled, inv.deadline, inv.period, List.length_append, List.length_singleton,
        Nat.succ_mul, Nat.add_assoc]
    · rcases Nat.lt_or_ge i s.ticks.length with old | new
      · rw [List.getElem?_append_left old] at found
        exact inv.ticks i t found
      · rw [List.getElem?_append_right new, List.getElem?_singleton] at found
        obtain ⟨last, same⟩ := Option.ite_none_right_eq_some.mp found
        have index : i = s.ticks.length := by omega
        cases same
        exact ⟨index ▸ passed, le_rfl⟩
    · simp only [List.length_append, List.length_singleton, reduceCtorEq, if_false]
      omega
  | keyed action loop keying =>
    refine inv.keep rfl rfl le_rfl ?_
    show s.cycles.length + (if afterStatement s.loop.phase loop.phase = .ticking then 0 else 1) ≤ _
    simp only [keying, reduceCtorEq, if_false]
    split <;> omega
  | composed _ _ _ _ _ before | locked _ before | drew _ _ _ _ before | chose _ _ _ _ before
  | woke _ _ _ _ before | sent _ _ _ _ before | paused _ before =>
    refine inv.keep rfl rfl le_rfl ?_
    simp [before]
  | rested _ _ before | ended _ before =>
    refine inv.keep rfl rfl le_rfl ?_
    simp [release, before]

/-- With jitter a publish returns at least a second after the one before it. -/
structure JitterGaps (cycle : BroadcastCycle) : Prop where
  apart : cycle.sent.Pairwise fun p q => p.2 + 1000 ≤ q.2
  first : ∀ p ∈ cycle.sent, cycle.start + 1000 ≤ p.2

/-- The cycle began after the others were over. -/
structure Current (s : BroadcastTask) (cycle : BroadcastCycle) : Prop where
  begun : cycle.start ≤ s.now
  after : ∀ c ∈ s.cycles, c.2 ≤ cycle.start
  gaps : JitterGaps cycle

def SpacedStage (b : BroadcastState) (s : BroadcastTask) : Prop :=
  match s.stage with
  | .ticking | .keying | .composing _ _ => True
  | .locking cycle => Current s cycle ∧ cycle.sent = []
  | .choosing cycle _ => Current s cycle ∧ ∀ p ∈ cycle.sent, p.2 ≤ s.now
  | .jittering cycle _ _ wake =>
    Current s cycle ∧ cycle.start + 1000 ≤ wake ∧ ∀ p ∈ cycle.sent, p.2 + 1000 ≤ wake
  | .publishing cycle _ _ =>
    Current s cycle ∧ cycle.start + 1000 ≤ s.now ∧ ∀ p ∈ cycle.sent, p.2 + 1000 ≤ s.now
  | .resting cycle wake => Current s cycle ∧ cycle.start + b.period ≤ wake

structure Spaced (b : BroadcastState) (s : BroadcastTask) : Prop where
  apart : s.cycles.Pairwise fun c d => c.2 ≤ d.1.start
  completed : ∀ c ∈ s.cycles, c.1.start + b.period ≤ c.2 ∧ c.2 ≤ s.now ∧ JitterGaps c.1
  stage : SpacedStage b s

theorem spaced_init (start : Nat) (topics : List String) : Spaced b (init b start topics) :=
  ⟨List.Pairwise.nil, by simp [init], trivial⟩

theorem Current.keep {s s' : BroadcastTask} {cycle : BroadcastCycle} (current : Current s cycle)
    (cycles : s'.cycles = s.cycles) (later : s.now ≤ s'.now) : Current s' cycle :=
  ⟨current.begun.trans later, cycles ▸ current.after, current.gaps⟩

theorem JitterGaps.concat {cycle : BroadcastCycle} (gaps : JitterGaps cycle) {now : Nat}
    (first : cycle.start + 1000 ≤ now) (apart : ∀ p ∈ cycle.sent, p.2 + 1000 ≤ now)
    (topic : String) : JitterGaps { cycle with sent := cycle.sent ++ [(topic, now)] } := by
  constructor
  · rw [List.pairwise_append]
    refine ⟨gaps.apart, List.pairwise_singleton _ _, fun p member q last => ?_⟩
    rw [List.mem_singleton.mp last]
    exact apart p member
  · intro p member
    rcases List.mem_append.mp member with old | last
    · exact gaps.first p old
    · rw [List.mem_singleton.mp last]
      exact first

/-- Time passes, or the list is changed. -/
theorem Spaced.keep {s s' : BroadcastTask} (inv : Spaced b s) (stage : s'.stage = s.stage)
    (cycles : s'.cycles = s.cycles) (later : s.now ≤ s'.now) : Spaced b s' := by
  refine ⟨cycles ▸ inv.apart, fun c member => ?_, ?_⟩
  · obtain ⟨held, past, gaps⟩ := inv.completed c (cycles ▸ member)
    exact ⟨held, past.trans later, gaps⟩
  · have spaced := inv.stage
    simp only [SpacedStage] at spaced ⊢
    rw [stage]
    cases shape : s.stage with
    | ticking | keying | composing => trivial
    | locking cycle | resting cycle wake =>
      rw [shape] at spaced
      exact ⟨spaced.1.keep cycles later, spaced.2⟩
    | jittering cycle topic rest wake =>
      rw [shape] at spaced
      exact ⟨spaced.1.keep cycles later, spaced.2⟩
    | choosing cycle rest =>
      rw [shape] at spaced
      exact ⟨spaced.1.keep cycles later, fun p member => (spaced.2 p member).trans later⟩
    | publishing cycle topic rest =>
      rw [shape] at spaced
      obtain ⟨current, first, apart⟩ := spaced
      exact ⟨current.keep cycles later, first.trans later,
        fun p member => (apart p member).trans later⟩

theorem Spaced.release {s : BroadcastTask} (inv : Spaced b s) {cycle : BroadcastCycle}
    (current : Current s cycle) (due : cycle.start + b.period ≤ s.now) :
    Spaced b (s.release cycle) := by
  refine ⟨?_, fun c member => ?_, trivial⟩
  · show (s.cycles ++ [(cycle, s.now)]).Pairwise _
    rw [List.pairwise_append]
    refine ⟨inv.apart, List.pairwise_singleton _ _, fun c member d last => ?_⟩
    rw [List.mem_singleton.mp last]
    exact current.after c member
  · rcases List.mem_append.mp member with old | last
    · exact inv.completed c old
    · rw [List.mem_singleton.mp last]
      exact ⟨due, le_rfl, current.gaps⟩

theorem Spaced.step (jitter : b.useJitter) {s s' : BroadcastTask} {action : BroadcastAction}
    (inv : Spaced b s) (stepped : Steps b hmac s action s') : Spaced b s' := by
  have stage := inv.stage
  simp only [SpacedStage] at stage
  cases stepped with
  | elapsed time => exact inv.keep rfl rfl (Nat.le_add_right _ _)
  | wrote => exact inv.keep rfl rfl le_rfl
  | ticked => exact ⟨inv.apart, inv.completed, trivial⟩
  | keyed action loop keying =>
    refine ⟨inv.apart, inv.completed, ?_⟩
    show SpacedStage b { s with loop, stage := afterStatement s.loop.phase loop.phase }
    cases s.loop.phase <;> cases loop.phase <;> trivial
  | composed lookup reading key kid tok composing =>
    refine ⟨inv.apart, inv.completed,
      ⟨le_rfl, fun c member => (inv.completed c member).2.1, ?_⟩, rfl⟩
    exact ⟨List.Pairwise.nil, nofun⟩
  | locked cycle locking =>
    rw [locking] at stage
    obtain ⟨⟨begun, after, _⟩, unsent⟩ := stage
    refine ⟨inv.apart, inv.completed, ⟨begun, after, ?_, ?_⟩, ?_⟩ <;> simp [unsent]
  | drew cycle topic rest draw choosing =>
    rw [choosing] at stage
    obtain ⟨current, past⟩ := stage
    have second : 1000 ≤ jitterTime draw := by
      unfold jitterTime
      omega
    refine ⟨inv.apart, inv.completed, current.keep rfl le_rfl, ?_, fun p member => ?_⟩
    · have begun := current.begun
      omega
    · have earlier := past p member
      omega
  | chose cycle topic rest draw choosing plain =>
    rw [plain] at jitter
    cases jitter
  | woke cycle topic rest wake jittering slept =>
    rw [jittering] at stage
    obtain ⟨current, first, apart⟩ := stage
    exact ⟨inv.apart, inv.completed, current.keep rfl le_rfl, first.trans slept,
      fun p member => (apart p member).trans slept⟩
  | sent cycle topic rest answer publishing =>
    rw [publishing] at stage
    obtain ⟨current, first, apart⟩ := stage
    refine ⟨inv.apart, inv.completed,
      ⟨current.begun, current.after, current.gaps.concat first apart topic⟩, fun p member => ?_⟩
    show p.2 ≤ s.now
    rcases List.mem_append.mp member with old | last
    · have earlier := apart p old
      omega
    · rw [List.mem_singleton.mp last]
  | paused cycle choosing jitter early =>
    rw [choosing] at stage
    refine ⟨inv.apart, inv.completed, stage.1.keep rfl le_rfl, ?_⟩
    have begun := stage.1.begun
    omega
  | rested cycle wake resting slept =>
    rw [resting] at stage
    exact inv.release stage.1 (stage.2.trans slept)
  | ended cycle choosing due =>
    rw [choosing] at stage
    have begun := stage.1.begun
    rcases due with plain | due
    · rw [plain] at jitter
      cases jitter
    · exact inv.release stage.1 (by omega)

end BroadcastTask

/-- How often the task broadcasts. The timer allows one cycle more than periods have passed, in
the long run; two cycles can still follow each other at once. With jitter they cannot: a cycle
begins after the one before it has let go of the list, at least a period after that one began, and
within a cycle the publishes are a second apart. -/
theorem broadcast_pacing (b : BroadcastState) (hmac : HmacSha256) (start : Nat)
    (topics : List String) (actions : List BroadcastAction) (s : BroadcastTask)
    (ran : Runs.run (BroadcastTask.step b hmac) (.init b start topics) actions = some s) :
    (∀ i t, s.ticks[i]? = some t → start + i * b.period ≤ t ∧ t ≤ s.now) ∧
      s.cycles.length * b.period ≤ (s.now - start) + b.period ∧
      (b.useJitter →
        s.cycles.Pairwise (fun c d => c.2 ≤ d.1.start) ∧
        ∀ c ∈ s.cycles, c.1.start + b.period ≤ c.2 ∧
          (c.1.sent.Pairwise fun p q => p.2 + 1000 ≤ q.2) ∧
          ∀ p ∈ c.1.sent, c.1.start + 1000 ≤ p.2) := by
  have timed : Timed b start s := Runs.run_invariant _ (Timed b start)
    (fun _ _ _ inv stepped => inv.step (step_cases b hmac stepped)) _ s actions
    (timed_init start topics) ran
  refine ⟨timed.ticks, ?_, fun jitter => ?_⟩
  · cases empty : s.cycles.length with
    | zero => simp
    | succ n =>
      -- the cycle number `n` has its tick
      have count := timed.count
      have inside : n < s.ticks.length := by omega
      obtain ⟨due, past⟩ := timed.ticks n (s.ticks.get ⟨n, inside⟩) (List.getElem?_eq_getElem inside)
      rw [Nat.succ_mul]
      omega
  · have spaced : Spaced b s := Runs.run_invariant _ (Spaced b)
      (fun _ _ _ inv stepped => inv.step jitter (step_cases b hmac stepped)) _ s actions
      (spaced_init start topics) ran
    refine ⟨spaced.apart, fun c member => ?_⟩
    obtain ⟨held, _, gaps⟩ := spaced.completed c member
    exact ⟨held, gaps.apart, gaps.first⟩

/-- A node with one-second cycles and no jitter. -/
def everySecond : BroadcastState := ⟨"https://node", false, 1, defaultKeys⟩

/-- A cycle that publishes to two topics and gets stuck for `time` in the second publish. -/
def slowCycle (statements : List KeyAction) (time : Nat) : List BroadcastAction :=
  .tick :: statements.map .key ++ [.compose 1000, .lockRead, .next 0, .published (.ok ()), .next 0,
    .elapse time, .published (.error "mqtt client dropped reply"), .rest]

/-- After five seconds in one publish the next two cycles follow at once. -/
def slowRun : List BroadcastAction :=
  slowCycle (rotatingCycle 1000 1) 5000 ++
    slowCycle [.lookup 1000 (.ok ()), .sweep 1000 (.ok ())] 0 ++
    slowCycle [.lookup 1000 (.ok ()), .sweep 1000 (.ok ())] 0

/-- A node with five-second cycles and jitter. -/
def everyFive : BroadcastState := ⟨"https://node", true, 5, defaultKeys⟩

/-- A cycle that publishes to two topics, each after a second of jitter, and rests. -/
def jitterCycle (statements : List KeyAction) : List BroadcastAction :=
  .tick :: statements.map .key ++ [.compose 1000, .lockRead,
    .next 0, .elapse 1000, .wake, .published (.ok ()),
    .next 0, .elapse 1000, .wake, .published (.ok ()), .rest, .elapse 3000, .wake]

def jitterRun : List BroadcastAction :=
  jitterCycle (rotatingCycle 1000 1) ++ jitterCycle [.lookup 1000 (.ok ()), .sweep 1000 (.ok ())]

theorem slowRun_bursts_jitterRun_rests :
    (∃ s, Runs.run (BroadcastTask.step everySecond sampleHmac) (.init everySecond 0 ["a", "b"])
        slowRun = some s ∧
      s.ticks = [0, 5000, 5000] ∧ s.cycles.map (·.1.start) = [0, 5000, 5000] ∧
      s.cycles.length * 1000 ≤ s.now + 1000) ∧
    ∃ s, Runs.run (BroadcastTask.step everyFive sampleHmac) (.init everyFive 0 ["a", "b"])
        jitterRun = some s ∧
      s.cycles.map (fun c => (c.1.start, c.2)) = [(0, 5000), (5000, 10000)] ∧
      ∀ c ∈ s.cycles, c.1.start + 5000 ≤ c.2 ∧
        c.1.sent.Pairwise fun p q => p.2 + 1000 ≤ q.2 := by
  constructor
  · obtain ⟨s, ran, ticks, starts⟩ :
        ∃ s, Runs.run (BroadcastTask.step everySecond sampleHmac)
          (.init everySecond 0 ["a", "b"]) slowRun = some s ∧ s.ticks = [0, 5000, 5000] ∧
          s.cycles.map (·.1.start) = [0, 5000, 5000] := ⟨_, rfl, rfl, rfl⟩
    obtain ⟨_, rate, _⟩ := broadcast_pacing everySecond sampleHmac 0 ["a", "b"] slowRun s ran
    exact ⟨s, ran, ticks, starts, rate⟩
  · have reached : ((Runs.run (BroadcastTask.step everyFive sampleHmac)
        (.init everyFive 0 ["a", "b"]) jitterRun).map fun s =>
          s.cycles.map fun c => (c.1.start, c.2)) = some [(0, 5000), (5000, 10000)] := by
      decide +kernel
    obtain ⟨s, ran, cycles⟩ := Option.map_eq_some_iff.mp reached
    obtain ⟨_, _, spaced⟩ := broadcast_pacing everyFive sampleHmac 0 ["a", "b"] jitterRun s ran
    refine ⟨s, ran, cycles, fun c member => ?_⟩
    obtain ⟨held, apart, _⟩ := (spaced rfl).2 c member
    exact ⟨held, apart⟩

theorem slowRun_publishes :
    ∃ s, Runs.run (BroadcastTask.step everySecond sampleHmac) (.init everySecond 0 ["a", "b"])
        slowRun = some s ∧
      s.cycles.map (·.1.payload) = List.replicate 3 ⟨"https://node", "01000000", "f375180a"⟩ ∧
      ∀ cycle ∈ s.cycles.map Prod.fst, ∃ createdAt,
        CreatedIn defaultKeys (slowRun.filterMap BroadcastAction.key?) createdAt cycle.key := by
  obtain ⟨s, ran, payloads⟩ :
      ∃ s, Runs.run (BroadcastTask.step everySecond sampleHmac) (.init everySecond 0 ["a", "b"])
        slowRun = some s ∧
      s.cycles.map (·.1.payload) = List.replicate 3 ⟨"https://node", "01000000", "f375180a"⟩ := by
    have reached : ((Runs.run (BroadcastTask.step everySecond sampleHmac)
        (.init everySecond 0 ["a", "b"]) slowRun).map fun s => s.cycles.map (·.1.payload)) =
        some (List.replicate 3 ⟨"https://node", "01000000", "f375180a"⟩) := by decide +kernel
    obtain ⟨s, ran, same⟩ := Option.map_eq_some_iff.mp reached
    exact ⟨s, ran, same⟩
  obtain ⟨_, completed, _⟩ :=
    broadcast_cycles everySecond sampleHmac (fun _ => []) 0 ["a", "b"] slowRun s ran
  exact ⟨s, ran, payloads, fun cycle member => (completed cycle member).1.created⟩

end Hamlet
