import Mathlib.Data.List.Basic
import Mathlib.Data.List.Induction

/-!
# Runs of event systems

A system is a partial step function on states: `step s e = some t` when event `e`
is enabled in `s` and leads to `t`. A run executes a finite list of events. Safety
over all runs follows from one step by `run_invariant`; `run_remaining` and `run_history` are
the same rule for an invariant that also speaks about the events still to come, or those so far.
Where a property is lost exactly by the steps outside a condition, `always_iff_restrict` says the
same of runs.
-/

namespace Runs

variable {σ ε : Type}

/-- Execute events from left to right; `none` as soon as one is not enabled. -/
def run (step : σ → ε → Option σ) : σ → List ε → Option σ
  | s, [] => some s
  | s, e :: es => (step s e).bind fun t => run step t es

/-- The same system, allowed only the steps that satisfy `cond` in the state before. -/
def restrict (cond : σ → ε → Prop) [∀ s e, Decidable (cond s e)]
    (step : σ → ε → Option σ) : σ → ε → Option σ :=
  fun s e => if cond s e then step s e else none

/-- `P` holds in every state that the run passes through. -/
def Always (step : σ → ε → Option σ) (P : σ → Prop) (s : σ) (es : List ε) : Prop :=
  ∀ served, served <+: es → ∀ t, run step s served = some t → P t

@[simp] theorem run_nil (step : σ → ε → Option σ) (s : σ) : run step s [] = some s := rfl

theorem run_cons_iff (step : σ → ε → Option σ) (s u : σ) (e : ε) (es : List ε) :
    run step s (e :: es) = some u ↔ ∃ t, step s e = some t ∧ run step t es = some u := by
  simp only [run, Option.bind_eq_some_iff]

theorem run_append_iff (step : σ → ε → Option σ) (s u : σ) (es fs : List ε) :
    run step s (es ++ fs) = some u ↔ ∃ t, run step s es = some t ∧ run step t fs = some u := by
  induction es generalizing s with
  | nil => simp
  | cons e es ih =>
    simp only [List.cons_append, run_cons_iff, ih]
    constructor
    · rintro ⟨t, stepped, mid, first, rest⟩
      exact ⟨mid, ⟨t, stepped, first⟩, rest⟩
    · rintro ⟨mid, ⟨t, stepped, first⟩, rest⟩
      exact ⟨t, stepped, mid, first, rest⟩

theorem restrict_iff (cond : σ → ε → Prop) [∀ s e, Decidable (cond s e)]
    (step : σ → ε → Option σ) (s t : σ) (e : ε) :
    restrict cond step s e = some t ↔ cond s e ∧ step s e = some t := by
  unfold restrict
  split
  next allowed => simp [allowed]
  next refused => simp [refused]

theorem run_of_restrict (cond : σ → ε → Prop) [∀ s e, Decidable (cond s e)]
    (step : σ → ε → Option σ) {s u : σ} {es : List ε} (ran : run (restrict cond step) s es = some u) :
    run step s es = some u := by
  induction es generalizing s with
  | nil => exact ran
  | cons e es ih =>
    obtain ⟨t, allowed, rest⟩ := (run_cons_iff ..).mp ran
    exact (run_cons_iff ..).mpr ⟨t, ((restrict_iff ..).mp allowed).2, ih rest⟩

/-- One step keeps an invariant of the state and of the remaining events, so a run does. -/
theorem run_remaining (step : σ → ε → Option σ) (P : σ → List ε → Prop)
    (preserved : ∀ s e es t, P s (e :: es) → step s e = some t → P t es)
    (s u : σ) (es : List ε) (initial : P s es) (ran : run step s es = some u) : P u [] := by
  induction es generalizing s with
  | nil =>
    cases ran
    exact initial
  | cons e es ih =>
    obtain ⟨t, stepped, rest⟩ := (run_cons_iff step s u e es).mp ran
    exact ih t (preserved s e es t initial stepped) rest

theorem run_invariant (step : σ → ε → Option σ) (P : σ → Prop)
    (preserved : ∀ s e t, P s → step s e = some t → P t)
    (s u : σ) (es : List ε) (initial : P s) (ran : run step s es = some u) : P u :=
  run_remaining step (fun s _ => P s) (fun s e _ t => preserved s e t) s u es initial ran

/-- An invariant that also speaks about the events so far. -/
theorem run_history (step : σ → ε → Option σ) (P : List ε → σ → Prop) (s u : σ) (es : List ε)
    (initial : P [] s)
    (preserved : ∀ past t e v, run step s past = some t → P past t → step t e = some v →
      P (past ++ [e]) v)
    (ran : run step s es = some u) : P es u := by
  induction es using List.reverseRecOn generalizing u with
  | nil =>
    cases ran
    exact initial
  | append_singleton past e ih =>
    obtain ⟨t, before, last⟩ := (run_append_iff step s u past [e]).mp ran
    obtain ⟨v, stepped, done⟩ := (run_cons_iff step t u e []).mp last
    cases done
    exact preserved past t e u before (ih t before) stepped

/-- A condition on the events alone. -/
theorem run_restrict_iff_forall (cond : ε → Prop) [DecidablePred cond] (step : σ → ε → Option σ)
    (s u : σ) (es : List ε) :
    run (restrict (fun _ e => cond e) step) s es = some u ↔
      (∀ e ∈ es, cond e) ∧ run step s es = some u := by
  induction es generalizing s with
  | nil => simp
  | cons e es ih =>
    simp only [run_cons_iff, restrict_iff, ih, List.forall_mem_cons]
    constructor
    · rintro ⟨t, ⟨allowed, stepped⟩, rest, ran⟩
      exact ⟨⟨allowed, rest⟩, t, stepped, ran⟩
    · rintro ⟨⟨allowed, rest⟩, t, stepped, ran⟩
      exact ⟨t, ⟨allowed, stepped⟩, rest, ran⟩

theorem always_cons_iff (step : σ → ε → Option σ) (P : σ → Prop) (s t : σ) (e : ε) (es : List ε)
    (stepped : step s e = some t) :
    Always step P s (e :: es) ↔ P s ∧ Always step P t es := by
  constructor
  · intro always
    refine ⟨always [] List.nil_prefix s rfl, fun served before u ran => ?_⟩
    refine always (e :: served) (List.cons_prefix_cons.mpr ⟨rfl, before⟩) u ?_
    exact (run_cons_iff ..).mpr ⟨t, stepped, ran⟩
  · rintro ⟨now, later⟩ served before u ran
    cases served with
    | nil =>
      cases ran
      exact now
    | cons first served =>
      obtain ⟨rfl, tail⟩ := List.cons_prefix_cons.mp before
      obtain ⟨t', stepped', rest⟩ := (run_cons_iff ..).mp ran
      cases stepped.symm.trans stepped'
      exact later served tail u rest

/-- Where one step keeps `P` exactly under `cond`, a run keeps it exactly when all its steps
meet `cond`. -/
theorem always_iff_restrict (step : σ → ε → Option σ) (cond : σ → ε → Prop)
    [∀ s e, Decidable (cond s e)] (Inv P : σ → Prop)
    (invariant : ∀ s e t, Inv s → step s e = some t → Inv t)
    (exact : ∀ s e t, Inv s → P s → step s e = some t → (P t ↔ cond s e))
    (s u : σ) (es : List ε) (inv : Inv s) (initial : P s) (ran : run step s es = some u) :
    Always step P s es ↔ run (restrict cond step) s es = some u := by
  induction es generalizing s with
  | nil =>
    refine iff_of_true ?_ ran
    intro served before t reached
    rw [List.prefix_nil.mp before] at reached
    cases reached
    exact initial
  | cons e es ih =>
    obtain ⟨t, stepped, rest⟩ := (run_cons_iff ..).mp ran
    rw [always_cons_iff step P s t e es stepped, and_iff_right initial, run_cons_iff]
    have decides := exact s e t inv initial stepped
    by_cases kept : cond s e
    · rw [ih t (invariant s e t inv stepped) (decides.mpr kept) rest]
      constructor
      · intro later
        exact ⟨t, (restrict_iff ..).mpr ⟨kept, stepped⟩, later⟩
      · rintro ⟨t', allowed, later⟩
        cases stepped.symm.trans ((restrict_iff ..).mp allowed).2
        exact later
    · -- the step that loses `P`
      refine iff_of_false ?_ ?_
      · intro always
        exact kept (decides.mp (always [] List.nil_prefix t rfl))
      · rintro ⟨t', allowed, _⟩
        exact kept ((restrict_iff ..).mp allowed).1

/-- The same for a condition on the events alone. -/
theorem always_iff_forall (step : σ → ε → Option σ) (cond : ε → Prop) [DecidablePred cond]
    (Inv P : σ → Prop) (invariant : ∀ s e t, Inv s → step s e = some t → Inv t)
    (exact : ∀ s e t, Inv s → P s → step s e = some t → (P t ↔ cond e))
    (s u : σ) (es : List ε) (inv : Inv s) (initial : P s) (ran : run step s es = some u) :
    Always step P s es ↔ ∀ e ∈ es, cond e := by
  rw [always_iff_restrict step (fun _ e => cond e) Inv P invariant exact s u es inv initial ran,
    run_restrict_iff_forall]
  exact and_iff_left ran

/-- What a run does to a part of the state is a run of that part. -/
theorem run_view {τ δ : Type} (step : σ → ε → Option σ) (part : τ → δ → Option τ) (view : σ → τ)
    (own : ε → Option δ)
    (silent : ∀ s e t, step s e = some t → own e = none → view t = view s)
    (moves : ∀ s e t d, step s e = some t → own e = some d → part (view s) d = some (view t))
    (s u : σ) (es : List ε) (ran : run step s es = some u) :
    run part (view s) (es.filterMap own) = some (view u) := by
  induction es generalizing s with
  | nil =>
    cases ran
    rfl
  | cons e es ih =>
    obtain ⟨t, stepped, rest⟩ := (run_cons_iff ..).mp ran
    cases mine : own e with
    | none =>
      rw [List.filterMap_cons_none mine, ← silent s e t stepped mine]
      exact ih t rest
    | some d =>
      rw [List.filterMap_cons_some mine]
      exact (run_cons_iff ..).mpr ⟨view t, moves s e t d stepped mine, ih t rest⟩

end Runs
