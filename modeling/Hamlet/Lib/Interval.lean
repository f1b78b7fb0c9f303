import Mathlib.Tactic.Common

/-!
# Periodic timers

The interval of `tokio::time`: a tick completes once its deadline has passed, and sets the next
one. A tick that completes late either leaves the schedule as it was, so that missed ticks follow
in a burst, or delays it. The unit of time is open.
-/

inductive MissedTickBehavior where
  | burst
  | delay
  deriving DecidableEq, Repr

structure TickInterval where
  period : Nat
  behavior : MissedTickBehavior
  /-- A tick that completes within this time is not late. -/
  tolerance : Nat
  deadline : Nat
  deriving DecidableEq, Repr

namespace TickInterval

/-- The first tick is due at once. -/
def start (period : Nat) (behavior : MissedTickBehavior) (tolerance now : Nat) : TickInterval :=
  ⟨period, behavior, tolerance, now⟩

def nextTimeout (i : TickInterval) (now : Nat) : Nat :=
  match i.behavior with
  | .burst => i.deadline + i.period
  | .delay => now + i.period

/-- `tick` at `now`; `none` while it has to wait. -/
def tick (i : TickInterval) (now : Nat) : Option TickInterval :=
  if i.deadline ≤ now then
    some { i with
      deadline :=
        if i.deadline + i.tolerance < now then i.nextTimeout now else i.deadline + i.period }
  else none

theorem tick_cases {i i' : TickInterval} {now : Nat} (ticked : i.tick now = some i') :
    i.deadline ≤ now ∧ i'.period = i.period ∧ i'.behavior = i.behavior ∧
      (i'.deadline = i.deadline + i.period ∨
        (i.behavior = .delay ∧ i'.deadline = now + i.period)) := by
  obtain ⟨due, same⟩ := Option.ite_none_right_eq_some.mp ticked
  cases same
  refine ⟨due, rfl, rfl, ?_⟩
  by_cases late : i.deadline + i.tolerance < now
  · simp only [late, if_true, nextTimeout]
    cases i.behavior with
    | burst => exact .inl rfl
    | delay => exact .inr ⟨rfl, rfl⟩
  · exact .inl (if_neg late)

/-- The next tick is due a period after this one at the latest. -/
theorem tick_deadline_le {i i' : TickInterval} {now : Nat} (ticked : i.tick now = some i') :
    i'.deadline ≤ now + i.period := by
  obtain ⟨due, _, _, same | ⟨_, same⟩⟩ := tick_cases ticked <;> omega

end TickInterval
