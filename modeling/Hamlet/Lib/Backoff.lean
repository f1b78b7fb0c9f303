import Mathlib.Algebra.Group.Nat.Defs

/-!
# Capped exponential backoff

A delay that doubles after each wait up to a cap. The `j`-th wait of a series lasts
`min (initial * 2 ^ (j - 1)) cap`.
-/

namespace Backoff

/-- The delay after a wait of `delay`. -/
def next (cap delay : Nat) : Nat := min (delay * 2) cap

/-- The delay after `waits` waits. -/
def after (initial cap waits : Nat) : Nat := min (initial * 2 ^ waits) cap

theorem after_zero (initial cap : Nat) (below : initial ≤ cap) : after initial cap 0 = initial := by
  rw [after, Nat.pow_zero, Nat.mul_one]
  exact Nat.min_eq_left below

/-- From two on, the delays are the powers of two. -/
theorem after_two (cap waits : Nat) : after 2 cap waits = min (2 ^ (waits + 1)) cap := by
  rw [after, Nat.pow_succ, Nat.mul_comm]

theorem next_after (initial cap waits : Nat) :
    next cap (after initial cap waits) = after initial cap (waits + 1) := by
  unfold next after
  rw [Nat.pow_succ, ← Nat.mul_assoc]
  omega

end Backoff
