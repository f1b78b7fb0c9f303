import Mathlib.Data.List.Basic

/-!
# Bounded queues

The buffer of a bounded channel. A value cannot hold more than `capacity` elements,
so `push` is partial: `none` is a full queue, on which a waiting sender waits and a
`try_send` fails.
-/

structure BoundedQueue (α : Type) (capacity : Nat) where
  buffer : List α
  bounded : buffer.length ≤ capacity

namespace BoundedQueue

variable {α : Type} {capacity : Nat}

instance [DecidableEq α] : DecidableEq (BoundedQueue α capacity) := fun a b =>
  decidable_of_iff (a.buffer = b.buffer) (by cases a; cases b; simp)

def empty : BoundedQueue α capacity := ⟨[], Nat.zero_le _⟩

instance : Inhabited (BoundedQueue α capacity) := ⟨empty⟩

def Full (q : BoundedQueue α capacity) : Prop := q.buffer.length = capacity

instance (q : BoundedQueue α capacity) : Decidable q.Full :=
  inferInstanceAs (Decidable (q.buffer.length = capacity))

def push (q : BoundedQueue α capacity) (x : α) : Option (BoundedQueue α capacity) :=
  if full : q.Full then none
  else some ⟨q.buffer ++ [x], by
    have below := q.bounded
    rw [List.length_append, List.length_singleton]
    unfold Full at full
    omega⟩

def pop (q : BoundedQueue α capacity) : Option (α × BoundedQueue α capacity) :=
  match shape : q.buffer with
  | [] => none
  | x :: rest => some (x, ⟨rest, by
      have below := q.bounded
      rw [shape, List.length_cons] at below
      omega⟩)

theorem push_iff (q q' : BoundedQueue α capacity) (x : α) :
    q.push x = some q' ↔ ¬q.Full ∧ q'.buffer = q.buffer ++ [x] := by
  unfold push
  split
  next full => simp [full]
  next room =>
    cases q'
    simp [room, eq_comm]

theorem push_none_iff (q : BoundedQueue α capacity) (x : α) : q.push x = none ↔ q.Full := by
  unfold push
  split
  next full => simp [full]
  next room => simp [room]

theorem pop_iff (q q' : BoundedQueue α capacity) (x : α) :
    q.pop = some (x, q') ↔ q.buffer = x :: q'.buffer := by
  obtain ⟨buffer, bounded⟩ := q
  cases buffer with
  | nil => simp [pop]
  | cons y rest =>
    cases q'
    simp [pop]

end BoundedQueue
