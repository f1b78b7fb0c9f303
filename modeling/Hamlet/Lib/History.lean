import Mathlib.Data.List.DropRight

/-!
# Histories

A history is a list of entries, oldest first, that grows at its end. `Each` is a law that
every entry obeys with respect to those before it; a law of this kind is kept by one step
exactly when the entry that the step adds obeys it. `latest`, `since` and `countSince` look
back from the end.
-/

namespace History

variable {α : Type}

/-- Every entry `x` satisfies `P before x`, where `before` are the entries before it. -/
def Each (P : List α → α → Prop) (history : List α) : Prop :=
  ∀ before x after, history = before ++ x :: after → P before x

theorem each_nil (P : List α → α → Prop) : Each P [] := by
  intro before x after shape
  simp at shape

theorem each_concat (P : List α → α → Prop) (history : List α) (x : α) :
    Each P (history ++ [x]) ↔ Each P history ∧ P history x := by
  constructor
  · intro each
    refine ⟨fun before y after shape => ?_, each history x [] rfl⟩
    exact each before y (after ++ [x]) (by simp [shape])
  · rintro ⟨each, last⟩ before y after shape
    -- the entry is the new one, or it stands in the old history
    rcases List.eq_nil_or_concat after with rfl | ⟨rest, z, rfl⟩
    · obtain ⟨rfl, same⟩ := List.append_inj' shape rfl
      cases same
      exact last
    · rw [List.concat_eq_append, ← List.cons_append, ← List.append_assoc] at shape
      exact each before y rest (List.append_inj' shape rfl).1

theorem getElem?_concat_iff (history : List α) (x y : α) (i : Nat) :
    (history ++ [x])[i]? = some y ↔ history[i]? = some y ∨ i = history.length ∧ x = y := by
  rcases lt_trichotomy i history.length with before | rfl | after
  · rw [List.getElem?_append_left before]
    simp [before.ne]
  · simp
  · rw [List.getElem?_eq_none (by simp; omega), List.getElem?_eq_none after.le]
    simp [after.ne']

/-- The latest entry of a kind. -/
def latest (p : α → Bool) (history : List α) : Option α := history.reverse.find? p

@[simp] theorem latest_nil (p : α → Bool) : latest p [] = none := rfl

@[simp] theorem latest_concat (p : α → Bool) (history : List α) (x : α) :
    latest p (history ++ [x]) = if p x then some x else latest p history := by
  rw [latest, List.reverse_append, List.reverse_singleton, List.singleton_append, List.find?_cons]
  cases p x <;> rfl

theorem latest_append (p : α → Bool) (earlier later : List α) :
    latest p (earlier ++ later) = (latest p later).or (latest p earlier) := by
  rw [latest, List.reverse_append, List.find?_append]
  rfl

theorem latest_mem {p : α → Bool} {history : List α} {x : α} (found : latest p history = some x) :
    x ∈ history ∧ p x :=
  ⟨List.mem_reverse.mp (List.mem_of_find?_eq_some found), List.find?_some found⟩

/-- The latest entry of a kind is the latest of every narrower kind that it belongs to. -/
theorem latest_of_imp {p q : α → Bool} (narrower : ∀ x, q x → p x) {history : List α} {x : α}
    (found : latest p history = some x) (kind : q x) : latest q history = some x := by
  induction history using List.reverseRecOn with
  | nil => cases found
  | append_singleton history y ih =>
    rw [latest_concat] at found ⊢
    split at found
    next =>
      cases found
      rw [if_pos kind]
    next other =>
      rw [if_neg fun kind => other (narrower y kind)]
      exact ih found

/-- The entries after the last mark. -/
def since (mark : α → Bool) (history : List α) : List α := history.rtakeWhile fun x => !mark x

@[simp] theorem since_concat (mark : α → Bool) (history : List α) (x : α) :
    since mark (history ++ [x]) = if mark x then [] else since mark history ++ [x] := by
  cases marked : mark x <;> simp [since, marked]

theorem not_mark_of_mem_since {mark : α → Bool} {history : List α} {x : α}
    (member : x ∈ since mark history) : ¬mark x := by
  have unmarked := List.mem_rtakeWhile_imp member
  simpa using unmarked

theorem since_append (mark : α → Bool) (history : List α) (x : α) (marked : mark x)
    (later : List α) (unmarked : ∀ y ∈ later, ¬mark y) :
    since mark (history ++ x :: later) = later := by
  induction later using List.reverseRecOn with
  | nil => simp [marked]
  | append_singleton later y ih =>
    rw [← List.cons_append, ← List.append_assoc, since_concat, if_neg (unmarked y (by simp))]
    rw [ih fun z member => unmarked z (List.mem_append_left _ member)]

theorem latest_append_marked (mark : α → Bool) (history : List α) (x : α) (marked : mark x)
    (later : List α) (unmarked : ∀ y ∈ later, ¬mark y) :
    latest mark (history ++ x :: later) = some x := by
  induction later using List.reverseRecOn with
  | nil => simp [marked]
  | append_singleton later y ih =>
    rw [← List.cons_append, ← List.append_assoc, latest_concat, if_neg (unmarked y (by simp))]
    exact ih fun z member => unmarked z (List.mem_append_left _ member)

/-- The entries of a kind after the last mark. -/
def countSince (mark p : α → Bool) (history : List α) : Nat :=
  (history.rtakeWhile fun x => !mark x).countP p

@[simp] theorem countSince_concat (mark p : α → Bool) (history : List α) (x : α) :
    countSince mark p (history ++ [x]) =
      if mark x then 0 else countSince mark p history + if p x then 1 else 0 := by
  unfold countSince
  cases marked : mark x with
  | true => simp [marked]
  | false => simp [marked, List.countP_append, List.countP_singleton]

end History
