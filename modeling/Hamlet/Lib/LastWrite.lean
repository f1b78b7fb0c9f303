import Mathlib.Data.List.Induction
import Mathlib.Data.List.Nodup
import Mathlib.Logic.Function.Basic

/-!
# Stores that keep the last write

A store from keys to values, and a list of writes carried out one after the other. What was
written survives, all of it, exactly if no key is written twice.
-/

namespace LastWrite

variable {κ α : Type} [DecidableEq κ]

def write (store : κ → Option α) (key : κ) (value : α) : κ → Option α :=
  Function.update store key (some value)

def writeAll (store : κ → Option α) (writes : List (κ × α)) : κ → Option α :=
  writes.foldl (fun store (key, value) => write store key value) store

theorem writeAll_concat (store : κ → Option α) (writes : List (κ × α)) (last : κ × α) :
    writeAll store (writes ++ [last]) = write (writeAll store writes) last.1 last.2 := by
  rw [writeAll, List.foldl_concat]
  rfl

theorem writeAll_append (store : κ → Option α) (front back : List (κ × α)) :
    writeAll store (front ++ back) = writeAll (writeAll store front) back :=
  List.foldl_append ..

/-- Under a written key lies one of the values that were written there. -/
theorem writeAll_written (store : κ → Option α) (writes : List (κ × α)) (key : κ)
    (written : key ∈ writes.map Prod.fst) :
    ∃ value, (key, value) ∈ writes ∧ writeAll store writes key = some value := by
  induction writes using List.reverseRecOn with
  | nil => simp at written
  | append_singleton front last ih =>
    rw [writeAll_concat, write]
    by_cases here : key = last.1
    · subst here
      exact ⟨last.2, by simp, Function.update_self ..⟩
    · have before : key ∈ front.map Prod.fst := by simpa [here] using written
      obtain ⟨value, member, kept⟩ := ih before
      exact ⟨value, List.mem_append_left _ member, by rw [Function.update_of_ne here, kept]⟩

/-- With different values everywhere a key that is written twice loses one of them. -/
theorem writeAll_intact_iff (store : κ → Option α) (writes : List (κ × α))
    (different : (writes.map Prod.snd).Nodup) :
    (∀ w ∈ writes, writeAll store writes w.1 = some w.2) ↔ (writes.map Prod.fst).Nodup := by
  induction writes using List.reverseRecOn with
  | nil => simp
  | append_singleton front last ih =>
    rw [List.map_append, List.map_singleton, List.nodup_append] at different ⊢
    obtain ⟨differentFront, _, fresh⟩ := different
    specialize ih differentFront
    -- the last value is none of the others
    have newValue : ∀ w ∈ front, w.2 ≠ last.2 := fun w member =>
      fresh w.2 (List.mem_map_of_mem member) last.2 (List.mem_singleton_self _)
    simp only [writeAll_concat, write, List.forall_mem_append, List.forall_mem_singleton,
      Function.update_self, and_true]
    constructor
    · intro intact
      have newKey : ∀ w ∈ front, w.1 ≠ last.1 := by
        intro w member same
        have kept := intact w member
        rw [same, Function.update_self, Option.some.injEq] at kept
        exact newValue w member kept.symm
      refine ⟨ih.mp fun w member => ?_, List.nodup_singleton _, ?_⟩
      · rw [← intact w member, Function.update_of_ne (newKey w member)]
      · intro key member same
        obtain ⟨w, old, rfl⟩ := List.mem_map.mp member
        exact newKey w old same
    · rintro ⟨distinct, _, apart⟩ w member
      have newKey : w.1 ≠ last.1 := apart w.1 (List.mem_map_of_mem member)
      rw [Function.update_of_ne newKey]
      exact ih.mpr distinct w member

end LastWrite
