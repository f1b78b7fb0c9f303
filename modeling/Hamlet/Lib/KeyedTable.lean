import Mathlib.Data.List.Nodup

/-!
# Tables with a unique column

The rows of an SQL table in insertion order, together with the fact that no two of
them agree on the column `key`. `upsert` is `INSERT … ON CONFLICT(key) DO UPDATE`
of all other columns, `modify` is `UPDATE … WHERE key = ?`; `insert`, `updateWhere` and
`deleteWhere` are the plain statements.
-/

structure KeyedTable (κ ρ : Type) (key : ρ → κ) where
  rows : List ρ
  unique : (rows.map key).Nodup

namespace KeyedTable

variable {κ ρ : Type} [DecidableEq κ] {key : ρ → κ}

instance [DecidableEq ρ] : DecidableEq (KeyedTable κ ρ key) := fun a b =>
  decidable_of_iff (a.rows = b.rows) (by cases a; cases b; simp)

/-- `SELECT … WHERE key = ?`. -/
def find? (t : KeyedTable κ ρ key) (k : κ) : Option ρ := t.rows.find? fun r => key r = k

def empty : KeyedTable κ ρ key := ⟨[], List.nodup_nil⟩

/-- `UPDATE … WHERE key = ?` by a function that leaves the unique column alone. -/
def modify (t : KeyedTable κ ρ key) (k : κ) (f : ρ → ρ) (keeps : ∀ r, key (f r) = key r) :
    KeyedTable κ ρ key where
  rows := t.rows.map fun r => if key r = k then f r else r
  unique := by
    have same : (t.rows.map fun r => if key r = k then f r else r).map key = t.rows.map key := by
      rw [List.map_map]
      refine List.map_congr_left fun r _ => ?_
      by_cases here : key r = k <;> simp [here, keeps]
    rw [same]
    exact t.unique

/-- Replace the row with this key in place, or append the row. -/
def upsert (t : KeyedTable κ ρ key) (row : ρ) : KeyedTable κ ρ key :=
  if present : key row ∈ t.rows.map key then
    { rows := t.rows.map fun r => if key r = key row then row else r
      unique := by
        have same : (t.rows.map fun r => if key r = key row then row else r).map key =
            t.rows.map key := by
          rw [List.map_map]
          refine List.map_congr_left fun r _ => ?_
          by_cases here : key r = key row <;> simp [here]
        rw [same]
        exact t.unique }
  else
    { rows := t.rows ++ [row]
      unique := by
        rw [List.map_append, List.map_singleton, ← List.concat_eq_append]
        exact t.unique.concat present }

/-- `INSERT`, refused when the key is taken. -/
def insert (t : KeyedTable κ ρ key) (row : ρ) : Option (KeyedTable κ ρ key) :=
  if taken : key row ∈ t.rows.map key then none
  else some
    { rows := t.rows ++ [row]
      unique := by
        rw [List.map_append, List.map_singleton, ← List.concat_eq_append]
        exact t.unique.concat taken }

/-- `UPDATE … WHERE p` by a function that leaves the unique column alone. -/
def updateWhere (t : KeyedTable κ ρ key) (p : ρ → Bool) (f : ρ → ρ)
    (keeps : ∀ r, key (f r) = key r) : KeyedTable κ ρ key where
  rows := t.rows.map fun r => if p r then f r else r
  unique := by
    have same : (t.rows.map fun r => if p r then f r else r).map key = t.rows.map key := by
      rw [List.map_map]
      refine List.map_congr_left fun r _ => ?_
      by_cases hit : p r <;> simp [hit, keeps]
    rw [same]
    exact t.unique

/-- `DELETE … WHERE p`. -/
def deleteWhere (t : KeyedTable κ ρ key) (p : ρ → Bool) : KeyedTable κ ρ key where
  rows := t.rows.filter fun r => !p r
  unique := t.unique.sublist (List.filter_sublist.map key)

/-! ### Reading back -/

/-- The unique column makes a lookup a membership test. -/
theorem find?_iff (t : KeyedTable κ ρ key) (k : κ) (r : ρ) :
    t.find? k = some r ↔ r ∈ t.rows ∧ key r = k := by
  constructor
  · intro found
    exact ⟨List.mem_of_find?_eq_some found, by simpa using List.find?_some found⟩
  · rintro ⟨member, rfl⟩
    cases found : t.find? (key r) with
    | none => simp [find?, List.find?_eq_none] at found; exact absurd rfl (found r member)
    | some other =>
      -- two stored rows with one key are the same row
      have same : key other = key r := by simpa using List.find?_some found
      rw [List.inj_on_of_nodup_map t.unique (List.mem_of_find?_eq_some found) member same]

theorem mem_modify (t : KeyedTable κ ρ key) (k : κ) (f : ρ → ρ)
    (keeps : ∀ r, key (f r) = key r) (r : ρ) :
    r ∈ (t.modify k f keeps).rows ↔
      (r ∈ t.rows ∧ key r ≠ k) ∨ ∃ old ∈ t.rows, key old = k ∧ f old = r := by
  simp only [modify, List.mem_map]
  constructor
  · rintro ⟨old, member, rfl⟩
    by_cases here : key old = k
    · exact .inr ⟨old, member, here, by simp [here]⟩
    · exact .inl (by simp [here, member])
  · rintro (⟨member, away⟩ | ⟨old, member, here, rfl⟩)
    · exact ⟨r, member, if_neg away⟩
    · exact ⟨old, member, if_pos here⟩

theorem mem_upsert (t : KeyedTable κ ρ key) (row r : ρ) :
    r ∈ (t.upsert row).rows ↔ r = row ∨ (r ∈ t.rows ∧ key r ≠ key row) := by
  unfold upsert
  split
  next present =>
    -- the new row stands where the old one with its key stood
    obtain ⟨stored, member, same⟩ := List.mem_map.mp present
    simp only [List.mem_map]
    constructor
    · rintro ⟨old, found, rfl⟩
      by_cases here : key old = key row <;> simp [here, found]
    · rintro (rfl | ⟨found, away⟩)
      · exact ⟨stored, member, if_pos same⟩
      · exact ⟨r, found, if_neg away⟩
  next absent =>
    have away : ∀ old ∈ t.rows, key old ≠ key row := fun old found same =>
      absent (List.mem_map.mpr ⟨old, found, same⟩)
    simp only [List.mem_append, List.mem_singleton]
    exact ⟨fun found => found.elim (fun old => .inr ⟨old, away r old⟩) .inl,
      fun found => found.elim .inr fun old => .inl old.1⟩

theorem insert_iff (t t' : KeyedTable κ ρ key) (row : ρ) :
    t.insert row = some t' ↔ (∀ r ∈ t.rows, key r ≠ key row) ∧ t'.rows = t.rows ++ [row] := by
  unfold insert
  split
  next taken =>
    obtain ⟨r, member, same⟩ := List.mem_map.mp taken
    simp only [reduceCtorEq, false_iff, not_and]
    exact fun free => absurd same (free r member)
  next free =>
    have away : ∀ r ∈ t.rows, key r ≠ key row := fun r member same =>
      free (List.mem_map.mpr ⟨r, member, same⟩)
    rw [and_iff_right away, Option.some.injEq]
    cases t'
    simp [eq_comm]

omit [DecidableEq κ] in
theorem mem_updateWhere (t : KeyedTable κ ρ key) (p : ρ → Bool) (f : ρ → ρ)
    (keeps : ∀ r, key (f r) = key r) (r : ρ) :
    r ∈ (t.updateWhere p f keeps).rows ↔
      (r ∈ t.rows ∧ ¬p r) ∨ ∃ old ∈ t.rows, p old ∧ f old = r := by
  simp only [updateWhere, List.mem_map]
  constructor
  · rintro ⟨old, member, rfl⟩
    by_cases hit : p old
    · exact .inr ⟨old, member, hit, by simp [hit]⟩
    · exact .inl (by simp [hit, member])
  · rintro (⟨member, missed⟩ | ⟨old, member, hit, rfl⟩)
    · exact ⟨r, member, if_neg missed⟩
    · exact ⟨old, member, if_pos hit⟩

omit [DecidableEq κ] in
theorem mem_deleteWhere (t : KeyedTable κ ρ key) (p : ρ → Bool) (r : ρ) :
    r ∈ (t.deleteWhere p).rows ↔ r ∈ t.rows ∧ ¬p r := by
  simp [deleteWhere]

theorem find?_modify_self (t : KeyedTable κ ρ key) (k : κ) (f : ρ → ρ)
    (keeps : ∀ r, key (f r) = key r) : (t.modify k f keeps).find? k = (t.find? k).map f := by
  refine Option.ext fun r => ?_
  simp only [find?_iff, mem_modify, Option.map_eq_some_iff]
  constructor
  · rintro ⟨⟨_, away⟩ | ⟨old, member, here, rfl⟩, same⟩
    · exact absurd same away
    · exact ⟨old, ⟨member, here⟩, rfl⟩
  · rintro ⟨old, ⟨member, here⟩, rfl⟩
    exact ⟨.inr ⟨old, member, here, rfl⟩, (keeps old).trans here⟩

theorem find?_modify_ne (t : KeyedTable κ ρ key) (k k' : κ) (f : ρ → ρ)
    (keeps : ∀ r, key (f r) = key r) (differs : k' ≠ k) :
    (t.modify k f keeps).find? k' = t.find? k' := by
  refine Option.ext fun r => ?_
  simp only [find?_iff, mem_modify]
  constructor
  · rintro ⟨⟨member, _⟩ | ⟨old, _, here, rfl⟩, same⟩
    · exact ⟨member, same⟩
    · exact absurd (same.symm.trans ((keeps old).trans here)) differs
  · rintro ⟨member, rfl⟩
    exact ⟨.inl ⟨member, differs⟩, rfl⟩

/-- An update of a key that is not there. -/
theorem modify_of_absent (t : KeyedTable κ ρ key) (k : κ) (f : ρ → ρ)
    (keeps : ∀ r, key (f r) = key r) (absent : t.find? k = none) : t.modify k f keeps = t := by
  have away : ∀ r ∈ t.rows, key r ≠ k := by
    simpa [find?, List.find?_eq_none] using absent
  have kept : (t.rows.map fun r => if key r = k then f r else r) = t.rows := by
    rw [List.map_congr_left (g := id), List.map_id]
    intro r member
    rw [if_neg (away r member), id]
  cases t
  simpa [modify] using kept

theorem find?_upsert_ne (t : KeyedTable κ ρ key) (row : ρ) (k : κ) (differs : k ≠ key row) :
    (t.upsert row).find? k = t.find? k := by
  refine Option.ext fun r => ?_
  rw [find?_iff, find?_iff, mem_upsert]
  constructor
  · rintro ⟨rfl | ⟨member, _⟩, same⟩
    · exact absurd same.symm differs
    · exact ⟨member, same⟩
  · rintro ⟨member, rfl⟩
    exact ⟨.inr ⟨member, differs⟩, rfl⟩

@[simp] theorem find?_upsert_self (t : KeyedTable κ ρ key) (row : ρ) :
    (t.upsert row).find? (key row) = some row :=
  (find?_iff _ _ _).mpr ⟨(mem_upsert t row row).mpr (.inl rfl), rfl⟩

/-- Storing a row changes the table unless exactly this row is already stored. -/
theorem upsert_eq_self_iff (t : KeyedTable κ ρ key) (row : ρ) :
    t.upsert row = t ↔ t.find? (key row) = some row := by
  constructor
  · intro same
    rw [← find?_upsert_self t row, same]
  · intro stored
    have member : row ∈ t.rows := ((find?_iff t _ _).mp stored).1
    have kept : (t.rows.map fun r => if key r = key row then row else r) = t.rows := by
      rw [List.map_congr_left (g := id), List.map_id]
      intro r found
      by_cases here : key r = key row
      · rw [if_pos here]
        exact List.inj_on_of_nodup_map t.unique member found here.symm
      · rw [if_neg here, id]
    rw [upsert, dif_pos (List.mem_map_of_mem member)]
    cases t
    simpa using kept

end KeyedTable
