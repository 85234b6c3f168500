import LibraryManagement.Relational.Table

/-! A unique index on a column. The database checks it in the statement that writes, whatever
its client read before.
-/

namespace Relational
namespace Table

variable {Row : Type u} [Keyed Row] {κ : Type v} (column : Row → κ)

def UniqueOn (table : Table Row) : Prop :=
  ∀ first ∈ table.rows, ∀ second ∈ table.rows, column first = column second
    → key first = key second

section Statements

variable [DecidableEq κ] (table : Table Row)

/-- `INSERT` under the index, none where it is refused. -/
def insertUnique (new : NewRow Row) : Option (Table Row) :=
  if table.rows.any (fun row => column row == column (new.build table.nextKey)) then none
  else some (table.insert new)

/-- `UPDATE ... WHERE key = k` under the index. -/
def updateUnique (k : Nat) (change : Change Row) : Option (Table Row) :=
  match table.find? k with
  | none => some table
  | some row =>
      if table.rows.any (fun other =>
          key other != k && column other == column (change.apply row)) then none
      else some (table.update (fun other => key other == k) change)

end Statements

variable {column} [DecidableEq κ] {table result : Table Row}

theorem insertUnique_eq_some_iff {new : NewRow Row}
    : table.insertUnique column new = some result
      ↔ (∀ row ∈ table.rows, column row ≠ column (new.build table.nextKey))
        ∧ result = table.insert new := by
  rw [insertUnique, Option.ite_none_left_eq_some, Option.some.injEq, List.any_eq_true]
  refine and_congr ?_ eq_comm
  simp

/-- Only the row under the key is written, as the index lets it; without such a row nothing is. -/
theorem updateUnique_eq_some_iff {k : Nat} {change : Change Row}
    : table.updateUnique column k change = some result
      ↔ (∀ row, table.find? k = some row → ∀ other ∈ table.rows, key other ≠ k
          → column other ≠ column (change.apply row))
        ∧ result = table.update (fun other => key other == k) change := by
  rw [updateUnique]
  cases found : table.find? k with
  | none =>
      have unselected : table.update (fun other => key other == k) change = table := by
        refine table.update_eq_self (fun row member chosen => ?_)
        obtain rfl := beq_iff_eq.mp chosen
        cases (table.find?_of_mem member).symm.trans found
      simp [unselected, eq_comm]
  | some row =>
      simp only [Option.ite_none_left_eq_some, Option.some.injEq, forall_eq']
      refine and_congr ?_ eq_comm
      simp

/-- Changes that agree on the selected rows make the same update. -/
theorem update_congr {selected : Row → Bool} {change other : Change Row}
    (same : ∀ row ∈ table.rows, selected row → change.apply row = other.apply row)
    : table.update selected change = table.update selected other := by
  have rows : (table.update selected change).rows = (table.update selected other).rows := by
    refine List.map_congr_left (fun row member => ?_)
    split
    · next chosen => exact same row member chosen
    · rfl
  simp only [update, mk.injEq, and_true] at rows ⊢
  exact rows

/-- An insert keeps the keys of all rows. -/
theorem insertUnique_keeps {new : NewRow Row}
    (inserted : table.insertUnique column new = some result)
    : ∀ old ∈ table.rows, ∃ row ∈ result.rows, key row = key old := by
  obtain ⟨_, rfl⟩ := insertUnique_eq_some_iff.mp inserted
  exact fun old present => ⟨old, (table.mem_insert).mpr (Or.inl present), rfl⟩

theorem updateUnique_keeps {k : Nat} {change : Change Row}
    (updated : table.updateUnique column k change = some result)
    : ∀ old ∈ table.rows, ∃ row ∈ result.rows, key row = key old := by
  obtain ⟨_, rfl⟩ := updateUnique_eq_some_iff.mp updated
  intro old present
  refine ⟨_, (table.mem_update).mpr ⟨old, present, rfl⟩, ?_⟩
  split
  · exact change.keeps old
  · rfl

theorem UniqueOn.insertUnique {new : NewRow Row} (unique : table.UniqueOn column)
    (inserted : table.insertUnique column new = some result)
    : result.UniqueOn column := by
  obtain ⟨free, rfl⟩ := insertUnique_eq_some_iff.mp inserted
  intro first hf second hs same
  rcases (table.mem_insert).mp hf with old | rfl <;>
    rcases (table.mem_insert).mp hs with older | rfl
  · exact unique first old second older same
  · exact absurd same (free first old)
  · exact absurd same.symm (free second older)
  · rfl

theorem UniqueOn.updateUnique {k : Nat} {change : Change Row} (unique : table.UniqueOn column)
    (updated : table.updateUnique column k change = some result)
    : result.UniqueOn column := by
  obtain ⟨free, rfl⟩ := updateUnique_eq_some_iff.mp updated
  have changed {row other : Row} (member : row ∈ table.rows) (chosen : key row = k)
      (there : other ∈ table.rows) (apart : key other ≠ k)
      : column other ≠ column (change.apply row) :=
    free row (chosen ▸ table.find?_of_mem member) other there apart
  intro first hf second hs same
  obtain ⟨before, present, rfl⟩ := (table.mem_update).mp hf
  obtain ⟨other, there, rfl⟩ := (table.mem_update).mp hs
  have keys (row : Row) : key (if key row == k then change.apply row else row) = key row := by
    split
    · exact change.keeps row
    · rfl
  rw [keys, keys]
  by_cases chosen : key before = k <;> by_cases also : key other = k <;>
    simp only [chosen, also, beq_self_eq_true, if_true, beq_iff_eq, if_false] at same ⊢
  · exact absurd same.symm (changed present chosen there also)
  · exact absurd same (changed there also present chosen)
  · exact unique before present other there same

theorem insertUnique_eq_none_iff {new : NewRow Row}
    : table.insertUnique column new = none
      ↔ ∃ row ∈ table.rows, column row = column (new.build table.nextKey) := by
  simp [insertUnique]

/-- Under an index that holds, an update that sets the column to `value`, unless it was loaded
so, is refused exactly for a new value that another row has.
-/
theorem updateUnique_eq_none_iff {k : Nat} {change : Change Row} {loaded value : κ}
    (unique : table.UniqueOn column)
    (written : ∀ row, column (change.apply row) = if value = loaded then column row else value)
    : table.updateUnique column k change = none
      ↔ value ≠ loaded ∧ (table.find? k).isSome
        ∧ ∃ other ∈ table.rows, key other ≠ k ∧ column other = value := by
  rw [updateUnique]
  cases found : table.find? k with
  | none => simp
  | some row =>
      obtain ⟨member, same⟩ := (table.find?_eq_some_iff).mp found
      simp only [written]
      by_cases clean : value = loaded
      · have free : ∀ other ∈ table.rows, key other ≠ k → column other ≠ column row :=
          fun other there apart equal => apart ((unique other there row member equal).trans same)
        simpa [clean] using free
      · simp [clean]

end Table
end Relational
