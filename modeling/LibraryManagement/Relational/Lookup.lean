import LibraryManagement.Relational.Table
import Mathlib.Data.Set.Insert

/-! Lookups by key after each statement. -/

namespace Relational
namespace Table

variable {Row : Type u} [Keyed Row] (table : Table Row)

/-- Keys that have not been handed out find nothing. -/
theorem find?_of_nextKey_le {k : Nat} (unused : table.nextKey ≤ k) : table.find? k = none := by
  refine List.find?_eq_none.mpr (fun row member found => ?_)
  have bound := table.bounded row member
  rw [beq_iff_eq.mp found] at bound
  exact absurd bound (Nat.not_lt.mpr unused)

@[simp] theorem find?_nextKey : table.find? table.nextKey = none :=
  table.find?_of_nextKey_le (Nat.le_refl _)

theorem find?_insert (new : NewRow Row) (k : Nat)
    : (table.insert new).find? k
      = if k = table.nextKey then some (new.build table.nextKey) else table.find? k := by
  have appended : (table.insert new).find? k
      = (table.find? k).or (if key (new.build table.nextKey) == k
          then some (new.build table.nextKey) else none) := by
    simp only [find?, insert, List.find?_append, List.find?_singleton]
  rw [appended, new.keyed]
  by_cases fresh : k = table.nextKey
  · simp [fresh]
  · rw [if_neg fresh, if_neg (fun same => fresh (beq_iff_eq.mp same).symm), Option.or_none]

theorem find?_update (selected : Row → Bool) (change : Change Row) (k : Nat)
    : (table.update selected change).find? k
      = (table.find? k).map (fun row => if selected row then change.apply row else row) := by
  simp only [find?, update, List.find?_map]
  congr 2
  funext row
  simp only [Function.comp_apply, key_of_update]

/-- An update that leaves the selected rows as they are. -/
theorem update_eq_of_fixed {selected : Row → Bool} {change : Change Row}
    (fixed : ∀ row ∈ table.rows, selected row → change.apply row = row)
    : table.update selected change = table := by
  obtain ⟨rows, nextKey, increasing, bounded⟩ := table
  simp only [update, mk.injEq, and_true]
  refine (List.map_congr_left (fun row member => ?_)).trans (List.map_id rows)
  split
  · next chosen => exact fixed row member chosen
  · rfl

theorem find?_delete (selected : Row → Bool) (k : Nat)
    : (table.delete selected).find? k
      = (table.find? k).filter (fun row => !selected row) := by
  refine Option.ext (fun row => ?_)
  simp only [find?_eq_some_iff, Option.filter_eq_some_iff, mem_delete, Bool.not_eq_true']
  tauto

/-- Deleting the row under a key. -/
theorem find?_delete_key (k other : Nat)
    : (table.delete (fun row => key row == k)).find? other
      = if other = k then none else table.find? other := by
  rw [find?_delete]
  cases found : table.find? other with
  | none => simp
  | some row =>
      obtain ⟨_, same⟩ := (table.find?_eq_some_iff).mp found
      by_cases chosen : other = k <;> simp [Option.filter, same, chosen]

-----------------------------------------------------------------------------------------
-- Keys whose rows are gone
-----------------------------------------------------------------------------------------

/-- The keys that have been handed out and find nothing any more. -/
def deleted : Set Nat := { k | k < table.nextKey ∧ table.find? k = none }

theorem lt_nextKey_iff {k : Nat}
    : k < table.nextKey ↔ (table.find? k).isSome ∨ k ∈ table.deleted := by
  cases found : table.find? k with
  | none => simp [deleted, found]
  | some row =>
      obtain ⟨present, rfl⟩ := (table.find?_eq_some_iff).mp found
      simpa using table.bounded row present

/-- An insert hands out a key that finds its row. -/
@[simp] theorem deleted_insert (new : NewRow Row) : (table.insert new).deleted = table.deleted := by
  have next : (table.insert new).nextKey = table.nextKey + 1 := rfl
  ext k
  simp only [deleted, next, find?_insert, Set.mem_ofPred_eq]
  by_cases fresh : k = table.nextKey
  · simp [fresh]
  · simp only [if_neg fresh, and_congr_left_iff]
    omega

@[simp] theorem deleted_update (selected : Row → Bool) (change : Change Row)
    : (table.update selected change).deleted = table.deleted := by
  have next : (table.update selected change).nextKey = table.nextKey := rfl
  simp only [deleted, next, find?_update, Option.map_eq_none_iff]

theorem deleted_delete_key {row : Row} (present : row ∈ table.rows)
    : (table.delete (fun other => key other == key row)).deleted
      = Insert.insert (key row) table.deleted := by
  have next : (table.delete (fun other => key other == key row)).nextKey = table.nextKey := rfl
  ext k
  simp only [deleted, next, find?_delete_key, Set.mem_ofPred_eq, Set.mem_insert_iff]
  by_cases same : k = key row
  · simp [same, table.bounded row present]
  · simp [same]

end Table
end Relational
