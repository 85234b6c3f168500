import LibraryManagement.Relational.Table

/-! Rows of a table over time. Since keys are never reused, a row of a later table under an
old key descends from the row that had this key.
-/

namespace Relational
namespace Table

variable {Row : Type u} [Keyed Row]

/-- Every row of the later table whose key was already handed out in the earlier one
descends from a row there, to which it is related.
-/
structure Follows (related : Row → Row → Prop) (earlier later : Table Row) : Prop where
  keys : earlier.nextKey ≤ later.nextKey
  rows
    : ∀ after ∈ later.rows, key after < earlier.nextKey
      → ∃ before ∈ earlier.rows, key before = key after ∧ related before after

variable {related : Row → Row → Prop}

/-- The row of the later table under the key of an earlier row is related to that row. -/
theorem Follows.of_key_eq {earlier later : Table Row} (follows : Follows related earlier later)
    {before after : Row} (hb : before ∈ earlier.rows) (ha : after ∈ later.rows)
    (same : key before = key after)
    : related before after := by
  obtain ⟨other, there, keys, kept⟩ := follows.rows after ha (same ▸ earlier.bounded before hb)
  have unchanged : other = before := earlier.eq_of_key_eq there hb (keys.trans same.symm)
  exact unchanged ▸ kept

/-- Descent composes, through the row that the middle table has under the key. -/
theorem Follows.trans {first second third : Table Row} (hf : Follows related first second)
    (hs : Follows related second third)
    (compose : ∀ first second third, related first second → related second third
      → related first third)
    : Follows related first third where
  keys := Nat.le_trans hf.keys hs.keys
  rows := by
    intro after member old
    obtain ⟨middle, there, sameKey, later⟩ := hs.rows after member (Nat.lt_of_lt_of_le old hf.keys)
    obtain ⟨before, present, key, earlier⟩ := hf.rows middle there (sameKey.symm ▸ old)
    exact ⟨before, present, key.trans sameKey, compose before middle after earlier later⟩

variable (reflexive : ∀ row, related row row) (table : Table Row)

include reflexive in
theorem Follows.refl : Follows related table table where
  keys := Nat.le_refl _
  rows row member _ := ⟨row, member, rfl, reflexive row⟩

include reflexive in
theorem follows_insert (new : NewRow Row) : Follows related table (table.insert new) where
  keys := Nat.le_succ _
  rows := by
    intro row member old
    rcases table.mem_insert.mp member with present | rfl
    · exact ⟨row, present, rfl, reflexive row⟩
    · rw [new.keyed] at old
      exact absurd old (Nat.lt_irrefl _)

include reflexive in
theorem follows_update {selected : Row → Bool} {change : Change Row}
    (changed : ∀ row ∈ table.rows, selected row → related row (change.apply row))
    : Follows related table (table.update selected change) where
  keys := Nat.le_refl _
  rows := by
    intro row member _
    obtain ⟨old, present, rfl⟩ := table.mem_update.mp member
    refine ⟨old, present, (key_of_update change old).symm, ?_⟩
    split
    · exact changed old present ‹_›
    · exact reflexive old

include reflexive in
theorem follows_delete (selected : Row → Bool)
    : Follows related table (table.delete selected) where
  keys := Nat.le_refl _
  rows row member _ := ⟨row, (table.mem_delete.mp member).1, rfl, reflexive row⟩

end Table
end Relational
