import Mathlib.Data.List.Nodup

/-! Tables with a serial primary key. Rows keep their insertion order and keys only grow,
so a key is never handed out twice, not even after its row was deleted.
-/

namespace Relational

/-- Rows that carry the primary key their table assigns to them. -/
class Keyed (Row : Type u) where
  key : Row → Nat

export Keyed (key)

/-- A table is its rows and the next value of its key sequence. Both fields of proofs
hold of every table that the operations below build.
-/
structure Table (Row : Type u) [Keyed Row] where
  rows : List Row
  nextKey : Nat
  increasing : rows.Pairwise (fun first second => key first < key second)
  bounded : ∀ row ∈ rows, key row < nextKey
  deriving DecidableEq

namespace Table

variable {Row : Type u} [Keyed Row]

/-- A row to insert, built around the key it will get. -/
structure NewRow (Row : Type u) [Keyed Row] where
  build : Nat → Row
  keyed : ∀ k, key (build k) = k

/-- A change of rows that leaves their keys as they are. -/
structure Change (Row : Type u) [Keyed Row] where
  apply : Row → Row
  keeps : ∀ row, key (apply row) = key row

/-- A table without rows whose sequence has not been used. -/
def empty : Table Row := ⟨[], 1, .nil, by simp⟩

/-- `SELECT ... WHERE key = k`. -/
def find? (table : Table Row) (k : Nat) : Option Row :=
  table.rows.find? (fun row => key row == k)

/-- `INSERT`: the row gets the next key of the sequence. -/
def insert (table : Table Row) (new : NewRow Row) : Table Row where
  rows := table.rows ++ [new.build table.nextKey]
  nextKey := table.nextKey + 1
  increasing := by
    refine List.pairwise_append.mpr ⟨table.increasing, List.pairwise_singleton _ _, ?_⟩
    intro row member fresh last
    rw [List.mem_singleton.mp last, new.keyed]
    exact table.bounded row member
  bounded := by
    intro row member
    rcases List.mem_append.mp member with old | last
    · exact Nat.lt_succ_of_lt (table.bounded row old)
    · rw [List.mem_singleton.mp last, new.keyed]
      exact Nat.lt_succ_self _

/-- `UPDATE ... SET change WHERE selected`. -/
def update (table : Table Row) (selected : Row → Bool) (change : Change Row)
    : Table Row where
  rows := table.rows.map (fun row => if selected row then change.apply row else row)
  nextKey := table.nextKey
  increasing := by
    refine List.pairwise_map.mpr (table.increasing.imp ?_)
    intro first second less
    split <;> split <;> simpa only [change.keeps] using less
  bounded := by
    intro row member
    obtain ⟨old, present, rfl⟩ := List.mem_map.mp member
    split
    · simpa only [change.keeps] using table.bounded old present
    · exact table.bounded old present

/-- `DELETE ... WHERE selected`. -/
def delete (table : Table Row) (selected : Row → Bool) : Table Row where
  rows := table.rows.filter (fun row => !selected row)
  nextKey := table.nextKey
  increasing := table.increasing.filter _
  bounded := fun row member => table.bounded row (List.mem_filter.mp member).1

-----------------------------------------------------------------------------------------
-- A key identifies its row
-----------------------------------------------------------------------------------------

theorem nodup_keys (table : Table Row) : (table.rows.map key).Nodup :=
  List.pairwise_map.mpr (table.increasing.imp Nat.ne_of_lt)

theorem filter_key_length_le_one (table : Table Row) (k : Nat)
    : (table.rows.filter (fun row => key row == k)).length ≤ 1 := by
  have single := List.nodup_iff_count_le_one.mp table.nodup_keys k
  rwa [List.count, List.countP_map, List.countP_eq_length_filter] at single

theorem nodup_rows (table : Table Row) : table.rows.Nodup := .of_map key table.nodup_keys

/-- Two rows of a table with one key are the same row, since keys increase strictly. -/
theorem eq_of_key_eq (table : Table Row) {first second : Row}
    (hf : first ∈ table.rows) (hs : second ∈ table.rows) (same : key first = key second)
    : first = second :=
  List.inj_on_of_nodup_map table.nodup_keys hf hs same

/-- Restrictions of two tables to the same rows agree in the order of the rows too. -/
theorem filter_eq_of_mem_iff {earlier later : Table Row} {p q : Row → Bool}
    (same : ∀ row, (row ∈ earlier.rows ∧ p row) ↔ (row ∈ later.rows ∧ q row))
    : earlier.rows.filter p = later.rows.filter q := by
  have members (row : Row) : row ∈ earlier.rows.filter p ↔ row ∈ later.rows.filter q := by
    simp only [List.mem_filter]
    exact same row
  have perm : (earlier.rows.filter p).Perm (later.rows.filter q) :=
    (List.perm_ext_iff_of_nodup (earlier.nodup_rows.filter p) (later.nodup_rows.filter q)).mpr
      members
  refine perm.eq_of_pairwise ?_ (earlier.increasing.filter p) (later.increasing.filter q)
  exact fun _ _ _ _ less greater => absurd less (Nat.lt_asymm greater)

/-- A lookup finds the row with the key: keys increase along the rows, so there is no other. -/
theorem find?_eq_some_iff (table : Table Row) {k : Nat} {row : Row}
    : table.find? k = some row ↔ row ∈ table.rows ∧ key row = k := by
  constructor
  · intro found
    exact ⟨List.mem_of_find?_eq_some found, by simpa using List.find?_some found⟩
  · rintro ⟨member, rfl⟩
    cases found : table.find? (key row) with
    | none =>
        have absent := List.find?_eq_none.mp found row member
        simp at absent
    | some other =>
        have same : key other = key row := by simpa using List.find?_some found
        rw [table.eq_of_key_eq (List.mem_of_find?_eq_some found) member same]

/-- A row is what its key finds. -/
theorem find?_of_mem (table : Table Row) {row : Row} (present : row ∈ table.rows)
    : table.find? (key row) = some row :=
  (table.find?_eq_some_iff).mpr ⟨present, rfl⟩

/-- Tables with the same rows under a key answer a lookup by it alike. -/
theorem find?_congr {earlier later : Table Row} {k : Nat}
    (same : ∀ row, key row = k → (row ∈ earlier.rows ↔ row ∈ later.rows))
    : earlier.find? k = later.find? k := by
  refine Option.ext (fun row => ?_)
  rw [find?_eq_some_iff, find?_eq_some_iff]
  exact and_congr_left (same row)

theorem find?_isSome_iff (table : Table Row) {k : Nat}
    : (table.find? k).isSome ↔ ∃ row ∈ table.rows, key row = k := by
  simp [find?]

-----------------------------------------------------------------------------------------
-- Rows and row counts after a statement
-----------------------------------------------------------------------------------------

variable (table : Table Row)

/-- An insert adds the row that it builds around the next key. -/
@[simp] theorem mem_insert {new : NewRow Row} {row : Row}
    : row ∈ (table.insert new).rows ↔ row ∈ table.rows ∨ row = new.build table.nextKey := by
  simp [insert]

/-- An update replaces the selected rows and keeps all others. -/
theorem mem_update {selected : Row → Bool} {change : Change Row} {row : Row}
    : row ∈ (table.update selected change).rows
      ↔ ∃ old ∈ table.rows, (if selected old then change.apply old else old) = row := by
  simp [update]

/-- Updated rows are old rows under their old keys. -/
theorem key_of_update {selected : Row → Bool} (change : Change Row) (row : Row)
    : key (if selected row then change.apply row else row) = key row := by
  split
  · exact change.keeps row
  · rfl

/-- No update adds a key. -/
theorem exists_key_of_mem_update {selected : Row → Bool} {change : Change Row} {row : Row}
    (member : row ∈ (table.update selected change).rows)
    : ∃ old ∈ table.rows, key old = key row := by
  obtain ⟨old, present, rfl⟩ := table.mem_update.mp member
  exact ⟨old, present, (key_of_update change old).symm⟩

/-- A delete keeps the rows that are not selected. -/
@[simp] theorem mem_delete {selected : Row → Bool} {row : Row}
    : row ∈ (table.delete selected).rows ↔ row ∈ table.rows ∧ selected row = false := by
  simp [delete]

/-- An insert adds one to a count exactly where the new row is counted. -/
theorem countP_insert (new : NewRow Row) (p : Row → Bool)
    : (table.insert new).rows.countP p
      = table.rows.countP p + if p (new.build table.nextKey) then 1 else 0 := by
  simp [insert, List.countP_append, List.countP_singleton]

/-- An update under which no row newly satisfies `p` does not raise the count of `p`. -/
theorem countP_update_le {selected : Row → Bool} {change : Change Row} {p : Row → Bool}
    (kept : ∀ row ∈ table.rows, selected row → p (change.apply row) → p row)
    : (table.update selected change).rows.countP p ≤ table.rows.countP p := by
  simp only [update, List.countP_map]
  refine List.countP_mono_left ?_
  intro row member
  simp only [Function.comp_apply]
  split
  · exact kept row member ‹_›
  · exact id

/-- A delete adds to no count. -/
theorem countP_delete_le (selected : Row → Bool) (p : Row → Bool)
    : (table.delete selected).rows.countP p ≤ table.rows.countP p :=
  List.filter_sublist.countP_le

/-- A statement that selects a single row selects none before and none after it. -/
theorem exists_around {row : Row} (member : row ∈ table.rows) {selected : Row → Bool}
    (only : ∀ other ∈ table.rows, selected other ↔ other = row)
    : ∃ before after, table.rows = before ++ row :: after
        ∧ (∀ other ∈ before, ¬selected other) ∧ ∀ other ∈ after, ¬selected other := by
  obtain ⟨before, after, split⟩ := List.append_of_mem member
  have single : (before ++ row :: after).Nodup := split ▸ table.nodup_rows
  obtain ⟨apart, _⟩ := List.nodup_cons.mp (List.nodup_middle.mp single)
  have kept : ∀ other ∈ before ++ after, ¬selected other := by
    intro other here chosen
    have present : other ∈ table.rows :=
      split ▸ List.perm_middle.mem_iff.mpr (List.mem_cons_of_mem row here)
    exact apart ((only other present).mp chosen ▸ here)
  exact ⟨before, after, split, fun other here => kept other (List.mem_append_left after here),
    fun other here => kept other (List.mem_append_right before here)⟩

/-- What an update of a single row does to a count. -/
theorem countP_update_one {row : Row} (member : row ∈ table.rows) {selected : Row → Bool}
    (only : ∀ other ∈ table.rows, selected other ↔ other = row) (change : Change Row)
    (p : Row → Bool)
    : (table.update selected change).rows.countP p
      = table.rows.countP p - (p row).toNat + (p (change.apply row)).toNat := by
  obtain ⟨before, after, split, earlier, later⟩ := table.exists_around member only
  have unchanged {part : List Row} (kept : ∀ other ∈ part, ¬selected other)
      : part.map (fun other => if selected other then change.apply other else other) = part :=
    (List.map_congr_left (fun other here => if_neg (kept other here))).trans (List.map_id' part)
  simp only [update, split, List.map_append, List.map_cons, if_pos ((only row member).mpr rfl),
    unchanged earlier, unchanged later, List.countP_append, List.countP_cons]
  cases p row <;> cases p (change.apply row) <;> simp <;> omega

/-- What the deletion of a single row does to a count. -/
theorem countP_delete_one {row : Row} (member : row ∈ table.rows) {selected : Row → Bool}
    (only : ∀ other ∈ table.rows, selected other ↔ other = row) (p : Row → Bool)
    : (table.delete selected).rows.countP p = table.rows.countP p - (p row).toNat := by
  obtain ⟨before, after, split, earlier, later⟩ := table.exists_around member only
  have unchanged {part : List Row} (kept : ∀ other ∈ part, ¬selected other)
      : part.filter (fun other => !selected other) = part :=
    List.filter_eq_self.mpr (fun other here => by simpa using kept other here)
  have gone : (!selected row) = false := by simpa using (only row member).mpr rfl
  simp only [delete, split, List.filter_append, List.filter_cons, gone, Bool.false_eq_true,
    if_false, unchanged earlier, unchanged later, List.countP_append, List.countP_cons]
  cases p row <;> simp

/-- An update that selects no row is no update. -/
theorem update_eq_self {selected : Row → Bool} {change : Change Row}
    (unselected : ∀ row ∈ table.rows, ¬selected row)
    : table.update selected change = table := by
  obtain ⟨rows, nextKey, increasing, bounded⟩ := table
  simp only [update, mk.injEq, and_true]
  calc rows.map (fun row => if selected row then change.apply row else row)
      _ = rows.map id := List.map_congr_left (fun row member => if_neg (unselected row member))
      _ = rows := List.map_id rows

/-- A delete that selects no row is no delete. -/
theorem delete_eq_self {selected : Row → Bool} (unselected : ∀ row ∈ table.rows, ¬selected row)
    : table.delete selected = table := by
  obtain ⟨rows, nextKey, increasing, bounded⟩ := table
  simp only [delete, mk.injEq, and_true]
  exact List.filter_eq_self.mpr (fun row member => by simpa using unselected row member)

/-- Deletes that select the same rows are the same. -/
theorem delete_congr {selected other : Row → Bool}
    (same : ∀ row ∈ table.rows, selected row = other row)
    : table.delete selected = table.delete other := by
  have rows : table.rows.filter (fun row => !selected row)
      = table.rows.filter (fun row => !other row) := by
    refine List.filter_congr (fun row member => ?_)
    rw [same row member]
  simp only [delete, rows]

/-- Deleting the rows of some keys one by one is deleting them at once, by induction on the keys:
a delete after another one selects the rows that either selects.
-/
theorem foldl_delete_key (keys : List Nat)
    : keys.foldl (fun table k => table.delete (fun row => key row == k)) table
      = table.delete (fun row => keys.contains (key row)) := by
  induction keys generalizing table with
  | nil => exact (table.delete_eq_self (fun _ _ => by simp)).symm
  | cons k keys ih =>
      rw [List.foldl_cons, ih]
      have rows : (table.rows.filter (fun row => !(key row == k))).filter
            (fun row => !keys.contains (key row))
          = table.rows.filter (fun row => !(k :: keys).contains (key row)) := by
        rw [List.filter_filter]
        refine List.filter_congr (fun row _ => ?_)
        rw [List.contains_cons, Bool.not_or, Bool.and_comm]
      simp only [delete, rows]

/-- A restriction that leaves out the inserted row does not see the insert. -/
theorem filter_insert {new : NewRow Row} {p : Row → Bool}
    (outside : p (new.build table.nextKey) = false)
    : (table.insert new).rows.filter p = table.rows.filter p := by
  simp [insert, outside]

/-- A restriction that leaves out the selected rows, before and after they change, does not
see the update.
-/
theorem filter_update {selected : Row → Bool} {change : Change Row} {p : Row → Bool}
    (outside
      : ∀ row ∈ table.rows, selected row → p row = false ∧ p (change.apply row) = false)
    : (table.update selected change).rows.filter p = table.rows.filter p := by
  have pointwise : ∀ rows : List Row, (∀ row ∈ rows, row ∈ table.rows)
      → (rows.map (fun row => if selected row then change.apply row else row)).filter p
        = rows.filter p := by
    intro rows
    induction rows with
    | nil => exact fun _ => rfl
    | cons row rest ih =>
        intro present
        have later := ih (fun other member => present other (List.mem_cons_of_mem row member))
        cases chosen : selected row with
        | false => simp [chosen, List.filter_cons, later]
        | true =>
            obtain ⟨before, after⟩ := outside row (present row List.mem_cons_self) chosen
            simp [chosen, before, after, later]
  exact pointwise table.rows (fun _ member => member)

/-- A restriction that leaves out the deleted rows does not see the delete. -/
theorem filter_delete {selected : Row → Bool} {p : Row → Bool}
    (outside : ∀ row ∈ table.rows, selected row → p row = false)
    : (table.delete selected).rows.filter p = table.rows.filter p := by
  simp only [delete, List.filter_filter]
  refine List.filter_congr ?_
  intro row member
  cases chosen : selected row with
  | false => simp
  | true => simp [outside row member chosen]

/-- Keys of new rows are above all keys in use. -/
theorem key_ne_nextKey {row : Row} (member : row ∈ table.rows) : key row ≠ table.nextKey :=
  Nat.ne_of_lt (table.bounded row member)

end Table
end Relational
