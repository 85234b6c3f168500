import Mathlib.Data.List.Dedup
import Mathlib.Data.List.Sort

/-! Query operators over row lists: outer joins, grouped counts, ordering with ties and
pages cut by LIMIT and OFFSET.
-/

namespace Relational

-----------------------------------------------------------------------------------------
-- Outer joins and grouping
-----------------------------------------------------------------------------------------

/-- `left LEFT JOIN right ON on`: a left row without a match appears once, with none. -/
def leftJoin (on : α → β → Bool) (left : List α) (right : List β) : List (α × Option β) :=
  left.flatMap (fun row =>
    match right.filter (on row) with
    | [] => [(row, none)]
    | matching => matching.map (fun other => (row, some other)))

/-- `SELECT key, COUNT(*) ... GROUP BY key`. -/
def groupCount [DecidableEq κ] (column : α → κ) (rows : List α) : List (κ × Nat) :=
  (rows.map column).dedup.map (fun k => (k, rows.countP (fun row => column row == k)))

/-- `SELECT DISTINCT column`. -/
def distinct [DecidableEq κ] (column : α → κ) (rows : List α) : List κ :=
  (rows.map column).dedup

/-- A join whose right side has at most one match for each row neither multiplies nor
drops left rows: it attaches the match, where there is one.
-/
theorem leftJoin_eq_map {on : α → β → Bool} {right : List β}
    (unique : ∀ row, (right.filter (on row)).length ≤ 1) (left : List α)
    : leftJoin on left right = left.map (fun row => (row, right.find? (on row))) := by
  have single (row : α) : (match right.filter (on row) with
      | [] => [(row, none)]
      | matching => matching.map (fun other => (row, some other)))
      = [(row, right.find? (on row))] := by
    have bound := unique row
    rw [← List.head?_filter]
    match right.filter (on row), bound with
    | [], _ => rfl
    | [_], _ => rfl
  rw [leftJoin]
  simp only [single]
  exact List.map_eq_flatMap.symm

/-- Rows without repetition have at most one element equal to a given one. -/
theorem filter_eq_length_le_one [DecidableEq κ] {keys : List κ} (unique : keys.Nodup) (k : κ)
    : (keys.filter (fun other => other == k)).length ≤ 1 := by
  rw [← List.countP_eq_length_filter]
  exact List.nodup_iff_count_le_one.mp unique k

theorem groupCount_matches_le_one [DecidableEq κ] (column : α → κ) (rows : List α) (k : κ)
    : ((groupCount column rows).filter (fun group => group.1 == k)).length ≤ 1 := by
  rw [groupCount, List.filter_map, List.length_map]
  exact filter_eq_length_le_one (List.nodup_dedup _) k

/-- `COALESCE(count, 0)` over a joined grouped count is the plain count of the group;
a group without rows is absent from the join and counts as zero.
-/
theorem groupCount_coalesce [DecidableEq κ] (column : α → κ) (rows : List α) (k : κ)
    : (((groupCount column rows).find? (fun group => group.1 == k)).map Prod.snd).getD 0
      = rows.countP (fun row => column row == k) := by
  cases found : (groupCount column rows).find? (fun group => group.1 == k) with
  | none =>
      have absent : ∀ row ∈ rows, column row ≠ k := by
        intro row member same
        have here : (k, rows.countP (fun row => column row == k)) ∈ groupCount column rows :=
          List.mem_map.mpr ⟨k, List.mem_dedup.mpr (List.mem_map.mpr ⟨row, member, same⟩), rfl⟩
        simpa using List.find?_eq_none.mp found _ here
      symm
      simpa [List.countP_eq_zero] using absent
  | some group =>
      obtain ⟨other, _, rfl⟩ := List.mem_map.mp (List.mem_of_find?_eq_some found)
      have same : other = k := by simpa using List.find?_some found
      rw [same]
      rfl

theorem distinct_matches_le_one [DecidableEq κ] (column : α → κ) (rows : List α) (k : κ)
    : ((distinct column rows).filter (fun other => other == k)).length ≤ 1 :=
  filter_eq_length_le_one (List.nodup_dedup _) k

theorem distinct_find?_isNone [DecidableEq κ] (column : α → κ) (rows : List α) (k : κ)
    : ((distinct column rows).find? (fun other => other == k)).isNone
      ↔ ∀ row ∈ rows, column row ≠ k := by
  simp [distinct]

-----------------------------------------------------------------------------------------
-- Ordering and pages
-----------------------------------------------------------------------------------------

/-- `ORDER BY before`. The clause may leave rows tied; `tie` is the order in which the
database happens to return those, any order at all being some `tie`.
-/
def orderBy (before : α → α → Prop) [DecidableRel before] (tie : α → Nat) (rows : List α)
    : List α :=
  (rows.insertionSort (fun first second => tie first ≤ tie second)).insertionSort before

theorem orderBy_perm (before : α → α → Prop) [DecidableRel before] (tie : α → Nat)
    (rows : List α)
    : (orderBy before tie rows).Perm rows :=
  (List.perm_insertionSort _ _).trans (List.perm_insertionSort _ _)

@[simp] theorem mem_orderBy {before : α → α → Prop} [DecidableRel before] {tie : α → Nat}
    {rows : List α} {row : α}
    : row ∈ orderBy before tie rows ↔ row ∈ rows :=
  (orderBy_perm before tie rows).mem_iff

theorem orderBy_pairwise (before : α → α → Prop) [DecidableRel before] [Std.Total before]
    [IsTrans α before] (tie : α → Nat) (rows : List α)
    : (orderBy before tie rows).Pairwise before :=
  List.pairwise_insertionSort _ _

/-- A clause that leaves no two of the rows tied determines their order: neither the ties nor
the order in which the rows are stored matter.
-/
theorem orderBy_eq {before : α → α → Prop} [DecidableRel before] [Std.Total before]
    [IsTrans α before] {rows rows' : List α} (tie tie' : α → Nat) (same : rows.Perm rows')
    (untied
      : ∀ first ∈ rows, ∀ second ∈ rows, before first second → before second first
        → first = second)
    : orderBy before tie rows = orderBy before tie' rows' := by
  refine List.Perm.eq_of_pairwise ?_ (orderBy_pairwise before tie rows)
    (orderBy_pairwise before tie' rows') ?_
  · intro first second hf hs
    exact untied first (mem_orderBy.mp hf) second (same.mem_iff.mpr (mem_orderBy.mp hs))
  · have ordered := orderBy_perm before tie rows
    exact ordered.trans (same.trans (orderBy_perm before tie' rows').symm)

/-- `LIMIT size OFFSET (number - 1) * size`, for page numbers from one on. -/
def page (size number : Nat) (rows : List α) : List α :=
  (rows.drop ((number - 1) * size)).take size

theorem length_page (size index : Nat) (rows : List α)
    : (page size (index + 1) rows).length = min size (rows.length - index * size) := by
  simp [page]

theorem mem_of_mem_page {size number : Nat} {rows : List α} {row : α}
    (member : row ∈ page size number rows)
    : row ∈ rows :=
  List.mem_of_mem_drop (List.mem_of_mem_take member)

/-- Every row is on a page, and all pages before that one are full: the page is the position divided
by the size.
-/
theorem exists_page {size : Nat} (positive : 0 < size) {rows : List α} {row : α}
    (member : row ∈ rows)
    : ∃ number, row ∈ page size (number + 1) rows
        ∧ ∀ earlier, earlier < number → (page size (earlier + 1) rows).length = size := by
  obtain ⟨index, bound, rfl⟩ := List.mem_iff_getElem.mp member
  refine ⟨index / size, ?_, ?_⟩
  · have split : index / size * size + index % size = index := Nat.div_add_mod' index size
    have below := Nat.mod_lt index positive
    simp only [page, Nat.add_sub_cancel]
    refine List.mem_iff_getElem.mpr ⟨index % size, ?_, ?_⟩
    · simp only [List.length_take, List.length_drop]
      omega
    · simp only [List.getElem_take, List.getElem_drop, split]
  · intro earlier before
    have ends : (earlier + 1) * size ≤ index := by
      calc (earlier + 1) * size ≤ index / size * size := Nat.mul_le_mul_right size before
        _ ≤ index := Nat.div_mul_le_self index size
    rw [Nat.succ_mul] at ends
    simp only [page, Nat.add_sub_cancel, List.length_take, List.length_drop]
    omega

/-- The first pages after one another are the first rows. -/
theorem flatMap_page (size : Nat) (rows : List α) (count : Nat)
    : (List.range count).flatMap (fun index => page size (index + 1) rows)
      = rows.take (count * size) := by
  induction count with
  | zero => simp
  | succ count ih =>
      rw [List.range_succ, List.flatMap_append, ih, Nat.succ_mul, List.take_add]
      simp [page]

/-- The pages before the first empty one, after one another, are all rows; there are as many as the
length divided by the size, rounded up.
-/
theorem exists_pages {size : Nat} (positive : 0 < size) (rows : List α)
    : ∃ count, (∀ index, index < count → page size (index + 1) rows ≠ [])
        ∧ page size (count + 1) rows = []
        ∧ (List.range count).flatMap (fun index => page size (index + 1) rows) = rows := by
  have cover : rows.length ≤ (rows.length + size - 1) / size * size := by
    have split := Nat.div_add_mod' (rows.length + size - 1) size
    have below := Nat.mod_lt (rows.length + size - 1) positive
    omega
  refine ⟨(rows.length + size - 1) / size, ?_, ?_, ?_⟩
  · intro index less empty
    have reached : (index + 1) * size ≤ rows.length + size - 1 :=
      (Nat.le_div_iff_mul_le positive).mp less
    rw [Nat.succ_mul] at reached
    have short := congrArg List.length empty
    simp only [page, Nat.add_sub_cancel, List.length_take, List.length_drop,
      List.length_nil] at short
    omega
  · simp only [page, Nat.add_sub_cancel, List.drop_eq_nil_of_le cover, List.take_nil]
  · rw [flatMap_page, List.take_of_length_le cover]

end Relational
