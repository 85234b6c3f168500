import LibraryManagement.Relational.Query
import Mathlib.Logic.ExistsUnique

/-! Pages of a list that are fetched by one query each. Every query may return the rows that
`ORDER BY` leaves tied in another order, so a row is sure to be on one page only where its tied
rows are all on that page.
-/

namespace Relational

variable {α : Type u} {κ : Type v}

section Positions

variable (before : α → α → Prop) [DecidableRel before]

/-- The first position that an order of the rows can give to `row`: after all rows that come
strictly before it.
-/
def firstPosition (rows : List α) (row : α) : Nat :=
  rows.countP (fun other => !decide (before row other))

/-- The last position that an order of the rows can give to `row`: after all rows that come
before it or are tied with it.
-/
def lastPosition (rows : List α) (row : α) : Nat :=
  rows.countP (fun other => decide (before other row)) - 1

/-- A clause that ties all rows allows every position. -/
theorem firstPosition_tied (rows : List α) (row : α)
    : firstPosition (fun _ _ => True) rows row = 0 := by
  simp [firstPosition]

theorem lastPosition_tied (rows : List α) (row : α)
    : lastPosition (fun _ _ => True) rows row = rows.length - 1 := by
  simp [lastPosition]

end Positions

-----------------------------------------------------------------------------------------
-- Positions in one order
-----------------------------------------------------------------------------------------

section Order

variable {before : α → α → Prop} [DecidableRel before]

/-- A page holds the rows at its positions, and no two positions hold the same row. -/
theorem getElem_mem_page_iff {size : Nat} (positive : 0 < size) {rows : List α}
    (distinct : rows.Nodup) {index : Nat} (bound : index < rows.length) (number : Nat)
    : rows[index] ∈ page size (number + 1) rows ↔ index / size = number := by
  rw [Nat.div_eq_iff positive]
  simp only [page, Nat.add_sub_cancel]
  constructor
  · intro member
    obtain ⟨offset, less, same⟩ := List.mem_iff_getElem.mp member
    simp only [List.getElem_take, List.getElem_drop] at same
    have position := (distinct.getElem_inj_iff).mp same
    simp only [List.length_take, List.length_drop] at less
    omega
  · rintro ⟨lower, upper⟩
    refine List.mem_iff_getElem.mpr ⟨index - number * size, ?_, ?_⟩
    · simp only [List.length_take, List.length_drop]
      omega
    · simp only [List.getElem_take, List.getElem_drop]
      congr 1
      omega

/-- What a row is to those before it and those behind it. -/
theorem pairwise_around {related : α → α → Prop} {rows : List α} (ordered : rows.Pairwise related)
    {index : Nat} (bound : index < rows.length)
    : (∀ other ∈ rows.take index, related other rows[index])
      ∧ ∀ other ∈ rows.drop (index + 1), related rows[index] other := by
  rw [← List.take_append_drop index rows, List.drop_eq_getElem_cons bound] at ordered
  obtain ⟨_, behind, across⟩ := List.pairwise_append.mp ordered
  exact ⟨fun other member => across other member _ List.mem_cons_self,
    (List.pairwise_cons.mp behind).1⟩

theorem countP_around (p : α → Bool) {rows : List α} {index : Nat} (bound : index < rows.length)
    : rows.countP p
      = (rows.take index).countP p
        + ((rows.drop (index + 1)).countP p + if p rows[index] then 1 else 0) := by
  conv_lhs => rw [← List.take_append_drop index rows, List.drop_eq_getElem_cons bound]
  rw [List.countP_append, List.countP_cons]

/-- In an ordered list no row stands before its first position. -/
theorem firstPosition_le [Std.Total before] {rows : List α} (ordered : rows.Pairwise before)
    {index : Nat} (bound : index < rows.length)
    : firstPosition before rows rows[index] ≤ index := by
  have behind : (rows.drop (index + 1)).countP (fun other => !decide (before rows[index] other))
      = 0 := by
    refine List.countP_eq_zero.mpr (fun other member => ?_)
    simpa using (pairwise_around ordered bound).2 other member
  have self : before rows[index] rows[index] := (Std.Total.total _ _).elim id id
  have taken : (rows.take index).countP (fun other => !decide (before rows[index] other))
      ≤ (rows.take index).length := List.countP_le_length
  rw [firstPosition, countP_around _ bound, behind]
  simp only [self, decide_true, Bool.not_true, Bool.false_eq_true, if_false]
  simp only [List.length_take] at taken
  omega

/-- Nor behind its last position. -/
theorem le_lastPosition {rows : List α} (ordered : rows.Pairwise before)
    {index : Nat} (bound : index < rows.length) (self : before rows[index] rows[index])
    : index ≤ lastPosition before rows rows[index] := by
  have ahead : (rows.take index).countP (fun other => decide (before other rows[index]))
      = (rows.take index).length := by
    refine List.countP_eq_length.mpr (fun other member => ?_)
    simpa using (pairwise_around ordered bound).1 other member
  rw [lastPosition, countP_around _ bound, ahead, List.length_take]
  simp only [self, decide_true, if_true]
  omega

-----------------------------------------------------------------------------------------
-- Orders that the ties make extreme
-----------------------------------------------------------------------------------------

/-- Inserting the row with the least tie keeps tied rows in the order of their ties, by induction:
it goes before the first row that it is tied with.
-/
theorem orderedInsert_stable [Std.Total before] [IsTrans α before] {tie : α → Nat} {row : α}
    {rows : List α} (ordered : rows.Pairwise before)
    (stable : rows.Pairwise (fun first second => before second first → tie first ≤ tie second))
    (least : ∀ other ∈ rows, tie row ≤ tie other)
    : (rows.orderedInsert before row).Pairwise
        (fun first second => before second first → tie first ≤ tie second) := by
  induction rows with
  | nil => simp
  | cons head rest ih =>
      obtain ⟨headOrdered, restOrdered⟩ := List.pairwise_cons.mp ordered
      obtain ⟨headStable, restStable⟩ := List.pairwise_cons.mp stable
      by_cases here : before row head
      · rw [List.orderedInsert_cons_of_le before rest here]
        exact List.pairwise_cons.mpr ⟨fun other member _ => least other member, stable⟩
      · rw [List.orderedInsert_of_not_le before rest here]
        have inserted := ih restOrdered restStable
          (fun other member => least other (List.mem_cons_of_mem head member))
        refine List.pairwise_cons.mpr ⟨?_, inserted⟩
        intro other member back
        rcases (List.mem_orderedInsert before).mp member with rfl | later
        · exact absurd back here
        · exact headStable other later back

/-- Tied rows are returned in the order of their ties, since the rows are sorted by their ties
before.
-/
theorem orderBy_stable (before : α → α → Prop) [DecidableRel before] [Std.Total before]
    [IsTrans α before] (tie : α → Nat) (rows : List α)
    : (orderBy before tie rows).Pairwise
        (fun first second => before second first → tie first ≤ tie second) := by
  have tied := List.pairwise_insertionSort (fun first second => tie first ≤ tie second) rows
  rw [orderBy]
  generalize rows.insertionSort (fun first second => tie first ≤ tie second) = arranged at tied ⊢
  induction arranged with
  | nil => exact .nil
  | cons row rest ih =>
      obtain ⟨least, restTied⟩ := List.pairwise_cons.mp tied
      rw [List.insertionSort_cons]
      refine orderedInsert_stable (List.pairwise_insertionSort before rest) (ih restTied) ?_
      intro other member
      exact least other ((List.perm_insertionSort before rest).mem_iff.mp member)

/-- A row whose tie is the least stands at its first position: every row ahead of it comes before it
strictly.
-/
theorem le_firstPosition {tie : α → Nat} {rows : List α} (distinct : rows.Nodup)
    (stable : rows.Pairwise (fun first second => before second first → tie first ≤ tie second))
    {index : Nat} (bound : index < rows.length)
    (least : ∀ other ∈ rows, tie other ≤ tie rows[index] → other = rows[index])
    : index ≤ firstPosition before rows rows[index] := by
  have ahead : (rows.take index).countP (fun other => !decide (before rows[index] other))
      = (rows.take index).length := by
    refine List.countP_eq_length.mpr (fun other member => ?_)
    have strictly : ¬before rows[index] other := by
      intro back
      have tied := (pairwise_around stable bound).1 other member back
      exact (pairwise_around distinct bound).1 other member
        (least other (List.mem_of_mem_take member) tied)
    simpa using strictly
  rw [firstPosition, countP_around _ bound, ahead, List.length_take]
  omega

/-- One whose tie is the greatest stands at its last, since no row behind it is tied with it. -/
theorem lastPosition_le {tie : α → Nat} {rows : List α} (distinct : rows.Nodup)
    (stable : rows.Pairwise (fun first second => before second first → tie first ≤ tie second))
    {index : Nat} (bound : index < rows.length)
    (greatest : ∀ other ∈ rows, tie rows[index] ≤ tie other → other = rows[index])
    : lastPosition before rows rows[index] ≤ index := by
  have behind : (rows.drop (index + 1)).countP (fun other => decide (before other rows[index]))
      = 0 := by
    refine List.countP_eq_zero.mpr (fun other member => ?_)
    have strictly : ¬before other rows[index] := by
      intro back
      have tied := (pairwise_around stable bound).2 other member back
      exact (pairwise_around distinct bound).2 other member
        (greatest other (List.mem_of_mem_drop member) tied).symm
    simpa using strictly
  have taken : (rows.take index).countP (fun other => decide (before other rows[index]))
      ≤ (rows.take index).length := List.countP_le_length
  rw [lastPosition, countP_around _ bound, behind]
  simp only [List.length_take] at taken
  split <;> omega

-----------------------------------------------------------------------------------------
-- One query for each page
-----------------------------------------------------------------------------------------

theorem firstPosition_perm {rows rows' : List α} (same : rows.Perm rows') (row : α)
    : firstPosition before rows row = firstPosition before rows' row :=
  same.countP_eq _

theorem lastPosition_perm {rows rows' : List α} (same : rows.Perm rows') (row : α)
    : lastPosition before rows row = lastPosition before rows' row :=
  congrArg (fun count => count - 1) (same.countP_eq _)

/-- The pages on which a row can be, in one order of the rows: that of its position, which is
between its first and its last and can be either of them.
-/
theorem mem_page_orderBy (before : α → α → Prop) [DecidableRel before] [Std.Total before]
    [IsTrans α before] {size : Nat} (positive : 0 < size)
    {rows : List α} (distinct : rows.Nodup) (tie : α → Nat) {row : α} (member : row ∈ rows)
    : ∃ index, firstPosition before rows row ≤ index ∧ index ≤ lastPosition before rows row
        ∧ ((∀ other ∈ rows, tie other ≤ tie row → other = row)
          → index = firstPosition before rows row)
        ∧ ((∀ other ∈ rows, tie row ≤ tie other → other = row)
          → index = lastPosition before rows row)
        ∧ ∀ number, row ∈ page size (number + 1) (orderBy before tie rows)
            ↔ index / size = number := by
  have same := orderBy_perm before tie rows
  have ordered := orderBy_pairwise before tie rows
  have stable := orderBy_stable before tie rows
  have unique := same.nodup_iff.mpr distinct
  obtain ⟨index, bound, rfl⟩ := List.mem_iff_getElem.mp (same.mem_iff.mpr member)
  have first := firstPosition_le ordered bound
  have last := le_lastPosition ordered bound ((Std.Total.total _ _).elim id id)
  rw [firstPosition_perm same] at first
  rw [lastPosition_perm same] at last
  refine ⟨index, first, last, ?_, ?_, ?_⟩
  · intro least
    refine Nat.le_antisymm ?_ first
    rw [← firstPosition_perm same]
    exact le_firstPosition unique stable bound
      (fun other listed => least other (same.mem_iff.mp listed))
  · intro greatest
    refine Nat.le_antisymm last ?_
    rw [← lastPosition_perm same]
    exact lastPosition_le unique stable bound
      (fun other listed => greatest other (same.mem_iff.mp listed))
  · exact getElem_mem_page_iff positive unique bound

/-- A row is on exactly one page, whatever order each page's query returns tied rows in, exactly
when all positions open to it are on one page. Ties are told apart by a key.
-/
theorem existsUnique_page_iff [Std.Total before] [IsTrans α before] [DecidableEq κ] {size : Nat}
    (positive : 0 < size) {rows : List α} (key : α → κ) (distinct : (rows.map key).Nodup)
    {row : α} (member : row ∈ rows)
    : (∀ ties : Nat → κ → Nat, ∃! number,
          row ∈ page size (number + 1) (orderBy before (fun other => ties number (key other)) rows))
      ↔ firstPosition before rows row / size = lastPosition before rows row / size := by
  have nodup : rows.Nodup := .of_map key distinct
  have injective : ∀ other ∈ rows, key other = key row → other = row :=
    fun other listed same => List.inj_on_of_nodup_map distinct listed member same
  constructor
  · intro always
    by_contra apart
    -- The page of the first position puts the row first, all others put it last.
    obtain ⟨number, _, only⟩ := always (fun number k =>
      if number = firstPosition before rows row / size then
        if k = key row then 0 else 1
      else
        if k = key row then 1 else 0)
    obtain ⟨index, _, _, first, _, pages⟩ := mem_page_orderBy before positive nodup
      (fun other => if key other = key row then 0 else 1) member
    obtain ⟨index', _, _, _, last, pages'⟩ := mem_page_orderBy before positive nodup
      (fun other => if key other = key row then 1 else 0) member
    have earlier := only (firstPosition before rows row / size)
    have later := only (lastPosition before rows row / size)
    simp only [if_true, pages, pages', if_neg (Ne.symm apart)] at earlier later
    have atFirst : index = firstPosition before rows row := by
      refine first (fun other listed tied => injective other listed ?_)
      by_contra different
      simp [different] at tied
    have atLast : index' = lastPosition before rows row := by
      refine last (fun other listed tied => injective other listed ?_)
      by_contra different
      simp [different] at tied
    exact apart ((earlier (atFirst ▸ rfl)).trans (later (atLast ▸ rfl)).symm)
  · intro together ties
    refine ⟨firstPosition before rows row / size, ?_, ?_⟩
    · obtain ⟨index, first, last, _, _, pages⟩ := mem_page_orderBy before positive nodup
        (fun other => ties (firstPosition before rows row / size) (key other)) member
      refine (pages _).mpr (Nat.le_antisymm ?_ (Nat.div_le_div_right first))
      exact together ▸ Nat.div_le_div_right last
    · intro number here
      obtain ⟨index, first, last, _, _, pages⟩ := mem_page_orderBy before positive nodup
        (fun other => ties number (key other)) member
      refine ((pages number).mp here).symm.trans ?_
      refine Nat.le_antisymm ?_ (Nat.div_le_div_right first)
      exact together ▸ Nat.div_le_div_right last

end Order
end Relational
