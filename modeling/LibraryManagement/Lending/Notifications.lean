import LibraryManagement.Lending.Sweep

/-! Whom the sweep notifies. `overdue_borrowings` is a query on the status that
`update_all` changes, and `send_overdue_notifications` runs it after the update.
-/

namespace LibraryManagement

open Relational OverdueService

/-- The borrowing with this id was borrowed in the earlier store and is overdue in the later. -/
def Store.Marks (before after : Store) (id : Nat) : Prop :=
  ∃ old ∈ before.borrowings.rows, ∃ new ∈ after.borrowings.rows,
    old.id = id ∧ new.id = id ∧ old.status = .borrowed ∧ new.status = .overdue

/-- The sweep of a day iterates over exactly the borrowings it marks, each once. -/
structure OverdueService.NotifiesMarked (day : Int) (s : Store) : Prop where
  once : ((markOverdueBooks day s).notified.map Borrowing.id).Nodup
  marked
    : ∀ id, id ∈ (markOverdueBooks day s).notified.map Borrowing.id
        ↔ s.Marks (markOverdueBooks day s).store id
  counted : (markOverdueBooks day s).notified.length = (markOverdueBooks day s).count

/-- The iteration runs the query when its rows have left the status it asks for. -/
theorem OverdueService.markOverdueBooks_notified (day : Int) (s : Store)
    : (markOverdueBooks day s).notified = [] := by
  rw [markOverdueBooks]
  split
  · rfl
  · dsimp only
    split
    · rw [updateAll_rows]
      refine List.filter_eq_nil_iff.mpr ?_
      intro loan member
      obtain ⟨old, _, rfl⟩ := List.mem_map.mp member
      exact marked_unselected day old
    · rfl

/-- A sweep marks the borrowings that its query selects on the store it finds, and no others change
their status.
-/
theorem OverdueService.marks_iff {day : Int} {s : Store} {id : Nat}
    : s.Marks (markOverdueBooks day s).store id
      ↔ ∃ loan ∈ s.borrowings.rows, loan.id = id ∧ overdueBorrowings day loan := by
  rw [markOverdueBooks_store, Store.Marks, updateAll_rows]
  constructor
  · intro marked
    obtain ⟨old, member, new, there, rfl, same, borrowed, overdue⟩ := marked
    refine ⟨old, member, rfl, ?_⟩
    obtain ⟨before, present, rfl⟩ := List.mem_map.mp there
    have ids : (marked day before).id = before.id := by
      rw [marked]
      split <;> rfl
    obtain rfl := s.borrowings.eq_of_key_eq present member (ids.symm.trans same)
    refine (overdueBorrowings_iff_changed day before).mpr ?_
    rw [borrowed, overdue]
    rfl
  · intro chosen
    obtain ⟨loan, member, rfl, selected⟩ := chosen
    have after : marked day loan = { loan with status := .overdue } := if_pos selected
    refine ⟨loan, member, marked day loan, List.mem_map.mpr ⟨loan, member, rfl⟩, rfl, ?_, ?_, ?_⟩
    · rw [after]
    · exact (overdueBorrowings_iff.mp selected).1
    · rw [after]

/-- The sweep notifies whom it marks exactly when there is nothing to mark, since it notifies
nobody.
-/
theorem notifiesMarked_iff (day : Int) (s : Store)
    : NotifiesMarked day s ↔ ∀ loan ∈ s.borrowings.rows, ¬overdueBorrowings day loan := by
  constructor
  · intro notifies loan member selected
    have notified := (notifies.marked loan.id).mpr (marks_iff.mpr ⟨loan, member, rfl, selected⟩)
    rw [markOverdueBooks_notified] at notified
    cases notified
  · intro nothing
    refine ⟨?_, ?_, ?_⟩
    · simp [markOverdueBooks_notified]
    · intro id
      rw [markOverdueBooks_notified, marks_iff]
      refine iff_of_false List.not_mem_nil ?_
      intro chosen
      obtain ⟨loan, member, _, selected⟩ := chosen
      exact nothing loan member selected
    · rw [markOverdueBooks_notified, markOverdueBooks_count]
      exact (List.countP_eq_zero.mpr nothing).symm

/-- On day 20 a sweep marks the loan of day 0 and iterates over nothing. -/
theorem marked_unnotified
    : ¬NotifiesMarked 20
        (step .ascii Database.sample.store (.onDay 0 (some 2) (.borrowings (.create 1)))) := by
  intro notifies
  exact absurd notifies.counted (by decide)

end LibraryManagement
