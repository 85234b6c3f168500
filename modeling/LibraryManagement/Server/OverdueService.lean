import LibraryManagement.Server.Borrowing

/-! `app/services/overdue_service.rb` -/

namespace LibraryManagement

open Relational

namespace OverdueService

/-- The condition of the relation `overdue_borrowings`. The relation is lazy: each use of
it below runs the query on the store of that moment.
-/
def overdueBorrowings (today : Int) (loan : Borrowing) : Bool :=
  loan.status == .borrowed && decide (loan.dueDate < today)

theorem overdueBorrowings_iff {today : Int} {loan : Borrowing}
    : overdueBorrowings today loan ↔ loan.status = .borrowed ∧ loan.dueDate < today := by
  simp [overdueBorrowings]

/-- `update_all(status: :overdue)`: one `UPDATE`, which sets no timestamp. -/
def updateAll (today : Int) (s : Store) : Store :=
  { s with
    borrowings := s.borrowings.update (overdueBorrowings today)
      ⟨fun loan => { loan with status := .overdue }, fun _ => rfl⟩ }

structure Result where
  count : Nat
  /-- The borrowings that `send_overdue_notifications` iterates over. -/
  notified : List Borrowing
  store : Store

def markOverdueBooks (today : Int) (s : Store) : Result :=
  if (s.borrowings.rows.filter (overdueBorrowings today)).isEmpty then
    ⟨0, [], s⟩
  else
    let updatedCount := s.borrowings.rows.countP (overdueBorrowings today)
    let updated := updateAll today s
    if updatedCount > 0 then
      ⟨updatedCount, updated.borrowings.rows.filter (overdueBorrowings today), updated⟩
    else
      ⟨updatedCount, [], updated⟩

/-- The early exit agrees with the general path: an update that selects no row leaves the
store as it is.
-/
theorem markOverdueBooks_store (today : Int) (s : Store)
    : (markOverdueBooks today s).store = updateAll today s := by
  rw [markOverdueBooks]
  split
  · next none =>
    have unselected : ∀ loan ∈ s.borrowings.rows, ¬overdueBorrowings today loan :=
      List.filter_eq_nil_iff.mp (List.isEmpty_iff.mp none)
    have same : updateAll today s = s := by
      obtain ⟨users, books, borrowings⟩ := s
      simp only [updateAll, Store.mk.injEq, true_and]
      exact borrowings.update_eq_self unselected
    exact same.symm
  · dsimp only
    split <;> rfl

theorem markOverdueBooks_count (today : Int) (s : Store)
    : (markOverdueBooks today s).count = s.borrowings.rows.countP (overdueBorrowings today) := by
  rw [markOverdueBooks]
  split
  · next none =>
    rw [List.countP_eq_length_filter, List.isEmpty_iff.mp none]
    rfl
  · dsimp only
    split <;> rfl

end OverdueService
end LibraryManagement
