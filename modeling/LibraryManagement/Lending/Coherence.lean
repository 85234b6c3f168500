import LibraryManagement.Lending.Loans

/-! Status and return time of a loan agree in every store that requests reach. -/

namespace LibraryManagement

open Relational

/-- A loan has status returned exactly when its return time is set. -/
def Borrowing.Coherent (loan : Borrowing) : Prop :=
  loan.status = .returned ↔ loan.returnedAt.isSome

instance (loan : Borrowing) : Decidable loan.Coherent := inferInstanceAs (Decidable (_ ↔ _))

def Store.Coherent (s : Store) : Prop := ∀ loan ∈ s.borrowings.rows, loan.Coherent

theorem Borrowing.Coherent.returnedAt_eq_none {loan : Borrowing} (coherent : loan.Coherent)
    (unreturned : loan.status ≠ .returned)
    : loan.returnedAt = none := by
  cases returned : loan.returnedAt with
  | none => rfl
  | some instant => exact absurd (coherent.mpr (by simp [returned])) unreturned

/-- A loan that is out without being active was marked by a sweep. -/
theorem Borrowing.Coherent.out_inactive {loan : Borrowing} (coherent : loan.Coherent)
    : (loan.out && !loan.active) = (loan.status == .overdue && loan.out) := by
  unfold Borrowing.Coherent at coherent
  rw [active, out]
  cases status : loan.status with
  | borrowed => cases loan.returnedAt <;> rfl
  | overdue => cases loan.returnedAt <;> rfl
  | returned =>
      have closed := coherent.mp status
      simp [Option.isNone_eq_false_iff.mpr closed]

theorem Borrowing.requested_coherent (validated now : Int) (user : User) (book : Book) (id : Nat)
    : ((Borrowing.requested validated user book).toRow now id).Coherent := by
  simp [Coherent]

theorem Borrowing.Coherent.markOverdue {loan : Borrowing} (coherent : loan.Coherent)
    (borrowed : loan.status = .borrowed)
    : Borrowing.Coherent { loan with status := .overdue } := by
  have out := coherent.returnedAt_eq_none (by simp [borrowed])
  simp [Coherent, out]

/-- Requests keep loans coherent, by the effect they have on the loans. -/
theorem step_coherent (platform : Platform) (s : Store) (call : Call) (coherent : s.Coherent)
    : (step platform s call).Coherent := by
  refine (step_loanEffect platform s call).forall_rows coherent ?_ ?_ ?_
  · exact fun user book _ => Borrowing.requested_coherent _ _ user book _
  · intro loan comment _
    obtain ⟨status, returnedAt, _⟩ := Borrowing.saveChanges_self call.env.now comment loan
    simp [Borrowing.Coherent, status, returnedAt]
  · intro loan _ _ selected before
    exact before.markOverdue (OverdueService.overdueBorrowings_iff.mp selected).1

/-- Among the loans that satisfy a condition, those that are out are the active ones, which
the validators look at, and the overdue ones, which they do not.
-/
theorem Store.Coherent.countP_out {s : Store} (coherent : s.Coherent) (p : Borrowing → Bool)
    : s.borrowings.rows.countP (fun loan => p loan && loan.out)
      = s.borrowings.rows.countP (fun loan => p loan && loan.active)
        + s.borrowings.rows.countP (fun loan =>
            p loan && (loan.status == .overdue && loan.out)) := by
  have split := List.countP_eq_countP_filter_add s.borrowings.rows
    (fun loan => p loan && loan.out) Borrowing.active
  simp only [List.countP_filter] at split
  rw [split]
  congr 1
  · refine List.countP_congr (fun loan _ => ?_)
    cases returned : loan.returnedAt <;> simp [Borrowing.out, Borrowing.active, returned]
  · refine List.countP_congr (fun loan member => ?_)
    rw [Bool.and_assoc, (coherent loan member).out_inactive]

/-- A store that requests reach from an empty table of loans. -/
structure Store.Sound (s : Store) : Prop where
  consistent : s.Consistent
  coherent : s.Coherent

theorem Database.sound_of_empty (database : Database)
    (empty : database.store.borrowings.rows = [])
    : database.store.Sound where
  consistent := database.consistent
  coherent := by simp [Store.Coherent, empty]

theorem step_sound (platform : Platform) (s : Store) (call : Call) (sound : s.Sound)
    : (step platform s call).Sound where
  consistent := step_consistent platform s call sound.consistent
  coherent := step_coherent platform s call sound.coherent

end LibraryManagement
