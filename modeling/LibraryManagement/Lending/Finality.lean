import LibraryManagement.Lending.Loans

/-! What happens to a loan after its return. `return!` does not ask whether the loan was
returned before.
-/

namespace LibraryManagement

open Relational Transition

/-- A returned loan keeps the columns of its return. -/
def Borrowing.KeepsReturn (before after : Borrowing) : Prop :=
  before.status = .returned
    → after.status = .returned ∧ after.returnedAt = before.returnedAt
      ∧ after.returnComment = before.returnComment

instance (before after : Borrowing) : Decidable (before.KeepsReturn after) :=
  inferInstanceAs (Decidable (_ → _))

/-- All returned loans of the earlier store keep their return for as long as they exist. -/
def Store.KeepsReturns (earlier later : Store) : Prop :=
  ∀ before ∈ earlier.borrowings.rows, ∀ after ∈ later.borrowings.rows,
    after.id = before.id → before.KeepsReturn after

instance (earlier later : Store) : Decidable (earlier.KeepsReturns later) :=
  inferInstanceAs (Decidable (∀ before ∈ earlier.borrowings.rows, _))

/-- Where the request returns a loan that is returned already, it comes at the recorded
instant and with the recorded comment.
-/
def RepeatsReturn (s : Store) (call : Call) : Prop :=
  ∀ returned ∈ call.returns s, returned.1.status = .returned
    → returned.1.returnedAt = some call.env.now
      ∧ returned.1.returnComment = presence returned.2

instance (s : Store) (call : Call) : Decidable (RepeatsReturn s call) :=
  inferInstanceAs (Decidable (∀ returned ∈ call.returns s, _))

theorem Borrowing.KeepsReturn.trans {first second third : Borrowing}
    (hf : first.KeepsReturn second) (hs : second.KeepsReturn third)
    : first.KeepsReturn third := by
  intro returned
  obtain ⟨status, returnedAt, comment⟩ := hf returned
  obtain ⟨status', returnedAt', comment'⟩ := hs status
  exact ⟨status', returnedAt'.trans returnedAt, comment'.trans comment⟩

/-- A request that repeats the recorded return, if any, lets all rows keep theirs. -/
theorem RepeatsReturn.follows {s : Store} {call : Call} (repeats : RepeatsReturn s call)
    (platform : Platform)
    : Table.Follows Borrowing.KeepsReturn s.borrowings (step platform s call).borrowings := by
  refine (step_loanEffect platform s call).follows ?_ ?_ ?_
  · exact fun loan returned => ⟨returned, rfl, rfl⟩
  · intro loan comment returns returned
    obtain ⟨instant, given⟩ := repeats (loan, comment) returns returned
    obtain ⟨status, returnedAt, returnComment, _⟩ :=
      Borrowing.saveChanges_self call.env.now comment loan
    exact ⟨status, returnedAt.trans instant.symm, returnComment.trans given.symm⟩
  · intro loan selected returned
    simp [(OverdueService.overdueBorrowings_iff.mp selected).1] at returned

/-- A request under which returned loans keep their columns repeats the recorded return, if
it returns a loan at all.
-/
theorem Store.KeepsReturns.repeatsReturn {platform : Platform} {s : Store} {call : Call}
    (keeps : s.KeepsReturns (step platform s call))
    : RepeatsReturn s call := by
  intro ⟨loan, comment⟩ returns returned
  obtain ⟨_, _, found⟩ := Call.returns_eq_some_iff.mp returns
  let saved :=
    Borrowing.saveChanges call.env.now loan (loan.assignReturn call.env.now comment) loan
  have stored : saved ∈ (step platform s call).borrowings.rows := by
    rw [step_returns returns]
    exact Borrowing.mem_saveReturn call.env.now comment found
  obtain ⟨_, instant, given⟩ :=
    keeps loan found saved stored (Borrowing.saveChanges_id _ _ _ loan) returned
  obtain ⟨_, returnedAt, returnComment, _⟩ :=
    Borrowing.saveChanges_self call.env.now comment loan
  exact ⟨instant.symm.trans returnedAt, given.symm.trans returnComment⟩

/-- A librarian confirms the same return on day 3 and, without the comment, on day 4. -/
def Call.sampleReturnTwice : List Call := [
  .onDay 0 (some 2) (.borrowings (.create 1)),
  .onDay 3 (some 1) (.borrowings (.returnBook 1 (some "Worn cover"))),
  .onDay 4 (some 1) (.borrowings (.returnBook 1 none))]

end LibraryManagement
