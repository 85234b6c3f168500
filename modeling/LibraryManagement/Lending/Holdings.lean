import LibraryManagement.Lending.Coherence

/-! Loans of one book that a user holds at the same time. A sweep hides a loan from the
duplicate check while the user still holds the book.
-/

namespace LibraryManagement

open Relational Transition

/-- The loans of one book that a user has not returned. -/
def Store.heldLoans (s : Store) (userId bookId : Nat) : Nat :=
  s.borrowings.rows.countP (fun loan =>
    (loan.userId == userId && loan.bookId == bookId) && loan.out)

def Store.HeldOnce (s : Store) : Prop := ∀ userId bookId, s.heldLoans userId bookId ≤ 1

/-- Where the request is a borrowing that the validators let through, its user holds no
overdue loan of its book.
-/
def HasNoOverdue (s : Store) (call : Call) : Prop :=
  ∀ lent ∈ call.lends s, ∀ loan ∈ s.borrowings.rows,
    loan.userId = lent.1.id → loan.bookId = lent.2.id → ¬(loan.status = .overdue ∧ loan.out)

instance (s : Store) (call : Call) : Decidable (HasNoOverdue s call) :=
  inferInstanceAs (Decidable (∀ lent ∈ call.lends s, _))

/-- A user whom the duplicate check lets through holds no active loan of the book, hence
overdue ones only.
-/
theorem Store.Coherent.heldLoans_eq_zero_iff {s : Store} (coherent : s.Coherent) {user : User}
    {book : Book} (allowed : s.mayBorrow user book)
    : s.heldLoans user.id book.id = 0
      ↔ ∀ loan ∈ s.borrowings.rows, loan.userId = user.id → loan.bookId = book.id
        → ¬(loan.status = .overdue ∧ loan.out) := by
  have split := coherent.countP_out (fun loan => loan.userId == user.id && loan.bookId == book.id)
  have inactive : s.borrowings.rows.countP (fun loan =>
      (loan.userId == user.id && loan.bookId == book.id) && loan.active) = 0 := by
    have unheld := (Bool.and_eq_true_iff.mp allowed).1
    simpa [List.countP_eq_zero] using unheld
  rw [Store.heldLoans, split, inactive, Nat.zero_add, List.countP_eq_zero]
  simp

/-- A borrowing leaves nobody holding a book twice exactly when its user held none: it adds one to
this count and to no other.
-/
theorem Store.HeldOnce.step_lends_iff {call : Call} {s : Store} {user : User} {book : Book}
    (once : s.HeldOnce) (platform : Platform) (lent : call.lends s = some (user, book))
    : (step platform s call).HeldOnce ↔ s.heldLoans user.id book.id = 0 := by
  have counts (userId bookId : Nat) : (step platform s call).heldLoans userId bookId
      = s.heldLoans userId bookId + if user.id = userId ∧ book.id = bookId then 1 else 0 := by
    unfold Store.heldLoans
    rw [countP_lends lent]
    simp [Borrowing.out]
  constructor
  · intro after
    have bound := after user.id book.id
    rw [counts, if_pos ⟨rfl, rfl⟩] at bound
    omega
  · intro unheld userId bookId
    rw [counts]
    split
    · next same =>
      obtain ⟨rfl, rfl⟩ := same
      omega
    · exact once userId bookId

/-- A user never holds a book twice, exactly along the runs in which no borrowing that the
validators let through finds an overdue loan of the same book with the same user.
-/
theorem reachedStores_heldOnce_iff (platform : Platform) (database : Database)
    (empty : database.store.borrowings.rows = []) (calls : List Call)
    : (∀ reached ∈ reachedStores platform database.store calls, reached.HeldOnce)
      ↔ EachStep (step platform) HasNoOverdue database.store calls := by
  have onceAtFirst : database.store.HeldOnce := by
    intro userId bookId
    simp [Store.heldLoans, empty]
  refine forall_states_iff Store.Sound (database.sound_of_empty empty) onceAtFirst ?_ ?_ calls
  · exact step_sound platform
  · intro s call sound once
    cases lends : call.lends s with
    | none =>
        have idle : (step platform s call).HeldOnce := by
          intro userId bookId
          refine Nat.le_trans ?_ (once userId bookId)
          refine (step_loanEffect platform s call).countP_le lends ?_ (fun _ counted => counted)
          exact fun loan counted => (Bool.and_eq_true_iff.mp counted).2
        simp [idle, HasNoOverdue, lends]
    | some lent =>
        obtain ⟨_, _, _, allowed⟩ := Call.lends_eq_some_iff.mp lends
        rw [once.step_lends_iff platform lends, sound.coherent.heldLoans_eq_zero_iff allowed]
        simp [HasNoOverdue, lends]

/-- A member returns an overdue loan before the book is borrowed again. -/
def Call.sampleReturnOverdue : List Call := [
  .onDay 0 (some 2) (.borrowings (.create 1)),
  .onDay 20 (some 1) (.dashboard .markOverdue),
  .onDay 20 (some 1) (.borrowings (.returnBook 1 none)),
  .onDay 21 (some 2) (.borrowings (.create 1))]

theorem reachedStores_heldOnce_sample
    : Database.sample.store.borrowings.rows = []
      ∧ ∀ reached ∈ reachedStores .ascii Database.sample.store Call.sampleReturnOverdue,
          reached.HeldOnce :=
  ⟨rfl, (reachedStores_heldOnce_iff .ascii Database.sample rfl _).mpr (by decide)⟩

/-- A member borrows on day 0 and, once a sweep has marked the loan, again on day 20. -/
def Call.sampleReborrow : List Call := [
  .onDay 0 (some 2) (.borrowings (.create 1)),
  .onDay 20 (some 1) (.dashboard .markOverdue),
  .onDay 20 (some 2) (.borrowings (.create 1))]

theorem reborrow_held_twice
    : Database.sample.store.borrowings.rows = []
      ∧ Call.sampleReborrow.Pairwise (fun earlier later => earlier.env.today ≤ later.env.today)
      ∧ ¬∀ reached ∈ reachedStores .ascii Database.sample.store Call.sampleReborrow,
          reached.HeldOnce := by
  refine ⟨rfl, by decide, ?_⟩
  intro always
  have once : ∀ reached ∈ reachedStores .ascii Database.sample.store Call.sampleReborrow,
      reached.heldLoans 2 1 ≤ 1 :=
    fun reached member => always reached member 2 1
  revert once
  decide

end LibraryManagement
