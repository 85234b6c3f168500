import LibraryManagement.Lending.Coherence

/-! Copies of a book that are out, against the copies the library owns. A sweep moves a loan
out of `available_copies` while its copy is still out.
-/

namespace LibraryManagement

open Relational Transition

/-- The borrowings of a book that have not been returned. -/
def Store.outCopies (s : Store) (book : Book) : Nat :=
  s.borrowings.rows.countP (fun loan => loan.bookId == book.id && loan.out)

/-- Those of them that a sweep has marked. -/
def Store.overdueCopies (s : Store) (book : Book) : Nat :=
  s.borrowings.rows.countP (fun loan =>
    loan.bookId == book.id && (loan.status == .overdue && loan.out))

/-- No more copies of any book are out than the library owns. -/
def Store.Covered (s : Store) : Prop :=
  ∀ book ∈ s.books.rows, (s.outCopies book : Int) ≤ book.totalCopies

instance (s : Store) : Decidable s.Covered :=
  inferInstanceAs (Decidable (∀ book ∈ s.books.rows, _))

/-- The request lowers no book's number of copies. -/
def KeepsCopies (platform : Platform) (s : Store) (call : Call) : Prop :=
  ∀ book ∈ s.books.rows, ∀ later ∈ (step platform s call).books.rows,
    later.id = book.id → book.totalCopies ≤ later.totalCopies

instance (platform : Platform) (s : Store) (call : Call)
    : Decidable (KeepsCopies platform s call) :=
  inferInstanceAs (Decidable (∀ book ∈ s.books.rows, _))

/-- Where the request is a borrowing that the validators let through, the copies they count
as available outnumber the overdue ones.
-/
def SparesOverdue (s : Store) (call : Call) : Prop :=
  ∀ lent ∈ call.lends s, (s.overdueCopies lent.2 : Int) < lent.2.availableCopies s

instance (s : Store) (call : Call) : Decidable (SparesOverdue s call) :=
  inferInstanceAs (Decidable (∀ lent ∈ call.lends s, _))

/-- The copies that are out are the active ones, which `available_copies` subtracts, and the
overdue ones, which it does not.
-/
theorem Store.Coherent.availableCopies {s : Store} (coherent : s.Coherent) (book : Book)
    : book.availableCopies s = book.totalCopies - s.outCopies book + s.overdueCopies book := by
  have split := coherent.countP_out (fun loan => loan.bookId == book.id)
  simp only [Book.availableCopies, Bool.and_assoc]
  unfold Borrowing.active at split
  rw [Store.outCopies, Store.overdueCopies]
  omega

/-- A request that lends nothing keeps every book covered, as long as it lowers no number
of copies. A book that was not there before has no loans.
-/
theorem Store.Covered.step_idle {platform : Platform} {call : Call} {s : Store}
    (covered : s.Covered) (consistent : s.Consistent) (keeps : KeepsCopies platform s call)
    (idle : call.lends s = none)
    : (step platform s call).Covered := by
  intro book member
  have bound : (step platform s call).outCopies book ≤ s.outCopies book := by
    refine (step_loanEffect platform s call).countP_le idle ?_ ?_
    · intro loan counted
      exact (Bool.and_eq_true_iff.mp counted).2
    · exact fun _ counted => counted
  by_cases known : ∃ before ∈ s.books.rows, before.id = book.id
  · obtain ⟨before, present, same⟩ := known
    have enough := keeps before present book member same.symm
    have fits : (s.outCopies book : Int) ≤ before.totalCopies := by
      simpa only [Store.outCopies, same] using covered before present
    omega
  · have none : s.outCopies book = 0 := by
      refine List.countP_eq_zero.mpr ?_
      intro loan present counted
      obtain ⟨before, there, lent⟩ := consistent.booksOfLoans loan present
      have same : loan.bookId = book.id := by simpa using (Bool.and_eq_true_iff.mp counted).1
      exact known ⟨before, there, lent.trans same⟩
    have owned := (step_consistent platform s call consistent).copies book member
    omega

/-- A borrowing keeps every book covered exactly when its book has a copy to spare beside
the overdue ones.
-/
theorem Store.Covered.step_lends_iff {call : Call} {s : Store} {user : User} {book : Book}
    (covered : s.Covered) (platform : Platform) (coherent : s.Coherent)
    (lent : call.lends s = some (user, book))
    : (step platform s call).Covered
      ↔ (s.overdueCopies book : Int) < book.availableCopies s := by
  obtain ⟨_, _, found, _⟩ := Call.lends_eq_some_iff.mp lent
  have counts (other : Book) : (step platform s call).outCopies other
      = s.outCopies other + if book.id = other.id then 1 else 0 := by
    unfold Store.outCopies
    rw [countP_lends lent]
    simp [Borrowing.out]
  have books : (step platform s call).books = s.books := by rw [step_lends lent]; rfl
  have spare := coherent.availableCopies book
  constructor
  · intro after
    have fits := after book (books ▸ found)
    rw [counts book, if_pos rfl] at fits
    omega
  · intro enough other member
    rw [books] at member
    have fits := covered other member
    rw [counts other]
    split
    · next same =>
      obtain rfl := s.books.eq_of_key_eq found member same
      omega
    · simpa using fits

/-- Never more copies out than owned, exactly along the runs in which every borrowing that
the validators let through leaves a copy for each overdue loan of its book.
-/
theorem reachedStores_covered_iff (platform : Platform) (database : Database)
    (empty : database.store.borrowings.rows = []) (calls : List Call)
    (keeps : EachStep (step platform) (KeepsCopies platform) database.store calls)
    : (∀ reached ∈ reachedStores platform database.store calls, reached.Covered)
      ↔ EachStep (step platform) SparesOverdue database.store calls := by
  have coveredAtFirst : database.store.Covered := by
    intro book member
    have owned := database.consistent.copies book member
    simpa [Store.outCopies, empty] using owned
  refine keeps.forall_states_iff (database.sound_of_empty empty) coveredAtFirst ?_ ?_
  · exact fun s call _ => step_sound platform s call
  · intro s call kept sound covered
    cases lends : call.lends s with
    | none =>
        have idle := covered.step_idle sound.consistent kept lends
        simp [idle, SparesOverdue, lends]
    | some lent =>
        have exactly' := covered.step_lends_iff platform sound.coherent lends
        simpa [SparesOverdue, lends] using exactly'

/-- The only copy is lent on day 0 and returned on day 20, after a sweep. -/
def Call.sampleReturn : List Call := [
  .onDay 0 (some 2) (.borrowings (.create 1)),
  .onDay 20 (some 1) (.dashboard .markOverdue),
  .onDay 20 (some 1) (.borrowings (.returnBook 1 (some "Worn cover"))),
  .onDay 21 (some 3) (.borrowings (.create 1))]

theorem reachedStores_covered_sample
    : Database.sample.store.borrowings.rows = []
      ∧ EachStep (step .ascii) (KeepsCopies .ascii) Database.sample.store Call.sampleReturn
      ∧ ∀ reached ∈ reachedStores .ascii Database.sample.store Call.sampleReturn,
          reached.Covered := by
  have keeps
      : EachStep (step .ascii) (KeepsCopies .ascii) Database.sample.store Call.sampleReturn := by
    decide
  exact ⟨rfl, keeps,
    (reachedStores_covered_iff .ascii Database.sample rfl Call.sampleReturn keeps).mpr (by decide)⟩

/-- The only copy is lent on day 0 and, once a sweep has marked it, lent again on day 20. -/
def Call.sampleRelend : List Call := [
  .onDay 0 (some 2) (.borrowings (.create 1)),
  .onDay 20 (some 1) (.dashboard .markOverdue),
  .onDay 20 (some 3) (.borrowings (.create 1))]

theorem relend_uncovered
    : Database.sample.store.borrowings.rows = []
      ∧ Call.sampleRelend.Pairwise (fun earlier later => earlier.env.today ≤ later.env.today)
      ∧ EachStep (step .ascii) (KeepsCopies .ascii) Database.sample.store Call.sampleRelend
      ∧ ¬∀ reached ∈ reachedStores .ascii Database.sample.store Call.sampleRelend,
          reached.Covered := by
  decide

end LibraryManagement
