import LibraryManagement.Concurrency.Limits
import LibraryManagement.Server.SampleBorrowings

/-! What `db:seed_borrowings` leaves. It deletes all loans before it creates its own, outside of a
transaction, and the validators of a new loan see those that it created before.
-/

namespace LibraryManagement

open Relational Sampling

/-- Every `create!` was accepted, or the loans are those from before. -/
def SeedOutcome.AllOrNothing (outcome : SeedOutcome) (s : Store) : Prop :=
  outcome.completed ∨ outcome.store.borrowings.rows = s.borrowings.rows

instance (outcome : SeedOutcome) (s : Store) : Decidable (outcome.AllOrNothing s) :=
  inferInstanceAs (Decidable (_ ∨ _))

namespace SampleLoan

/-- `scope :active`, for a loan to create. -/
def active (loan : SampleLoan) : Bool :=
  loan.draft.status == some .borrowed && loan.draft.returnedAt.isNone

/-- After those drawn earlier, of which no active one is of the same member and book, and fewer
active ones are of the book than it has copies.
-/
def Fits (s : Store) (earlier : List SampleLoan) (loan : SampleLoan) : Prop :=
  (∀ other ∈ earlier, other.active
    → ¬(other.draft.userId = loan.draft.userId ∧ other.draft.bookId = loan.draft.bookId))
  ∧ ∀ book ∈ s.books.find? loan.draft.bookId,
      (earlier.countP (fun other => other.draft.bookId == loan.draft.bookId && other.active) : Int)
        < book.totalCopies

instance (s : Store) (earlier : List SampleLoan) (loan : SampleLoan)
    : Decidable (loan.Fits s earlier) :=
  inferInstanceAs (Decidable (_ ∧ ∀ book ∈ _, _))

/-- Each loan fits after those before it. -/
def FitInTurn (s : Store) : (earlier loans : List SampleLoan) → Prop
  | _, [] => True
  | earlier, loan :: loans => loan.Fits s earlier ∧ FitInTurn s (earlier ++ [loan]) loans

instance FitInTurn.decidable (s : Store)
    : ∀ earlier loans, Decidable (FitInTurn s earlier loans)
  | _, [] => isTrue trivial
  | earlier, loan :: loans =>
      have := FitInTurn.decidable s (earlier ++ [loan]) loans
      inferInstanceAs (Decidable (_ ∧ _))

-----------------------------------------------------------------------------------------
-- The loans that are drawn
-----------------------------------------------------------------------------------------

/-- A loan of one of the members for one of the books, with all its attributes given. -/
structure IsFor (users : List User) (books : List Book) (loan : SampleLoan) : Prop where
  user : ∃ user ∈ users, user.id = loan.draft.userId
  book : ∃ book ∈ books, book.id = loan.draft.bookId
  borrowedAt : loan.draft.borrowedAt.isSome
  dueDate : loan.draft.dueDate.isSome
  status : loan.draft.status.isSome

section Draws

variable {users : List User} {books : List Book} {user : User} {book : Book}

theorem create_isFor (known : user ∈ users) (found : book ∈ books) (borrowedAt dueDate : Int)
    (status : Status) (returnedAt : Option Int) (returnComment : Option String)
    : (create user book borrowedAt dueDate status returnedAt returnComment).Yields
        (IsFor users books) :=
  Draws.yields_bind (fun _ => Draws.yields_pure
    ⟨⟨user, known, rfl⟩, ⟨book, found, rfl⟩, rfl, rfl, rfl⟩)

variable (known : user ∈ users) (found : book ∈ books)

include known found

/-- Each scenario builds a loan of the user and the book that it is given, whichever is drawn. -/
theorem scenario_isFor : (scenario user book).Yields (IsFor users books) := by
  refine Draws.yields_bind (fun kind => ?_)
  split
  · refine Draws.yields_bind (fun _ => Draws.yields_bind (fun _ => ?_))
    exact create_isFor known found _ _ _ _ _
  · refine Draws.yields_bind (fun _ => Draws.yields_bind (fun _ => Draws.yields_bind (fun _ => ?_)))
    exact create_isFor known found _ _ _ _ _
  · exact Draws.yields_bind (fun _ => create_isFor known found _ _ _ _ _)
  · refine Draws.yields_bind (fun _ => Draws.yields_bind (fun _ => Draws.yields_bind (fun _ => ?_)))
    exact create_isFor known found _ _ _ _ _

theorem historical_isFor (monthAgo : Int)
    : (historical monthAgo user book).Yields (IsFor users books) := by
  refine Draws.yields_bind (fun days => Draws.yields_bind (fun now => ?_))
  split
  · refine Draws.yields_bind (fun chance => ?_)
    split
    · refine Draws.yields_bind (fun _ => Draws.yields_bind (fun _ => ?_))
      exact create_isFor known found _ _ _ _ _
    · exact create_isFor known found _ _ _ _ _
  · exact create_isFor known found _ _ _ _ _

theorem future_isFor (monthFromNow : Int)
    : (future monthFromNow user book).Yields (IsFor users books) :=
  Draws.yields_bind (fun _ => Draws.yields_bind (fun _ => create_isFor known found _ _ _ _ _))

theorem almostDue_isFor : (almostDue user book).Yields (IsFor users books) :=
  Draws.yields_bind (fun _ => Draws.yields_bind (fun _ => create_isFor known found _ _ _ _ _))

theorem pastDue_isFor (borrowedLow borrowedHigh dueLow dueHigh : Nat)
    : (pastDue borrowedLow borrowedHigh dueLow dueHigh user book).Yields (IsFor users books) :=
  Draws.yields_bind (fun _ => Draws.yields_bind (fun _ => create_isFor known found _ _ _ _ _))

end Draws

section Loops

variable {users : List User} {books : List Book}

/-- All loans of the first loop are of the users and the books that it goes through. -/
theorem ofUsers_isFor
    : (ofUsers users books).Yields (fun loans => ∀ loan ∈ loans, loan.IsFor users books) := by
  refine Draws.yields_flatten (fun user known => Draws.yields_bind (fun count => ?_))
  refine (Draws.yields_sampleMany count books).bind (fun sampled within => ?_)
  exact Draws.yields_mapM (fun book here => scenario_isFor known (within book here))

/-- So are those of sampled books, since a sample is of the books. -/
theorem ofSampled_isFor (nonempty : books ≠ []) (low high : Nat)
    {loan : User → Book → Draws SampleLoan}
    (each : ∀ user ∈ users, ∀ book ∈ books, (loan user book).Yields (IsFor users books))
    : (ofSampled users books nonempty low high loan).Yields
        (fun loans => ∀ loan ∈ loans, loan.IsFor users books) := by
  refine Draws.yields_bind (fun count => ?_)
  refine (Draws.yields_sampleMany count users).bind (fun sampled within => ?_)
  refine Draws.yields_mapM (fun user here => ?_)
  exact (Draws.yields_sample books nonempty).bind (each user (within user here))

/-- And those of the loops over months. -/
theorem ofMonths_isFor (nonempty : books ≠ []) (advance : Int → Int → Int) (months : List Int)
    (low high : Nat) {loan : Int → User → Book → Draws SampleLoan}
    (each
      : ∀ month, ∀ user ∈ users, ∀ book ∈ books, (loan month user book).Yields (IsFor users books))
    : (ofMonths users books nonempty advance months low high loan).Yields
        (fun loans => ∀ loan ∈ loans, loan.IsFor users books) := by
  refine Draws.yields_flatten (fun month _ => Draws.yields_bind (fun now => ?_))
  exact ofSampled_isFor nonempty low high (each (advance now month))

/-- The task creates loans of members for books only: so does each of its scenarios, whatever is
drawn.
-/
theorem all_isFor (nonempty : books ≠ []) (advance : Int → Int → Int)
    : (all users books nonempty advance).Yields
        (fun loans => ∀ loan ∈ loans, loan.IsFor users books) := by
  refine ofUsers_isFor.bind (fun each he => ?_)
  refine (ofMonths_isFor nonempty advance _ 2 4
    (fun month user known book found => historical_isFor known found month)).bind
      (fun past hp => ?_)
  refine (ofMonths_isFor nonempty advance _ 1 3
    (fun month user known book found => future_isFor known found month)).bind (fun next hn => ?_)
  refine (ofSampled_isFor nonempty 3 5
    (fun user known book found => almostDue_isFor known found)).bind (fun almost ha => ?_)
  refine (ofSampled_isFor nonempty 2 4
    (fun user known book found => pastDue_isFor known found 15 20 1 7)).bind
      (fun justPast hj => ?_)
  refine (ofSampled_isFor nonempty 2 3
    (fun user known book found => pastDue_isFor known found 25 35 7 28)).bind
      (fun longPast hl => ?_)
  refine Draws.yields_pure ?_
  simp only [List.forall_mem_append]
  exact ⟨⟨⟨⟨⟨he, hp⟩, hn⟩, ha⟩, hj⟩, hl⟩

end Loops

-----------------------------------------------------------------------------------------
-- The loans that are created
-----------------------------------------------------------------------------------------

/-- The loans of a database are those created so far, after all others were deleted. -/
structure CreatedFrom (s s' : Store) (earlier : List SampleLoan) : Prop where
  users : s'.users = s.users
  books : s'.books = s.books
  loans : s'.borrowings.rows.map (fun loan => (loan.userId, loan.bookId, loan.active))
    = earlier.map (fun loan => (loan.draft.userId, loan.draft.bookId, loan.active))

section Create

variable {s s' : Store} {earlier : List SampleLoan} {loan : SampleLoan}

/-- A condition on the columns that the validators read. -/
theorem CreatedFrom.countP (created : CreatedFrom s s' earlier) (p : Nat × Nat × Bool → Bool)
    : s'.borrowings.rows.countP (fun loan => p (loan.userId, loan.bookId, loan.active))
      = earlier.countP (fun loan => p (loan.draft.userId, loan.draft.bookId, loan.active)) := by
  have mapped := congrArg (List.countP p) created.loans
  rwa [List.countP_map, List.countP_map] at mapped

/-- The sample loans leave nothing to `set_defaults`: they name their dates and their status. -/
theorem setDefaults_eq {users : List User} {books : List Book} (isFor : loan.IsFor users books)
    : loan.draft.setDefaults loan.now = loan.draft := by
  obtain ⟨borrowedAt, given⟩ := Option.isSome_iff_exists.mp isFor.borrowedAt
  obtain ⟨dueDate, due⟩ := Option.isSome_iff_exists.mp isFor.dueDate
  obtain ⟨status, known⟩ := Option.isSome_iff_exists.mp isFor.status
  obtain ⟨draft, now⟩ := loan
  cases draft
  simp_all [Borrowing.Draft.setDefaults]

/-- The validators accept a loan exactly where it fits: what they count in the store are the loans
that have been created before.
-/
theorem CreatedFrom.errors_iff (created : CreatedFrom s s' earlier)
    (isFor : loan.IsFor s.users.rows s.books.rows)
    : loan.draft.errors s' = [] ↔ loan.Fits s earlier := by
  obtain ⟨user, known, userId⟩ := isFor.user
  obtain ⟨title, found, titleId⟩ := isFor.book
  have owner : s'.users.find? loan.draft.userId = some user :=
    (Table.find?_eq_some_iff _).mpr ⟨created.users ▸ known, userId⟩
  have item : s'.books.find? loan.draft.bookId = some title :=
    (Table.find?_eq_some_iff _).mpr ⟨created.books ▸ found, titleId⟩
  have valid : loan.draft.errors s' = []
      ↔ loan.draft.preventDuplicateActiveBorrowing s' = []
        ∧ loan.draft.copiesAvailableToBorrow s' = [] := by
    have present := isFor.borrowedAt
    have due := isFor.dueDate
    have status := isFor.status
    simp [Borrowing.Draft.errors, owner, item, Option.isNone_eq_false_iff.mpr present,
      Option.isNone_eq_false_iff.mpr due, Option.isNone_eq_false_iff.mpr status]
  rw [valid, Borrowing.Draft.preventDuplicate_eq_nil_iff,
    Borrowing.Draft.copiesAvailable_eq_nil_iff]
  refine and_congr ?_ ?_
  · have counted := created.countP (fun row =>
      (row.1 == loan.draft.userId && row.2.1 == loan.draft.bookId) && row.2.2)
    dsimp only at counted
    rw [Store.activeLoans, counted, List.countP_eq_zero]
    refine forall₂_congr (fun other _ => ?_)
    simp only [Bool.and_eq_true, beq_iff_eq]
    exact ⟨fun apart active same => apart ⟨same, active⟩,
      fun apart both => apart both.2 both.1⟩
  · have counted := created.countP (fun row => row.2.1 == loan.draft.bookId && row.2.2)
    dsimp only at counted
    rw [created.books]
    constructor
    · intro copies book here
      obtain ⟨member, same⟩ := (Table.find?_eq_some_iff _).mp here
      rw [← counted, ← show book.id = loan.draft.bookId from same]
      exact copies book member same
    · intro copies book member same
      have here := copies book ((Table.find?_eq_some_iff _).mpr ⟨member, same⟩)
      rw [← counted, ← same] at here
      exact here

/-- An accepted loan is the last. -/
theorem CreatedFrom.create (created : CreatedFrom s s' earlier)
    (isFor : loan.IsFor s.users.rows s.books.rows)
    : CreatedFrom s (loan.draft.insert loan.now s') (earlier ++ [loan]) where
  users := created.users
  books := created.books
  loans := by
    obtain ⟨status, known⟩ := Option.isSome_iff_exists.mp isFor.status
    simp only [Borrowing.Draft.insert, Table.insert, List.map_append, created.loans, List.map_cons,
      List.map_nil]
    simp [Borrowing.Draft.toRow, Borrowing.active, active, known]

/-- A loan that is valid when its turn comes is inserted, and the rest follows on the new store. -/
theorem createAll_accepted (loans : List SampleLoan) (isFor : loan.IsFor s.users.rows s.books.rows)
    (valid : loan.draft.errors s' = [])
    : createAll (loan :: loans) s' = createAll loans (loan.draft.insert loan.now s') := by
  simp only [createAll, Borrowing.Draft.create!, setDefaults_eq isFor, valid]

/-- The first loan that is not valid raises and ends the task. -/
theorem createAll_refused (loans : List SampleLoan) (isFor : loan.IsFor s.users.rows s.books.rows)
    (invalid : loan.draft.errors s' ≠ [])
    : createAll (loan :: loans) s' = ⟨false, s'⟩ := by
  simp only [createAll, Borrowing.Draft.create!, setDefaults_eq isFor]

end Create

/-- All calls are accepted exactly where each of the loans fits at its turn. -/
theorem createAll_completed_iff {s s' : Store} {earlier loans : List SampleLoan}
    (created : CreatedFrom s s' earlier)
    (each : ∀ loan ∈ loans, loan.IsFor s.users.rows s.books.rows)
    : (createAll loans s').completed ↔ FitInTurn s earlier loans := by
  induction loans generalizing s' earlier with
  | nil => exact iff_of_true rfl trivial
  | cons loan loans ih =>
      obtain ⟨isFor, later⟩ := List.forall_mem_cons.mp each
      have fits := created.errors_iff isFor
      by_cases valid : loan.draft.errors s' = []
      · rw [createAll_accepted loans isFor valid, ih (created.create isFor) later]
        exact (and_iff_right (fits.mp valid)).symm
      · rw [createAll_refused loans isFor valid]
        exact iff_of_false Bool.false_ne_true (fun inTurn => valid (fits.mpr inTurn.1))

/-- No call touches the loans that earlier ones created. -/
theorem createAll_keeps (loans : List SampleLoan) (s : Store)
    : s.borrowings.rows <+: (createAll loans s).store.borrowings.rows := by
  induction loans generalizing s with
  | nil => exact List.prefix_rfl
  | cons loan loans ih =>
      simp only [createAll, Borrowing.Draft.create!]
      cases (loan.draft.setDefaults loan.now).errors s with
      | nil =>
          let stored := (loan.draft.setDefaults loan.now).insert loan.now s
          have kept : s.borrowings.rows <+: stored.borrowings.rows := List.prefix_append _ _
          exact kept.trans (ih stored)
      | cons error errors => exact List.prefix_rfl

/-- The key of a new loan is one that no loan had before. -/
theorem createAll_insert_ne (s s' : Store)
    (sequence : s'.borrowings.nextKey = s.borrowings.nextKey) (loan : SampleLoan)
    (loans : List SampleLoan)
    : (createAll loans (loan.draft.insert loan.now s')).store.borrowings.rows
      ≠ s.borrowings.rows := by
  intro same
  let row := loan.draft.toRow loan.now s'.borrowings.nextKey
  have inserted : row ∈ (loan.draft.insert loan.now s').borrowings.rows :=
    List.mem_append_right _ (List.mem_singleton_self row)
  have old : row ∈ s.borrowings.rows := same ▸ (createAll_keeps loans _).subset inserted
  have bounded : s'.borrowings.nextKey < s.borrowings.nextKey := s.borrowings.bounded row old
  omega

end SampleLoan

-----------------------------------------------------------------------------------------
-- The task
-----------------------------------------------------------------------------------------

namespace SeedRun

variable (run : SeedRun) (s : Store)

/-- The task draws from the members and the books only, whatever the order in which they are loaded.
-/
theorem loans_isFor : ∀ loan ∈ run.loans s, loan.IsFor s.users.rows s.books.rows := by
  intro loan drawn
  unfold loans at drawn
  split at drawn
  · next nonempty =>
      have isFor := SampleLoan.all_isFor nonempty.2 run.advance run.source 0 loan drawn
      obtain ⟨user, known, userId⟩ := isFor.user
      obtain ⟨book, found, bookId⟩ := isFor.book
      exact {
        user := ⟨user, (List.mem_filter.mp (mem_orderBy.mp known)).1, userId⟩
        book := ⟨book, mem_orderBy.mp found, bookId⟩
        borrowedAt := isFor.borrowedAt
        dueDate := isFor.dueDate
        status := isFor.status }
  · exact absurd drawn List.not_mem_nil

theorem destroyAll_rows : (Borrowing.destroyAll s).borrowings.rows = [] := by
  simp [Borrowing.destroyAll, Table.delete]

/-- After `destroy_all` the loans are those of an empty list. -/
theorem destroyAll_createdFrom : SampleLoan.CreatedFrom s (Borrowing.destroyAll s) [] where
  users := rfl
  books := rfl
  loans := congrArg (List.map _) (destroyAll_rows s)

/-- Re-seeding is all or nothing exactly where every loan drawn fits after those drawn before it,
or where there was no loan to lose and the first one drawn, of a book without copies, is refused.
-/
theorem reseeding_allOrNothing_iff
    : (run.seedBorrowings s).AllOrNothing s
        ↔ SampleLoan.FitInTurn s [] (run.loans s)
          ∨ s.borrowings.rows = [] ∧ ∃ first ∈ (run.loans s).head?, ¬first.Fits s [] := by
  have each := run.loans_isFor s
  have created := destroyAll_createdFrom s
  rw [seedBorrowings]
  split
  · next empty =>
      have none : run.loans s = [] := by
        refine dif_neg (fun nonempty => ?_)
        rcases Bool.or_eq_true_iff.mp empty with users | books
        · exact nonempty.1 (List.isEmpty_iff.mp users)
        · exact nonempty.2 (List.isEmpty_iff.mp books)
      rw [none]
      exact iff_of_true (Or.inr rfl) (Or.inl trivial)
  · cases drawn : run.loans s with
    | nil => exact iff_of_true (Or.inl rfl) (Or.inl trivial)
    | cons first loans =>
        rw [drawn] at each
        refine or_congr (SampleLoan.createAll_completed_iff created each) ?_
        have isFor := each first List.mem_cons_self
        have fits := created.errors_iff isFor
        by_cases valid : first.draft.errors (Borrowing.destroyAll s) = []
        · rw [SampleLoan.createAll_accepted loans isFor valid]
          refine iff_of_false
            (SampleLoan.createAll_insert_ne s (Borrowing.destroyAll s) rfl first loans) ?_
          rintro ⟨-, loan, here, unfit⟩
          obtain rfl : first = loan := Option.some.inj here
          exact unfit (fits.mp valid)
        · rw [SampleLoan.createAll_refused loans isFor valid]
          have refused : ∃ loan ∈ (first :: loans).head?, ¬loan.Fits s [] :=
            ⟨first, rfl, fun fit => valid (fits.mpr fit)⟩
          rw [and_iff_left refused, destroyAll_rows, eq_comm]

/-- A run on the first day at noon whose draws are all the lowest. -/
def sample : SeedRun where
  source := { draw := fun _ => 0, clock := fun position => microsecondsPerDay / 2 + position }
  tie := id
  advance := fun now month =>
    let days :=
      [(-6, -184), (-5, -153), (-4, -122), (-3, -92), (-2, -61), (-1, -31), (1, 31), (2, 59)]
    daysFromNow ((days.lookup month).getD 0) now

/-- Two members draw the book of which there is one copy: the task raises at the second of them, and
the loan that was there before is gone.
-/
theorem reseeding_loses_loan
    : let s := step .ascii Database.sample.store (.onDay 0 (some 2) (.borrowings (.create 1)))
      (sample.users s).length = 2 ∧ (sample.books s).length = 1 ∧ s.borrowings.rows.length = 1
      ∧ ¬(sample.seedBorrowings s).AllOrNothing s := by
  decide

end SeedRun
end LibraryManagement
