import LibraryManagement.Lending.Consistency
import LibraryManagement.Relational.History

/-! What requests do to the loans. Three kinds of requests write them (a borrowing, a
return and a sweep), others at most delete loans with their book or their owner.
-/

namespace LibraryManagement

open Relational

/-- Not returned yet, whatever the status says. -/
def Borrowing.out (loan : Borrowing) : Bool := loan.returnedAt.isNone

/-- The validators of `POST /borrowings` have no objection. -/
def Store.mayBorrow (s : Store) (user : User) (book : Book) : Bool :=
  !s.borrowings.rows.any (fun loan =>
    loan.userId == user.id && loan.bookId == book.id && loan.active)
  && decide (0 < book.availableCopies s)

/-- The user and the book of a `POST /borrowings` that the validators let through. -/
def Call.lends (call : Call) (s : Store) : Option (User × Book) :=
  match call.request, call.currentUser s with
  | .borrowings (.create bookId), some user =>
      ((s.books.find? bookId).filter (s.mayBorrow user)).map (fun book => (user, book))
  | _, _ => none

/-- The row and the comment of a librarian's `POST /borrowings/:id/return_book`. -/
def Call.returns (call : Call) (s : Store) : Option (Borrowing × Option String) :=
  match call.request, (call.currentUser s).filter User.isLibrarian with
  | .borrowings (.returnBook id comment), some _ =>
      (s.borrowings.find? id).map (fun loan => (loan, comment))
  | _, _ => none

/-- A librarian's `POST /dashboard/mark_overdue`. -/
def Call.sweeps (call : Call) (s : Store) : Bool :=
  call.request == .dashboard .markOverdue && (call.currentUser s).any User.isLibrarian

-----------------------------------------------------------------------------------------
-- The row of a new loan
-----------------------------------------------------------------------------------------

section NewLoan

variable (validated now : Int) (user : User) (book : Book) (id : Nat)

@[simp] theorem Borrowing.requested_userId
    : ((Borrowing.requested validated user book).toRow now id).userId = user.id := rfl

@[simp] theorem Borrowing.requested_bookId
    : ((Borrowing.requested validated user book).toRow now id).bookId = book.id := rfl

@[simp] theorem Borrowing.requested_returnedAt
    : ((Borrowing.requested validated user book).toRow now id).returnedAt = none := rfl

@[simp] theorem Borrowing.requested_status
    : ((Borrowing.requested validated user book).toRow now id).status = .borrowed := rfl

/-- A new loan is due on the fourteenth day after its own. -/
theorem Borrowing.requested_dueDate
    : ((Borrowing.requested validated user book).toRow now id).dueDate = toDate validated + 14 :=
  toDate_daysFromNow 14 validated

end NewLoan

-----------------------------------------------------------------------------------------
-- The validators
-----------------------------------------------------------------------------------------

/-- A request of a known user for a known book is valid exactly when the two validators
pass; its defaults are always present.
-/
theorem Borrowing.requested_errors_eq_nil_iff {s : Store} {now : Int} {user : User}
    {book : Book} (known : user ∈ s.users.rows) (found : book ∈ s.books.rows)
    : (Borrowing.requested now user book).errors s = [] ↔ s.mayBorrow user book := by
  have owner : s.users.find? user.id = some user := s.users.find?_of_mem known
  have item : s.books.find? book.id = some book := s.books.find?_of_mem found
  simp only [Draft.errors, requested, Draft.setDefaults, Draft.preventDuplicateActiveBorrowing,
    Draft.copiesAvailableToBorrow, owner, item, Store.mayBorrow, List.append_eq_nil_iff]
  by_cases duplicate : s.borrowings.rows.any (fun loan =>
      loan.userId == user.id && loan.bookId == book.id && loan.active) <;>
    by_cases available : 0 < book.availableCopies s <;>
    simp [duplicate, available, Status.ofColumn, borrowingsStatusDefault]

/-- A request lends exactly where a signed-in user asks for a stored book that the two validators
let go.
-/
theorem Call.lends_eq_some_iff {call : Call} {s : Store} {user : User} {book : Book}
    : call.lends s = some (user, book)
      ↔ call.currentUser s = some user ∧ call.request = .borrowings (.create book.id)
        ∧ book ∈ s.books.rows ∧ s.mayBorrow user book := by
  constructor
  · intro lent
    unfold lends at lent
    split at lent
    · next bookId caller requested signedIn =>
      obtain ⟨row, filtered, same⟩ := Option.map_eq_some_iff.mp lent
      obtain ⟨rfl, rfl⟩ := Prod.mk.inj same
      obtain ⟨here, allowed⟩ := Option.filter_eq_some_iff.mp filtered
      obtain ⟨found, rfl⟩ := (s.books.find?_eq_some_iff).mp here
      exact ⟨signedIn, requested, found, allowed⟩
    · contradiction
  · rintro ⟨signedIn, requested, found, allowed⟩
    have here : s.books.find? book.id = some book := s.books.find?_of_mem found
    simp [lends, signedIn, requested, here, allowed]

/-- A request returns a loan exactly where a librarian names a stored one, whatever its status. -/
theorem Call.returns_eq_some_iff {call : Call} {s : Store} {loan : Borrowing}
    {comment : Option String}
    : call.returns s = some (loan, comment)
      ↔ (∃ user, call.currentUser s = some user ∧ user.role = .librarian)
        ∧ call.request = .borrowings (.returnBook loan.id comment)
        ∧ loan ∈ s.borrowings.rows := by
  constructor
  · intro returned
    unfold returns at returned
    split at returned
    · next id given user requested caller =>
      obtain ⟨signedIn, librarian⟩ := Option.filter_eq_some_iff.mp caller
      obtain ⟨row, here, same⟩ := Option.map_eq_some_iff.mp returned
      obtain ⟨rfl, rfl⟩ := Prod.mk.inj same
      obtain ⟨found, rfl⟩ := (s.borrowings.find?_eq_some_iff).mp here
      exact ⟨⟨user, signedIn, by simpa [User.isLibrarian] using librarian⟩, requested, found⟩
    · contradiction
  · rintro ⟨⟨user, signedIn, librarian⟩, requested, found⟩
    have here : s.borrowings.find? loan.id = some loan := s.borrowings.find?_of_mem found
    simp [returns, signedIn, requested, librarian, User.isLibrarian, here, Option.filter]

/-- A request sweeps exactly where a librarian asks for it. -/
theorem Call.sweeps_iff {call : Call} {s : Store}
    : call.sweeps s
      ↔ (∃ user, call.currentUser s = some user ∧ user.role = .librarian)
        ∧ call.request = .dashboard .markOverdue := by
  simp [sweeps, User.isLibrarian, Option.any_eq_true, and_comm]

-----------------------------------------------------------------------------------------
-- The loans after a request
-----------------------------------------------------------------------------------------

inductive LoanEffect (call : Call) (s : Store) : Table Borrowing → Prop
  | kept (lends : call.lends s = none) (returns : call.returns s = none)
    (sweeps : call.sweeps s = false)
    : LoanEffect call s s.borrowings
  | deleted (selected : Borrowing → Bool) (lends : call.lends s = none)
    (returns : call.returns s = none) (sweeps : call.sweeps s = false)
    : LoanEffect call s (s.borrowings.delete selected)
  | lent {user book} (lends : call.lends s = some (user, book))
    : LoanEffect call s
        ((Borrowing.requested call.env.now user book).insert call.env.now s).borrowings
  | returned {loan comment} (returns : call.returns s = some (loan, comment))
    (lends : call.lends s = none)
    : LoanEffect call s (loan.saveReturn call.env.now comment s).borrowings
  | swept (sweeps : call.sweeps s) (lends : call.lends s = none)
    (returns : call.returns s = none)
    : LoanEffect call s (OverdueService.updateAll call.env.today s).borrowings

/-- A borrowing that the validators let through is answered with the new row. -/
theorem perform_lends {platform : Platform} {call : Call} {s : Store} {user : User}
    {book : Book} (lent : call.lends s = some (user, book))
    : perform platform s call
      = (⟨.created, .borrowing
          ((Borrowing.requested call.env.now user book).toRow call.env.now s.borrowings.nextKey)⟩,
        (Borrowing.requested call.env.now user book).insert call.env.now s) := by
  obtain ⟨signedIn, requested, found, allowed⟩ := Call.lends_eq_some_iff.mp lent
  have item : s.books.find? book.id = some book := s.books.find?_of_mem found
  have valid : (Borrowing.requested call.env.now user book).errors s = [] :=
    (Borrowing.requested_errors_eq_nil_iff (Call.mem_of_currentUser signedIn) found).mpr allowed
  unfold Borrowing.requested at valid
  simp [perform, requested, signedIn, BorrowingsController.handle, authenticateUser, item,
    setRecord, BorrowingsController.create, Borrowing.Draft.create!, valid, Borrowing.requested]

/-- What a lending request leaves is the inserted loan, by the spec of what it does to loans. -/
theorem step_lends {platform : Platform} {call : Call} {s : Store} {user : User} {book : Book}
    (lent : call.lends s = some (user, book))
    : step platform s call
      = (Borrowing.requested call.env.now user book).insert call.env.now s :=
  congrArg Prod.snd (perform_lends lent)

/-- A borrowing that they refuse is answered with their messages and changes nothing: `create!`
raises before it writes.
-/
theorem perform_refused {platform : Platform} {call : Call} {s : Store} {user : User}
    {book : Book} (signedIn : call.currentUser s = some user)
    (requested : call.request = .borrowings (.create book.id)) (found : book ∈ s.books.rows)
    (refused : s.mayBorrow user book = false)
    : perform platform s call
      = (recordInvalid ((Borrowing.requested call.env.now user book).errors s), s) := by
  have item : s.books.find? book.id = some book := s.books.find?_of_mem found
  have invalid : (Borrowing.requested call.env.now user book).errors s ≠ [] := by
    intro valid
    have allowed := (Borrowing.requested_errors_eq_nil_iff
      (Call.mem_of_currentUser signedIn) found).mp valid
    simp [refused] at allowed
  have saved : Borrowing.Draft.create! call.env.now s { userId := user.id, bookId := book.id }
      = .invalid ((Borrowing.requested call.env.now user book).errors s) := by
    unfold Borrowing.Draft.create!
    dsimp only
    split
    · next valid => exact absurd valid invalid
    · rfl
  simp [perform, requested, signedIn, BorrowingsController.handle, authenticateUser, item,
    setRecord, BorrowingsController.create, saved]

/-- A librarian's return of an existing loan is answered with the saved row. -/
theorem perform_returns {platform : Platform} {call : Call} {s : Store} {loan : Borrowing}
    {comment : Option String} (returned : call.returns s = some (loan, comment))
    : perform platform s call
      = (⟨.ok, .borrowing (Borrowing.saveChanges call.env.now loan
          (loan.assignReturn call.env.now comment) loan)⟩,
        loan.saveReturn call.env.now comment s) := by
  obtain ⟨⟨user, signedIn, librarian⟩, requested, found⟩ := Call.returns_eq_some_iff.mp returned
  have here : s.borrowings.find? loan.id = some loan := s.borrowings.find?_of_mem found
  simp [perform, requested, signedIn, BorrowingsController.handle, authenticateUser, here,
    setRecord, BorrowingsController.returnBook, librarian, Borrowing.return!]

/-- What a return leaves is the saved return. -/
theorem step_returns {platform : Platform} {call : Call} {s : Store} {loan : Borrowing}
    {comment : Option String} (returned : call.returns s = some (loan, comment))
    : step platform s call = loan.saveReturn call.env.now comment s :=
  congrArg Prod.snd (perform_returns returned)

/-- What the sweep leaves are the marked loans: its notifications write nothing. -/
theorem step_sweeps {platform : Platform} {call : Call} {s : Store} (sweeping : call.sweeps s)
    : step platform s call = OverdueService.updateAll call.env.today s := by
  obtain ⟨⟨user, signedIn, librarian⟩, requested⟩ := Call.sweeps_iff.mp sweeping
  simp [step, perform, requested, signedIn, DashboardsController.handle, authenticateUser,
    librarian, DashboardsController.markOverdue, OverdueService.markOverdueBooks_store]

/-- Every request has one of the effects on the loans: it lends, returns or sweeps, and otherwise at
most deletes some.
-/
theorem step_loanEffect (platform : Platform) (s : Store) (call : Call)
    : LoanEffect call s (step platform s call).borrowings := by
  cases lends : call.lends s with
  | some lent =>
      rw [step_lends lends]
      exact .lent lends
  | none =>
      cases returns : call.returns s with
      | some returned =>
          rw [step_returns returns]
          exact .returned returns lends
      | none =>
          cases sweeps : call.sweeps s with
          | true =>
              rw [step_sweeps sweeps]
              exact .swept sweeps lends returns
          | false =>
              have effect := step_effect platform s call
              generalize step platform s call = s' at effect
              cases effect with
              | borrow signedIn requested found valid =>
                  have allowed := (Borrowing.requested_errors_eq_nil_iff
                    (Call.mem_of_currentUser signedIn) found).mp valid
                  simp [Call.lends_eq_some_iff.mpr ⟨signedIn, requested, found, allowed⟩] at lends
              | returnBook signedIn librarian requested found =>
                  simp [Call.returns_eq_some_iff.mpr
                    ⟨⟨_, signedIn, librarian⟩, requested, found⟩] at returns
              | markOverdue signedIn librarian requested =>
                  simp [Call.sweeps_iff.mpr ⟨⟨_, signedIn, librarian⟩, requested⟩] at sweeps
              | destroyBook => exact .deleted _ lends returns sweeps
              | destroyUser => exact .deleted _ lends returns sweeps
              | writeDevise =>
                  rw [Store.writeDeviseColumns]
                  split <;> exact .kept lends returns sweeps
              | unchanged | createBook | updateBook | createMember | register | updateUser
              | forgetMe => exact .kept lends returns sweeps

-----------------------------------------------------------------------------------------
-- Rows of a return and row counts
-----------------------------------------------------------------------------------------

@[simp] theorem Borrowing.dirtyColumn_self [DecidableEq α] (loaded assigned : α)
    : dirtyColumn loaded assigned loaded = assigned := by
  rw [dirtyColumn]
  split
  · next same => exact same.symm
  · rfl

/-- A record that is saved onto the row it was loaded from gets the assigned columns. -/
theorem Borrowing.saveChanges_self (now : Int) (comment : Option String) (loan : Borrowing)
    : let saved := saveChanges now loan (loan.assignReturn now comment) loan
      saved.status = .returned ∧ saved.returnedAt = some now
        ∧ saved.returnComment = presence comment ∧ saved.dueDate = loan.dueDate := by
  simp only [saveChanges]
  split
  · next same =>
    refine ⟨?_, ?_, ?_, rfl⟩
    · exact (congrArg Borrowing.status same).symm
    · exact (congrArg Borrowing.returnedAt same).symm
    · exact (congrArg Borrowing.returnComment same).symm
  · simp [assignReturn]

/-- A return replaces the row it was called on and no other. -/
theorem Borrowing.saveReturn_rows {s : Store} {loan : Borrowing} (now : Int)
    (comment : Option String) (found : loan ∈ s.borrowings.rows)
    : (loan.saveReturn now comment s).borrowings.rows
      = s.borrowings.rows.map (fun row =>
          if row = loan then saveChanges now loan (loan.assignReturn now comment) loan
          else row) := by
  refine List.map_congr_left ?_
  intro row member
  by_cases same : row = loan
  · simp [same]
  · have different : row.id ≠ loan.id := fun ids =>
      same (s.borrowings.eq_of_key_eq member found ids)
    simp [same, different]

/-- The saved return is the row of the loan: on the row that was loaded, all assigned columns are
written.
-/
theorem Borrowing.mem_saveReturn {s : Store} {loan : Borrowing} (now : Int)
    (comment : Option String) (found : loan ∈ s.borrowings.rows)
    : saveChanges now loan (loan.assignReturn now comment) loan
      ∈ (loan.saveReturn now comment s).borrowings.rows := by
  rw [saveReturn_rows now comment found]
  exact List.mem_map.mpr ⟨loan, found, if_pos rfl⟩

/-- Without a borrowing, no more loans satisfy a condition that only loans which are out
satisfy, unless marking them overdue makes them do so.
-/
theorem LoanEffect.countP_le {call : Call} {s : Store} {loans : Table Borrowing}
    (effect : LoanEffect call s loans) (idle : call.lends s = none) {p : Borrowing → Bool}
    (isOut : ∀ loan, p loan → loan.out)
    (marked : ∀ loan : Borrowing, p { loan with status := .overdue } → p loan)
    : loans.rows.countP p ≤ s.borrowings.rows.countP p := by
  cases effect with
  | kept => exact Nat.le_refl _
  | deleted selected => exact s.borrowings.countP_delete_le selected p
  | lent lends => simp [lends] at idle
  | @returned loan comment returns =>
      obtain ⟨_, _, found⟩ := Call.returns_eq_some_iff.mp returns
      refine s.borrowings.countP_update_le ?_
      intro row member chosen satisfied
      obtain rfl := s.borrowings.eq_of_key_eq member found (beq_iff_eq.mp chosen)
      have closed := (Borrowing.saveChanges_self call.env.now comment row).2.1
      have stillOut := isOut _ satisfied
      simp [Borrowing.out, closed] at stillOut
  | swept => exact s.borrowings.countP_update_le (fun loan _ _ => marked loan)

/-- A condition on single loans that fresh loans meet and that returns and sweeps keep holds
of all loans afterwards.
-/
theorem LoanEffect.forall_rows {call : Call} {s : Store} {loans : Table Borrowing}
    {q : Borrowing → Prop} (effect : LoanEffect call s loans)
    (before : ∀ loan ∈ s.borrowings.rows, q loan)
    (fresh : ∀ user book, call.lends s = some (user, book)
      → q ((Borrowing.requested call.env.now user book).toRow call.env.now s.borrowings.nextKey))
    (returned : ∀ loan comment, q loan
      → q (Borrowing.saveChanges call.env.now loan (loan.assignReturn call.env.now comment) loan))
    (swept : ∀ loan ∈ s.borrowings.rows, call.sweeps s
      → OverdueService.overdueBorrowings call.env.today loan
      → q loan → q { loan with status := .overdue })
    : ∀ loan ∈ loans.rows, q loan := by
  cases effect with
  | kept => exact before
  | deleted selected =>
      intro loan member
      exact before loan ((s.borrowings.mem_delete).mp member).1
  | lent lends =>
      intro loan member
      rcases (s.borrowings.mem_insert).mp member with old | rfl
      · exact before loan old
      · exact fresh _ _ lends
  | @returned chosen comment returns =>
      obtain ⟨_, _, found⟩ := Call.returns_eq_some_iff.mp returns
      rw [Borrowing.saveReturn_rows call.env.now comment found]
      intro loan member
      obtain ⟨old, present, rfl⟩ := List.mem_map.mp member
      split
      · exact returned chosen comment (before chosen found)
      · exact before old present
  | swept sweeps =>
      intro loan member
      obtain ⟨old, present, rfl⟩ := (s.borrowings.mem_update).mp member
      split
      · next selected => exact swept old present sweeps selected (before old present)
      · exact before old present

/-- Later rows descend from earlier ones by a relation that returns and sweeps respect; new rows
have no earlier one.
-/
theorem LoanEffect.follows {call : Call} {s : Store} {loans : Table Borrowing}
    {related : Borrowing → Borrowing → Prop} (effect : LoanEffect call s loans)
    (reflexive : ∀ loan, related loan loan)
    (returned : ∀ loan comment, call.returns s = some (loan, comment)
      → related loan
          (Borrowing.saveChanges call.env.now loan (loan.assignReturn call.env.now comment) loan))
    (swept : ∀ loan, OverdueService.overdueBorrowings call.env.today loan
      → related loan { loan with status := .overdue })
    : Table.Follows related s.borrowings loans := by
  cases effect with
  | kept => exact .refl reflexive _
  | deleted selected => exact Table.follows_delete reflexive _ selected
  | lent => exact Table.follows_insert reflexive _ _
  | @returned loan comment returns =>
      obtain ⟨_, _, found⟩ := Call.returns_eq_some_iff.mp returns
      refine Table.follows_update reflexive _ ?_
      intro row member chosen
      obtain rfl := s.borrowings.eq_of_key_eq member found (beq_iff_eq.mp chosen)
      exact returned row comment returns
  | swept => exact Table.follows_update reflexive _ (fun row _ selected => swept row selected)

/-- A borrowing adds one loan to every count it belongs to. -/
theorem countP_lends {platform : Platform} {call : Call} {s : Store} {user : User}
    {book : Book} (lent : call.lends s = some (user, book)) (p : Borrowing → Bool)
    : (step platform s call).borrowings.rows.countP p
      = s.borrowings.rows.countP p
        + if p ((Borrowing.requested call.env.now user book).toRow call.env.now
            s.borrowings.nextKey) then 1 else 0 := by
  rw [step_lends lent]
  exact s.borrowings.countP_insert _ p

end LibraryManagement
