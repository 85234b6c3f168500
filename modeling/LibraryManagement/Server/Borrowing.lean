import LibraryManagement.Server.Book
import LibraryManagement.Server.User

/-! `app/models/borrowing.rb` -/

namespace LibraryManagement

open Relational

/-- A borrowing record in memory, before it is saved for the first time. -/
structure Borrowing.Draft where
  userId : Nat
  bookId : Nat
  borrowedAt : Option Int := none
  dueDate : Option Int := none
  returnedAt : Option Int := none
  status : Option Status := Status.ofColumn borrowingsStatusDefault
  returnComment : Option String := none
  deriving DecidableEq, Repr

namespace Borrowing

/-- `scope :active` -/
def active (loan : Borrowing) : Bool := loan.status == .borrowed && loan.returnedAt.isNone

/-- `scope :text_search`, for one loan: its book and its user are looked into. -/
def textSearch (platform : Platform) (query : String) (s : Store) (loan : Borrowing) : Bool :=
  if blank query then
    true
  else
    let pattern := "%".toList ++ (strip query).toList ++ "%".toList
    let ilike := fun column : Option String =>
      column.any (fun text => like platform.fold pattern text.toList)
    let book := s.books.find? loan.bookId
    let user := s.users.find? loan.userId
    ilike (book.map Book.title) || ilike (book.map Book.author)
      || ilike (user.map User.email) || ilike (user.bind User.firstName)
      || ilike (user.bind User.lastName)

/-- The query that `text_search` builds: the joined rows that match, of which it selects the
loans.
-/
def textSearchJoin (platform : Platform) (query : String) (s : Store) (loans : List Borrowing)
    : List Borrowing :=
  if blank query then
    loans
  else
    let pattern := "%".toList ++ (strip query).toList ++ "%".toList
    let ilike := fun column : Option String =>
      column.any (fun text => like platform.fold pattern text.toList)
    let joined :=
      leftJoin (fun row user => user.id == row.1.userId)
        (leftJoin (fun loan book => book.id == loan.bookId) loans s.books.rows)
        s.users.rows
    (joined.filter (fun row =>
      ilike (row.1.2.map Book.title) || ilike (row.1.2.map Book.author)
        || ilike (row.2.map User.email) || ilike (row.2.bind User.firstName)
        || ilike (row.2.bind User.lastName))).map (fun row => row.1.1)

/-- The attributes `return!` assigns to the loaded record. -/
def assignReturn (now : Int) (comment : Option String) (loan : Borrowing) : Borrowing :=
  { loan with
    status := .returned
    returnedAt := some now
    returnComment := presence comment }

/-- One column under dirty tracking: written when it differs from the loaded copy. -/
def dirtyColumn [DecidableEq α] (loaded assigned current : α) : α :=
  if assigned = loaded then current else assigned

/-- `UPDATE borrowings SET <changed columns> WHERE id = ...` of a record that was loaded as
`loaded` and assigned to `assigned`, on the row that is `current` by then. The timestamp
moves when another column does.
-/
def saveChanges (now : Int) (loaded assigned current : Borrowing) : Borrowing :=
  if assigned = loaded then
    current
  else
    { current with
      userId := dirtyColumn loaded.userId assigned.userId current.userId
      bookId := dirtyColumn loaded.bookId assigned.bookId current.bookId
      borrowedAt := dirtyColumn loaded.borrowedAt assigned.borrowedAt current.borrowedAt
      dueDate := dirtyColumn loaded.dueDate assigned.dueDate current.dueDate
      returnedAt := dirtyColumn loaded.returnedAt assigned.returnedAt current.returnedAt
      status := dirtyColumn loaded.status assigned.status current.status
      returnComment :=
        dirtyColumn loaded.returnComment assigned.returnComment current.returnComment
      updatedAt := now }

@[simp] theorem saveChanges_id (now : Int) (loaded assigned current : Borrowing)
    : (saveChanges now loaded assigned current).id = current.id := by
  rw [saveChanges]
  split <;> rfl

/-- The `save` at the end of `return!`, for a copy loaded earlier. -/
def saveReturn (now : Int) (comment : Option String) (loaded : Borrowing) (s : Store) : Store :=
  { s with
    borrowings := s.borrowings.update (fun row => row.id == loaded.id)
      ⟨saveChanges now loaded (loaded.assignReturn now comment),
        saveChanges_id now loaded (loaded.assignReturn now comment)⟩ }

/-- `return!(comment:)` on a record that was loaded from the same store. -/
def return! (now : Int) (comment : Option String) (loan : Borrowing) (s : Store)
    : Borrowing × Store :=
  (saveChanges now loan (loan.assignReturn now comment) loan, saveReturn now comment loan s)

namespace Draft

/-- `before_validation :set_defaults, on: :create` -/
def setDefaults (now : Int) (draft : Draft) : Draft :=
  { draft with
    borrowedAt := draft.borrowedAt.or (some now)
    dueDate := draft.dueDate.or (some (toDate (daysFromNow 14 now)))
    status := draft.status.or (some .borrowed) }

/-- `validate :prevent_duplicate_active_borrowing, on: :create` -/
def preventDuplicateActiveBorrowing (s : Store) (draft : Draft) : List ModelError :=
  if s.borrowings.rows.any (fun loan =>
      loan.userId == draft.userId && loan.bookId == draft.bookId && loan.active) then
    [⟨"base", "User already has an active borrowing for this book"⟩]
  else
    []

/-- `validate :copies_available_to_borrow, on: :create` -/
def copiesAvailableToBorrow (s : Store) (draft : Draft) : List ModelError :=
  match s.books.find? draft.bookId with
  | none => []
  | some book =>
      if book.availableCopies s ≤ 0 then
        [⟨"base", "No available copies for this book"⟩]
      else
        []

/-- All validations of a new record, in the order in which the model declares them. -/
def errors (s : Store) (draft : Draft) : List ModelError :=
  (if (s.users.find? draft.userId).isNone then [⟨"user", "must exist"⟩] else [])
  ++ (if (s.books.find? draft.bookId).isNone then [⟨"book", "must exist"⟩] else [])
  ++ (if draft.borrowedAt.isNone then [⟨"borrowed_at", "can't be blank"⟩] else [])
  ++ (if draft.dueDate.isNone then [⟨"due_date", "can't be blank"⟩] else [])
  ++ (if draft.status.isNone then [⟨"status", "can't be blank"⟩] else [])
  ++ draft.preventDuplicateActiveBorrowing s
  ++ draft.copiesAvailableToBorrow s

def toRow (now : Int) (draft : Draft) (id : Nat) : Borrowing where
  id := id
  userId := draft.userId
  bookId := draft.bookId
  borrowedAt := draft.borrowedAt.getD now
  dueDate := draft.dueDate.getD (toDate now)
  returnedAt := draft.returnedAt
  status := draft.status.getD .borrowed
  createdAt := now
  updatedAt := now
  returnComment := draft.returnComment

def insert (now : Int) (draft : Draft) (s : Store) : Store :=
  { s with borrowings := s.borrowings.insert ⟨draft.toRow now, fun _ => rfl⟩ }

/-- `Borrowing.create!` -/
def create! (now : Int) (s : Store) (draft : Draft) : Saved (Borrowing × Store) :=
  let draft := draft.setDefaults now
  match draft.errors s with
  | [] => .stored (draft.toRow now s.borrowings.nextKey, draft.insert now s)
  | errors => .invalid errors

end Draft
end Borrowing
end LibraryManagement
