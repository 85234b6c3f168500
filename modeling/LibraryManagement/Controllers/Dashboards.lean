import LibraryManagement.Controllers.Http

/-! `app/controllers/dashboards_controller.rb` -/

namespace LibraryManagement

open Relational

/-- The routes of `namespace :dashboard`. -/
inductive DashboardRequest where
  | librarian
  | member
  | markOverdue
  deriving DecidableEq, Repr

namespace DashboardsController

/-- `where(due_date: today..(today + 3.days), status: :borrowed)` -/
def dueSoon (today : Int) (loan : Borrowing) : Bool :=
  loan.status == .borrowed && decide (today ≤ loan.dueDate ∧ loan.dueDate ≤ today + 3)

/-- `order(created_at: :desc).limit(count)` -/
def latest (env : Env) (count : Nat) (loans : List Borrowing) : List Borrowing :=
  (orderBy (fun first second => second.createdAt ≤ first.createdAt)
    (fun loan => env.tie loan.id) loans).take count

/-- `as_json(include: :book)` -/
def withBook (s : Store) (loan : Borrowing) : BorrowingItem where
  borrowing := loan
  book := s.books.find? loan.bookId

/-- `include: { book: { only: [:id, :title] }, user: {...} }` -/
def withBookAndUser (s : Store) (loan : Borrowing) : RecentBorrowing where
  borrowing := loan
  book := (s.books.find? loan.bookId).map (fun book => { id := book.id, title := book.title })
  user := (s.users.find? loan.userId).map nameJson

def librarian (env : Env) (s : Store) : LibrarianDashboard where
  totalBooks := s.books.rows.length
  currentlyBorrowed := s.borrowings.rows.countP (fun loan => loan.status == .borrowed)
  dueToday := s.borrowings.rows.countP (dueSoon env.today)
  overdueBooksCount := s.borrowings.rows.countP (fun loan => loan.status == .overdue)
  topGenres :=
    ((orderBy (fun first second => second.1.2 ≤ first.1.2) (fun row => env.tie row.2)
      (groupCount Book.genre s.books.rows).zipIdx).take 5).map Prod.fst
  recentBorrowings := (latest env 5 s.borrowings.rows).map (withBookAndUser s)

/-- The top books with the flag looked up in `can_borrow_map`. -/
def topBooks (env : Env) (currentUser : User) (s : Store) : List TopBook :=
  let topBooksRows := Book.topByBorrowings env s 5
  let canBorrowMap := ((Book.withCanBorrowFor s (some currentUser)).filter (fun row =>
    topBooksRows.any (fun top => top.1.id == row.1.id))).map (fun row => (row.1.id, row.2))
  topBooksRows.map (fun top => {
    id := top.1.id
    title := top.1.title
    author := top.1.author
    genre := top.1.genre
    borrowingsCount := top.2
    canBorrow :=
      ((canBorrowMap.find? (fun entry => entry.1 == top.1.id)).map Prod.snd).getD false })

def member (env : Env) (currentUser : User) (s : Store) : MemberDashboard :=
  let borrowings := s.borrowings.rows.filter (fun loan => loan.userId == currentUser.id)
  { currentBorrowings :=
      (orderBy (fun _ _ => True) (fun loan => env.tie loan.id)
        (borrowings.filter (fun loan => loan.status == .borrowed || loan.status == .overdue))).map
        (withBook s)
    history := (latest env 20 borrowings).map (withBook s)
    topBooks := topBooks env currentUser s
    overdueCount := borrowings.countP (fun loan => loan.status == .overdue)
    dueSoonCount := borrowings.countP (dueSoon env.today) }

def markOverdue (env : Env) (s : Store) : Outcome :=
  let result := OverdueService.markOverdueBooks env.today s
  (⟨.ok, .markOverdue
    ("Successfully marked " ++ toString result.count ++ " books as overdue") result.count⟩,
    result.store)

def handle (env : Env) (format : Format) (currentUser : Option User)
    (request : DashboardRequest) (s : Store)
    : Outcome :=
  authenticateUser format currentUser s (fun user =>
    match request with
    | .librarian =>
        if user.role ≠ .librarian then
          (forbidden, s)
        else
          (⟨.ok, .librarianDashboard (librarian env s)⟩, s)
    | .member =>
        if user.role ≠ .member then
          (forbidden, s)
        else
          (⟨.ok, .memberDashboard (member env user s)⟩, s)
    | .markOverdue =>
        if user.role ≠ .librarian then (forbidden, s) else markOverdue env s)

end DashboardsController
end LibraryManagement
