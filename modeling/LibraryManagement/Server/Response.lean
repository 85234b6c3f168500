import LibraryManagement.Server.Schema

/-! What the controllers render: the JSON documents and the status of a response. -/

namespace LibraryManagement

inductive HttpStatus where
  | ok
  | created
  | noContent
  | found
  | seeOther
  | badRequest
  | unauthorized
  | forbidden
  | notFound
  | notAcceptable
  | unprocessableEntity
  | internalServerError
  deriving DecidableEq, Repr

def HttpStatus.code : HttpStatus → Nat
  | ok => 200
  | created => 201
  | noContent => 204
  | found => 302
  | seeOther => 303
  | badRequest => 400
  | unauthorized => 401
  | forbidden => 403
  | notFound => 404
  | notAcceptable => 406
  | unprocessableEntity => 422
  | internalServerError => 500

inductive Format where
  | json
  | html
  deriving DecidableEq, Repr

/-- A user as the controllers serve it; lists of borrowings leave out the role, and only the
members endpoints add the timestamps.
-/
structure UserRecord where
  id : Nat
  email : String
  firstName : Option String
  lastName : Option String
  role : Option Role := none
  createdAt : Option Int := none
  updatedAt : Option Int := none
  deriving DecidableEq, Repr

/-- A book as `GET /books` serves it. -/
structure BookRecord where
  id : Nat
  title : String
  author : String
  genre : String
  isbn : String
  totalCopies : Int
  canBorrow : Bool
  deriving DecidableEq, Repr

/-- A borrowing with the associations a list includes. -/
structure BorrowingItem where
  borrowing : Borrowing
  book : Option Book
  user : Option UserRecord := none
  deriving DecidableEq, Repr

/-- `only: [:id, :title]` -/
structure BookName where
  id : Nat
  title : String
  deriving DecidableEq, Repr

structure RecentBorrowing where
  borrowing : Borrowing
  book : Option BookName
  user : Option UserRecord
  deriving DecidableEq, Repr

structure TopBook where
  id : Nat
  title : String
  author : String
  genre : String
  borrowingsCount : Nat
  canBorrow : Bool
  deriving DecidableEq, Repr

structure LibrarianDashboard where
  totalBooks : Nat
  currentlyBorrowed : Nat
  dueToday : Nat
  overdueBooksCount : Nat
  topGenres : List (String × Nat)
  recentBorrowings : List RecentBorrowing
  deriving DecidableEq, Repr

structure MemberDashboard where
  currentBorrowings : List BorrowingItem
  history : List BorrowingItem
  topBooks : List TopBook
  overdueCount : Nat
  dueSoonCount : Nat
  deriving DecidableEq, Repr

/-- The JSON documents the controllers render. -/
inductive Body where
  | empty
  | html
  | error (message : String)
  | details (message : String) (fullMessages : List String)
  | errors (errors : List ModelError)
  | exception (name : String)
  | ok
  | user (user : Option UserRecord)
  | users (users : List UserRecord)
  | book (book : Book)
  | bookRecord (book : BookRecord)
  | books (books : List BookRecord)
  | borrowing (borrowing : Borrowing)
  | borrowings (items : List BorrowingItem)
  | markOverdue (message : String) (count : Nat)
  | librarianDashboard (data : LibrarianDashboard)
  | memberDashboard (data : MemberDashboard)
  deriving DecidableEq, Repr

structure Response where
  status : HttpStatus
  body : Body
  deriving DecidableEq, Repr

end LibraryManagement
