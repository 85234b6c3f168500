import LibraryManagement.Controllers.Http

/-! `app/controllers/books_controller.rb` -/

namespace LibraryManagement

open Relational

/-- What `book_params` permits. -/
structure BookParams where
  title : Param String := .absent
  author : Param String := .absent
  genre : Param String := .absent
  isbn : Param String := .absent
  totalCopies : Option NumberInput := none
  deriving DecidableEq, Repr

/-- Mass assignment of the permitted attributes. -/
def BookParams.assign (params : BookParams) (draft : Book.Draft) : Book.Draft where
  title := params.title.assign draft.title
  author := params.author.assign draft.author
  genre := params.genre.assign draft.genre
  isbn := params.isbn.assign draft.isbn
  totalCopies := params.totalCopies.getD draft.totalCopies

/-- The routes of `resources :books`; `book` is none where `params.require` raises. -/
inductive BooksRequest where
  | index (q : Option String) (page : Int)
  | new
  | create (book : Option BookParams)
  | «show» (id : Nat)
  | edit (id : Nat)
  | update (id : Nat) (book : Option BookParams)
  | destroy (id : Nat)
  deriving DecidableEq, Repr

namespace BooksController

/-- `b.attributes.slice(...).merge('can_borrow' => !!b[:can_borrow])` -/
def record (row : Book × Bool) : BookRecord where
  id := row.1.id
  title := row.1.title
  author := row.1.author
  genre := row.1.genre
  isbn := row.1.isbn
  totalCopies := row.1.totalCopies
  canBorrow := row.2

/-- The rows of the list query, one page of them, in the order the database returns. -/
def list (platform : Platform) (env : Env) (currentUser : User) (q : Option String)
    (page : Int) (s : Store)
    : List BookRecord :=
  let scope := (Book.withCanBorrowFor s (some currentUser)).filter
    (fun row => row.1.search platform q)
  let rows := orderBy (fun _ _ => True) (fun row => env.tie row.1.id) scope
  (Relational.page perPage (pageNumber page) rows).map record

def index (platform : Platform) (env : Env) (format : Format) (currentUser : User)
    (q : Option String) (page : Int) (s : Store)
    : Response :=
  respondTo format none [
    (.json, ⟨.ok, .books (list platform env currentUser q page s)⟩),
    (.html, ⟨.ok, .html⟩)
  ]

/-- The block renders the JSON record outright and registers HTML only. -/
def «show» (format : Format) : Response :=
  respondTo format (some .json) [(.html, ⟨.ok, .html⟩)]

def create (platform : Platform) (env : Env) (params : Option BookParams) (s : Store)
    : Outcome :=
  match params with
  | none => (parameterMissing, s)
  | some params =>
      match (params.assign Book.new).create platform env s with
      | .stored (book, stored) => (⟨.created, .book book⟩, stored)
      | .invalid errors => (⟨.unprocessableEntity, .errors errors⟩, s)
      | .raised exception => (raised exception, s)

def update (platform : Platform) (env : Env) (book : Book) (params : Option BookParams)
    (s : Store)
    : Outcome :=
  match params with
  | none => (parameterMissing, s)
  | some params =>
      match (params.assign book.load).update platform env s book with
      | .stored (book, stored) => (⟨.ok, .book book⟩, stored)
      | .invalid errors => (⟨.unprocessableEntity, .errors errors⟩, s)
      | .raised exception => (raised exception, s)

def destroy (book : Book) (s : Store) : Outcome :=
  (⟨.noContent, .empty⟩, s.destroyBook book.id)

def handle (platform : Platform) (env : Env) (format : Format) (currentUser : Option User)
    (request : BooksRequest) (s : Store)
    : Outcome :=
  match request with
  | .new | .edit _ => (actionNotFound, s)
  | .index q page =>
      authenticateUser format currentUser s (fun user =>
        (index platform env format user q page s, s))
  | .«show» id =>
      authenticateUser format currentUser s (fun _ =>
        setRecord (s.books.find? id) s (fun _ => («show» format, s)))
  | .create params =>
      authenticateUser format currentUser s (fun user =>
        requireLibrarian user s (create platform env params s))
  | .update id params =>
      authenticateUser format currentUser s (fun user =>
        requireLibrarian user s
          (setRecord (s.books.find? id) s (fun book => update platform env book params s)))
  | .destroy id =>
      authenticateUser format currentUser s (fun user =>
        requireLibrarian user s
          (setRecord (s.books.find? id) s (fun book => destroy book s)))

end BooksController
end LibraryManagement
