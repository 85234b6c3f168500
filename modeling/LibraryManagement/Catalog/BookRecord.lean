import LibraryManagement.Lending.CanBorrow

/-! A single book against its entry in the list. `BooksController#show` builds the entry's record
and renders it, but registers no response for the format it renders.
-/

namespace LibraryManagement

open Relational

/-- `GET /books/:id` with `Accept: application/json`. -/
def bookShow (platform : Platform) (s : Store) (user : User) (env : Env) (id : Nat) : Response :=
  (perform platform s
    { env := env, session := some user.id, format := .json, request := .books (.«show» id) }).1

/-- The record is on some page of `GET /books`. -/
def InBookList (platform : Platform) (s : Store) (user : User) (record : BookRecord) : Prop :=
  ∃ env page records,
    (perform platform s
      { env := env, session := some user.id, request := .books (.index none page) }).1
      = ⟨.ok, .books records⟩
    ∧ record ∈ records

/-- The response is a success with the book's entry in the list. -/
def ShowsEntry (platform : Platform) (s : Store) (user : User) (env : Env) (book : Book) : Prop :=
  ∃ record, bookShow platform s user env book.id = ⟨.ok, .bookRecord record⟩
    ∧ record.id = book.id ∧ InBookList platform s user record

/-- The record that the block of `show` renders:
`Book.with_can_borrow_for(current_user).find(@book.id)`.
-/
def BooksController.showRecord (s : Store) (user : User) (id : Nat) : Option BookRecord :=
  ((Book.withCanBorrowFor s (some user)).find? (fun row => row.1.id == id)).map record

section Shown

variable (platform : Platform) {s : Store} {user : User} {book : Book}

theorem BooksController.showRecord_eq (found : book ∈ s.books.rows)
    : showRecord s user book.id
      = some (record (book, user.role == .member && s.mayBorrow user book)) := by
  have stored : s.books.rows.find? (fun other => other.id == book.id) = some book :=
    s.books.find?_of_mem found
  rw [showRecord, Book.withCanBorrowFor_eq, List.find?_map, Function.comp_def, stored]
  rfl

/-- The list has an entry for every book, which some page shows to whoever is signed in. -/
theorem inBookList (known : user ∈ s.users.rows) (found : book ∈ s.books.rows)
    : InBookList platform s user
        (BooksController.record (book, user.role == .member && s.mayBorrow user book)) := by
  let env : Env := { now := 0, salt := "", tie := id }
  have listed : (book, user.role == .member && s.mayBorrow user book)
      ∈ orderBy (fun _ _ => True) (fun row => env.tie row.1.id)
          ((Book.withCanBorrowFor s (some user)).filter
            (fun row => row.1.search platform none)) := by
    rw [mem_orderBy, Book.withCanBorrowFor_eq]
    exact List.mem_filter.mpr ⟨List.mem_map.mpr ⟨book, found, rfl⟩, rfl⟩
  obtain ⟨index, paged, _⟩ := exists_page (show 0 < perPage by decide) listed
  refine ⟨env, (index + 1 : Nat), BooksController.list platform env user none (index + 1 : Nat) s,
    ?_, ?_⟩
  · rw [perform_listBooks platform (Call.currentUser_eq_some known rfl) rfl]
    rfl
  · rw [BooksController.list, pageNumber_succ]
    exact List.mem_map_of_mem paged

/-- The block has run, but no JSON response is registered that could be chosen. -/
theorem bookShow_eq (known : user ∈ s.users.rows) (found : book ∈ s.books.rows) (env : Env)
    : bookShow platform s user env book.id
      = ⟨.notAcceptable, .exception "ActionController::UnknownFormat"⟩ := by
  have signedIn : s.users.find? user.id = some user := s.users.find?_of_mem known
  have stored : s.books.find? book.id = some book := s.books.find?_of_mem found
  simp [bookShow, perform, Call.currentUser, signedIn, BooksController.handle, authenticateUser,
    setRecord, stored, BooksController.«show», respondTo]

/-- `GET /books/:id` never shows a book's entry of the list, although the record that it renders
first is that entry.
-/
theorem bookShow_never_entry (known : user ∈ s.users.rows) (found : book ∈ s.books.rows)
    (env : Env)
    : ¬ShowsEntry platform s user env book
      ∧ bookShow platform s user env book.id
        = ⟨.notAcceptable, .exception "ActionController::UnknownFormat"⟩
      ∧ ∃ record, BooksController.showRecord s user book.id = some record
        ∧ InBookList platform s user record := by
  refine ⟨?_, bookShow_eq platform known found env, _, BooksController.showRecord_eq found,
    inBookList platform known found⟩
  rintro ⟨record, shown, _⟩
  rw [bookShow_eq platform known found env] at shown
  cases shown

end Shown

/-- The member of the sample asks for its only book. -/
theorem bookShow_never_entry_sample
    : let s := Database.sample.store
      ¬ShowsEntry .ascii s s.users.rows[1] (Call.onDay 0 none .health).env s.books.rows[0] :=
  (bookShow_never_entry .ascii (List.getElem_mem _) (List.getElem_mem _) _).1

/-- The answer is an exception instead of the record. -/
theorem sample_book_not_acceptable
    : let s := Database.sample.store
      let env := (Call.onDay 0 none .health).env
      bookShow .ascii s s.users.rows[1] env 1
          = ⟨.notAcceptable, .exception "ActionController::UnknownFormat"⟩
        ∧ ¬ShowsEntry .ascii s s.users.rows[1] env s.books.rows[0] := by
  refine ⟨by decide, ?_⟩
  rintro ⟨record, shown, _⟩
  have answered : bookShow .ascii Database.sample.store Database.sample.store.users.rows[1]
      (Call.onDay 0 none .health).env 1
      = ⟨.notAcceptable, .exception "ActionController::UnknownFormat"⟩ := by decide
  cases answered.symm.trans shown

end LibraryManagement
