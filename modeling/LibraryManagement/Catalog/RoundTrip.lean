import LibraryManagement.Catalog.BookRecord
import LibraryManagement.Catalog.BookSaves
import LibraryManagement.Lending.Jobs
import LibraryManagement.Viewing.Resource

/-! The edit form of a book, which is filled from `GET /books` and sent to `PUT /books/:id`. The
rows have been validated when they were saved, and no job makes them invalid.
-/

namespace LibraryManagement

open Relational Transition Viewing

/-- The attributes that the form shows. -/
def Book.submitted (book : Book) : SubmittedBook where
  title := book.title
  author := book.author
  genre := book.genre
  isbn := book.isbn
  totalCopies := book.totalCopies

def BookRecord.submitted (record : BookRecord) : SubmittedBook where
  title := record.title
  author := record.author
  genre := record.genre
  isbn := record.isbn
  totalCopies := record.totalCopies

/-- The row would pass its own validations, and its number of copies fits the column. -/
structure Book.Storable (book : Book) : Prop where
  title : blank book.title = false
  author : blank book.author = false
  genre : blank book.genre = false
  isbn : blank book.isbn = false
  copies : 0 ≤ book.totalCopies
  fits : Book.Draft.inInteger book.totalCopies

def Store.BooksStorable (s : Store) : Prop := ∀ book ∈ s.books.rows, book.Storable

-----------------------------------------------------------------------------------------
-- Rows that are saved
-----------------------------------------------------------------------------------------

section Saved

variable {platform : Platform} {s : Store} {persisted : Option Book} {draft : Book.Draft}
  {value : Int}

/-- A text that passes the presence validation is not blank. -/
theorem Book.Draft.filled_of_presence {name : String} {text : Option String}
    (valid : presenceErrors name text = [])
    : blank (text.getD "") = false := by
  cases text with
  | none => simp [presenceErrors, blank?] at valid
  | some given =>
      cases filled : blank given with
      | false => exact filled
      | true => simp [presenceErrors, blank?, filled] at valid

/-- A row with the columns of a valid record can be stored: what the validations ask of the record
they ask of the row.
-/
theorem Book.Draft.storable_of_valid
    (valid : draft.validCopies platform s persisted = some value)
    {row : Book} (isbn : row.isbn = draft.isbn.getD "") (title : row.title = draft.title.getD "")
    (author : row.author = draft.author.getD "") (genre : row.genre = draft.genre.getD "")
    (copies : row.totalCopies = value)
    : row.Storable := by
  obtain ⟨noErrors, number, fits, _⟩ := validCopies_eq_some_iff.mp valid
  have owned := (valid_facts noErrors number).1
  simp only [errors, List.append_eq_nil_iff] at noErrors
  obtain ⟨⟨⟨⟨⟨hasTitle, hasAuthor⟩, hasGenre⟩, hasIsbn⟩, _⟩, _⟩ := noErrors
  exact {
    title := title ▸ filled_of_presence hasTitle
    author := author ▸ filled_of_presence hasAuthor
    genre := genre ▸ filled_of_presence hasGenre
    isbn := isbn ▸ filled_of_presence hasIsbn
    copies := copies ▸ owned
    fits := copies ▸ fits }

/-- So has a new one. -/
theorem Book.Draft.toRow_storable
    (valid : draft.validCopies platform s persisted = some value) (env : Env) (id : Nat)
    : (draft.toRow env value id).Storable :=
  storable_of_valid valid rfl rfl rfl rfl rfl

/-- A changed book has columns that its form can send back: each of them passed its validation and
was taken by its column.
-/
theorem Book.Draft.applyTo_storable
    (valid : draft.validCopies platform s persisted = some value) (env : Env) (book : Book)
    : (draft.applyTo env value book).Storable := by
  obtain ⟨isbn, title, author, genre, copies, _⟩ := draft.applyTo_eq env value book
  exact storable_of_valid valid isbn title author genre copies

end Saved

section Steps

variable {platform : Platform} {s : Store}

/-- A saved new book has passed the validations with a number that its column takes. -/
theorem Book.Draft.create_columns {env : Env} {draft : Book.Draft} {book : Book} {stored : Store}
    (saved : draft.create platform env s = .stored (book, stored))
    : ∃ value, draft.validCopies platform s none = some value
        ∧ stored = { s with books := s.books.insert ⟨draft.toRow env value, fun _ => rfl⟩ } := by
  rw [create] at saved
  split at saved
  · next value prepared =>
    injection saved with same
    exact ⟨value, validCopies_of_prepare prepared, (congrArg Prod.snd same).symm⟩
  · cases saved
  · cases saved

/-- A revision keeps the books such that their forms can be sent back. -/
theorem Store.BooksStorable.reviseBook (storable : s.BooksStorable) (env : Env) {book : Book}
    {draft : Book.Draft} {value : Int}
    (valid : draft.validCopies platform s (some book) = some value)
    : (s.reviseBook env book draft value).BooksStorable := by
  intro row member
  obtain ⟨old, present, rfl⟩ := (s.books.mem_update).mp member
  split
  · exact Book.Draft.applyTo_storable valid env old
  · exact storable old present

/-- A librarian's request for books brings in validated rows only, action by action; here it is none
that revises a book.
-/
theorem Store.BooksStorable.step_books (storable : s.BooksStorable) {call : Call} {user : User}
    {request : BooksRequest} (signedIn : call.currentUser s = some user)
    (librarian : user.role = .librarian) (requested : call.request = .books request)
    (revises : call.revises platform s = none)
    : (step platform s call).BooksStorable := by
  cases request with
  | update id params =>
      rw [LibraryManagement.step, (perform_unrevised platform requested revises).2]
      exact storable
  | new | edit id | index q page =>
      simp only [LibraryManagement.step, perform, requested, signedIn, BooksController.handle,
        authenticateUser]
      exact storable
  | «show» id =>
      simp only [LibraryManagement.step, perform, requested, signedIn, BooksController.handle,
        authenticateUser]
      cases s.books.find? id <;> exact storable
  | create params =>
      rw [LibraryManagement.step, perform_createBook platform signedIn librarian requested]
      cases params with
      | none => exact storable
      | some params =>
          simp only [BooksController.create]
          split
          · next saved =>
            obtain ⟨value, valid, rfl⟩ := Book.Draft.create_columns saved
            intro row member
            rcases (s.books.mem_insert).mp member with old | rfl
            · exact storable row old
            · exact Book.Draft.toRow_storable valid _ _
          · exact storable
          · exact storable
  | destroy id =>
      rw [LibraryManagement.step, perform_destroyBook platform signedIn librarian requested]
      cases s.books.find? id with
      | none => exact storable
      | some book => exact fun row member => storable row ((s.books.mem_delete).mp member).1

theorem Store.BooksStorable.of_books (storable : s.BooksStorable) {s' : Store}
    (same : s'.books = s.books)
    : s'.BooksStorable := by
  rw [BooksStorable, same]
  exact storable

/-- Only validated rows come in: through a revision, through another request of a librarian for
books, or not at all.
-/
theorem Store.BooksStorable.step (storable : s.BooksStorable) (call : Call)
    : (step platform s call).BooksStorable := by
  cases revises : call.revises platform s with
  | some revised =>
      obtain ⟨book, draft, value⟩ := revised
      obtain ⟨_, _, _, valid⟩ := Call.revises_eq_some_iff.mp revises
      rw [step_revises revises]
      exact storable.reviseBook call.env valid
  | none =>
      cases signedIn : call.currentUser s with
      | none => exact storable.of_books (step_books_of_anonymous platform signedIn)
      | some user =>
          by_cases librarian : user.role = .librarian
          · cases requested : call.request with
            | books request => exact storable.step_books signedIn librarian requested revises
            | health | devise | sessions | account | borrowings | members | dashboard =>
                refine storable.of_books (step_books_of_not_books platform signedIn ?_)
                exact fun request other => by cases requested.symm.trans other
          · exact storable.of_books (step_ownEffect platform signedIn librarian).books

/-- A book of the list is valid, and a save of it touches no other: the row with its `isbn` is the
stocked one.
-/
theorem Store.BooksStorable.saveBestseller (storable : s.BooksStorable)
    (consistent : s.Consistent) (env : Env) {entry : Bestseller × Nat}
    (listed : entry ∈ bestsellers.zipIdx)
    : (Job.run platform s (.saveBestseller env entry listed)).BooksStorable := by
  have full := bestsellers_full entry.1 (List.fst_mem_of_mem_zipIdx listed)
  obtain ⟨saved, succeeds, kept, _⟩ := entry.1.save_reseeded platform env consistent full
    (bestsellerIsbn_writable entry listed)
  obtain ⟨⟨record, here, isbn, title, author, genre, copies⟩, same⟩ :=
    Bestseller.save_stocks succeeds
  rw [Job.run, succeeds, Option.getD_some]
  intro row member
  by_cases chosen : row.isbn = bestsellerIsbn entry.2
  · obtain rfl : row = record := saved.books.eq_of_key_eq member here
      (kept.isbns row member record here (chosen.trans isbn.symm))
    exact {
      title := title ▸ full.title.full
      author := author ▸ full.author.full
      genre := genre ▸ full.genre.full
      isbn := isbn ▸ (bestsellerIsbn_writable entry listed).full
      copies := copies ▸ by decide
      fits := copies ▸ by decide }
  · exact storable row ((same.books row chosen).mp member)

/-- So do requests and transactions of tasks: books are written by the saves of the catalogue and of
the bestsellers only.
-/
theorem Job.run_booksStorable (job : Job) (consistent : s.Consistent)
    (storable : s.BooksStorable)
    : (job.run platform s).BooksStorable := by
  cases job with
  | request call => exact storable.step call
  | findOrCreate env user =>
      exact storable.of_books (run_findOrCreate platform consistent env user).2.1
  | saveBestseller env entry listed => exact storable.saveBestseller consistent env listed
  | destroyLoan id => exact storable.of_books rfl
  | createLoan loan drawn =>
      rw [run_createLoan]
      split
      · exact storable.of_books rfl
      · exact storable
  | markOverdue today =>
      rw [run, OverdueService.markOverdueBooks_store]
      exact storable.of_books rfl

end Steps

-----------------------------------------------------------------------------------------
-- Reading and writing a book
-----------------------------------------------------------------------------------------

/-- A librarian's `PUT /books/:id` with all attributes. -/
def Call.putBook (librarianId id : Nat) (env : Env) (submitted : SubmittedBook) : Call where
  env := env
  session := some librarianId
  request := .books (.update id (some submitted.params))

def bookResource (platform : Platform) (librarianId id : Nat)
    : Resource Store Env SubmittedBook where
  read s := (s.books.find? id).map Book.submitted
  write env submitted s :=
    match perform platform s (.putBook librarianId id env submitted) with
    | (⟨.ok, .book _⟩, stored) => some stored
    | _ => none

/-- The resource of a book is read as the form of its row. -/
theorem bookResource_read (platform : Platform) (librarianId id : Nat) (s : Store)
    : (bookResource platform librarianId id).read s = (s.books.find? id).map Book.submitted := rfl

/-- What the answers of `PUT /books/:id` depend on. -/
structure Store.BooksWritable (librarianId : Nat) (s : Store) : Prop where
  consistent : s.Consistent
  storable : s.BooksStorable
  librarian : ∃ user ∈ s.users.rows, user.id = librarianId ∧ user.role = .librarian

section Writes

variable {platform : Platform} {librarianId id : Nat} {env : Env} {s s' : Store}
  {submitted : SubmittedBook}

/-- A `PUT` of a form that revises a book revises the one it names, with the values of the form. -/
theorem Call.putBook_revises {book : Book} {draft : Book.Draft} {value : Int}
    (revises
      : (putBook librarianId id env submitted).revises platform s = some (book, draft, value))
    : book ∈ s.books.rows ∧ book.id = id ∧ draft = submitted.draft
        ∧ value = submitted.totalCopies
        ∧ draft.validCopies platform s (some book) = some value := by
  obtain ⟨_, ⟨params, requested, rfl⟩, found, valid⟩ := Call.revises_eq_some_iff.mp revises
  obtain ⟨same, rfl⟩ : id = book.id ∧ submitted.params = params := by
    simpa [putBook] using requested
  obtain ⟨_, number, _⟩ := Book.Draft.validCopies_eq_some_iff.mp valid
  exact ⟨found, same.symm, rfl, (NumberInput.int.inj number).symm, valid⟩

/-- A write is accepted exactly where the request revises the book, and stores that revision. -/
theorem bookResource_write_eq_some_iff
    : (bookResource platform librarianId id).write env submitted s = some s'
      ↔ ∃ book draft value,
          (Call.putBook librarianId id env submitted).revises platform s = some (book, draft, value)
          ∧ s' = s.reviseBook env book draft value := by
  cases revises : (Call.putBook librarianId id env submitted).revises platform s with
  | some revised =>
      obtain ⟨book, draft, value⟩ := revised
      simp only [bookResource, perform_revises revises, Option.some.injEq, Prod.mk.injEq]
      constructor
      · rintro rfl
        exact ⟨book, draft, value, ⟨rfl, rfl, rfl⟩, rfl⟩
      · rintro ⟨_, _, _, ⟨rfl, rfl, rfl⟩, rfl⟩
        rfl
  | none =>
      refine iff_of_false ?_ (by simp)
      have refused := (perform_unrevised platform rfl revises).1
      intro written
      simp only [bookResource] at written
      split at written
      · next book stored answered => exact refused book (congrArg (fun out => out.1.body) answered)
      · cases written

/-- Writing a book reads as written, and writing what was read changes nothing: a stored book is
valid as it is loaded, its `isbn` being in no other row.
-/
theorem bookResource_lawful (platform : Platform) (librarianId id : Nat)
    : (bookResource platform librarianId id).Lawful (Store.BooksWritable librarianId)
        (fun submitted => submitted) where
  keeps := by
    intro env submitted s writable s' written
    obtain ⟨book, draft, value, revises, rfl⟩ := bookResource_write_eq_some_iff.mp written
    obtain ⟨_, _, _, _, valid⟩ := Call.putBook_revises revises
    have stepped
        : step platform s (.putBook librarianId id env submitted)
          = s.reviseBook env book draft value :=
      step_revises revises
    refine ⟨?_, writable.storable.reviseBook env valid, writable.librarian⟩
    rw [← stepped]
    exact step_consistent platform s _ writable.consistent
  write_read := by
    intro env submitted s writable read
    obtain ⟨book, here, rfl⟩ := Option.map_eq_some_iff.mp read
    obtain ⟨found, same⟩ := (s.books.find?_eq_some_iff).mp here
    obtain ⟨user, known, owns, isLibrarian⟩ := writable.librarian
    have storable := writable.storable book found
    have untaken : Book.Draft.isbnTaken s (some book) (some book.isbn) = false := by
      refine List.any_eq_false.mpr (fun other member taken => ?_)
      simp only [Bool.and_eq_true, beq_iff_eq, Option.some.injEq, Option.all_some,
        bne_iff_ne] at taken
      exact taken.2 (writable.consistent.isbns other member book found taken.1).symm
    have noErrors : book.load.errors s (some book) = [] := by
      simp [Book.Draft.errors, Book.load, Book.Draft.presenceErrors, blank?, storable.title,
        storable.author, storable.genre, storable.isbn, untaken, Book.Draft.totalCopiesErrors,
        Int.not_lt.mpr storable.copies]
    have valid : book.load.validCopies platform s (some book) = some book.totalCopies :=
      Book.Draft.validCopies_eq_some_iff.mpr
        ⟨noErrors, rfl, storable.fits, Book.Draft.textsFit_load platform book⟩
    refine bookResource_write_eq_some_iff.mpr ⟨book, book.load, book.totalCopies, ?_, ?_⟩
    · refine Call.revises_eq_some_iff.mpr
        ⟨⟨user, ?_, isLibrarian⟩, ⟨book.submitted.params, ?_, rfl⟩, found, valid⟩
      · exact Call.currentUser_eq_some known (owns ▸ rfl)
      · rw [Call.putBook, show book.id = id from same]
    · have fixed : s.books.update (fun row => row.id == book.id)
          ⟨book.load.applyTo env book.totalCopies, book.load.applyTo_id env book.totalCopies⟩
          = s.books := by
        refine s.books.update_eq_of_fixed (fun row member chosen => ?_)
        obtain rfl := s.books.eq_of_key_eq member found (beq_iff_eq.mp chosen)
        exact if_pos rfl
      rw [Store.reviseBook, fixed]
  read_write := by
    intro env submitted s writable s' written
    obtain ⟨book, draft, value, revises, rfl⟩ := bookResource_write_eq_some_iff.mp written
    obtain ⟨found, same, rfl, rfl, _⟩ := Call.putBook_revises revises
    have here : s.books.find? id = some book := same ▸ s.books.find?_of_mem found
    obtain ⟨isbn, title, author, genre, copies, _⟩ :=
      submitted.draft.applyTo_eq env submitted.totalCopies book
    simp only [bookResource, Store.reviseBook, Table.find?_update, here, Option.map_some,
      beq_self_eq_true, if_true, Option.some.injEq]
    rw [Book.submitted, title, author, genre, isbn, copies]
    rfl

/-- The answer of a write shows the row that is stored. -/
theorem bookResource_write_answer
    (written : (bookResource platform librarianId id).write env submitted s = some s')
    : ∃ row, s'.books.find? id = some row
        ∧ perform platform s (.putBook librarianId id env submitted) = (⟨.ok, .book row⟩, s') := by
  obtain ⟨book, draft, value, revises, rfl⟩ := bookResource_write_eq_some_iff.mp written
  obtain ⟨found, same, _, _, _⟩ := Call.putBook_revises revises
  refine ⟨draft.applyTo env value book, ?_, perform_revises revises⟩
  have here : s.books.find? id = some book := same ▸ s.books.find?_of_mem found
  simp [Store.reviseBook, Table.find?_update, here]

/-- An accepted `PUT` is a write of the resource. -/
theorem bookResource_write_of_answer {row : Book}
    (answered
      : perform platform s (.putBook librarianId id env submitted) = (⟨.ok, .book row⟩, s'))
    : (bookResource platform librarianId id).write env submitted s = some s' := by
  simp only [bookResource, answered]

/-- An entry of some page of `GET /books`, whoever asks and whatever is searched for. -/
def Store.Lists (platform : Platform) (s : Store) (record : BookRecord) : Prop :=
  ∃ call q page records, call.request = .books (.index q page)
    ∧ (perform platform s call).1 = ⟨.ok, .books records⟩ ∧ record ∈ records

/-- Entries show the stored books: a list is answered to users only, and is a page of the rows of
the query.
-/
theorem Store.Lists.find? {record : BookRecord} (listed : s.Lists platform record)
    : ∃ book, s.books.find? record.id = some book ∧ book.submitted = record.submitted := by
  obtain ⟨call, q, page, records, requested, answered, member⟩ := listed
  cases signedIn : call.currentUser s with
  | none =>
      simp only [perform, requested, signedIn, BooksController.handle, authenticateUser] at answered
      cases format : call.format <;> simp [format, unauthenticated] at answered
  | some user =>
      rw [perform_listBooks platform signedIn requested] at answered
      have rows : records = BooksController.list platform call.env user q page s := by
        cases format : call.format <;>
          simp [BooksController.index, respondTo, format] at answered
        exact answered.symm
      rw [rows, BooksController.list, Book.withCanBorrowFor_eq] at member
      obtain ⟨row, paged, rfl⟩ := List.mem_map.mp member
      have queried := (List.mem_filter.mp (mem_orderBy.mp (mem_of_mem_page paged))).1
      obtain ⟨book, stored, rfl⟩ := List.mem_map.mp queried
      exact ⟨book, s.books.find?_of_mem stored, rfl⟩

/-- A stored book has an entry. -/
theorem Store.lists_of_mem (platform : Platform) {s : Store} {user : User} {book : Book}
    (known : user ∈ s.users.rows) (stored : book ∈ s.books.rows)
    : ∃ record, s.Lists platform record ∧ record.id = book.id := by
  obtain ⟨env, page, records, answered, member⟩ := inBookList platform known stored
  exact ⟨_, ⟨_, none, page, records, rfl, answered, member⟩, rfl⟩

/-- The entries of one book. -/
theorem Store.Lists.submitted_eq {record : BookRecord} (listed : s.Lists platform record)
    {book : Book} (here : s.books.find? record.id = some book)
    : record.submitted = book.submitted := by
  obtain ⟨other, found, same⟩ := listed.find?
  obtain rfl := Option.some.inj (found.symm.trans here)
  exact same.symm

end Writes

/-- The edit form loses nothing and adds nothing. In every store that jobs reach, a row of the list
that is sent back as it is changes nothing; and what is accepted is what every entry shows from then
on, and changes nothing when it is sent once more.
-/
theorem books_round_trip (platform : Platform) (jobs : List Job)
    : ∀ s ∈ states (Job.run platform) .empty jobs, ∀ librarian ∈ s.users.rows,
        librarian.role = .librarian →
        (∀ record env, s.Lists platform record →
          ∃ row ∈ s.books.rows, row.id = record.id ∧ row.submitted = record.submitted
            ∧ perform platform s (.putBook librarian.id record.id env record.submitted)
              = (⟨.ok, .book row⟩, s))
        ∧ ∀ id env submitted row s',
            perform platform s (.putBook librarian.id id env submitted) = (⟨.ok, .book row⟩, s')
            → row ∈ s'.books.rows ∧ row.id = id ∧ row.submitted = submitted
              ∧ (∃ record, s'.Lists platform record ∧ record.id = id)
              ∧ (∀ record, s'.Lists platform record → record.id = id
                → record.submitted = submitted)
              ∧ ∀ later, perform platform s' (.putBook librarian.id id later submitted)
                  = (⟨.ok, .book row⟩, s') := by
  have storable : ∀ reached ∈ states (Job.run platform) .empty jobs,
      reached.Sound ∧ reached.BooksStorable := by
    refine invariant ⟨Store.empty_sound, List.forall_mem_nil _⟩ ?_ jobs
    exact fun s job before =>
      ⟨job.run_sound before.1, job.run_booksStorable before.1.consistent before.2⟩
  intro s reached librarian known isLibrarian
  have writable : s.BooksWritable librarian.id := {
    consistent := (storable s reached).1.consistent
    storable := (storable s reached).2
    librarian := ⟨librarian, known, rfl, isLibrarian⟩ }
  refine ⟨?_, ?_⟩
  · intro record env listed
    obtain ⟨book, found, same⟩ := listed.find?
    have lawful := bookResource_lawful platform librarian.id record.id
    have written := lawful.write_read env record.submitted s writable
      (by rw [bookResource_read, found, Option.map_some, same])
    obtain ⟨row, here, answered⟩ := bookResource_write_answer written
    obtain rfl := Option.some.inj (here.symm.trans found)
    obtain ⟨stored, identified⟩ := (s.books.find?_eq_some_iff).mp found
    exact ⟨row, stored, identified, same, answered⟩
  · intro id env submitted row s' answered
    have lawful := bookResource_lawful platform librarian.id id
    have written := bookResource_write_of_answer answered
    obtain ⟨other, here, again⟩ := bookResource_write_answer written
    obtain rfl : other = row := by
      simpa using congrArg (fun out => out.1.body) (again.symm.trans answered)
    obtain ⟨stored, identified⟩ := (s'.books.find?_eq_some_iff).mp here
    have shown : other.submitted = submitted := by
      have read := lawful.read_write env submitted s writable s' written
      rw [bookResource_read, here, Option.map_some] at read
      exact Option.some.inj read
    refine ⟨stored, identified, shown, ?_, ?_, ?_⟩
    · obtain ⟨user, kept, _⟩ := (lawful.keeps env submitted s writable s' written).librarian
      obtain ⟨record, listed, same⟩ := Store.lists_of_mem platform kept stored
      exact ⟨record, listed, same.trans identified⟩
    · intro record listed same
      rw [listed.submitted_eq (same ▸ here), shown]
    · intro later
      obtain ⟨same, found, repeated⟩ :=
        bookResource_write_answer (lawful.write_again env later writable written)
      obtain rfl := Option.some.inj (found.symm.trans here)
      exact repeated

def Job.sampleShelf : List Job := [
  .findOrCreate ⟨0, "s", id⟩ demoUsers[0],
  .request (.onDay 0 (some 1) (.books (.create (some (SubmittedBook.sample 2).params))))]

theorem books_round_trip_sample
    : let s := Job.sampleShelf.foldl (Job.run .ascii) .empty
      ∃ librarian ∈ s.users.rows, ∃ record, s.Lists .ascii record
        ∧ ∀ env, ∃ row, perform .ascii s (.putBook librarian.id record.id env record.submitted)
            = (⟨.ok, .book row⟩, s) := by
  intro s
  have reached : s ∈ states (Job.run .ascii) .empty Job.sampleShelf := foldl_mem_states _ _
  have users : ∃ user ∈ s.users.rows, user.role = .librarian := by decide
  have books : ∃ book ∈ s.books.rows, book.id = 1 := by decide
  obtain ⟨librarian, known, isLibrarian⟩ := users
  obtain ⟨book, stored, _⟩ := books
  obtain ⟨record, listed, _⟩ := Store.lists_of_mem .ascii known stored
  obtain ⟨unchanged, _⟩ :=
    books_round_trip .ascii Job.sampleShelf s reached librarian known isLibrarian
  refine ⟨librarian, known, record, listed, fun env => ?_⟩
  obtain ⟨row, _, _, _, answered⟩ := unchanged record env listed
  exact ⟨row, answered⟩

end LibraryManagement
