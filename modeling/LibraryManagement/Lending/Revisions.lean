import LibraryManagement.Access.OwnEffects

/-! What requests do to the books. Only a librarian's `PUT /books/:id` rewrites a row, with the
number of copies it was given.
-/

namespace LibraryManagement

open Relational

/-- The number of copies that a save of the record writes, none where it writes nothing. -/
def Book.Draft.validCopies (platform : Platform) (s : Store) (persisted : Option Book)
    (draft : Book.Draft)
    : Option Int :=
  match draft.prepare platform s persisted with
  | .stored value => some value
  | .invalid _ | .raised _ => none

/-- The row that a librarian's valid `PUT /books/:id` rewrites, with what it is saved as. -/
def Call.revises (platform : Platform) (call : Call) (s : Store)
    : Option (Book × Book.Draft × Int) :=
  match call.request, (call.currentUser s).filter User.isLibrarian with
  | .books (.update id (some params)), some _ =>
      (s.books.find? id).bind (fun book =>
        ((params.assign book.load).validCopies platform s (some book)).map (fun value =>
          (book, params.assign book.load, value)))
  | _, _ => none

def Store.reviseBook (s : Store) (env : Env) (book : Book) (draft : Book.Draft) (value : Int)
    : Store :=
  { s with
    books := s.books.update (fun row => row.id == book.id)
      ⟨draft.applyTo env value, draft.applyTo_id env value⟩ }

/-- A draft with valid copies goes through all that precedes the write. -/
theorem Book.Draft.prepare_eq_of_validCopies {platform : Platform} {s : Store}
    {persisted : Option Book} {draft : Book.Draft} {value : Int}
    (valid : draft.validCopies platform s persisted = some value)
    : draft.prepare platform s persisted = .stored value := by
  rw [validCopies] at valid
  split at valid
  · next prepared => rw [prepared, Option.some.inj valid]
  · cases valid
  · cases valid

theorem Book.Draft.validCopies_of_prepare {platform : Platform} {s : Store}
    {persisted : Option Book} {draft : Book.Draft} {value : Int}
    (prepared : draft.prepare platform s persisted = .stored value)
    : draft.validCopies platform s persisted = some value := by
  rw [validCopies, prepared]

/-- Valid copies are an integer that the column takes, in a draft that passes the validations and
whose texts the database takes.
-/
theorem Book.Draft.validCopies_eq_some_iff {platform : Platform} {s : Store}
    {persisted : Option Book} {draft : Book.Draft} {value : Int}
    : draft.validCopies platform s persisted = some value
      ↔ draft.errors s persisted = [] ∧ draft.totalCopies = .int value ∧ inInteger value
        ∧ draft.TextsFit platform persisted := by
  rw [← prepare_eq_stored_iff]
  exact ⟨prepare_eq_of_validCopies, validCopies_of_prepare⟩

/-- An update stores the row exactly where the record is valid. -/
theorem Book.Draft.update_valid {platform : Platform} {env : Env} {s : Store} {book : Book}
    {draft : Book.Draft} {value : Int}
    (valid : draft.validCopies platform s (some book) = some value)
    : draft.update platform env s book
      = .stored (draft.applyTo env value book, s.reviseBook env book draft value) := by
  rw [update, prepare_eq_of_validCopies valid]
  rfl

/-- A draft without them is not saved. -/
theorem Book.Draft.update_unfit {platform : Platform} {env : Env} {s : Store} {book : Book}
    {draft : Book.Draft} (unfit : draft.validCopies platform s (some book) = none) (row : Book)
    (stored : Store)
    : draft.update platform env s book ≠ .stored (row, stored) := by
  intro saved
  rw [update] at saved
  split at saved
  · next prepared =>
    rw [validCopies_of_prepare prepared] at unfit
    cases unfit
  · cases saved
  · cases saved

inductive BookEffect (platform : Platform) (call : Call) (s : Store) : Table Book → Prop
  | kept (revises : call.revises platform s = none) : BookEffect platform call s s.books
  | created {new : Table.NewRow Book} (revises : call.revises platform s = none)
    : BookEffect platform call s (s.books.insert new)
  | deleted (selected : Book → Bool) (revises : call.revises platform s = none)
    : BookEffect platform call s (s.books.delete selected)
  | revised {book draft value} (revises : call.revises platform s = some (book, draft, value))
    : BookEffect platform call s (s.reviseBook call.env book draft value).books

section Controllers

variable {platform : Platform} {call : Call} {s : Store} {user : User}

/-- What a caller does without librarian rights leaves the books alone. -/
theorem OwnEffect.books {s' : Store} (effect : OwnEffect platform call s user s')
    : s'.books = s.books := by
  cases effect with
  | unchanged | borrow | writeRow | register | deregister => rfl
  | writeDevise =>
      rw [Store.writeDeviseColumns]
      split <;> rfl

theorem BorrowingsController.handle_books (request : BorrowingsRequest)
    : (handle platform call.env call.format (some user) request s).2.books = s.books := by
  cases request with
  | index params => rfl
  | create bookId =>
      simp only [handle, authenticateUser]
      cases s.books.find? bookId with
      | none => rfl
      | some book =>
          simp only [setRecord, create, Borrowing.Draft.create!]
          split
          · next saved =>
            split at saved
            · injection saved with same
              rw [← congrArg Prod.snd same]
              rfl
            · contradiction
          · rfl
          · rfl
  | returnBook id comment =>
      simp only [handle, authenticateUser]
      cases s.borrowings.find? id with
      | none => rfl
      | some loan =>
          simp only [setRecord, returnBook]
          split <;> rfl

theorem MembersController.handle_books (request : MembersRequest)
    : (handle platform call.env call.format (some user) request s).2.books = s.books := by
  by_cases librarian : user.role = .librarian
  · cases request with
    | new | edit id => rfl
    | index q page => simp only [handle, authenticateUser, requireLibrarian, if_pos librarian]
    | «show» id =>
        simp only [handle, authenticateUser, requireLibrarian, if_pos librarian]
        cases setMember s id <;> rfl
    | create params =>
        simp only [handle, authenticateUser, requireLibrarian, if_pos librarian]
        cases params with
        | none => rfl
        | some params =>
            simp only [create]
            split
            · next saved =>
              obtain ⟨_, _, _, rfl⟩ := User.Draft.create_stored saved
              rfl
            · rfl
            · rfl
    | update id params =>
        simp only [handle, authenticateUser, requireLibrarian, if_pos librarian]
        cases setMember s id with
        | none => rfl
        | some member =>
            cases params with
            | none => rfl
            | some params =>
                simp only [setRecord, update]
                split
                · next saved =>
                  obtain ⟨_, rfl⟩ := User.Draft.update_stored saved
                  rfl
                · rfl
                · rfl
    | destroy id =>
        simp only [handle, authenticateUser, requireLibrarian, if_pos librarian]
        cases setMember s id <;> rfl
  · have effect : OwnEffect platform call s user _ := ownEffect request librarian
    exact effect.books

theorem DashboardsController.handle_books (request : DashboardRequest)
    : (handle call.env call.format (some user) request s).2.books = s.books := by
  cases request with
  | librarian | member =>
      simp only [handle, authenticateUser]
      split <;> rfl
  | markOverdue =>
      simp only [handle, authenticateUser]
      split
      · rfl
      · simp only [markOverdue, OverdueService.markOverdueBooks_store]
        rfl

/-- Requests to other controllers leave the books alone, by what each of them can write. -/
theorem step_books_of_not_books (platform : Platform) (signedIn : call.currentUser s = some user)
    (others : ∀ request, call.request ≠ .books request)
    : (step platform s call).books = s.books := by
  rw [step, perform]
  simp only [signedIn]
  split
  · rfl
  · next requested => exact (Devise.ownEffect requested signedIn).books
  · next request _ =>
    have effect : OwnEffect platform call s user _ := SessionsController.ownEffect request
    exact effect.books
  · next request _ =>
    have effect : OwnEffect platform call s user _ := AccountsController.ownEffect request
    exact effect.books
  · next request requested => exact absurd requested (others request)
  · exact BorrowingsController.handle_books _
  · exact MembersController.handle_books _
  · exact DashboardsController.handle_books _

-----------------------------------------------------------------------------------------
-- Requests for books
-----------------------------------------------------------------------------------------

/-- A request revises a book exactly where a librarian sends a stored one parameters that are saved:
valid, with texts and a number that the columns take.
-/
theorem Call.revises_eq_some_iff {book : Book} {draft : Book.Draft} {value : Int}
    : call.revises platform s = some (book, draft, value)
      ↔ (∃ user, call.currentUser s = some user ∧ user.role = .librarian)
        ∧ (∃ params, call.request = .books (.update book.id (some params))
            ∧ draft = params.assign book.load)
        ∧ book ∈ s.books.rows ∧ draft.validCopies platform s (some book) = some value := by
  constructor
  · intro revised
    unfold revises at revised
    split at revised
    · next id params user requested caller =>
      obtain ⟨signedIn, librarian⟩ := Option.filter_eq_some_iff.mp caller
      obtain ⟨row, here, saved⟩ := Option.bind_eq_some_iff.mp revised
      obtain ⟨number, valid, same⟩ := Option.map_eq_some_iff.mp saved
      obtain ⟨found, rfl⟩ := (s.books.find?_eq_some_iff).mp here
      simp only [Prod.mk.injEq] at same
      obtain ⟨rfl, rfl, rfl⟩ := same
      exact ⟨⟨user, signedIn, by simpa [User.isLibrarian] using librarian⟩,
        ⟨params, requested, rfl⟩, found, valid⟩
    · contradiction
  · rintro ⟨⟨user, signedIn, librarian⟩, ⟨params, requested, rfl⟩, found, valid⟩
    have here : s.books.find? book.id = some book := s.books.find?_of_mem found
    simp [revises, signedIn, requested, librarian, User.isLibrarian, here, valid, Option.filter]

/-- An accepted update is answered with the row it leaves. -/
theorem perform_revises {book : Book} {draft : Book.Draft} {value : Int}
    (revised : call.revises platform s = some (book, draft, value))
    : perform platform s call
      = (⟨.ok, .book (draft.applyTo call.env value book)⟩,
        s.reviseBook call.env book draft value) := by
  obtain ⟨⟨user, signedIn, librarian⟩, ⟨params, requested, rfl⟩, found, valid⟩ :=
    Call.revises_eq_some_iff.mp revised
  have item : s.books.find? book.id = some book := s.books.find?_of_mem found
  rw [perform_updateBook platform signedIn librarian requested, item]
  simp [setRecord, BooksController.update, Book.Draft.update_valid valid]

/-- What such a request leaves is the revised book. -/
theorem step_revises {book : Book} {draft : Book.Draft} {value : Int}
    (revised : call.revises platform s = some (book, draft, value))
    : step platform s call = s.reviseBook call.env book draft value := by
  rw [step, perform_revises revised]

/-- An update that revises nothing is not answered with a book and stores nothing, wherever on its
way it is refused.
-/
theorem perform_unrevised (platform : Platform) {id : Nat} {params : Option BookParams}
    (requested : call.request = .books (.update id params))
    (revises : call.revises platform s = none)
    : (∀ book, (perform platform s call).1.body ≠ .book book)
      ∧ (perform platform s call).2 = s := by
  simp only [perform, requested, BooksController.handle]
  cases signedIn : call.currentUser s with
  | none => cases call.format <;> exact ⟨fun _ => Body.noConfusion, rfl⟩
  | some user =>
      by_cases librarian : user.role = .librarian
      · simp only [authenticateUser, requireLibrarian, if_pos librarian]
        cases found : s.books.find? id with
        | none => exact ⟨fun _ => Body.noConfusion, rfl⟩
        | some book =>
            cases params with
            | none => exact ⟨fun _ => Body.noConfusion, rfl⟩
            | some params =>
                have unfit
                    : (params.assign book.load).validCopies platform s (some book) = none := by
                  simpa [Call.revises, requested, signedIn, librarian, User.isLibrarian, found,
                    Option.filter] using revises
                simp only [setRecord, BooksController.update]
                split
                · next saved => exact absurd saved (Book.Draft.update_unfit unfit _ _)
                · exact ⟨fun _ => Body.noConfusion, rfl⟩
                · exact ⟨fun _ => Body.noConfusion, rfl⟩
      · simp only [authenticateUser, requireLibrarian, if_neg librarian]
        exact ⟨fun _ => Body.noConfusion, trivial⟩

/-- Without a signed-in user nobody writes a book. -/
theorem step_books_of_anonymous (platform : Platform) (anonymous : call.currentUser s = none)
    : (step platform s call).books = s.books := by
  have effect := step_effect platform s call
  generalize step platform s call = s' at effect ⊢
  cases effect with
  | unchanged | register => rfl
  | writeDevise =>
      rw [Store.writeDeviseColumns]
      split <;> rfl
  | borrow signedIn | returnBook signedIn | markOverdue signedIn | createBook signedIn
  | updateBook signedIn | destroyBook signedIn | createMember signedIn | updateUser signedIn
  | forgetMe signedIn | destroyUser signedIn => cases anonymous.symm.trans signedIn

/-- What a librarian's request for books does where it revises none: nothing, a new book or a
deletion.
-/
theorem step_bookEffect_of_books {request : BooksRequest}
    (signedIn : call.currentUser s = some user) (librarian : user.role = .librarian)
    (requested : call.request = .books request) (revises : call.revises platform s = none)
    : BookEffect platform call s (step platform s call).books := by
  cases request with
  | update id params =>
      rw [step, (perform_unrevised platform requested revises).2]
      exact .kept revises
  | new | edit id | index q page =>
      simp only [step, perform, requested, signedIn, BooksController.handle, authenticateUser]
      exact .kept revises
  | «show» id =>
      simp only [step, perform, requested, signedIn, BooksController.handle, authenticateUser]
      cases s.books.find? id <;> exact .kept revises
  | create params =>
      rw [step, perform_createBook platform signedIn librarian requested]
      cases params with
      | none => exact .kept revises
      | some params =>
          simp only [BooksController.create]
          split
          · next saved =>
            obtain ⟨_, _, _, rfl⟩ := Book.Draft.create_stored saved
            exact .created revises
          · exact .kept revises
          · exact .kept revises
  | destroy id =>
      rw [step, perform_destroyBook platform signedIn librarian requested]
      cases s.books.find? id with
      | none => exact .kept revises
      | some book => exact .deleted _ revises

/-- Every request has one of these effects on the books; only a librarian's requests for books have
another than none.
-/
theorem step_bookEffect (platform : Platform) (call : Call) (s : Store)
    : BookEffect platform call s (step platform s call).books := by
  cases revises : call.revises platform s with
  | some revised =>
      obtain ⟨book, draft, value⟩ := revised
      rw [step_revises revises]
      exact .revised revises
  | none =>
      have kept (same : (step platform s call).books = s.books)
          : BookEffect platform call s (step platform s call).books := same ▸ .kept revises
      cases signedIn : call.currentUser s with
      | none => exact kept (step_books_of_anonymous platform signedIn)
      | some user =>
          by_cases librarian : user.role = .librarian
          · cases requested : call.request with
            | books request => exact step_bookEffect_of_books signedIn librarian requested revises
            | health | devise | sessions | account | borrowings | members | dashboard =>
                refine kept (step_books_of_not_books platform signedIn ?_)
                exact fun request other => by cases requested.symm.trans other
          · exact kept (step_ownEffect platform signedIn librarian).books

end Controllers

end LibraryManagement
