import LibraryManagement.Controllers.Routes

/-! What a request can do to the store. Every action of every controller is read once
here; what holds along runs is proved from the effects alone.
-/

namespace LibraryManagement

open Relational

/-- The record `POST /borrowings` builds for the current user. -/
def Borrowing.requested (now : Int) (user : User) (book : Book) : Borrowing.Draft :=
  Borrowing.Draft.setDefaults now { userId := user.id, bookId := book.id }

/-- The effects of one call on a store, each with what its action has checked. -/
inductive Effect (platform : Platform) (call : Call) (s : Store) : Store → Prop
  | unchanged : Effect platform call s s
  | borrow {user book} (signedIn : call.currentUser s = some user)
    (requested : call.request = .borrowings (.create book.id)) (found : book ∈ s.books.rows)
    (valid : (Borrowing.requested call.env.now user book).errors s = [])
    : Effect platform call s ((Borrowing.requested call.env.now user book).insert call.env.now s)
  | returnBook {user loan comment} (signedIn : call.currentUser s = some user)
    (librarian : user.role = .librarian)
    (requested : call.request = .borrowings (.returnBook loan.id comment))
    (found : loan ∈ s.borrowings.rows)
    : Effect platform call s (loan.saveReturn call.env.now comment s)
  | markOverdue {user} (signedIn : call.currentUser s = some user)
    (librarian : user.role = .librarian) (requested : call.request = .dashboard .markOverdue)
    : Effect platform call s (OverdueService.updateAll call.env.today s)
  | createBook {user : User} {draft : Book.Draft} {value}
    (signedIn : call.currentUser s = some user) (librarian : user.role = .librarian)
    (valid : draft.errors s none = []) (number : draft.totalCopies = .int value)
    : Effect platform call s
        { s with books := s.books.insert ⟨draft.toRow call.env value, fun _ => rfl⟩ }
  | updateBook {user : User} {book : Book} {draft : Book.Draft} {value}
    (signedIn : call.currentUser s = some user) (librarian : user.role = .librarian)
    (found : book ∈ s.books.rows)
    (valid : draft.errors s (some book) = []) (number : draft.totalCopies = .int value)
    : Effect platform call s
        { s with
          books := s.books.update (fun row => row.id == book.id)
            ⟨draft.applyTo call.env value, draft.applyTo_id call.env value⟩ }
  | destroyBook {user : User} {book : Book} (signedIn : call.currentUser s = some user)
    (librarian : user.role = .librarian) (found : book ∈ s.books.rows)
    : Effect platform call s (s.destroyBook book.id)
  | createMember {user : User} {draft : User.Draft} {params}
    (signedIn : call.currentUser s = some user) (librarian : user.role = .librarian)
    (requested : call.request = .members (.create params)) (valid : draft.errors s none = [])
    : Effect platform call s
        { s with users := s.users.insert ⟨draft.toRow call.env .member, fun _ => rfl⟩ }
  | register {email password confirmation role}
    (admitted : Devise.admits call.format (call.currentUser s))
    (requested
      : call.request = .devise (.createRegistration email password confirmation))
    (savable
      : ((Devise.registration platform call.env email password confirmation).beforeValidation
          platform).Savable platform s none)
    (default : Role.ofColumn usersRoleDefault = some role)
    : Effect platform call s
        { s with
          users := s.users.insert
            ⟨((Devise.registration platform call.env email password
              confirmation).beforeValidation platform).toRow call.env role, fun _ => rfl⟩ }
  | updateUser {caller user : User} {draft : User.Draft}
    (signedIn : call.currentUser s = some caller)
    (allowed : caller.role = .librarian ∧ user.role = .member ∨ caller = user)
    (found : user ∈ s.users.rows) (valid : draft.errors s (some user) = [])
    : Effect platform call s
        { s with
          users := s.users.update (fun row => row.id == user.id)
            ⟨draft.applyTo call.env, draft.applyTo_id call.env⟩ }
  | forgetMe {user : User} (signedIn : call.currentUser s = some user)
    : Effect platform call s (SessionsController.forgetMe call.env user s)
  | writeDevise {request id columns} (requested : call.request = .devise request)
    : Effect platform call s (s.writeDeviseColumns id columns)
  | destroyUser {caller user : User} (signedIn : call.currentUser s = some caller)
    (allowed : caller.role = .librarian ∧ user.role = .member ∨ caller = user)
    (found : user ∈ s.users.rows)
    : Effect platform call s (s.destroyUser user.id)

/-- The signed-in user is a row of the users table. -/
theorem Call.mem_of_currentUser {call : Call} {s : Store} {user : User}
    (signedIn : call.currentUser s = some user)
    : user ∈ s.users.rows := by
  obtain ⟨id, _, found⟩ := Option.bind_eq_some_iff.mp signedIn
  exact ((s.users.find?_eq_some_iff).mp found).1

section Filters

variable {platform : Platform} {call : Call} {s : Store}

/-- The filters either refuse without an effect or let the action run. -/
theorem Effect.authenticateUser {format : Format} {currentUser : Option User}
    {action : User → Outcome}
    (runs : ∀ user, currentUser = some user → Effect platform call s (action user).2)
    : Effect platform call s (authenticateUser format currentUser s action).2 := by
  cases currentUser with
  | none => exact .unchanged
  | some user => exact runs user rfl

theorem Effect.requireLibrarian {user : User} {action : Outcome}
    (runs : user.role = .librarian → Effect platform call s action.2)
    : Effect platform call s (requireLibrarian user s action).2 := by
  unfold LibraryManagement.requireLibrarian
  split
  · next librarian => exact runs librarian
  · exact .unchanged

theorem Effect.setRecord {record : Option α} {action : α → Outcome}
    (runs : ∀ found, record = some found → Effect platform call s (action found).2)
    : Effect platform call s (setRecord record s action).2 := by
  cases record with
  | none => exact .unchanged
  | some found => exact runs found rfl

end Filters

section Controllers

variable {platform : Platform} {call : Call} {s : Store}

/-- A stored new book passed the validations with an integer number of copies. -/
theorem Book.Draft.create_stored {env : Env} {draft : Book.Draft} {book : Book}
    {stored : Store} (saved : draft.create platform env s = .stored (book, stored))
    : ∃ value, draft.errors s none = [] ∧ draft.totalCopies = .int value
        ∧ stored = { s with books := s.books.insert ⟨draft.toRow env value, fun _ => rfl⟩ } := by
  rw [Book.Draft.create] at saved
  split at saved
  · next value prepared =>
    obtain ⟨valid, number, _⟩ := Book.Draft.prepare_eq_stored_iff.mp prepared
    injection saved with same
    exact ⟨value, valid, number, (congrArg Prod.snd same).symm⟩
  · contradiction
  · contradiction

/-- So did a stored change of a book, which writes to the row of its id. -/
theorem Book.Draft.update_stored {env : Env} {draft : Book.Draft} {book row : Book}
    {stored : Store} (saved : draft.update platform env s book = .stored (row, stored))
    : ∃ value, draft.errors s (some book) = [] ∧ draft.totalCopies = .int value
        ∧ stored = { s with
            books := s.books.update (fun row => row.id == book.id)
              ⟨draft.applyTo env value, draft.applyTo_id env value⟩ } := by
  rw [Book.Draft.update] at saved
  split at saved
  · next value prepared =>
    obtain ⟨valid, number, _⟩ := Book.Draft.prepare_eq_stored_iff.mp prepared
    injection saved with same
    exact ⟨value, valid, number, (congrArg Prod.snd same).symm⟩
  · contradiction
  · contradiction

/-- A stored new user passed the validations after its email was normalized, with a role that the
column has.
-/
theorem User.Draft.create_stored {env : Env} {draft : User.Draft} {user : User}
    {stored : Store} (saved : draft.create platform env s = .stored (user, stored))
    : ∃ role, (draft.beforeValidation platform).errors s none = [] ∧ draft.role = some role
        ∧ stored = { s with
            users := s.users.insert
              ⟨(draft.beforeValidation platform).toRow env role, fun _ => rfl⟩ } := by
  obtain ⟨⟨valid, _⟩, role, given, same⟩ := User.Draft.create_eq_stored_iff.mp saved
  exact ⟨role, valid, given, congrArg Prod.snd same⟩

/-- So did a stored change of a user, which writes to the row of its id. -/
theorem User.Draft.update_stored {env : Env} {draft : User.Draft} {user row : User}
    {stored : Store} (saved : draft.update platform env s user = .stored (row, stored))
    : (draft.beforeValidation platform).errors s (some user) = []
      ∧ stored = { s with
          users := s.users.update (fun row => row.id == user.id)
            ⟨(draft.beforeValidation platform).applyTo env,
              (draft.beforeValidation platform).applyTo_id env⟩ } := by
  obtain ⟨⟨valid, _⟩, same⟩ := User.Draft.update_eq_stored_iff.mp saved
  exact ⟨valid, congrArg Prod.snd same⟩

/-- The actions on books insert, update or delete a book for a librarian, or change nothing: filter
by filter, then by what `save` comes to.
-/
theorem BooksController.effect {request : BooksRequest}
    : Effect platform call s
        (handle platform call.env call.format (call.currentUser s) request s).2 := by
  cases request with
  | new | edit id => exact .unchanged
  | index q page => exact .authenticateUser (fun _ _ => .unchanged)
  | «show» id => exact .authenticateUser (fun _ _ => .setRecord (fun _ _ => .unchanged))
  | create params =>
      refine .authenticateUser (fun user signedIn => .requireLibrarian (fun librarian => ?_))
      cases params with
      | none => exact .unchanged
      | some params =>
          simp only [create]
          split
          · next saved =>
            obtain ⟨value, valid, number, rfl⟩ := Book.Draft.create_stored saved
            exact .createBook signedIn librarian valid number
          · exact .unchanged
          · exact .unchanged
  | update id params =>
      refine .authenticateUser (fun user signedIn => .requireLibrarian (fun librarian =>
        .setRecord (fun book found => ?_)))
      have member := ((s.books.find?_eq_some_iff).mp found).1
      cases params with
      | none => exact .unchanged
      | some params =>
          simp only [update]
          split
          · next saved =>
            obtain ⟨value, valid, number, rfl⟩ := Book.Draft.update_stored saved
            exact .updateBook signedIn librarian member valid number
          · exact .unchanged
          · exact .unchanged
  | destroy id =>
      refine .authenticateUser (fun user signedIn => .requireLibrarian (fun librarian =>
        .setRecord (fun book found => ?_)))
      exact .destroyBook signedIn librarian ((s.books.find?_eq_some_iff).mp found).1

/-- The actions on borrowings insert a valid loan for the current user or save a return for a
librarian.
-/
theorem BorrowingsController.effect {request : BorrowingsRequest}
    (requested : call.request = .borrowings request)
    : Effect platform call s
        (handle platform call.env call.format (call.currentUser s) request s).2 := by
  cases request with
  | index params => exact .authenticateUser (fun _ _ => .unchanged)
  | create bookId =>
      refine .authenticateUser (fun user signedIn => .setRecord (fun book found => ?_))
      obtain ⟨member, rfl⟩ := (s.books.find?_eq_some_iff).mp found
      simp only [create, Borrowing.Draft.create!]
      split
      · next saved =>
        split at saved
        · next valid =>
          injection saved with same
          obtain ⟨_, rfl⟩ := Prod.mk.inj same
          exact .borrow signedIn requested member valid
        · contradiction
      · exact .unchanged
      · exact .unchanged
  | returnBook id comment =>
      refine .authenticateUser (fun user signedIn => .setRecord (fun loan found => ?_))
      obtain ⟨member, rfl⟩ := (s.borrowings.find?_eq_some_iff).mp found
      unfold returnBook
      split
      · exact .unchanged
      · next librarian =>
        exact .returnBook signedIn (not_not.mp librarian) requested member

/-- `set_member` finds stored members only. -/
theorem MembersController.mem_of_setMember {id : Nat} {member : User}
    (found : setMember s id = some member)
    : member ∈ s.users.rows ∧ member.role = .member := by
  obtain ⟨row, isMember⟩ := Option.filter_eq_some_iff.mp found
  exact ⟨((s.users.find?_eq_some_iff).mp row).1, by simpa [User.isMember] using isMember⟩

/-- The actions on members insert, update or delete a member for a librarian, once all filters have
let them through.
-/
theorem MembersController.effect {request : MembersRequest}
    (requested : call.request = .members request)
    : Effect platform call s
        (handle platform call.env call.format (call.currentUser s) request s).2 := by
  cases request with
  | new | edit id => exact .unchanged
  | index q page =>
      exact .authenticateUser (fun _ _ => .requireLibrarian (fun _ => .unchanged))
  | «show» id =>
      exact .authenticateUser (fun _ _ => .requireLibrarian (fun _ =>
        .setRecord (fun _ _ => .unchanged)))
  | create params =>
      refine .authenticateUser (fun user signedIn => .requireLibrarian (fun librarian => ?_))
      cases params with
      | none => exact .unchanged
      | some params =>
          simp only [create]
          split
          · next saved =>
            obtain ⟨role, valid, given, rfl⟩ := User.Draft.create_stored saved
            obtain rfl := Option.some.inj given
            exact .createMember signedIn librarian requested valid
          · exact .unchanged
          · exact .unchanged
  | update id params =>
      refine .authenticateUser (fun user signedIn => .requireLibrarian (fun librarian =>
        .setRecord (fun member found => ?_)))
      obtain ⟨row, isMember⟩ := mem_of_setMember found
      cases params with
      | none => exact .unchanged
      | some params =>
          simp only [update]
          split
          · next saved =>
            obtain ⟨valid, rfl⟩ := User.Draft.update_stored saved
            exact .updateUser signedIn (Or.inl ⟨librarian, isMember⟩) row valid
          · exact .unchanged
          · exact .unchanged
  | destroy id =>
      refine .authenticateUser (fun user signedIn => .requireLibrarian (fun librarian =>
        .setRecord (fun member found => ?_)))
      obtain ⟨row, isMember⟩ := mem_of_setMember found
      exact .destroyUser signedIn (Or.inl ⟨librarian, isMember⟩) row

/-- The actions on the own account update the row of the current user, where the record is valid. -/
theorem AccountsController.effect {request : AccountsRequest}
    : Effect platform call s
        (handle platform call.env call.format (call.currentUser s) request s).2 := by
  refine .authenticateUser (fun user signedIn => ?_)
  have row := Call.mem_of_currentUser signedIn
  cases request with
  | «show» => exact .unchanged
  | update params =>
      cases params with
      | none => exact .unchanged
      | some params =>
          simp only [update]
          split
          · next saved =>
            obtain ⟨valid, rfl⟩ := User.Draft.update_stored saved
            exact .updateUser signedIn (Or.inr rfl) row valid
          · exact .unchanged
          · exact .unchanged
  | password current given confirmation =>
      simp only [password]
      split
      · split
        · next saved =>
          obtain ⟨valid, rfl⟩ := User.Draft.update_stored saved
          exact .updateUser signedIn (Or.inr rfl) row valid
        · exact .unchanged
        · exact .unchanged
      · exact .unchanged

/-- The dashboards read; the sweep marks loans for a librarian, and its notifications write nothing.
-/
theorem DashboardsController.effect {request : DashboardRequest}
    (requested : call.request = .dashboard request)
    : Effect platform call s
        (handle call.env call.format (call.currentUser s) request s).2 := by
  refine .authenticateUser (fun user signedIn => ?_)
  cases request with
  | librarian | member => dsimp only; split <;> exact .unchanged
  | markOverdue =>
      dsimp only
      split
      · exact .unchanged
      · next librarian =>
        simp only [markOverdue, OverdueService.markOverdueBooks_store]
        exact .markOverdue signedIn (not_not.mp librarian) requested

theorem SessionsController.effect {request : SessionsRequest}
    : Effect platform call s
        (handle platform call.env call.format (call.currentUser s) request s).2 := by
  cases request with
  | destroy => exact .authenticateUser (fun user signedIn => .forgetMe signedIn)
  | create email password | preflight | current | csrf => exact .unchanged

theorem Devise.write_effect {currentUser : Option User} {request : DeviseRequest}
    (requested : call.request = .devise request)
    : Effect platform call s (write platform call.env call.format currentUser request s).2 := by
  simp only [write]
  split
  · exact .unchanged
  · exact .writeDevise requested

/-- Devise's routes write columns that Devise decides on, insert a registration or delete the
current user: `require_no_authentication` first, then by cases on the route.
-/
theorem Devise.effect {request : DeviseRequest} (requested : call.request = .devise request)
    : Effect platform call s
        (handle platform call.env call.format (call.currentUser s) request s).2 := by
  simp only [handle]
  split
  · exact .unchanged
  · next through =>
    cases request with
    | newSession | newPassword | editPassword | newRegistration | cancelRegistration =>
        exact .unchanged
    | createSession email password remember => exact write_effect requested
    | createPassword email => exact write_effect requested
    | updatePassword token password confirmation => exact write_effect requested
    | destroySession => exact write_effect requested
    | editRegistration => exact .authenticateUser (fun _ _ => .unchanged)
    | updateRegistration email password confirmation current =>
        exact .authenticateUser (fun _ _ => write_effect requested)
    | destroyRegistration =>
        exact .authenticateUser (fun user signedIn =>
          .destroyUser signedIn (Or.inr rfl) (Call.mem_of_currentUser signedIn))
    | createRegistration email password confirmation =>
        have admitted : admits call.format (call.currentUser s) := by
          simpa [requiresNoAuthentication] using through
        simp only [createRegistration]
        split
        · next saved =>
          obtain ⟨role, _, given, rfl⟩ := User.Draft.create_stored saved
          exact .register admitted requested (User.Draft.create_eq_stored_iff.mp saved).1 given
        · exact .unchanged
        · exact .unchanged

end Controllers

/-- Every call has one of the effects, by cases on the controller its route reaches. -/
theorem step_effect (platform : Platform) (s : Store) (call : Call)
    : Effect platform call s (step platform s call) := by
  unfold step perform
  dsimp only
  split
  · exact .unchanged
  · next requested => exact Devise.effect requested
  · exact SessionsController.effect
  · exact AccountsController.effect
  · exact BooksController.effect
  · next requested => exact BorrowingsController.effect requested
  · next requested => exact MembersController.effect requested
  · next requested => exact DashboardsController.effect requested

end LibraryManagement
