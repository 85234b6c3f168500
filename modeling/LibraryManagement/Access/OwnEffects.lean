import LibraryManagement.Access.Roles
import LibraryManagement.Lending.Loans

/-! What a caller without librarian rights can do to the store. The guards stand in three
places (filters with lists of exceptions, checks inside actions, queries through the current
user), so every action is read with its guard.
-/

namespace LibraryManagement

open Relational

/-- The effects of a signed-in caller who is no librarian: a loan of their own, their own row,
the end of their account, or a new account where Devise lets them register.
-/
inductive OwnEffect (platform : Platform) (call : Call) (s : Store) (user : User) : Store → Prop
  | unchanged : OwnEffect platform call s user s
  | borrow {book} (lends : call.lends s = some (user, book))
    : OwnEffect platform call s user
        ((Borrowing.requested call.env.now user book).insert call.env.now s)
  | writeRow {selected : User → Bool} {change : Table.Change User}
    (own : ∀ row ∈ s.users.rows, selected row → row.id = user.id)
    : OwnEffect platform call s user { s with users := s.users.update selected change }
  | writeDevise {request id columns} (requested : call.request = .devise request)
    (written : platform.deviseWrite request call.env (some user) s = some (id, columns))
    : OwnEffect platform call s user (s.writeDeviseColumns id columns)
  | register {new : Table.NewRow User} (registers : call.registers platform s)
    : OwnEffect platform call s user { s with users := s.users.insert new }
  | deregister (requested : call.request = .devise .destroyRegistration)
    : OwnEffect platform call s user (s.destroyUser user.id)

section Controllers

variable {platform : Platform} {call : Call} {s : Store} {user : User}

/-- A guarded action is refused. -/
theorem OwnEffect.refused {action : Outcome} (unprivileged : user.role ≠ .librarian)
    : OwnEffect platform call s user (requireLibrarian user s action).2 := by
  simp only [requireLibrarian, if_neg unprivileged]
  exact .unchanged

/-- A record that is found and only read. -/
theorem OwnEffect.read {record : Option α} {response : α → Response}
    : OwnEffect platform call s user
        (setRecord record s (fun found => (response found, s))).2 := by
  cases record <;> exact .unchanged

/-- The save of the caller's own record. -/
theorem OwnEffect.saveUser {draft : User.Draft} {row : User} {stored : Store}
    (saved : draft.update platform call.env s user = .stored (row, stored))
    : OwnEffect platform call s user stored := by
  obtain ⟨_, rfl⟩ := User.Draft.update_stored saved
  exact .writeRow (fun _ _ chosen => beq_iff_eq.mp chosen)

theorem BooksController.ownEffect (request : BooksRequest)
    (unprivileged : user.role ≠ .librarian)
    : OwnEffect platform call s user
        (handle platform call.env call.format (some user) request s).2 := by
  cases request with
  | new | edit id | index q page => exact .unchanged
  | «show» id => exact .read
  | create params | update id params | destroy id => exact .refused unprivileged

theorem MembersController.ownEffect (request : MembersRequest)
    (unprivileged : user.role ≠ .librarian)
    : OwnEffect platform call s user
        (handle platform call.env call.format (some user) request s).2 := by
  cases request with
  | new | edit id => exact .unchanged
  | index q page | «show» id | create params | update id params | destroy id =>
      exact .refused unprivileged

theorem DashboardsController.ownEffect (request : DashboardRequest)
    (unprivileged : user.role ≠ .librarian)
    : OwnEffect platform call s user
        (handle call.env call.format (some user) request s).2 := by
  cases request with
  | librarian | markOverdue =>
      simp only [handle, authenticateUser, if_pos unprivileged]
      exact .unchanged
  | member =>
      simp only [handle, authenticateUser]
      split <;> exact .unchanged

theorem BorrowingsController.ownEffect {request : BorrowingsRequest}
    (requested : call.request = .borrowings request) (signedIn : call.currentUser s = some user)
    (unprivileged : user.role ≠ .librarian)
    : OwnEffect platform call s user
        (handle platform call.env call.format (some user) request s).2 := by
  cases request with
  | index params => exact .unchanged
  | create bookId =>
      simp only [handle, authenticateUser]
      cases found : s.books.find? bookId with
      | none => exact .unchanged
      | some book =>
          obtain ⟨member, rfl⟩ := (s.books.find?_eq_some_iff).mp found
          have item : s.books.find? book.id = some book := found
          have performed : (BorrowingsController.create call.env user book s).2
              = step platform s call := by
            simp [step, perform, requested, signedIn, handle, authenticateUser, item, setRecord]
          simp only [setRecord, performed]
          cases allowed : s.mayBorrow user book with
          | true =>
              have lent := Call.lends_eq_some_iff.mpr ⟨signedIn, requested, member, allowed⟩
              rw [step_lends lent]
              exact .borrow lent
          | false =>
              rw [step, perform_refused signedIn requested member allowed]
              exact .unchanged
  | returnBook id comment =>
      simp only [handle, authenticateUser]
      cases s.borrowings.find? id with
      | none => exact .unchanged
      | some loan =>
          simp only [setRecord, returnBook, if_pos unprivileged]
          exact .unchanged

theorem AccountsController.ownEffect (request : AccountsRequest)
    : OwnEffect platform call s user
        (handle platform call.env call.format (some user) request s).2 := by
  cases request with
  | «show» => exact .unchanged
  | update params =>
      cases params with
      | none => exact .unchanged
      | some params =>
          simp only [handle, authenticateUser, update]
          split
          · next saved => exact .saveUser saved
          · exact .unchanged
          · exact .unchanged
  | password current given confirmation =>
      simp only [handle, authenticateUser, password]
      split
      · split
        · next saved => exact .saveUser saved
        · exact .unchanged
        · exact .unchanged
      · exact .unchanged

theorem SessionsController.ownEffect (request : SessionsRequest)
    : OwnEffect platform call s user
        (handle platform call.env call.format (some user) request s).2 := by
  cases request with
  | create email password | preflight | current | csrf => exact .unchanged
  | destroy =>
      refine .writeRow ?_
      intro row _ chosen
      exact beq_iff_eq.mp (Bool.and_eq_true_iff.mp chosen).1

/-- A Devise route that writes columns writes those it decides on for the caller. -/
theorem Devise.write_ownEffect {request : DeviseRequest}
    (requested : call.request = .devise request)
    : OwnEffect platform call s user
        (write platform call.env call.format (some user) request s).2 := by
  simp only [write]
  split
  · exact .unchanged
  · next written => exact .writeDevise requested written

/-- A signed-in caller whom Devise lets register adds an account where the parameters can
be saved, by cases on the outcome of the save.
-/
theorem Devise.createRegistration_ownEffect (signedIn : call.currentUser s = some user)
    (admitted : admits call.format (some user)) {email password confirmation : Option String}
    (requested : call.request = .devise (.createRegistration email password confirmation))
    : OwnEffect platform call s user
        (createRegistration platform call.env call.format email password confirmation s).2 := by
  simp only [createRegistration]
  split
  · next saved =>
    have savable := (User.Draft.create_eq_stored_iff.mp saved).1
    obtain ⟨role, _, _, rfl⟩ := User.Draft.create_stored saved
    exact .register (by simp [Call.registers, requested, signedIn, admitted, savable])
  · exact .unchanged
  · exact .unchanged

/-- Devise's routes have one of these effects, route by route. Signed-in callers are turned away
from the routes for visitors in HTML only, so a registration may come from one in JSON.
-/
theorem Devise.ownEffect {request : DeviseRequest} (requested : call.request = .devise request)
    (signedIn : call.currentUser s = some user)
    : OwnEffect platform call s user
        (handle platform call.env call.format (some user) request s).2 := by
  simp only [handle]
  split
  · exact .unchanged
  · next through =>
    cases request with
    | newSession | newPassword | editPassword | newRegistration | cancelRegistration
    | editRegistration =>
        exact .unchanged
    | createSession | createPassword | updatePassword | destroySession | updateRegistration =>
        exact write_ownEffect requested
    | createRegistration email password confirmation =>
        refine createRegistration_ownEffect signedIn ?_ requested
        simpa [requiresNoAuthentication] using through
    | destroyRegistration => exact .deregister requested

end Controllers

/-- Every request of a signed-in caller who is no librarian has one of these effects. -/
theorem step_ownEffect (platform : Platform) {s : Store} {call : Call} {user : User}
    (signedIn : call.currentUser s = some user) (unprivileged : user.role ≠ .librarian)
    : OwnEffect platform call s user (step platform s call) := by
  unfold step perform
  simp only [signedIn]
  split
  · exact .unchanged
  · next requested => exact Devise.ownEffect requested signedIn
  · exact SessionsController.ownEffect _
  · exact AccountsController.ownEffect _
  · exact BooksController.ownEffect _ unprivileged
  · next requested => exact BorrowingsController.ownEffect requested signedIn unprivileged
  · exact MembersController.ownEffect _ unprivileged
  · exact DashboardsController.ownEffect _ unprivileged

end LibraryManagement
