import LibraryManagement.Controllers.Books
import LibraryManagement.Controllers.Borrowings
import LibraryManagement.Controllers.Dashboards
import LibraryManagement.Controllers.Members
import LibraryManagement.Controllers.Sessions
import LibraryManagement.Transition.Runs

/-! `config/routes.rb`: every route and the action it reaches. A request finds the store
that the previous one left.
-/

namespace LibraryManagement

inductive Request where
  | health
  | devise (request : DeviseRequest)
  | sessions (request : SessionsRequest)
  | account (request : AccountsRequest)
  | books (request : BooksRequest)
  | borrowings (request : BorrowingsRequest)
  | members (request : MembersRequest)
  | dashboard (request : DashboardRequest)
  deriving DecidableEq, Repr

/-- One HTTP request as its action sees it: with a valid CSRF token, and with the id of the user
whom its session, its salt compared, stands for. What comes before is in `Callbacks`.
-/
structure Call where
  env : Env
  session : Option Nat
  format : Format := .json
  request : Request

def Call.onDay (day : Int) (session : Option Nat) (request : Request) : Call where
  env := { now := day * microsecondsPerDay + microsecondsPerDay / 2, salt := "s", tie := id }
  session := session
  request := request

/-- `current_user`: the session's user, as long as its row exists. Whether the session still
carries the salt of that row has been checked by `Session.user`.
-/
def Call.currentUser (call : Call) (s : Store) : Option User := call.session.bind s.users.find?

/-- The action with the filters from `authenticate_user!` on; `receive` has run
`protect_from_forgery` before.
-/
def perform (platform : Platform) (s : Store) (call : Call) : Outcome :=
  let currentUser := call.currentUser s
  match call.request with
  | .health => (⟨.ok, .html⟩, s)
  | .devise request => Devise.handle platform call.env call.format currentUser request s
  | .sessions request =>
      SessionsController.handle platform call.env call.format currentUser request s
  | .account request =>
      AccountsController.handle platform call.env call.format currentUser request s
  | .books request => BooksController.handle platform call.env call.format currentUser request s
  | .borrowings request =>
      BorrowingsController.handle platform call.env call.format currentUser request s
  | .members request =>
      MembersController.handle platform call.env call.format currentUser request s
  | .dashboard request => DashboardsController.handle call.env call.format currentUser request s

-----------------------------------------------------------------------------------------
-- The actions that a signed-in user reaches
-----------------------------------------------------------------------------------------

/-- The session of a user whose row exists. -/
theorem Call.currentUser_eq_some {call : Call} {s : Store} {user : User}
    (known : user ∈ s.users.rows) (session : call.session = some user.id)
    : call.currentUser s = some user := by
  rw [currentUser, session]
  exact s.users.find?_of_mem known

section Actions

variable (platform : Platform) {s : Store} {call : Call} {user : User}
  (signedIn : call.currentUser s = some user)

include signedIn

theorem perform_listBooks {q : Option String} {page : Int}
    (requested : call.request = .books (.index q page))
    : perform platform s call
      = (BooksController.index platform call.env call.format user q page s, s) := by
  simp only [perform, requested, signedIn, BooksController.handle, authenticateUser]

variable (librarian : user.role = .librarian)

include librarian

/-- A librarian's writes reach their actions; each is its route and both filters. -/
theorem perform_createBook {params : Option BookParams}
    (requested : call.request = .books (.create params))
    : perform platform s call = BooksController.create platform call.env params s := by
  simp only [perform, requested, signedIn, BooksController.handle, authenticateUser,
    requireLibrarian, if_pos librarian]

theorem perform_updateBook {id : Nat} {params : Option BookParams}
    (requested : call.request = .books (.update id params))
    : perform platform s call
      = setRecord (s.books.find? id) s (fun book =>
          BooksController.update platform call.env book params s) := by
  simp only [perform, requested, signedIn, BooksController.handle, authenticateUser,
    requireLibrarian, if_pos librarian]

theorem perform_destroyBook {id : Nat} (requested : call.request = .books (.destroy id))
    : perform platform s call
      = setRecord (s.books.find? id) s (fun book => BooksController.destroy book s) := by
  simp only [perform, requested, signedIn, BooksController.handle, authenticateUser,
    requireLibrarian, if_pos librarian]

theorem perform_listMembers {q : Option String} {page : Int}
    (requested : call.request = .members (.index q page))
    : perform platform s call
      = (⟨.ok, .users (MembersController.index platform call.env q page s)⟩, s) := by
  simp only [perform, requested, signedIn, MembersController.handle, authenticateUser,
    requireLibrarian, if_pos librarian]

theorem perform_createMember {params : Option UserParams}
    (requested : call.request = .members (.create params))
    : perform platform s call = MembersController.create platform call.env params s := by
  simp only [perform, requested, signedIn, MembersController.handle, authenticateUser,
    requireLibrarian, if_pos librarian]

theorem perform_updateMember {id : Nat} {params : Option UserParams}
    (requested : call.request = .members (.update id params))
    : perform platform s call
      = setRecord (MembersController.setMember s id) s (fun member =>
          MembersController.update platform call.env member params s) := by
  simp only [perform, requested, signedIn, MembersController.handle, authenticateUser,
    requireLibrarian, if_pos librarian]

theorem perform_destroyMember {id : Nat} (requested : call.request = .members (.destroy id))
    : perform platform s call
      = setRecord (MembersController.setMember s id) s (fun member =>
          (⟨.noContent, .empty⟩, s.destroyUser member.id)) := by
  simp only [perform, requested, signedIn, MembersController.handle, authenticateUser,
    requireLibrarian, if_pos librarian]

end Actions

def step (platform : Platform) (s : Store) (call : Call) : Store := (perform platform s call).2

/-- The stores a run passes through, its start included. -/
abbrev reachedStores (platform : Platform) (s : Store) (calls : List Call) : List Store :=
  Transition.states (step platform) s calls

end LibraryManagement
