import LibraryManagement.Lending.Consistency
import LibraryManagement.Controllers.Callbacks

/-! Which requests are refused, over all routes. The checks stand in filters with lists of
exceptions and inside actions; what follows collects them in one table of routes.
-/

namespace LibraryManagement

open Relational

/-- The route is behind `authenticate_user!`. -/
def Request.needsUser : Request → Bool
  | .health => false
  | .devise .editRegistration | .devise (.updateRegistration ..)
  | .devise .destroyRegistration => true
  | .devise _ => false
  | .sessions .destroy => true
  | .sessions _ => false
  | .account _ => true
  | .books .new | .books (.edit _) => false
  | .books _ => true
  | .borrowings _ => true
  | .members .new | .members (.edit _) => false
  | .members _ => true
  | .dashboard _ => true

/-- The role without which the action is not run. -/
def Request.role? : Request → Option Role
  | .books (.create _) | .books (.update _ _) | .books (.destroy _) => some .librarian
  | .borrowings (.returnBook _ _) => some .librarian
  | .members .new | .members (.edit _) => none
  | .members _ => some .librarian
  | .dashboard .librarian | .dashboard .markOverdue => some .librarian
  | .dashboard .member => some .member
  | _ => none

/-- The loan that `set_borrowing` looks up before the role is checked exists. -/
def Request.namesLoan (s : Store) : Request → Bool
  | .borrowings (.returnBook id _) => (s.borrowings.find? id).isSome
  | _ => true

def Request.answeredByDevise : Request → Bool
  | .devise (.createRegistration ..) => false
  | .devise _ => true
  | _ => false

/-- An answer of class 2xx or 3xx. -/
def HttpStatus.success : HttpStatus → Bool
  | .ok | .created | .noContent | .found | .seeOther => true
  | .badRequest | .unauthorized | .forbidden | .notFound | .notAcceptable
  | .unprocessableEntity | .internalServerError => false

/-- What an action may do to the store: nothing, or something it answers with success. -/
def Outcome.Honest (s : Store) (outcome : Outcome) : Prop :=
  outcome.2 = s ∨ outcome.1.status.success

section Filters

variable {s : Store}

/-- A filter refuses without a write, and otherwise is as honest as what it lets run. -/
theorem honest_authenticateUser {format : Format} {currentUser : Option User}
    {action : User → Outcome} (honest : ∀ user, Outcome.Honest s (action user))
    : Outcome.Honest s (authenticateUser format currentUser s action) := by
  cases currentUser with
  | none => exact Or.inl rfl
  | some user => exact honest user

theorem honest_requireLibrarian {user : User} {action : Outcome} (honest : Outcome.Honest s action)
    : Outcome.Honest s (requireLibrarian user s action) := by
  rw [requireLibrarian]
  split
  · exact honest
  · exact Or.inl rfl

theorem honest_setRecord {record : Option α} {action : α → Outcome}
    (honest : ∀ found, Outcome.Honest s (action found))
    : Outcome.Honest s (setRecord record s action) := by
  cases record with
  | none => exact Or.inl rfl
  | some found => exact honest found

theorem authenticateUser_store {format : Format} {currentUser : Option User}
    {action : User → Outcome} (unchanged : ∀ user, (action user).2 = s)
    : (authenticateUser format currentUser s action).2 = s := by
  cases currentUser with
  | none => rfl
  | some user => exact unchanged user

theorem requireLibrarian_store {user : User} {action : Outcome} (unchanged : action.2 = s)
    : (requireLibrarian user s action).2 = s := by
  rw [requireLibrarian]
  split
  · exact unchanged
  · rfl

theorem setRecord_store {record : Option α} {action : α → Outcome}
    (unchanged : ∀ found, (action found).2 = s)
    : (setRecord record s action).2 = s := by
  cases record with
  | none => rfl
  | some found => exact unchanged found

end Filters

-----------------------------------------------------------------------------------------
-- Writes and answers
-----------------------------------------------------------------------------------------

section Controllers

variable (platform : Platform) (env : Env) (format : Format) (currentUser : Option User)
  (s : Store)

/-- The actions on books write where they answer 201, 200 or 204, and nowhere else: each branch of
`save` that fails returns the store that it got.
-/
theorem BooksController.honest (request : BooksRequest)
    : Outcome.Honest s (handle platform env format currentUser request s) := by
  cases request with
  | new | edit id => exact Or.inl rfl
  | index q page => exact honest_authenticateUser (fun _ => Or.inl rfl)
  | «show» id => exact honest_authenticateUser (fun _ => honest_setRecord (fun _ => Or.inl rfl))
  | create params =>
      refine honest_authenticateUser (fun _ => honest_requireLibrarian ?_)
      cases params with
      | none => exact Or.inl rfl
      | some params =>
          simp only [create]
          split
          · exact Or.inr rfl
          · exact Or.inl rfl
          · exact Or.inl rfl
  | update id params =>
      refine honest_authenticateUser (fun _ => honest_requireLibrarian
        (honest_setRecord (fun book => ?_)))
      cases params with
      | none => exact Or.inl rfl
      | some params =>
          simp only [update]
          split
          · exact Or.inr rfl
          · exact Or.inl rfl
          · exact Or.inl rfl
  | destroy id =>
      exact honest_authenticateUser (fun _ => honest_requireLibrarian
        (honest_setRecord (fun _ => Or.inr rfl)))

/-- The same for borrowings: a refused loan and a return that a member asks for leave the store as
it was.
-/
theorem BorrowingsController.honest (request : BorrowingsRequest)
    : Outcome.Honest s (handle platform env format currentUser request s) := by
  cases request with
  | index params => exact honest_authenticateUser (fun _ => Or.inl rfl)
  | create bookId =>
      refine honest_authenticateUser (fun _ => honest_setRecord (fun book => ?_))
      simp only [create]
      split
      · exact Or.inr rfl
      · exact Or.inl rfl
      · exact Or.inl rfl
  | returnBook id comment =>
      refine honest_authenticateUser (fun _ => honest_setRecord (fun loan => ?_))
      rw [returnBook]
      split
      · exact Or.inl rfl
      · exact Or.inr rfl

/-- The same for members, behind the filter for librarians: what filters refuse writes nothing, and
a save that succeeds is not refused.
-/
theorem MembersController.honest (request : MembersRequest)
    : Outcome.Honest s (handle platform env format currentUser request s) := by
  cases request with
  | new | edit id => exact Or.inl rfl
  | index q page =>
      exact honest_authenticateUser (fun _ => honest_requireLibrarian (Or.inl rfl))
  | «show» id =>
      exact honest_authenticateUser (fun _ => honest_requireLibrarian
        (honest_setRecord (fun _ => Or.inl rfl)))
  | create params =>
      refine honest_authenticateUser (fun _ => honest_requireLibrarian ?_)
      cases params with
      | none => exact Or.inl rfl
      | some params =>
          simp only [create]
          split
          · exact Or.inr rfl
          · exact Or.inl rfl
          · exact Or.inl rfl
  | update id params =>
      refine honest_authenticateUser (fun _ => honest_requireLibrarian
        (honest_setRecord (fun member => ?_)))
      cases params with
      | none => exact Or.inl rfl
      | some params =>
          simp only [update]
          split
          · exact Or.inr rfl
          · exact Or.inl rfl
          · exact Or.inl rfl
  | destroy id =>
      exact honest_authenticateUser (fun _ => honest_requireLibrarian
        (honest_setRecord (fun _ => Or.inr rfl)))

/-- The same for the own account, where a wrong current password and an invalid record write
nothing.
-/
theorem AccountsController.honest (request : AccountsRequest)
    : Outcome.Honest s (handle platform env format currentUser request s) := by
  refine honest_authenticateUser (fun user => ?_)
  cases request with
  | «show» => exact Or.inl rfl
  | update params =>
      cases params with
      | none => exact Or.inl rfl
      | some params =>
          simp only [update]
          split
          · exact Or.inr rfl
          · exact Or.inl rfl
          · exact Or.inl rfl
  | password current given confirmation =>
      simp only [password]
      split
      · split
        · exact Or.inr rfl
        · exact Or.inl rfl
        · exact Or.inl rfl
      · exact Or.inl rfl

theorem DashboardsController.honest (request : DashboardRequest)
    : Outcome.Honest s (handle env format currentUser request s) := by
  refine honest_authenticateUser (fun user => ?_)
  cases request with
  | librarian | member => dsimp only; split <;> exact Or.inl rfl
  | markOverdue =>
      dsimp only
      split
      · exact Or.inl rfl
      · exact Or.inr rfl

theorem SessionsController.honest (request : SessionsRequest)
    : Outcome.Honest s (handle platform env format currentUser request s) := by
  cases request with
  | destroy => exact honest_authenticateUser (fun _ => Or.inr rfl)
  | create email password | preflight | current | csrf => exact Or.inl rfl

/-- A registration is saved and answered with success, or neither. -/
theorem Devise.honest_createRegistration (email password confirmation : Option String)
    : Outcome.Honest s
        (handle platform env format currentUser (.createRegistration email password confirmation)
          s) := by
  simp only [handle]
  split
  · exact Or.inl rfl
  · simp only [createRegistration]
    split
    · exact Or.inr (by cases format <;> rfl)
    · exact Or.inl rfl
    · exact Or.inl rfl

end Controllers

/-- Every action of the application either leaves the store alone or answers with success, by
cases on the controller its route reaches.
-/
theorem perform_honest (platform : Platform) (s : Store) {call : Call}
    (own : call.request.answeredByDevise = false)
    : Outcome.Honest s (perform platform s call) := by
  simp only [perform]
  split
  · exact Or.inl rfl
  · next request requested =>
    rw [requested] at own
    cases request with
    | createRegistration => exact Devise.honest_createRegistration platform _ _ _ s _ _ _
    | _ => cases own
  · exact SessionsController.honest platform _ _ _ s _
  · exact AccountsController.honest platform _ _ _ s _
  · exact BooksController.honest platform _ _ _ s _
  · exact BorrowingsController.honest platform _ _ _ s _
  · exact MembersController.honest platform _ _ _ s _
  · exact DashboardsController.honest _ _ _ s _

/-- Reading routes never write, route by route: neither the filters nor the actions behind them
touch the store.
-/
theorem step_of_reads (platform : Platform) {s : Store} {call : Call} (reads : call.request.reads)
    : step platform s call = s := by
  rw [step, perform]
  cases requested : call.request with
  | health => rfl
  | devise request =>
      rw [requested] at reads
      simp only [Devise.handle]
      split
      · rfl
      · cases request with
        | newSession | newPassword | editPassword | newRegistration | cancelRegistration => rfl
        | editRegistration => exact authenticateUser_store (fun _ => rfl)
        | createSession | createPassword | updatePassword | destroySession | updateRegistration
        | destroyRegistration | createRegistration => cases reads
  | sessions request =>
      rw [requested] at reads
      cases request with
      | destroy => cases reads
      | create email password | preflight | current | csrf => rfl
  | account request =>
      rw [requested] at reads
      cases request with
      | «show» => exact authenticateUser_store (fun _ => rfl)
      | update | password => cases reads
  | books request =>
      rw [requested] at reads
      cases request with
      | new | edit => rfl
      | index => exact authenticateUser_store (fun _ => rfl)
      | «show» => exact authenticateUser_store (fun _ => setRecord_store (fun _ => rfl))
      | create | update | destroy => cases reads
  | borrowings request =>
      rw [requested] at reads
      cases request with
      | index => exact authenticateUser_store (fun _ => rfl)
      | create | returnBook => cases reads
  | members request =>
      rw [requested] at reads
      cases request with
      | new | edit => rfl
      | index => exact authenticateUser_store (fun _ => requireLibrarian_store rfl)
      | «show» =>
          exact authenticateUser_store (fun _ => requireLibrarian_store
            (setRecord_store (fun _ => rfl)))
      | create | update | destroy => cases reads
  | dashboard request =>
      rw [requested] at reads
      cases request with
      | librarian | member =>
          refine authenticateUser_store (fun _ => ?_)
          dsimp only
          split <;> rfl
      | markOverdue => cases reads

/-- An answer that refuses a caller, or reads like one. -/
def Response.refuses : Response → Bool
  | ⟨.unauthorized, _⟩ | ⟨.forbidden, _⟩ | ⟨.unprocessableEntity, .exception _⟩ => true
  | _ => false

/-- The answer is none of the three that refuse a caller. -/
structure Response.Plain (response : Response) : Prop where
  session : response ≠ unauthenticated .json
  role : response ≠ forbidden
  token : response ≠ invalidAuthenticityToken

/-- An answer that does not read like a refusal is none of the three. -/
theorem Response.Plain.of_refuses {response : Response} (plain : response.refuses = false)
    : response.Plain := by
  constructor <;> rintro rfl <;> cases plain

/-- A JSON caller is refused for want of a session or of a role, and for nothing else. -/
structure Outcome.Guards (currentUser : Option User) (needsUser : Bool) (role? : Option Role)
    (namesLoan : Bool) (outcome : Outcome) : Prop where
  session : outcome.1 = unauthenticated .json ↔ needsUser ∧ currentUser = none
  role
    : outcome.1 = forbidden
      ↔ namesLoan ∧ ∃ user ∈ currentUser, ∃ role ∈ role?, user.role ≠ role
  token : outcome.1 ≠ invalidAuthenticityToken

section Guards

variable {currentUser : Option User} {s : Store}

/-- An action without filters whose answer is plain refuses nobody. -/
theorem guards_nobody {outcome : Outcome} (plain : outcome.1.Plain)
    : Outcome.Guards currentUser false none true outcome where
  session := by simp [plain.session]
  role := by simp [plain.role]
  token := plain.token

/-- `authenticate_user!` refuses a caller without a user, whatever the action is. -/
theorem guards_refused {needsUser : Bool} {role? : Option Role} (needs : needsUser)
    : Outcome.Guards none needsUser role? true (unauthenticated .json, s) where
  session := by simp [needs]
  role := by simp [unauthenticated, forbidden]
  token := by simp [unauthenticated, invalidAuthenticityToken]

/-- Behind `authenticate_user!` alone a plain action is refused for want of a user only. -/
theorem guards_user {action : User → Outcome} (plain : ∀ user, (action user).1.Plain)
    : Outcome.Guards currentUser true none true (authenticateUser .json currentUser s action) := by
  cases currentUser with
  | none => exact guards_refused rfl
  | some user =>
      constructor
      · simp [authenticateUser, (plain user).session]
      · simp [authenticateUser, (plain user).role]
      · exact (plain user).token

/-- A check of the role before the action, by a filter or by the action itself: it answers 403 to
users of the other role, and the action's own answers are plain.
-/
theorem guards_role {role : Role} {action : User → Outcome}
    (plain : ∀ user : User, user.role = role → (action user).1.Plain)
    (refused : ∀ user : User, user.role ≠ role → (action user).1 = forbidden)
    : Outcome.Guards currentUser true (some role) true
        (authenticateUser .json currentUser s action) := by
  cases currentUser with
  | none => exact guards_refused rfl
  | some user =>
      by_cases entitled : user.role = role
      · constructor
        · simp [authenticateUser, (plain user entitled).session]
        · simp [authenticateUser, (plain user entitled).role, entitled]
        · exact (plain user entitled).token
      · constructor
        · simp [authenticateUser, refused user entitled, unauthenticated, forbidden]
        · simp [authenticateUser, refused user entitled, entitled]
        · simp [authenticateUser, refused user entitled, forbidden, invalidAuthenticityToken]

/-- Behind both filters a plain action is refused for want of a user, and else for want of the role.
-/
theorem guards_librarian {action : User → Outcome} (plain : ∀ user, (action user).1.Plain)
    : Outcome.Guards currentUser true (some .librarian) true
        (authenticateUser .json currentUser s (fun user =>
          requireLibrarian user s (action user))) := by
  refine guards_role (fun user librarian => ?_) (fun user other => ?_)
  · rw [requireLibrarian, if_pos librarian]
    exact plain user
  · rw [requireLibrarian, if_neg other]

theorem plain_setRecord {record : Option α} {action : α → Outcome}
    (plain : ∀ found, (action found).1.Plain)
    : (setRecord record s action).1.Plain := by
  cases record with
  | none => exact .of_refuses rfl
  | some found => exact plain found

end Guards

section Controllers

variable (platform : Platform) (env : Env) (currentUser : Option User) (s : Store)

/-- Reading books asks for a user, writing them for a librarian; none of the actions answers with a
refusal of its own.
-/
theorem BooksController.guards (request : BooksRequest)
    : Outcome.Guards currentUser (Request.books request).needsUser (Request.books request).role?
        true (handle platform env .json currentUser request s) := by
  cases request with
  | new | edit => exact guards_nobody (.of_refuses rfl)
  | index => exact guards_user (fun _ => .of_refuses rfl)
  | «show» => exact guards_user (fun _ => plain_setRecord (fun _ => .of_refuses rfl))
  | create params =>
      refine guards_librarian (fun _ => ?_)
      cases params with
      | none => exact .of_refuses rfl
      | some params =>
          simp only [create]
          split <;> exact .of_refuses rfl
  | update id params =>
      refine guards_librarian (fun _ => plain_setRecord (fun book => ?_))
      cases params with
      | none => exact .of_refuses rfl
      | some params =>
          simp only [update]
          split <;> exact .of_refuses rfl
  | destroy id => exact guards_librarian (fun _ => plain_setRecord (fun _ => .of_refuses rfl))

/-- The loans ask for a user. `return_book` looks its loan up before it asks for the role, so only
callers who name a stored loan are answered 403.
-/
theorem BorrowingsController.guards (request : BorrowingsRequest)
    : Outcome.Guards currentUser (Request.borrowings request).needsUser
        (Request.borrowings request).role? ((Request.borrowings request).namesLoan s)
        (handle platform env .json currentUser request s) := by
  cases request with
  | index params =>
      refine guards_user (fun user => ?_)
      simp only [index]
      split <;> exact .of_refuses rfl
  | create bookId =>
      refine guards_user (fun _ => plain_setRecord (fun book => ?_))
      simp only [create]
      split <;> exact .of_refuses rfl
  | returnBook id comment =>
      cases found : s.borrowings.find? id with
      | none =>
          have same : (Request.borrowings (.returnBook id comment)).namesLoan s = false := by
            simp [Request.namesLoan, found]
          rw [same, handle, found]
          have plain : Outcome.Guards currentUser true none true
              (authenticateUser .json currentUser s (fun user =>
                setRecord (none : Option Borrowing) s (fun loan =>
                  returnBook env user loan comment s))) :=
            guards_user (fun _ => .of_refuses rfl)
          exact ⟨plain.session, by simpa using plain.role, plain.token⟩
      | some loan =>
          have same : (Request.borrowings (.returnBook id comment)).namesLoan s = true := by
            simp [Request.namesLoan, found]
          rw [same, handle, found]
          refine guards_role (fun user librarian => ?_) (fun user other => ?_)
          · rw [setRecord, returnBook, if_neg (not_not.mpr librarian)]
            exact .of_refuses rfl
          · rw [setRecord, returnBook, if_pos other]

/-- Every action on members asks for a librarian, before it looks for the member; the two routes
without an action ask for nobody.
-/
theorem MembersController.guards (request : MembersRequest)
    : Outcome.Guards currentUser (Request.members request).needsUser
        (Request.members request).role? true
        (handle platform env .json currentUser request s) := by
  cases request with
  | new | edit => exact guards_nobody (.of_refuses rfl)
  | index => exact guards_librarian (fun _ => .of_refuses rfl)
  | «show» => exact guards_librarian (fun _ => plain_setRecord (fun _ => .of_refuses rfl))
  | create params =>
      refine guards_librarian (fun _ => ?_)
      cases params with
      | none => exact .of_refuses rfl
      | some params =>
          simp only [create]
          split <;> exact .of_refuses rfl
  | update id params =>
      refine guards_librarian (fun _ => plain_setRecord (fun member => ?_))
      cases params with
      | none => exact .of_refuses rfl
      | some params =>
          simp only [update]
          split <;> exact .of_refuses rfl
  | destroy id => exact guards_librarian (fun _ => plain_setRecord (fun _ => .of_refuses rfl))

/-- The own account asks for a user, of either role. A wrong current password is answered 422, which
is neither of the refusals.
-/
theorem AccountsController.guards (request : AccountsRequest)
    : Outcome.Guards currentUser (Request.account request).needsUser
        (Request.account request).role? true
        (handle platform env .json currentUser request s) := by
  refine guards_user (fun user => ?_)
  cases request with
  | «show» => exact .of_refuses rfl
  | update params =>
      cases params with
      | none => exact .of_refuses rfl
      | some params =>
          simp only [update]
          split <;> exact .of_refuses rfl
  | password current given confirmation =>
      simp only [password]
      split
      · split <;> exact .of_refuses rfl
      · exact ⟨by simp [unauthenticated], by simp [forbidden], by simp [invalidAuthenticityToken]⟩

/-- Each dashboard asks for its role inside the action and the sweep for a librarian, with the
answer that the filter gives.
-/
theorem DashboardsController.guards (request : DashboardRequest)
    : Outcome.Guards currentUser (Request.dashboard request).needsUser
        (Request.dashboard request).role? true (handle env .json currentUser request s) := by
  cases request with
  | librarian =>
      refine guards_role (fun user entitled => ?_) (fun user other => ?_)
      · simp only [entitled, ne_eq, not_true, if_false]
        exact .of_refuses rfl
      · simp only [ne_eq, other, not_false_eq_true, if_true]
  | member =>
      refine guards_role (fun user entitled => ?_) (fun user other => ?_)
      · simp only [entitled, ne_eq, not_true, if_false]
        exact .of_refuses rfl
      · simp only [ne_eq, other, not_false_eq_true, if_true]
  | markOverdue =>
      refine guards_role (fun user entitled => ?_) (fun user other => ?_)
      · simp only [entitled, ne_eq, not_true, if_false, markOverdue]
        exact .of_refuses rfl
      · simp only [ne_eq, other, not_false_eq_true, if_true]

/-- Signing out asks for a user, the other session routes for nobody; a failed sign-in is answered
401 with a message of its own.
-/
theorem SessionsController.guards (request : SessionsRequest)
    : Outcome.Guards currentUser (Request.sessions request).needsUser
        (Request.sessions request).role? true
        (handle platform env .json currentUser request s) := by
  cases request with
  | destroy => exact guards_user (fun _ => .of_refuses rfl)
  | preflight | current | csrf => exact guards_nobody (.of_refuses rfl)
  | create email password =>
      refine guards_nobody ?_
      simp only [handle, create]
      split
      · exact ⟨by simp [unauthenticated], by simp [forbidden], by simp [invalidAuthenticityToken]⟩
      · split
        · exact .of_refuses rfl
        · exact ⟨by simp [unauthenticated], by simp [forbidden], by simp [invalidAuthenticityToken]⟩

/-- `POST /users` asks for nobody and has its own ways to refuse. -/
theorem Devise.guards_createRegistration (email password confirmation : Option String)
    : Outcome.Guards currentUser false none true
        (handle platform env .json currentUser (.createRegistration email password confirmation)
          s) := by
  refine guards_nobody ?_
  simp only [handle]
  split
  · exact .of_refuses rfl
  · simp only [createRegistration]
    split <;> exact .of_refuses rfl

end Controllers

/-- Over all routes that the application answers, a JSON request is answered 401 for want of a
session exactly where its route needs one and its session stands for nobody, and 403 exactly
where its user has another role than the route asks for: by cases on the controllers, each of
which runs the two checks or does not.
-/
theorem perform_guards (platform : Platform) (s : Store) {call : Call}
    (own : call.request.answeredByDevise = false) (json : call.format = .json)
    : Outcome.Guards (call.currentUser s) call.request.needsUser call.request.role?
        (call.request.namesLoan s) (perform platform s call) := by
  simp only [perform, json]
  cases requested : call.request with
  | health => exact guards_nobody (.of_refuses rfl)
  | devise request =>
      rw [requested] at own
      cases request with
      | createRegistration => exact Devise.guards_createRegistration platform _ _ s _ _ _
      | _ => cases own
  | sessions request => exact SessionsController.guards platform _ _ s request
  | account request => exact AccountsController.guards platform _ _ s request
  | books request => exact BooksController.guards platform _ _ s request
  | borrowings request => exact BorrowingsController.guards platform _ _ s request
  | members request => exact MembersController.guards platform _ _ s request
  | dashboard request => exact DashboardsController.guards _ _ s request

/-- Devise's routes that need a user turn callers away who have none, as `authenticate_user!` does
on the others, and nothing is written.
-/
theorem perform_needsUser (platform : Platform) {s : Store} {call : Call}
    (needs : call.request.needsUser) (nobody : call.currentUser s = none)
    : perform platform s call = (unauthenticated call.format, s) := by
  simp only [perform, nobody]
  cases requested : call.request with
  | devise request =>
      rw [requested] at needs
      cases request <;> first | rfl | cases needs
  | health => rw [requested] at needs; cases needs
  | sessions request => rw [requested] at needs; cases request <;> first | rfl | cases needs
  | account request => rfl
  | books request => rw [requested] at needs; cases request <;> first | rfl | cases needs
  | borrowings request => cases request <;> rfl
  | members request => rw [requested] at needs; cases request <;> first | rfl | cases needs
  | dashboard request => rfl

-----------------------------------------------------------------------------------------
-- Incoming requests
-----------------------------------------------------------------------------------------

/-- Who is refused, among the JSON callers of the routes that the application answers. -/
structure Incoming.Refusals (platform : Platform) (s : Store) (incoming : Incoming) : Prop where
  token : (receive platform s incoming).1 = invalidAuthenticityToken ↔ ¬incoming.verified
  session
    : (receive platform s incoming).1 = unauthenticated .json
      ↔ incoming.verified ∧ incoming.request.needsUser ∧ incoming.currentUser s = none
  role
    : (receive platform s incoming).1 = forbidden
      ↔ incoming.verified ∧ incoming.request.namesLoan s
        ∧ ∃ user ∈ incoming.currentUser s, ∃ role ∈ incoming.request.role?, user.role ≠ role
  unchanged
    : (receive platform s incoming).1.status.success = false → (receive platform s incoming).2 = s

/-- Devise answers none of these before the token is looked at. -/
theorem answeredFirst_of_own {incoming : Incoming} (s : Store)
    (own : incoming.request.answeredByDevise = false) (json : incoming.format = .json)
    : incoming.answeredFirst s = false := by
  rw [Incoming.answeredFirst]
  split
  · next request requested =>
    rw [requested] at own
    cases request with
    | createRegistration =>
        simp [Devise.answersFirst, Devise.requiresNoAuthentication, Devise.admits, json]
    | _ => cases own
  · rfl

/-- An incoming request of the application's own routes is refused for want of a token before
anything else is looked at; with one it is answered as its action answers.
-/
theorem receive_refusals (platform : Platform) (s : Store) {incoming : Incoming}
    (own : incoming.request.answeredByDevise = false) (json : incoming.format = .json)
    : incoming.Refusals platform s := by
  have first := answeredFirst_of_own s own json
  cases verified : incoming.verified with
  | false =>
      have refused : receive platform s incoming = (invalidAuthenticityToken, s) := by
        rw [receive, verified, first]
        exact if_neg Bool.false_ne_true
      constructor
      · simp [refused, verified]
      · simp [refused, verified, invalidAuthenticityToken, unauthenticated]
      · simp [refused, verified, invalidAuthenticityToken, forbidden]
      · exact fun _ => congrArg Prod.snd refused
  | true =>
      have performed : receive platform s incoming = perform platform s (incoming.call s) := by
        rw [receive, verified]
        exact if_pos rfl
      have guards := @perform_guards platform s (incoming.call s) own json
      rw [Incoming.currentUser_call] at guards
      constructor
      · simp [performed, guards.token, verified]
      · rw [performed, guards.session, verified, eq_self, true_and]
        rfl
      · rw [performed, guards.role, verified, eq_self, true_and]
        rfl
      · intro failed
        rw [performed] at failed ⊢
        rcases @perform_honest platform s (incoming.call s) own with same | success
        · exact same
        · exact absurd success (failed ▸ Bool.false_ne_true)

/-- Over all routes: a JSON request to the application is refused for want of a token, of a user
or of a role exactly where its route asks for what it lacks, in this order, and then changes
nothing; Devise's own routes that need a user turn away who has none before they look at the token.
By the two checks that each controller runs, and the token's before them.
-/
theorem access_matrix (platform : Platform) (s : Store) (incoming : Incoming)
    : (incoming.request.answeredByDevise = false → incoming.format = .json
        → incoming.Refusals platform s)
      ∧ (incoming.request.answeredByDevise → incoming.request.needsUser
        → incoming.currentUser s = none
        → receive platform s incoming = (unauthenticated incoming.format, s)) := by
  refine ⟨receive_refusals platform s, fun devise needs nobody => ?_⟩
  have first : incoming.answeredFirst s := by
    rw [Incoming.answeredFirst]
    split
    · next request requested =>
      rw [requested] at needs
      rw [nobody]
      cases request <;> first | rfl | cases needs
    · next other =>
      cases requested : incoming.request with
      | devise request => exact absurd requested (other request)
      | _ => rw [requested] at devise; cases devise
  rw [receive, first, Bool.or_true, if_pos rfl]
  exact perform_needsUser platform needs ((incoming.currentUser_call s).trans nobody)

/-- The sweep, asked for by a member with a token and without, and by a caller without a session:
three different refusals.
-/
theorem access_matrix_sample
    : let s := Database.sample.store
      let sweep : Incoming := .onDay 0 "t" (some ⟨2, "s$password123"⟩) (.dashboard .markOverdue)
      (receive .ascii s sweep).1 = forbidden
      ∧ (receive .ascii s { sweep with tokenValid := false }).1 = invalidAuthenticityToken
      ∧ (receive .ascii s { sweep with session := none }).1 = unauthenticated .json := by
  intro s sweep
  have refusals (incoming : Incoming) (own : incoming.request.answeredByDevise = false)
      (json : incoming.format = .json)
      : incoming.Refusals .ascii s :=
    (access_matrix .ascii s incoming).1 own json
  refine ⟨?_, ?_, ?_⟩
  · exact (refusals sweep rfl rfl).role.mpr (by decide)
  · exact (refusals { sweep with tokenValid := false } rfl rfl).token.mpr (by decide)
  · exact (refusals { sweep with session := none } rfl rfl).session.mpr (by decide)

end LibraryManagement
