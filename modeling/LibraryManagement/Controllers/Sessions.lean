import LibraryManagement.Controllers.Http

/-! `app/controllers/sessions_controller.rb` and the Devise controllers that
`devise_for :users` draws.
-/

namespace LibraryManagement

open Relational

/-- The session routes of `config/routes.rb`. -/
inductive SessionsRequest where
  | create (email password : Option String)
  | preflight
  | destroy
  | current
  | csrf
  deriving DecidableEq, Repr

namespace SessionsController

/-- `User.find_for_authentication(email:)`; addresses are taken to have no null character. -/
def findForAuthentication (platform : Platform) (email : Option String) (s : Store)
    : Option User :=
  let email := strip (platform.downcase (email.getD ""))
  s.users.rows.find? (fun user => user.email == email)

def create (platform : Platform) (email password : Option String) (s : Store) : Response :=
  match findForAuthentication platform email s with
  | none => ⟨.unauthorized, .error "Invalid email or password"⟩
  | some user =>
      if platform.validPassword user.encryptedPassword (password.getD "") then
        ⟨.ok, .user (some (userJson user))⟩
      else
        ⟨.unauthorized, .error "Invalid email or password"⟩

/-- `sign_out` has Devise forget the user: the remember timestamp is cleared. -/
def forgetMe (env : Env) (user : User) (s : Store) : Store :=
  { s with
    users := s.users.update (fun row => row.id == user.id && row.rememberCreatedAt.isSome)
      ⟨fun row => { row with rememberCreatedAt := none, updatedAt := env.now }, fun _ => rfl⟩ }

def handle (platform : Platform) (env : Env) (format : Format) (currentUser : Option User)
    (request : SessionsRequest) (s : Store)
    : Outcome :=
  match request with
  | .create email password => (create platform email password s, s)
  | .preflight => (⟨.noContent, .empty⟩, s)
  | .destroy =>
      authenticateUser format currentUser s (fun user =>
        (⟨.noContent, .empty⟩, forgetMe env user s))
  | .current => (⟨.ok, .user (currentUser.map userJson)⟩, s)
  | .csrf => (⟨.ok, .empty⟩, s)

end SessionsController

namespace Devise

/-- The record `POST /users` saves: the permitted attributes on `User.new`. -/
def registration (platform : Platform) (env : Env)
    (email password passwordConfirmation : Option String)
    : User.Draft :=
  let assigned := { User.new with email := email.or User.new.email }
  { assigned.setPassword platform env password with
    passwordConfirmation := passwordConfirmation }

/-- `respond_with` a saved record: JSON without its password and its tokens, or a redirect. -/
def registered (format : Format) (user : User) : Response :=
  match format with
  | .json => ⟨.created, .user (some (memberJson user))⟩
  | .html => ⟨.seeOther, .empty⟩

/-- `respond_with` a record that is not valid: its errors as JSON, or the form once more. -/
def registrationInvalid (format : Format) (errors : List ModelError) : Response :=
  match format with
  | .json => ⟨.unprocessableEntity, .errors errors⟩
  | .html => ⟨.unprocessableEntity, .html⟩

@[simp]
theorem registrationInvalid_status (format : Format) (errors : List ModelError)
    : (registrationInvalid format errors).status = .unprocessableEntity := by
  cases format <;> rfl

/-- `registrations#create`, for a caller that `require_no_authentication` lets through. -/
def createRegistration (platform : Platform) (env : Env) (format : Format)
    (email password passwordConfirmation : Option String) (s : Store)
    : Outcome :=
  match (registration platform env email password passwordConfirmation).create platform env s with
  | .stored (user, stored) => (registered format user, stored)
  | .invalid errors => (registrationInvalid format errors, s)
  | .raised exception => (raised exception, s)

/-- Routes whose controllers start with `require_no_authentication`. -/
def requiresNoAuthentication : DeviseRequest → Bool
  | .newSession | .createSession .. | .newPassword | .editPassword | .createPassword _
  | .updatePassword .. | .newRegistration | .cancelRegistration | .createRegistration .. => true
  | .destroySession | .editRegistration | .updateRegistration .. | .destroyRegistration => false

/-- `require_no_authentication` turns signed-in callers away in navigational formats only. -/
def admits (format : Format) (currentUser : Option User) : Bool :=
  currentUser.isNone || format == .json

/-- Any other route that writes: the columns Devise decides on, in at most one row. -/
def write (platform : Platform) (env : Env) (format : Format) (currentUser : Option User)
    (request : DeviseRequest) (s : Store)
    : Outcome :=
  let answer := platform.deviseAnswer request env format currentUser s
  match platform.deviseWrite request env currentUser s with
  | none => (answer, s)
  | some (id, columns) => (answer, s.writeDeviseColumns id columns)

def handle (platform : Platform) (env : Env) (format : Format) (currentUser : Option User)
    (request : DeviseRequest) (s : Store)
    : Outcome :=
  let answer := platform.deviseAnswer request env format currentUser s
  if requiresNoAuthentication request && !admits format currentUser then
    (⟨.found, .empty⟩, s)
  else
    match request with
    | .newSession | .newPassword | .editPassword | .newRegistration | .cancelRegistration =>
        (answer, s)
    | .createRegistration email password confirmation =>
        createRegistration platform env format email password confirmation s
    | .createSession .. | .createPassword _ | .updatePassword .. | .destroySession =>
        write platform env format currentUser request s
    | .editRegistration => authenticateUser format currentUser s (fun _ => (answer, s))
    | .updateRegistration .. =>
        authenticateUser format currentUser s (fun user =>
          write platform env format (some user) request s)
    | .destroyRegistration =>
        authenticateUser format currentUser s (fun user => (answer, s.destroyUser user.id))

end Devise
end LibraryManagement
