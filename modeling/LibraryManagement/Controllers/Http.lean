import LibraryManagement.Server.OverdueService

/-! Parameters, renderings, and the filters that `ApplicationController` puts before an
action.
-/

namespace LibraryManagement

/-- A parameter that a request may leave out, and may set to null. -/
inductive Param (α : Type u) where
  | absent
  | null
  | value (given : α)
  deriving DecidableEq, Repr

/-- Mass assignment of one attribute: an absent parameter leaves it as it is. -/
def Param.assign (param : Param α) (current : Option α) : Option α :=
  match param with
  | .absent => current
  | .null => none
  | .value given => some given

/-- `params[:key]` -/
def Param.read (param : Param α) : Option α := param.assign none

/-- `errors.full_messages` -/
def fullMessages (errors : List ModelError) : List String :=
  errors.map (fun error =>
    if error.attr == "base" then error.message else humanize error.attr ++ " " ++ error.message)

/-- `only: [:id, :email, :first_name, :last_name]` -/
def nameJson (user : User) : UserRecord where
  id := user.id
  email := user.email
  firstName := user.firstName
  lastName := user.lastName

/-- `only: [:id, :email, :first_name, :last_name, :role]` -/
def userJson (user : User) : UserRecord := { nameJson user with role := some user.role }

/-- `only: [:id, :email, :first_name, :last_name, :role, :created_at, :updated_at]` -/
def memberJson (user : User) : UserRecord :=
  { userJson user with createdAt := some user.createdAt, updatedAt := some user.updatedAt }

/-- What an action answers and the store it leaves. -/
abbrev Outcome := Response × Store

def forbidden : Response := ⟨.forbidden, .error "Forbidden"⟩

/-- `rescue_from ActiveRecord::RecordNotFound` -/
def notFound : Response := ⟨.notFound, .error "Not Found"⟩

/-- `rescue_from ActiveRecord::RecordInvalid` -/
def recordInvalid (errors : List ModelError) : Response :=
  ⟨.unprocessableEntity, .details "Unprocessable Entity" (fullMessages errors)⟩

/-- An exception that no handler rescues. -/
def raised (exception : String) : Response := ⟨.internalServerError, .exception exception⟩

/-- `ActionController::ParameterMissing` -/
def parameterMissing : Response := ⟨.badRequest, .exception "ActionController::ParameterMissing"⟩

/-- A route whose controller does not define the action. -/
def actionNotFound : Response := ⟨.notFound, .exception "AbstractController::ActionNotFound"⟩

/-- `page = params[:page].to_i; page = 1 if page <= 0` -/
def pageNumber (page : Int) : Nat := if page ≤ 0 then 1 else page.toNat

def perPage : Nat := 25

theorem pageNumber_succ (index : Nat) : pageNumber ((index + 1 : Nat) : Int) = index + 1 := by
  rw [pageNumber, if_neg (by omega)]
  omega

/-- `respond_to`: its block has run and registered a response for each format it names,
and may have rendered already. The format of the request is looked up among the registered
ones only.
-/
def respondTo (format : Format) (rendered : Option Format)
    (registered : List (Format × Response))
    : Response :=
  match registered.find? (fun entry => entry.1 == format) with
  | none => ⟨.notAcceptable, .exception "ActionController::UnknownFormat"⟩
  | some (chosen, response) =>
      match rendered with
      | none => response
      | some earlier =>
          if earlier = chosen then
            raised "AbstractController::DoubleRenderError"
          else
            raised "ActionController::RespondToMismatchError"

/-- Devise's failure application: a message for JSON, a redirect for HTML. -/
def unauthenticated (format : Format) : Response :=
  match format with
  | .json => ⟨.unauthorized, .error "You need to sign in or sign up before continuing."⟩
  | .html => ⟨.found, .empty⟩

/-- `before_action :authenticate_user!` -/
def authenticateUser (format : Format) (currentUser : Option User) (s : Store)
    (action : User → Outcome)
    : Outcome :=
  match currentUser with
  | none => (unauthenticated format, s)
  | some user => action user

/-- `before_action :require_librarian!` -/
def requireLibrarian (user : User) (s : Store) (action : Outcome) : Outcome :=
  if user.role = .librarian then action else (forbidden, s)

/-- `before_action :set_...`, a `find` that raises `RecordNotFound`. -/
def setRecord (record : Option α) (s : Store) (action : α → Outcome) : Outcome :=
  match record with
  | none => (notFound, s)
  | some record => action record

end LibraryManagement
