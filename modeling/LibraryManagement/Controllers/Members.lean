import LibraryManagement.Controllers.Http

/-! `app/controllers/members_controller.rb` and `app/controllers/accounts_controller.rb` -/

namespace LibraryManagement

open Relational

/-- What `member_params` and `account_params` permit; accounts permit no password. -/
structure UserParams where
  email : Param String := .absent
  password : Param String := .absent
  firstName : Param String := .absent
  lastName : Param String := .absent
  deriving DecidableEq, Repr

/-- Mass assignment of the permitted attributes. -/
def UserParams.assign (platform : Platform) (env : Env) (params : UserParams)
    (draft : User.Draft)
    : User.Draft :=
  let named := { draft with
    email := params.email.assign draft.email
    firstName := params.firstName.assign draft.firstName
    lastName := params.lastName.assign draft.lastName }
  match params.password with
  | .absent => named
  | .null => named.setPassword platform env none
  | .value password => named.setPassword platform env (some password)

-----------------------------------------------------------------------------------------
-- Members
-----------------------------------------------------------------------------------------

/-- The routes of `resources :members`; `member` is none where `params.require` raises. -/
inductive MembersRequest where
  | index (q : Option String) (page : Int)
  | new
  | create (member : Option UserParams)
  | «show» (id : Nat)
  | edit (id : Nat)
  | update (id : Nat) (member : Option UserParams)
  | destroy (id : Nat)
  deriving DecidableEq, Repr

namespace MembersController

/-- `User.search_by_name_or_email(query)` -/
def searchByNameOrEmail (platform : Platform) (query : String) (user : User) : Bool :=
  if blank query then
    true
  else
    let pattern := "%".toList ++ (strip query).toList ++ "%".toList
    let ilike := fun column : Option String =>
      column.any (fun text => like platform.fold pattern text.toList)
    ilike (some user.email) || ilike user.firstName || ilike user.lastName

def index (platform : Platform) (env : Env) (q : Option String) (page : Int) (s : Store)
    : List UserRecord :=
  let q := strip (q.getD "")
  let scope := s.users.rows.filter (fun user =>
    user.isMember && (if blank q then true else searchByNameOrEmail platform q user))
  let rows := orderBy (fun first second => second.createdAt ≤ first.createdAt)
    (fun user => env.tie user.id) scope
  (Relational.page perPage (pageNumber page) rows).map memberJson

/-- `User.member.find(params[:id])` -/
def setMember (s : Store) (id : Nat) : Option User := (s.users.find? id).filter User.isMember

def create (platform : Platform) (env : Env) (params : Option UserParams) (s : Store)
    : Outcome :=
  match params with
  | none => (parameterMissing, s)
  | some params =>
      let user := { params.assign platform env User.new with role := some Role.member }
      match user.create platform env s with
      | .stored (user, stored) => (⟨.created, .user (some (memberJson user))⟩, stored)
      | .invalid errors => (⟨.unprocessableEntity, .errors errors⟩, s)
      | .raised exception => (raised exception, s)

def update (platform : Platform) (env : Env) (member : User) (params : Option UserParams)
    (s : Store)
    : Outcome :=
  match params with
  | none => (parameterMissing, s)
  | some params =>
      match (params.assign platform env member.load).update platform env s member with
      | .stored (member, stored) => (⟨.ok, .user (some (memberJson member))⟩, stored)
      | .invalid errors => (⟨.unprocessableEntity, .errors errors⟩, s)
      | .raised exception => (raised exception, s)

def handle (platform : Platform) (env : Env) (format : Format) (currentUser : Option User)
    (request : MembersRequest) (s : Store)
    : Outcome :=
  match request with
  | .new | .edit _ => (actionNotFound, s)
  | .index q page =>
      authenticateUser format currentUser s (fun user =>
        requireLibrarian user s (⟨.ok, .users (index platform env q page s)⟩, s))
  | .«show» id =>
      authenticateUser format currentUser s (fun user =>
        requireLibrarian user s (setRecord (setMember s id) s (fun member =>
          (⟨.ok, .user (some (memberJson member))⟩, s))))
  | .create params =>
      authenticateUser format currentUser s (fun user =>
        requireLibrarian user s (create platform env params s))
  | .update id params =>
      authenticateUser format currentUser s (fun user =>
        requireLibrarian user s (setRecord (setMember s id) s (fun member =>
          update platform env member params s)))
  | .destroy id =>
      authenticateUser format currentUser s (fun user =>
        requireLibrarian user s (setRecord (setMember s id) s (fun member =>
          (⟨.noContent, .empty⟩, s.destroyUser member.id))))

end MembersController

-----------------------------------------------------------------------------------------
-- The account of the current user
-----------------------------------------------------------------------------------------

/-- The routes of `resource :account`. -/
inductive AccountsRequest where
  | «show»
  | update (user : Option UserParams)
  | password (currentPassword password passwordConfirmation : Param String)
  deriving DecidableEq, Repr

namespace AccountsController

/-- `permit(:first_name, :last_name, :email)` -/
def accountParams (params : UserParams) : UserParams := { params with password := .absent }

def update (platform : Platform) (env : Env) (currentUser : User) (params : Option UserParams)
    (s : Store)
    : Outcome :=
  match params with
  | none => (parameterMissing, s)
  | some params =>
      let draft := (accountParams params).assign platform env currentUser.load
      match draft.update platform env s currentUser with
      | .stored (user, stored) => (⟨.ok, .user (some (userJson user))⟩, stored)
      | .invalid errors => (recordInvalid errors, s)
      | .raised exception => (raised exception, s)

def password (platform : Platform) (env : Env) (currentUser : User)
    (currentPassword password passwordConfirmation : Param String) (s : Store)
    : Outcome :=
  if platform.validPassword currentUser.encryptedPassword (currentPassword.read.getD "") then
    let draft :=
      { currentUser.load.setPassword platform env password.read with
        passwordConfirmation := passwordConfirmation.read }
    match draft.update platform env s currentUser with
    | .stored (_, stored) => (⟨.ok, .ok⟩, stored)
    | .invalid errors => (recordInvalid errors, s)
    | .raised exception => (raised exception, s)
  else
    (⟨.unprocessableEntity, .error "Current password is incorrect"⟩, s)

def handle (platform : Platform) (env : Env) (format : Format) (currentUser : Option User)
    (request : AccountsRequest) (s : Store)
    : Outcome :=
  authenticateUser format currentUser s (fun user =>
    match request with
    | .«show» => (⟨.ok, .user (some (userJson user))⟩, s)
    | .update params => update platform env user params s
    | .password current given confirmation =>
        password platform env user current given confirmation s)

end AccountsController
end LibraryManagement
