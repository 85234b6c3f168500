import LibraryManagement.Controllers.Routes

/-! `frontend/src/context/AuthContext.tsx` with the pages that call it, and the session it
follows. Several operations may be under way at a time: the server processes their requests
and the client receives the responses in any order.
-/

namespace LibraryManagement

/-- The state of the context; it starts with `{ user: null, loading: true }`. -/
structure AuthState where
  user : Option UserRecord := none
  loading : Bool := true
  error : Option String := none
  deriving DecidableEq, Repr

inductive AuthAction where
  | loading
  | loaded (user : Option UserRecord)
  | error (error : String)
  deriving DecidableEq, Repr

def reducer (state : AuthState) : AuthAction → AuthState
  | .loading => { state with loading := true, error := none }
  | .loaded user => { state with loading := false, user := user }
  | .error error => { state with loading := false, error := some error }

/-- The functions of `AuthProvider`, and the `saveProfile` of `pages/Account.tsx`. -/
inductive AuthOperation where
  | initialLoad
  | login (email password : String)
  | logout
  | refresh
  | saveProfile (firstName lastName email : String)
  deriving DecidableEq, Repr

/-- A response as the client sees it: axios rejects the promise unless the status is 2xx. -/
def Response.succeeded (response : Response) : Bool :=
  match response.status with
  | .ok | .created | .noContent => true
  | .found | .seeOther | .badRequest | .unauthorized | .forbidden | .notFound | .notAcceptable
  | .unprocessableEntity | .internalServerError => false

/-- `res.data?.user ?? null` -/
def Response.user (response : Response) : Option UserRecord :=
  match response.body with
  | .user user => user
  | _ => none

/-- `e?.response?.data?.error || e?.message || "Login failed"`, with the message that axios puts
into every rejection of a response.
-/
def Response.loginError (response : Response) : String :=
  let error := match response.body with
    | .error error | .details error _ => error
    | _ => ""
  if error = "" then
    "Request failed with status code " ++ toString response.status.code
  else
    error

namespace AuthOperation

/-- The request that decides the operation, after `ensureCsrfToken`. -/
def request : AuthOperation → Request
  | .initialLoad | .refresh => .sessions .current
  | .login email password => .sessions (.create (some email) (some password))
  | .logout => .sessions .destroy
  | .saveProfile firstName lastName email =>
      .account (.update (some {
        email := .value email, firstName := .value firstName, lastName := .value lastName }))

/-- What an operation dispatches when its response arrives; a saved profile calls `refresh`. -/
def dispatches (operation : AuthOperation) (response : Response) : Option AuthAction :=
  match operation with
  | .initialLoad | .refresh =>
      some (.loaded (if response.succeeded then response.user else none))
  | .login .. =>
      some (if response.succeeded then .loaded response.user else .error response.loginError)
  | .logout => some (.loaded none)
  | .saveProfile .. => if response.succeeded then some .loading else none

/-- `sign_in` and `sign_out` of the sessions controller. -/
def signs (operation : AuthOperation) (response : Response) (session : Option Nat)
    : Option Nat :=
  match operation with
  | .login .. => if response.succeeded then response.user.map UserRecord.id else session
  | .logout => if response.succeeded then none else session
  | .initialLoad | .refresh | .saveProfile .. => session

/-- The operation ends with a dispatch of `loaded` or of `error`. -/
def ends : AuthOperation → Bool
  | .saveProfile .. => false
  | .initialLoad | .login .. | .logout | .refresh => true

end AuthOperation

structure Answer where
  operation : AuthOperation
  response : Response
  deriving DecidableEq, Repr

/-- The user that the response tells the context about, if it tells of one or of none. -/
def Answer.carried (answer : Answer) : Option (Option UserRecord) :=
  match answer.operation.dispatches answer.response with
  | some (.loaded user) => some user
  | some .loading | some (.error _) | none => none

/-- The operation goes on with `refresh`, which needs no token. -/
def Answer.refreshes (answer : Answer) : Bool :=
  answer.operation.dispatches answer.response == some .loading

@[simp] theorem Answer.carried_login (email password : String) (response : Response)
    : carried ⟨.login email password, response⟩
      = if response.succeeded then some response.user else none := by
  cases succeeds : response.succeeded <;> simp [carried, AuthOperation.dispatches, succeeds]

@[simp] theorem Answer.carried_saveProfile (firstName lastName email : String)
    (response : Response)
    : carried ⟨.saveProfile firstName lastName email, response⟩ = none := by
  cases succeeds : response.succeeded <;> simp [carried, AuthOperation.dispatches, succeeds]

@[simp] theorem Answer.refreshes_saveProfile (firstName lastName email : String)
    (response : Response)
    : refreshes ⟨.saveProfile firstName lastName email, response⟩ = response.succeeded := by
  cases succeeds : response.succeeded <;> simp [refreshes, AuthOperation.dispatches, succeeds]

/-- The database and the session on the server, the context on the client, and the operations
that are waiting for a token, for the server and for their response. The session is held by the
server: a request changes it when it is processed, and not when its response is received.
`latest` is the user that the last response about one told of.
-/
structure SessionSystem where
  store : Store
  session : Option Nat
  auth : AuthState := {}
  preparing : List AuthOperation := [.initialLoad]
  sent : List AuthOperation := []
  answered : List Answer := []
  latest : Option UserRecord := none
  deriving DecidableEq

inductive SessionAction where
  /-- A button of the login page or of the account page. -/
  | press (operation : AuthOperation)
  /-- `ensureCsrfToken` returns. -/
  | csrf (index : Nat)
  | process (index : Nat) (env : Env)
  | receive (index : Nat)

namespace SessionSystem

/-- `current_user` as the session endpoints serve it. -/
def serverUser (system : SessionSystem) : Option UserRecord :=
  (system.session.bind system.store.users.find?).map userJson

/-- `App` renders no page while the context is loading, and the account page only for a user. -/
def offers (system : SessionSystem) : AuthOperation → Bool
  | .login .. => !system.auth.loading
  | .logout | .saveProfile .. => !system.auth.loading && system.auth.user.isSome
  | .initialLoad | .refresh => false

/-- The start of an operation; `saveProfile` leaves the context alone. -/
def start (system : SessionSystem) (operation : AuthOperation) : SessionSystem :=
  { system with
    auth := match operation with
      | .saveProfile .. => system.auth
      | .initialLoad | .login .. | .logout | .refresh => reducer system.auth .loading
    preparing := system.preparing ++ [operation] }

def serve (platform : Platform) (system : SessionSystem) (index : Nat)
    (operation : AuthOperation) (env : Env)
    : SessionSystem :=
  let call := { env := env, session := system.session, request := operation.request }
  let (response, store) := perform platform system.store call
  let answer := { operation := operation, response := response }
  { system with
    store := store
    session := operation.signs response system.session
    sent := system.sent.eraseIdx index
    answered := system.answered ++ [answer]
    latest := answer.carried.getD system.latest }

def settle (system : SessionSystem) (index : Nat) (answer : Answer) : SessionSystem :=
  { system with
    auth := ((answer.operation.dispatches answer.response).map (reducer system.auth)).getD
      system.auth
    sent := if answer.refreshes then system.sent ++ [.refresh] else system.sent
    answered := system.answered.eraseIdx index }

def step (platform : Platform) (system : SessionSystem) : SessionAction → SessionSystem
  | .press operation => if system.offers operation then system.start operation else system
  | .csrf index =>
      match system.preparing[index]? with
      | some operation =>
          { system with
            preparing := system.preparing.eraseIdx index
            sent := system.sent ++ [operation] }
      | none => system
  | .process index env =>
      match system.sent[index]? with
      | some operation => system.serve platform index operation env
      | none => system
  | .receive index =>
      match system.answered[index]? with
      | some answer => system.settle index answer
      | none => system

def Quiescent (system : SessionSystem) : Prop :=
  system.preparing = [] ∧ system.sent = [] ∧ system.answered = []

instance (system : SessionSystem) : Decidable system.Quiescent :=
  inferInstanceAs (Decidable (_ ∧ _))

end SessionSystem
end LibraryManagement
