import LibraryManagement.Controllers.Routes
import LibraryManagement.Transition.Simulation

/-! What runs before an action: the session of a request is looked up, and
`protect_from_forgery` asks for a token. Devise's controllers put filters of their own before
both.
-/

namespace LibraryManagement

open Transition

-----------------------------------------------------------------------------------------
-- Sessions
-----------------------------------------------------------------------------------------

/-- What signing in writes into the session: the user's id and `authenticatable_salt`. -/
structure Session where
  userId : Nat
  salt : String
  deriving DecidableEq, Repr

/-- `encrypted_password[0, 29]`: the version, the cost and the salt of a digest. -/
def authenticatableSalt (encryptedPassword : String) : String :=
  String.ofList (encryptedPassword.toList.take 29)

/-- `serialize_from_session` -/
def Session.user (session : Session) (s : Store) : Option User :=
  (s.users.find? session.userId).filter (fun user =>
    authenticatableSalt user.encryptedPassword == session.salt)

theorem Session.user_eq_some_iff {session : Session} {s : Store} {user : User}
    : session.user s = some user
      ↔ user ∈ s.users.rows ∧ user.id = session.userId
        ∧ authenticatableSalt user.encryptedPassword = session.salt := by
  rw [Session.user, Option.filter_eq_some_iff, s.users.find?_eq_some_iff, beq_iff_eq, and_assoc]
  rfl

-----------------------------------------------------------------------------------------
-- Requests as they come in
-----------------------------------------------------------------------------------------

/-- A request before any filter has run. A remembered user counts as the session that the
cookie opens: it compares the same salt.
-/
structure Incoming where
  env : Env
  session : Option Session
  /-- `valid_request_origin? && any_authenticity_token_valid?` -/
  tokenValid : Bool
  format : Format := .json
  request : Request

/-- The routes that `config/routes.rb` draws for `GET` and `OPTIONS`. -/
def Request.reads : Request → Bool
  | .health => true
  | .devise .newSession | .devise .newPassword | .devise .editPassword
  | .devise .newRegistration | .devise .cancelRegistration | .devise .editRegistration => true
  | .devise _ => false
  | .sessions .preflight | .sessions .current | .sessions .csrf => true
  | .sessions _ => false
  | .account .«show» => true
  | .account _ => false
  | .books (.index _ _) | .books .new | .books (.«show» _) | .books (.edit _) => true
  | .books _ => false
  | .borrowings (.index _) => true
  | .borrowings _ => false
  | .members (.index _ _) | .members .new | .members (.«show» _) | .members (.edit _) => true
  | .members _ => false
  | .dashboard .librarian | .dashboard .member => true
  | .dashboard .markOverdue => false

/-- `request.get?` -/
def Request.isGet (request : Request) : Bool :=
  request.reads && request != .sessions .preflight

namespace Incoming

/-- A JSON request with a token, at noon of a day. -/
def onDay (day : Int) (salt : String) (session : Option Session) (request : Request)
    : Incoming where
  env := { (Call.onDay day none request).env with salt := salt }
  session := session
  tokenValid := true
  request := request

def currentUser (incoming : Incoming) (s : Store) : Option User :=
  incoming.session.bind (fun session => session.user s)

/-- The request as the action sees it. -/
def call (incoming : Incoming) (s : Store) : Call where
  env := incoming.env
  session := (incoming.currentUser s).map User.id
  format := incoming.format
  request := incoming.request

/-- `verified_request?` -/
def verified (incoming : Incoming) : Bool := incoming.request.isGet || incoming.tokenValid

end Incoming

/-- The filters that Devise's controllers prepend answer the request: `require_no_authentication`,
`authenticate_scope!` and `verify_signed_out_user`.
-/
def Devise.answersFirst (format : Format) (currentUser : Option User) (request : DeviseRequest)
    : Bool :=
  if requiresNoAuthentication request then !admits format currentUser else currentUser.isNone

def Incoming.answeredFirst (incoming : Incoming) (s : Store) : Bool :=
  match incoming.request with
  | .devise request => Devise.answersFirst incoming.format (incoming.currentUser s) request
  | _ => false

/-- `protect_from_forgery with: :exception`; no handler of the application rescues it. -/
def invalidAuthenticityToken : Response :=
  ⟨.unprocessableEntity, .exception "ActionController::InvalidAuthenticityToken"⟩

/-- `protect_from_forgery` before `authenticate_user!` and the action; the filters that Devise
prepends come first of all.
-/
def receive (platform : Platform) (s : Store) (incoming : Incoming) : Outcome :=
  if incoming.verified || incoming.answeredFirst s then
    perform platform s (incoming.call s)
  else
    (invalidAuthenticityToken, s)

def arrive (platform : Platform) (s : Store) (incoming : Incoming) : Store :=
  (receive platform s incoming).2

/-- The stores that a run of incoming requests passes through. -/
abbrev arrivals (platform : Platform) (s : Store) (run : List Incoming) : List Store :=
  Transition.states (arrive platform) s run

-----------------------------------------------------------------------------------------
-- Incoming requests are requests
-----------------------------------------------------------------------------------------

section Receive

variable (platform : Platform) (s : Store) (incoming : Incoming)

/-- The action finds the user whom the session stands for. -/
theorem Incoming.currentUser_call : (incoming.call s).currentUser s = incoming.currentUser s := by
  cases session : incoming.session with
  | none => simp [call, Call.currentUser, currentUser, session]
  | some session' =>
      cases signedIn : session'.user s with
      | none => simp [call, Call.currentUser, currentUser, session, signedIn]
      | some user =>
          have present := (Session.user_eq_some_iff.mp signedIn).1
          simpa [call, Call.currentUser, currentUser, session, signedIn]
            using s.users.find?_of_mem present

/-- What an incoming request comes to: the action under its user, or nothing. -/
def Incoming.Means : Option Call → Prop
  | none => receive platform s incoming = (invalidAuthenticityToken, s)
  | some call => call = incoming.call s ∧ receive platform s incoming = perform platform s call

theorem exists_means : ∃ event, incoming.Means platform s event := by
  by_cases passes : incoming.verified || incoming.answeredFirst s
  · exact ⟨some (incoming.call s), rfl, if_pos passes⟩
  · exact ⟨none, if_neg passes⟩

variable {platform s incoming}

theorem arrive_of_means {event : Option Call} (means : incoming.Means platform s event)
    : arrive platform s incoming = visible (step platform) s event := by
  cases event with
  | none => exact congrArg Prod.snd means
  | some call => exact congrArg Prod.snd means.2

end Receive

/-- Every run of incoming requests is a run of requests, state by state: those without a token are
left out, all others reach their actions under the users whom their sessions stand for. By one
event for each incoming request.
-/
theorem arrivals_refine_requests (platform : Platform) (s : Store) (run : List Incoming)
    : ∃ events, Refines (arrive platform) (step platform) id
        (fun s incoming event => incoming.Means platform s event) (fun _ _ => True) s run
        events := by
  have steps : EachStep (arrive platform) (fun _ _ => True) s run :=
    .of_forall (fun _ _ => trivial) s run
  refine steps.exists_refines (fun _ => True) trivial (fun _ _ _ _ => trivial) ?_
  intro s incoming _ _
  obtain ⟨event, means⟩ := exists_means platform s incoming
  exact ⟨event, means, arrive_of_means means, fun _ _ => trivial⟩

/-- What requests reach is all that incoming requests reach. -/
theorem exists_reachedStores {platform : Platform} {s later : Store} {run : List Incoming}
    (reached : later ∈ arrivals platform s run)
    : ∃ calls, later ∈ reachedStores platform s calls := by
  obtain ⟨events, refines⟩ := arrivals_refine_requests platform s run
  have same := refines.states
  rw [List.map_id, id] at same
  rw [arrivals, same] at reached
  exact ⟨_, mem_states_reduceOption reached⟩

end LibraryManagement
