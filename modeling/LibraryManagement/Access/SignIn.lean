import LibraryManagement.Access.Accounts

/-! Signing in. Every run of requests is a run of the register of accounts, and `POST /session`
answers by it; so an account opens with the password that was set for it last.
-/

namespace LibraryManagement

open Relational Transition Registry

-----------------------------------------------------------------------------------------
-- Whole requests
-----------------------------------------------------------------------------------------

section Filters

variable {s : Store} {holds : Store → Prop} (unchanged : holds s)

include unchanged

/-- A filter lets the action run or leaves the store as it is. -/
theorem authenticateUser_holds {format : Format} {currentUser : Option User}
    {action : User → Outcome} (runs : ∀ user, currentUser = some user → holds (action user).2)
    : holds (authenticateUser format currentUser s action).2 := by
  cases currentUser with
  | none => exact unchanged
  | some user => exact runs user rfl

theorem requireLibrarian_holds {user : User} {action : Outcome}
    (runs : user.role = .librarian → holds action.2)
    : holds (requireLibrarian user s action).2 := by
  rw [requireLibrarian]
  split
  · next librarian => exact runs librarian
  · exact unchanged

theorem setRecord_holds {record : Option α} {action : α → Outcome}
    (runs : ∀ found, record = some found → holds (action found).2)
    : holds (setRecord record s action).2 := by
  cases record with
  | none => exact unchanged
  | some found => exact runs found rfl

end Filters

section UsersKept

variable (platform : Platform) (s : Store) (call : Call)

/-- The actions on books do not touch the users table: what they save is a book, what they delete
are books and loans.
-/
theorem BooksController.users_kept (request : BooksRequest)
    : (handle platform call.env call.format (call.currentUser s) request s).2.users
      = s.users := by
  let holds : Store → Prop := fun after => after.users = s.users
  have unchanged : holds s := rfl
  cases request with
  | new | edit id => exact unchanged
  | index q page => exact authenticateUser_holds unchanged (fun _ _ => unchanged)
  | «show» id =>
      exact authenticateUser_holds unchanged (fun _ _ => setRecord_holds unchanged (fun _ _ =>
        unchanged))
  | create params =>
      refine authenticateUser_holds unchanged (fun _ _ => requireLibrarian_holds unchanged
        (fun _ => ?_))
      cases params with
      | none => exact unchanged
      | some params =>
          simp only [create]
          split
          · next saved =>
            obtain ⟨_, _, _, rfl⟩ := Book.Draft.create_stored saved
            exact unchanged
          · exact unchanged
          · exact unchanged
  | update id params =>
      refine authenticateUser_holds unchanged (fun _ _ => requireLibrarian_holds unchanged
        (fun _ => setRecord_holds unchanged (fun _ _ => ?_)))
      cases params with
      | none => exact unchanged
      | some params =>
          simp only [update]
          split
          · next saved =>
            obtain ⟨_, _, _, rfl⟩ := Book.Draft.update_stored saved
            exact unchanged
          · exact unchanged
          · exact unchanged
  | destroy id =>
      exact authenticateUser_holds unchanged (fun _ _ => requireLibrarian_holds unchanged
        (fun _ => setRecord_holds unchanged (fun _ _ => unchanged)))

/-- Nor do those on borrowings, whatever becomes of the loan. -/
theorem BorrowingsController.users_kept (request : BorrowingsRequest)
    : (handle platform call.env call.format (call.currentUser s) request s).2.users
      = s.users := by
  let holds : Store → Prop := fun after => after.users = s.users
  have unchanged : holds s := rfl
  cases request with
  | index params => exact authenticateUser_holds unchanged (fun _ _ => unchanged)
  | create id =>
      refine authenticateUser_holds unchanged (fun _ _ => setRecord_holds unchanged (fun _ _ => ?_))
      simp only [create, Borrowing.Draft.create!]
      split
      · next saved =>
        split at saved
        · injection saved with same
          obtain ⟨_, rfl⟩ := Prod.mk.inj same
          exact unchanged
        · contradiction
      · exact unchanged
      · exact unchanged
  | returnBook id comment =>
      refine authenticateUser_holds unchanged (fun _ _ => setRecord_holds unchanged (fun _ _ => ?_))
      rw [returnBook]
      split <;> exact unchanged

theorem DashboardsController.users_kept (request : DashboardRequest)
    : (handle call.env call.format (call.currentUser s) request s).2.users = s.users := by
  let holds : Store → Prop := fun after => after.users = s.users
  have unchanged : holds s := rfl
  refine authenticateUser_holds unchanged (fun _ _ => ?_)
  cases request with
  | librarian | member =>
      dsimp only
      split <;> exact unchanged
  | markOverdue =>
      dsimp only
      split
      · exact unchanged
      · simp only [markOverdue, OverdueService.markOverdueBooks_store]
        exact unchanged

end UsersKept

section Controllers

variable {platform : Platform} {accepted : String → Set String} {database : Database} {call : Call}

theorem BooksController.writes (request : BooksRequest)
    : call.Writes platform accepted database
        (handle platform call.env call.format (call.currentUser database.store) request
          database.store).2 :=
  .of_users (users_kept platform database.store call request)

theorem BorrowingsController.writes (request : BorrowingsRequest)
    : call.Writes platform accepted database
        (handle platform call.env call.format (call.currentUser database.store) request
          database.store).2 :=
  .of_users (users_kept platform database.store call request)

theorem DashboardsController.writes (request : DashboardRequest)
    : call.Writes platform accepted database
        (handle call.env call.format (call.currentUser database.store) request
          database.store).2 :=
  .of_users (users_kept database.store call request)

/-- Signing in and out keeps every account: forgetting a user writes no column that the register
holds.
-/
theorem SessionsController.writes (request : SessionsRequest)
    : call.Writes platform accepted database
        (handle platform call.env call.format (call.currentUser database.store) request
          database.store).2 := by
  have unchanged : call.Writes platform accepted database database.store := .of_users rfl
  cases request with
  | create email password | preflight | current | csrf => exact unchanged
  | destroy =>
      refine authenticateUser_holds unchanged (fun user _ => ?_)
      refine ⟨none, .nothing, ?_, fun _ absent => absurd absent (Option.not_mem_none _)⟩
      funext id
      simp only [Store.accounts, forgetMe, Table.find?_update, Option.map_map, visible_none,
        Database.register]
      congr 1
      funext row
      simp only [Function.comp_apply]
      split <;> rfl

variable (verifies : platform.Verifies accepted call.env.salt)

include verifies

/-- An action on members is an event of the register: by cases on the action, creating enrols an
account, saving revises one, deleting closes one, and whatever is refused or only read is none.
-/
theorem MembersController.writes {request : MembersRequest}
    (requested : call.request = .members request)
    : call.Writes platform accepted database
        (handle platform call.env call.format (call.currentUser database.store) request
          database.store).2 := by
  have unchanged : call.Writes platform accepted database database.store := .of_users rfl
  cases request with
  | new | edit id => exact unchanged
  | index q page =>
      exact authenticateUser_holds unchanged (fun _ _ => requireLibrarian_holds unchanged
        (fun _ => unchanged))
  | «show» id =>
      exact authenticateUser_holds unchanged (fun _ _ => requireLibrarian_holds unchanged
        (fun _ => setRecord_holds unchanged (fun _ _ => unchanged)))
  | create params =>
      refine authenticateUser_holds unchanged (fun _ signedIn => requireLibrarian_holds unchanged
        (fun librarian => ?_))
      cases params with
      | none => exact unchanged
      | some params =>
          rcases create_becomes verifies params with refused | ⟨_, given, becomes⟩
          · exact .of_users (congrArg Store.users refused.2)
          · exact becomes.writes (.createMember signedIn librarian requested given)
  | update id params =>
      refine authenticateUser_holds unchanged (fun _ signedIn => requireLibrarian_holds unchanged
        (fun librarian => setRecord_holds unchanged (fun member found => ?_)))
      obtain ⟨known, isMember⟩ := mem_of_setMember found
      have key : member.id = id :=
        ((Table.find?_eq_some_iff _).mp (Option.filter_eq_some_iff.mp found).1).2
      subst key
      cases params with
      | none => exact unchanged
      | some params =>
          rcases update_becomes verifies known params with refused | becomes
          · exact .of_users (congrArg Store.users refused.2)
          · exact becomes.writes (.updateMember signedIn librarian isMember requested)
  | destroy id =>
      refine authenticateUser_holds unchanged (fun _ signedIn => requireLibrarian_holds unchanged
        (fun librarian => setRecord_holds unchanged (fun member found => ?_)))
      obtain ⟨known, isMember⟩ := mem_of_setMember found
      have key : member.id = id :=
        ((Table.find?_eq_some_iff _).mp (Option.filter_eq_some_iff.mp found).1).2
      exact (database.becomes_destroyUser known).writes
        (.close signedIn (Or.inl ⟨librarian, isMember, key ▸ requested⟩))

/-- The same for the own account, where saving and changing the password revise it, unless they are
refused.
-/
theorem AccountsController.writes {request : AccountsRequest}
    (requested : call.request = .account request)
    : call.Writes platform accepted database
        (handle platform call.env call.format (call.currentUser database.store) request
          database.store).2 := by
  have unchanged : call.Writes platform accepted database database.store := .of_users rfl
  refine authenticateUser_holds unchanged (fun user signedIn => ?_)
  have known := Call.mem_of_currentUser signedIn
  cases request with
  | «show» => exact unchanged
  | update params =>
      cases params with
      | none => exact unchanged
      | some params =>
          rcases update_becomes verifies known params with refused | becomes
          · exact .of_users (congrArg Store.users refused.2)
          · exact becomes.writes (.updateAccount signedIn requested)
  | password current given confirmation =>
      rcases password_becomes verifies known current given confirmation with
        refused | ⟨right, becomes⟩
      · exact .of_users (congrArg Store.users refused.2)
      · exact becomes.writes (.changePassword signedIn right requested)

/-- The same for Devise: a registration enrols an account, deleting one closes it, and every other
write is a revision of the row that Devise names.
-/
theorem Devise.writes {request : DeviseRequest} (requested : call.request = .devise request)
    : call.Writes platform accepted database
        (handle platform call.env call.format (call.currentUser database.store) request
          database.store).2 := by
  have unchanged : call.Writes platform accepted database database.store := .of_users rfl
  have written : call.Writes platform accepted database
      (write platform call.env call.format (call.currentUser database.store) request
        database.store).2 := by
    simp only [write]
    split
    · exact unchanged
    · next written => exact .devise requested written
  simp only [handle]
  split
  · exact unchanged
  · next through =>
    cases request with
    | newSession | newPassword | editPassword | newRegistration | cancelRegistration =>
        exact unchanged
    | createSession | createPassword | updatePassword | destroySession => exact written
    | editRegistration => exact authenticateUser_holds unchanged (fun _ _ => unchanged)
    | updateRegistration =>
        exact authenticateUser_holds unchanged (fun _ signedIn => signedIn ▸ written)
    | destroyRegistration =>
        exact authenticateUser_holds unchanged (fun user signedIn =>
          (database.becomes_destroyUser (Call.mem_of_currentUser signedIn)).writes
            (.close signedIn (Or.inr ⟨rfl, requested⟩)))
    | createRegistration email password confirmation =>
        have admitted : admits call.format (call.currentUser database.store) := by
          simpa [requiresNoAuthentication] using through
        rcases createRegistration_becomes verifies call.format email password confirmation with
          refused | ⟨_, rfl, becomes⟩
        · exact .of_users (congrArg Store.users refused.2)
        · exact becomes.writes (.register admitted requested)

/-- A request is one event of the register, or none, by the controller it goes to; the event is one
that the request entitles to.
-/
theorem Database.step_refines
    : ∃ event, RefinesStep (Database.step platform) Register.apply (Database.register platform)
        (fun database call => call.Registers platform accepted database) Register.Allows database
        call event := by
  have written : call.Writes platform accepted database
      (LibraryManagement.step platform database.store call) := by
    rw [LibraryManagement.step, perform]
    split
    · exact .of_users rfl
    · next requested => exact Devise.writes verifies requested
    · exact SessionsController.writes _
    · next requested => exact AccountsController.writes verifies requested
    · exact BooksController.writes _
    · exact BorrowingsController.writes _
    · next requested => exact MembersController.writes verifies requested
    · exact DashboardsController.writes _
  obtain ⟨event, labels, commutes, allowed⟩ := written
  exact ⟨event, labels, Register.ext commutes, allowed⟩

end Controllers

-----------------------------------------------------------------------------------------
-- Signing in
-----------------------------------------------------------------------------------------

/-- The account that an answer to `POST /session` signs in. -/
def Response.signedIn : Response → Option Nat
  | ⟨.ok, .user (some record)⟩ => some record.id
  | _ => none

/-- `POST /session` signs in the account that the register opens, and refuses where there is
none.
-/
def Database.AnswersSignIn (platform : Platform) (database : Database) (call : Call)
    (email password : Option String)
    : Prop :=
  let answer := (perform platform database.store call).1
  (∀ id, answer.signedIn = some id
    ↔ (database.register platform).Opens (platform.normalize (email.getD "")) (password.getD "") id)
  ∧ (answer.signedIn = none ↔ answer = ⟨.unauthorized, .error "Invalid email or password"⟩)

/-- The register opens an account for a name and a phrase exactly where a row has that address and a
digest that lets the phrase pass.
-/
theorem Database.opens_iff {platform : Platform} {database : Database} {name phrase : String}
    {id : Nat}
    : (database.register platform).Opens name phrase id
      ↔ ∃ user ∈ database.store.users.rows, user.id = id ∧ user.email = name
          ∧ platform.validPassword user.encryptedPassword phrase := by
  constructor
  · rintro ⟨_, here, named, opens⟩
    obtain ⟨user, found, rfl⟩ := Option.map_eq_some_iff.mp here
    obtain ⟨member, key⟩ := (Table.find?_eq_some_iff _).mp found
    exact ⟨user, member, key, named, opens⟩
  · rintro ⟨user, member, rfl, named, opens⟩
    exact ⟨_, database.accounts_of_mem member, named, opens⟩

/-- `POST /session` answers by the register: the lookup by the normalized address finds the only row
that has it, by the unique index, and the digest decides.
-/
theorem Database.answersSignIn (platform : Platform) (database : Database) {call : Call}
    {email password : Option String}
    (requested : call.request = .sessions (.create email password))
    : database.AnswersSignIn platform call email password := by
  have performed : (perform platform database.store call).1
      = SessionsController.create platform email password database.store := by
    simp only [perform, requested, SessionsController.handle]
  simp only [AnswersSignIn, performed, opens_iff, SessionsController.create,
    SessionsController.findForAuthentication]
  rw [show strip (platform.downcase (email.getD "")) = platform.normalize (email.getD "") from rfl]
  cases found : database.store.users.rows.find? (fun user =>
      user.email == platform.normalize (email.getD "")) with
  | none =>
      have nobody := List.find?_eq_none.mp found
      simp only [beq_iff_eq] at nobody
      simp only [Response.signedIn, reduceCtorEq, false_iff, and_true]
      rintro id ⟨user, member, -, named, -⟩
      exact nobody user member named
  | some user =>
      have member := List.mem_of_find?_eq_some found
      have named : user.email = platform.normalize (email.getD "") := by
        simpa using List.find?_some found
      have only : ∀ other ∈ database.store.users.rows,
          other.email = platform.normalize (email.getD "") → other = user := by
        intro other present same
        exact database.store.users.eq_of_key_eq present member
          (database.consistent.emails other present user member (same.trans named.symm))
      dsimp only
      split
      · next right =>
        simp only [Response.signedIn, Option.some.injEq, userJson, nameJson, reduceCtorEq,
          Response.mk.injEq, false_and, and_true]
        intro id
        constructor
        · rintro rfl
          exact ⟨user, member, rfl, named, right⟩
        · rintro ⟨other, present, rfl, same, -⟩
          exact congrArg User.id (only other present same).symm
      · next wrong =>
        simp only [Response.signedIn, reduceCtorEq, false_iff, and_true]
        rintro id ⟨other, present, -, same, opens⟩
        exact wrong (only other present same ▸ opens)

/-- On the sample platform a password is accepted alone. -/
theorem Platform.ascii_verifies_salt : Platform.ascii.Verifies (fun given => {given}) "s" := by
  intro given
  ext attempt
  have same : Platform.ascii.validPassword (Platform.ascii.digest "s" given) attempt
      ↔ given = attempt := by
    simp [ascii, String.toList_inj]
  exact same.trans eq_comm

/-- The account, the address and the password that a request sets if it is accepted. -/
def Call.sets (call : Call) (s : Store) : Option (Nat × String × String) :=
  match call.request with
  | .devise (.createRegistration email password _) =>
      password.map (fun given => (s.users.nextKey, email.getD "", given))
  | .members (.create (some params)) =>
      params.password.read.map (fun given =>
        (s.users.nextKey, (params.email.assign (some "")).getD "", given))
  | .members (.update id (some params)) =>
      (MembersController.setMember s id).bind (fun member =>
        params.password.read.map (fun given =>
          (member.id, (params.email.assign (some member.email)).getD "", given)))
  | .account (.password _ password _) =>
      (call.currentUser s).bind (fun user =>
        password.read.map (fun given => (user.id, user.email, given)))
  | _ => none

def Call.mayRewrite (platform : Platform) (s : Store) (id : Nat) (call : Call) : Bool :=
  match call.request with
  | .account (.update _) | .account (.password _ _ _) =>
      (call.currentUser s).any (fun user => user.id == id)
  | .members (.update member _) | .members (.destroy member) => member == id
  | .devise request =>
      (request == .destroyRegistration && (call.currentUser s).any (fun user => user.id == id))
      || (platform.deviseWrite request call.env (call.currentUser s) s).any
        (fun written => written.1 == id)
  | _ => false

section Last

variable {platform : Platform} {accepted : String → Set String} {database : Database} {call : Call}

/-- An account that is enrolled stands under its id. -/
theorem Database.Becomes.enrolled {id : Nat} {account : Account String String} {s' : Store}
    (becomes : database.Becomes platform (.enrol id account) s')
    : s'.accounts platform id = some account := by
  rw [becomes.accounts, Register.apply_enrol becomes.allowed, Function.update_self]

/-- So does an account that is revised, with its new name and phrases. -/
theorem Database.Becomes.revised {id : Nat} {account : Account String String} {s' : Store}
    (becomes : database.Becomes platform (.revise id account) s')
    : s'.accounts platform id = some account := by
  rw [becomes.accounts, Register.apply_revise becomes.allowed, Function.update_self]

/-- An accepted request has passed the filters. -/
theorem authenticateUser_accepts {format : Format} {currentUser : Option User} {s : Store}
    {action : User → Outcome}
    (accepts : (authenticateUser format currentUser s action).1.status.accepts)
    : ∃ user, currentUser = some user
        ∧ authenticateUser format currentUser s action = action user := by
  cases currentUser with
  | none => cases format <;> cases accepts
  | some user => exact ⟨user, rfl, rfl⟩

/-- An accepted request of a librarian's action has run the action. -/
theorem requireLibrarian_accepts {user : User} {s : Store} {action : Outcome}
    (accepts : (requireLibrarian user s action).1.status.accepts)
    : requireLibrarian user s action = action := by
  rw [requireLibrarian] at accepts ⊢
  split at accepts
  · next librarian => exact if_pos librarian
  · cases accepts

/-- A request that sets a password and is accepted leaves the account with it. Each of the four that
do is carried out or refused, and refusals are not accepted.
-/
theorem Call.sets_accounts (verifies : platform.Verifies accepted call.env.salt) {id : Nat}
    {email given : String} (sets : call.sets database.store = some (id, email, given))
    (accepts : (perform platform database.store call).1.status.accepts)
    : (LibraryManagement.step platform database.store call).accounts platform id
      = some ⟨platform.normalize email, accepted given⟩ := by
  rw [LibraryManagement.step]
  unfold Call.sets at sets
  split at sets
  · next address password confirmation requested =>
    obtain ⟨_, rfl, same⟩ := Option.map_eq_some_iff.mp sets
    obtain ⟨rfl, rfl, rfl⟩ := Prod.mk.inj same
    simp only [perform, requested, Devise.handle] at accepts ⊢
    split at accepts
    · cases accepts
    · rename_i admitted
      rw [if_neg admitted]
      rcases Devise.createRegistration_becomes verifies call.format address (some given)
        confirmation with refused | ⟨_, submitted, becomes⟩
      · cases refused.1.symm.trans accepts
      · cases submitted
        exact becomes.enrolled
  · next params requested =>
    obtain ⟨_, submitted, same⟩ := Option.map_eq_some_iff.mp sets
    obtain ⟨rfl, rfl, rfl⟩ := Prod.mk.inj same
    simp only [perform, requested, MembersController.handle] at accepts ⊢
    obtain ⟨user, _, ran⟩ := authenticateUser_accepts accepts
    rw [ran] at accepts ⊢
    have passed := requireLibrarian_accepts accepts
    rw [passed] at accepts ⊢
    rcases MembersController.create_becomes verifies params with refused | ⟨_, same, becomes⟩
    · cases refused.1.symm.trans accepts
    · cases submitted.symm.trans same
      exact becomes.enrolled
  · next member params requested =>
    obtain ⟨user, found, mapped⟩ := Option.bind_eq_some_iff.mp sets
    obtain ⟨_, submitted, same⟩ := Option.map_eq_some_iff.mp mapped
    obtain ⟨rfl, rfl, rfl⟩ := Prod.mk.inj same
    simp only [perform, requested, MembersController.handle, found, setRecord] at accepts ⊢
    obtain ⟨caller, _, ran⟩ := authenticateUser_accepts accepts
    rw [ran] at accepts ⊢
    have passed := requireLibrarian_accepts accepts
    rw [passed] at accepts ⊢
    rcases MembersController.update_becomes verifies (MembersController.mem_of_setMember found).1
      params with refused | becomes
    · cases refused.1.symm.trans accepts
    · rw [becomes.revised, User.assigned, submitted]
      rfl
  · next current password confirmation requested =>
    obtain ⟨user, signedIn, mapped⟩ := Option.bind_eq_some_iff.mp sets
    obtain ⟨_, submitted, same⟩ := Option.map_eq_some_iff.mp mapped
    obtain ⟨rfl, rfl, rfl⟩ := Prod.mk.inj same
    simp only [perform, requested, AccountsController.handle, signedIn, authenticateUser]
      at accepts ⊢
    rcases AccountsController.password_becomes verifies (Call.mem_of_currentUser signedIn) current
      password confirmation with refused | ⟨_, becomes⟩
    · cases refused.1.symm.trans accepts
    · rw [becomes.revised, User.assigned, submitted]
      rfl
  · cases sets

/-- An account that a request may not write stands: the event of the request rewrites none but those
that the request may, by what it entitles to.
-/
theorem Database.step_stands (verifies : platform.Verifies accepted call.env.salt) {id : Nat}
    {account : Account String String} (untouched : ¬call.mayRewrite platform database.store id)
    (here : (database.register platform).accounts id = some account)
    : ((database.step platform call).register platform).accounts id = some account := by
  obtain ⟨event, refines⟩ := database.step_refines verifies
  rw [refines.commutes]
  cases event with
  | none => exact here
  | some event =>
      refine Register.apply_stands (refines.allowed event rfl) ?_ here
      intro rewrites
      refine untouched ?_
      have labels : call.Registers platform accepted database (some event) := refines.labels
      cases labels with
      | register | createMember => cases rewrites
      | updateMember signedIn librarian isMember requested =>
          simpa [Call.mayRewrite, requested, Event.Rewrites] using rewrites
      | updateAccount signedIn requested | changePassword signedIn _ requested =>
          simpa [Call.mayRewrite, requested, signedIn, Event.Rewrites] using rewrites
      | @writeDevise request changed columns requested written =>
          obtain rfl : changed = id := rewrites
          simp [Call.mayRewrite, requested, written]
      | close signedIn entitled =>
          rcases entitled with ⟨_, _, requested⟩ | ⟨rfl, requested⟩
          · simpa [Call.mayRewrite, requested, Event.Rewrites] using rewrites
          · simp only [Call.mayRewrite, requested, signedIn, Bool.or_eq_true]
            exact Or.inl (by simpa [Event.Rewrites] using rewrites)

/-- Until another request may write the account, exactly the phrases that the password accepts
open it, under every spelling of its address.
-/
theorem Database.answersSignIn_of_account {id : Nat} {email password : String}
    (here
      : (database.register platform).accounts id
        = some ⟨platform.normalize email, accepted password⟩)
    {address attempt : Option String}
    (requested : call.request = .sessions (.create address attempt))
    (spelled : platform.normalize (address.getD "") = platform.normalize email)
    : let answer := (perform platform database.store call).1
      (answer.signedIn = some id ↔ attempt.getD "" ∈ accepted password)
      ∧ (attempt.getD "" ∉ accepted password
        → answer = ⟨.unauthorized, .error "Invalid email or password"⟩) := by
  obtain ⟨opens, refused⟩ := database.answersSignIn platform requested
  have exact' (other : Nat)
      : (database.register platform).Opens (platform.normalize (address.getD "")) (attempt.getD "")
          other
        ↔ other = id ∧ attempt.getD "" ∈ accepted password := by
    constructor
    · rintro ⟨account, found, named, opens⟩
      obtain rfl := (database.register platform).single other id account _ found here
        (named.trans spelled)
      cases found.symm.trans here
      exact ⟨rfl, opens⟩
    · rintro ⟨rfl, opens⟩
      exact ⟨_, here, spelled.symm, opens⟩
  refine ⟨by rw [opens, exact', and_iff_right rfl], fun wrong => refused.mp ?_⟩
  cases signed : (perform platform database.store call).1.signedIn with
  | none => rfl
  | some other => exact absurd ((exact' other).mp ((opens other).mp signed)).2 wrong

end Last

/-- Once a request that sets a password is accepted, exactly the phrases accepted for it open the
account, under every spelling of its address, in every later state until another request may
write the account.
-/
theorem credentials_stand (platform : Platform) (accepted : String → Set String)
    (database : Database) {call : Call} {id : Nat} {email password : String}
    (sets : call.sets database.store = some (id, email, password))
    (accepts : (perform platform database.store call).1.status.accepts) (calls : List Call)
    (verifies : ∀ other ∈ call :: calls, platform.Verifies accepted other.env.salt)
    (untouched
      : EachStep (Database.step platform)
          (fun database other => ¬other.mayRewrite platform database.store id)
          (database.step platform call) calls)
    : ∀ reached ∈ states (Database.step platform) (database.step platform call) calls,
        ∀ login address attempt, login.request = .sessions (.create address attempt)
        → platform.normalize (address.getD "") = platform.normalize email
        → let answer := (perform platform reached.store login).1
          (answer.signedIn = some id ↔ attempt.getD "" ∈ accepted password)
          ∧ (attempt.getD "" ∉ accepted password
            → answer = ⟨.unauthorized, .error "Invalid email or password"⟩) := by
  have here : ((database.step platform call).register platform).accounts id
      = some ⟨platform.normalize email, accepted password⟩ :=
    Call.sets_accounts (verifies call List.mem_cons_self) sets accepts
  have salted : EachStep (Database.step platform)
      (fun _ other => platform.Verifies accepted other.env.salt) (database.step platform call)
      calls :=
    .of_forall_mem (fun other member => verifies other (List.mem_cons_of_mem call member)) _
  have stands := (salted.and untouched).invariant here (fun database other guarded before =>
    database.step_stands guarded.1 guarded.2 before)
  intro reached member login address attempt requested spelled
  exact reached.answersSignIn_of_account (stands reached member) requested spelled

/-- A member's new password, while the member borrows and the librarian destroys another member. -/
theorem credentials_stand_sample
    : let change : Call := .onDay 0 (some 2) (.account
        (.password (.value "password123") (.value "password456") (.value "password456")))
      let calls : List Call := [
        .onDay 1 (some 2) (.borrowings (.create 1)),
        .onDay 2 (some 1) (.members (.destroy 3))]
      change.sets Database.sample.store = some (2, "megan@example.com", "password456")
      ∧ (∀ reached ∈ states (Database.step .ascii) (Database.sample.step .ascii change) calls,
          (perform .ascii reached.store (.onDay 3 none
            (.sessions (.create (some " Megan@Example.com") (some "password456"))))).1.signedIn
          = some 2) := by
  intro change calls
  have salt : ∀ other ∈ change :: calls, Platform.ascii.Verifies (fun given => {given})
      other.env.salt := by
    simp only [calls, List.forall_mem_cons]
    exact ⟨Platform.ascii_verifies_salt, Platform.ascii_verifies_salt,
      Platform.ascii_verifies_salt, List.forall_mem_nil _⟩
  have sets : change.sets Database.sample.store = some (2, "megan@example.com", "password456") :=
    rfl
  have stands := credentials_stand .ascii (fun given => {given}) Database.sample sets (by decide)
    calls salt (by decide)
  refine ⟨sets, fun reached member => ?_⟩
  exact (stands reached member _ (some " Megan@Example.com") (some "password456") rfl
    (by decide)).1.mpr (Set.mem_singleton _)

end LibraryManagement
