import LibraryManagement.Access.PasswordChange
import LibraryManagement.Registry.Register
import LibraryManagement.Relational.Lookup

/-! The users table is a register of accounts. An account is opened with its email and the phrases
that its digest lets pass; what a request does to users is an event of the register.
-/

namespace LibraryManagement

open Relational Transition Registry

/-- The phrases that a digest lets pass. -/
def Platform.phrases (platform : Platform) (encryptedPassword : String) : Set String :=
  { attempt | platform.validPassword encryptedPassword attempt }

/-- Under the salt, the digest of a password lets exactly the accepted phrases pass. -/
def Platform.Verifies (platform : Platform) (accepted : String → Set String) (salt : String)
    : Prop :=
  ∀ given, platform.phrases (platform.digest salt given) = accepted given

/-- The address as Devise stores it and looks it up. -/
def Platform.normalize (platform : Platform) (email : String) : String :=
  strip (platform.downcase email)

def User.account (platform : Platform) (user : User) : Account String String where
  name := user.email
  phrases := platform.phrases user.encryptedPassword

def User.Draft.account (platform : Platform) (draft : User.Draft) : Account String String where
  name := draft.email.getD ""
  phrases := platform.phrases draft.encryptedPassword

def Store.accounts (platform : Platform) (s : Store) (id : ℕ) : Option (Account String String) :=
  (s.users.find? id).map (User.account platform)

/-- The unique index on the emails is that of the register. -/
def Database.register (platform : Platform) (database : Database)
    : Register ℕ String String where
  accounts := database.store.accounts platform
  single := by
    intro first second one other here there same
    obtain ⟨user, found, rfl⟩ := Option.map_eq_some_iff.mp here
    obtain ⟨user', found', rfl⟩ := Option.map_eq_some_iff.mp there
    obtain ⟨member, rfl⟩ := (Table.find?_eq_some_iff _).mp found
    obtain ⟨member', rfl⟩ := (Table.find?_eq_some_iff _).mp found'
    exact database.consistent.emails user member user' member' same

/-- Requests keep the constraints of the database. -/
def Database.step (platform : Platform) (database : Database) (call : Call) : Database where
  store := LibraryManagement.step platform database.store call
  consistent := step_consistent platform database.store call database.consistent

/-- The account that saving parameters over a user's comes to. -/
def User.assigned (platform : Platform) (accepted : String → Set String)
    (email password : Param String) (user : User)
    : Account String String where
  name := platform.normalize ((email.assign (some user.email)).getD "")
  phrases := password.read.elim (platform.phrases user.encryptedPassword) accepted

/-- The events that a request may stand for, by its caller and its parameters. -/
inductive Call.Registers (platform : Platform) (accepted : String → Set String)
    (database : Database) (call : Call) : Option (Event ℕ String String) → Prop
  | nothing : Registers platform accepted database call none
  | register {email confirmation password}
    (admitted : Devise.admits call.format (call.currentUser database.store))
    (requested : call.request = .devise (.createRegistration email (some password) confirmation))
    : Registers platform accepted database call
        (some (.enrol database.store.users.nextKey
          ⟨platform.normalize (email.getD ""), accepted password⟩))
  | createMember {user : User} {params : UserParams} {password}
    (signedIn : call.currentUser database.store = some user) (librarian : user.role = .librarian)
    (requested : call.request = .members (.create (some params)))
    (given : params.password.read = some password)
    : Registers platform accepted database call
        (some (.enrol database.store.users.nextKey
          ⟨platform.normalize ((params.email.assign (some "")).getD ""), accepted password⟩))
  | updateMember {user member : User} {params : UserParams}
    (signedIn : call.currentUser database.store = some user) (librarian : user.role = .librarian)
    (isMember : member.role = .member)
    (requested : call.request = .members (.update member.id (some params)))
    : Registers platform accepted database call
        (some (.revise member.id
          (member.assigned platform accepted params.email params.password)))
  | updateAccount {user : User} {params : UserParams}
    (signedIn : call.currentUser database.store = some user)
    (requested : call.request = .account (.update (some params)))
    : Registers platform accepted database call
        (some (.revise user.id
          (user.assigned platform accepted params.email .absent)))
  | changePassword {user : User} {currentPassword password confirmation}
    (signedIn : call.currentUser database.store = some user)
    (right : platform.validPassword user.encryptedPassword (currentPassword.read.getD ""))
    (requested : call.request = .account (.password currentPassword password confirmation))
    : Registers platform accepted database call
        (some (.revise user.id
          (user.assigned platform accepted .absent password)))
  | writeDevise {request id columns} (requested : call.request = .devise request)
    (written
      : platform.deviseWrite request call.env (call.currentUser database.store) database.store
        = some (id, columns))
    : Registers platform accepted database call
        (some (.revise id ⟨columns.email, platform.phrases columns.encryptedPassword⟩))
  | close {caller user : User} (signedIn : call.currentUser database.store = some caller)
    (entitled
      : caller.role = .librarian ∧ user.role = .member
          ∧ call.request = .members (.destroy user.id)
        ∨ caller = user ∧ call.request = .devise .destroyRegistration)
    : Registers platform accepted database call (some (.close user.id))

-----------------------------------------------------------------------------------------
-- The register after a write
-----------------------------------------------------------------------------------------

/-- The store holds the register after the event, which is allowed. -/
structure Database.Becomes (platform : Platform) (database : Database)
    (event : Event ℕ String String) (s' : Store) : Prop where
  allowed : (database.register platform).Allows event
  accounts : s'.accounts platform = ((database.register platform).apply event).accounts

/-- The store holds the register after an event that the call stands for, if any. -/
def Call.Writes (platform : Platform) (accepted : String → Set String) (database : Database)
    (call : Call) (s' : Store)
    : Prop :=
  ∃ event, call.Registers platform accepted database event
    ∧ s'.accounts platform = (visible Register.apply (database.register platform) event).accounts
    ∧ ∀ given ∈ event, (database.register platform).Allows given

/-- A store that an event leads to is what the event writes. -/
theorem Database.Becomes.writes {platform : Platform} {accepted : String → Set String}
    {database : Database} {call : Call} {event : Event ℕ String String} {s' : Store}
    (becomes : database.Becomes platform event s')
    (labels : call.Registers platform accepted database (some event))
    : call.Writes platform accepted database s' :=
  ⟨some event, labels, becomes.accounts, fun _ given => Option.some.inj given ▸ becomes.allowed⟩

section Writes

variable {platform : Platform} {accepted : String → Set String} {database : Database} {call : Call}

/-- A request that leaves the users as they are is no event of the register. -/
theorem Call.Writes.of_users {s' : Store} (same : s'.users = database.store.users)
    : call.Writes platform accepted database s' := by
  refine ⟨none, .nothing, ?_, fun _ absent => absurd absent (Option.not_mem_none _)⟩
  funext id
  simp only [Store.accounts, same]
  rfl

theorem Database.accounts_of_mem {user : User} (known : user ∈ database.store.users.rows)
    : database.store.accounts platform user.id = some (user.account platform) := by
  have here : database.store.users.find? user.id = some user :=
    database.store.users.find?_of_mem known
  rw [Store.accounts, here, Option.map_some]

/-- A valid new record is enrolled under the next id: the validation has found no row with its
address, so the register allows it, and the accounts then agree at every id.
-/
theorem Database.becomes_insert {draft : User.Draft} {env : Env} {role : Role}
    (valid : draft.errors database.store none = [])
    : database.Becomes platform (.enrol database.store.users.nextKey (draft.account platform))
        { database.store with
          users := database.store.users.insert ⟨draft.toRow env role, fun _ => rfl⟩ } := by
  have allowed : (database.register platform).Allows
      (.enrol database.store.users.nextKey (draft.account platform)) := by
    refine ⟨?_, fun other account here same => ?_⟩
    · simp [Database.register, Store.accounts]
    · obtain ⟨user, found, rfl⟩ := Option.map_eq_some_iff.mp here
      obtain ⟨member, _⟩ := (Table.find?_eq_some_iff _).mp found
      exact absurd same (draft.email_ne_of_valid_new valid user member)
  refine ⟨allowed, ?_⟩
  rw [Register.apply_enrol allowed]
  funext id
  simp only [Store.accounts, Table.find?_insert, Database.register, Function.update_apply]
  split <;> rfl

/-- A row that is found is rewritten, and nobody else's: at the id of the user the register holds
the changed account, at any other id what it held, by looking both up there.
-/
theorem Database.becomes_update {user : User} {account : Account String String}
    (change : Table.Change User) (known : user ∈ database.store.users.rows)
    (changed : (change.apply user).account platform = account)
    (free
      : ∀ other ∈ database.store.users.rows, other.email = account.name → other.id = user.id)
    : database.Becomes platform (.revise user.id account)
        { database.store with
          users := database.store.users.update (fun row => row.id == user.id) change } := by
  have allowed : (database.register platform).Allows (.revise user.id account) := by
    refine ⟨?_, fun other account' here same => ?_⟩
    · simp [Database.register, database.accounts_of_mem known]
    · obtain ⟨row, found, rfl⟩ := Option.map_eq_some_iff.mp here
      obtain ⟨member, rfl⟩ := (Table.find?_eq_some_iff _).mp found
      exact free row member same
  refine ⟨allowed, ?_⟩
  rw [Register.apply_revise allowed]
  funext id
  simp only [Store.accounts, Table.find?_update, Database.register, Function.update_apply]
  by_cases same : id = user.id
  · have here : database.store.users.find? user.id = some user :=
      database.store.users.find?_of_mem known
    simp [same, here, changed]
  · cases here : database.store.users.find? id with
    | none => simp [same]
    | some row =>
        have key : row.id = id := ((Table.find?_eq_some_iff _).mp here).2
        simp [key, same]

/-- Deleting a user closes the account: the row under the id is gone, all others stay. -/
theorem Database.becomes_destroyUser {user : User} (known : user ∈ database.store.users.rows)
    : database.Becomes platform (.close user.id) (database.store.destroyUser user.id) where
  allowed := by simp [Register.Allows, Database.register, database.accounts_of_mem known]
  accounts := by
    have gone (id : ℕ) : (database.store.destroyUser user.id).users.find? id
        = if id = user.id then none else database.store.users.find? id :=
      database.store.users.find?_delete_key user.id id
    funext id
    simp only [Register.apply, Register.remove, Function.update_apply, Store.accounts, gone,
      Database.register]
    split <;> rfl

/-- The columns that Devise writes revise the account of their row, or nothing where a unique index
refuses them: the email that the register then has for the row is one that no other has.
-/
theorem Call.Writes.devise {request : DeviseRequest} {id : ℕ} {columns : DeviseColumns}
    (requested : call.request = .devise request)
    (written
      : platform.deviseWrite request call.env (call.currentUser database.store) database.store
        = some (id, columns))
    : call.Writes platform accepted database (database.store.writeDeviseColumns id columns) := by
  rw [Store.writeDeviseColumns]
  split
  · exact .of_users rfl
  · next untaken =>
    cases found : database.store.users.find? id with
    | none =>
        have same : (database.store.users.update (fun row => row.id == id)
            ⟨columns.applyTo, fun _ => rfl⟩).find? = database.store.users.find? := by
          funext other
          rw [Table.find?_update]
          cases here : database.store.users.find? other with
          | none => rfl
          | some row =>
              have apart : row.id ≠ id := by
                rintro rfl
                obtain ⟨member, _⟩ := (Table.find?_eq_some_iff _).mp here
                have present : database.store.users.find? row.id = some row :=
                  database.store.users.find?_of_mem member
                cases found.symm.trans present
              simp [apart]
        refine ⟨none, .nothing, ?_, fun _ absent => absurd absent (Option.not_mem_none _)⟩
        funext other
        simp only [Store.accounts, same]
        rfl
    | some user =>
        obtain ⟨known, rfl⟩ := (Table.find?_eq_some_iff _).mp found
        refine (database.becomes_update ⟨columns.applyTo, fun _ => rfl⟩ known rfl ?_).writes
          (.writeDevise requested written)
        intro other member taken
        by_contra apart
        have same : other.email = columns.email := taken
        exact untaken (List.any_eq_true.mpr ⟨other, member, by simp [apart, same]⟩)

end Writes

-----------------------------------------------------------------------------------------
-- The records that are saved
-----------------------------------------------------------------------------------------

section Records

variable {platform : Platform} {accepted : String → Set String} {s : Store} {env : Env}

/-- A valid new record has a password that is not blank. -/
theorem User.Draft.password_of_valid_new {draft : User.Draft}
    (valid : draft.errors s none = [])
    : ∃ password, draft.password = some password ∧ presence (some password) = some password := by
  simp only [errors, List.append_eq_nil_iff] at valid
  obtain ⟨⟨_, password⟩, _⟩ := valid
  cases given : draft.password with
  | none => simp [passwordErrors, passwordRequired, given, blank?] at password
  | some text =>
      cases isBlank : blank text with
      | true => simp [passwordErrors, passwordRequired, given, blank?, isBlank] at password
      | false => exact ⟨text, rfl, by simp [presence, isBlank]⟩

/-- A password of a valid loaded record is not blank. -/
theorem User.Draft.password_of_valid {user : User} {draft : User.Draft}
    (valid : draft.errors s (some user) = []) {password : String}
    (given : draft.password = some password)
    : presence (some password) = some password := by
  simp only [errors, List.append_eq_nil_iff] at valid
  rcases passwordErrors_eq_nil_iff.mp valid.1.2 with ⟨missing, _⟩ | ⟨text, same, fine, _⟩
  · cases given.symm.trans missing
  · obtain rfl := Option.some.inj (given.symm.trans same)
    simp only [acceptedPassword, Bool.and_eq_true, Bool.not_eq_true'] at fine
    simp [presence, fine.1.1]

/-- The account of a saved row is that of the draft: its timestamps and its tokens do not count. -/
theorem User.Draft.applyTo_account (platform : Platform) (env : Env) (draft : User.Draft)
    (user : User)
    : (draft.applyTo env user).account platform = draft.account platform := by
  rw [User.account, User.Draft.account, applyTo_email, applyTo_encryptedPassword]

/-- The account of a valid record under a new password. -/
theorem User.Draft.account_setPassword (verifies : platform.Verifies accepted env.salt)
    (draft : User.Draft) {password : Option String}
    (present : ∀ given ∈ password, presence (some given) = some given)
    {email : String} (named : draft.email = some email)
    : ((draft.setPassword platform env password).beforeValidation platform).account platform
      = ⟨platform.normalize email,
          password.elim (platform.phrases draft.encryptedPassword) accepted⟩ := by
  cases password with
  | none => simp [account, beforeValidation, setPassword, named, Platform.normalize, presence]
  | some given =>
      have full := present given rfl
      simp [account, beforeValidation, setPassword, named, Platform.normalize, full,
        verifies given]

/-- The assignment of the permitted attributes sets the password that is given, if any. -/
theorem UserParams.assign_eq (platform : Platform) (env : Env) (params : UserParams)
    (draft : User.Draft) (unset : draft.password = none)
    : params.assign platform env draft
      = { draft with
          email := params.email.assign draft.email
          firstName := params.firstName.assign draft.firstName
          lastName := params.lastName.assign draft.lastName }.setPassword platform env
          params.password.read := by
  cases given : params.password <;>
    simp [assign, given, Param.read, Param.assign, User.Draft.setPassword, presence, unset]

end Records

section Saves

variable {platform : Platform} {accepted : String → Set String} {database : Database} {env : Env}
  (verifies : platform.Verifies accepted env.salt)

include verifies

/-- A saved new record is enrolled with its password: the validations make sure of a password and an
address, and the digest is of what was given.
-/
theorem User.Draft.create_becomes (draft : User.Draft) {password : Option String} {user : User}
    {stored : Store}
    (saved
      : (draft.setPassword platform env password).create platform env database.store
        = .stored (user, stored))
    : ∃ email given, draft.email = some email ∧ password = some given
        ∧ database.Becomes platform
            (.enrol database.store.users.nextKey ⟨platform.normalize email, accepted given⟩)
            stored := by
  obtain ⟨role, valid, _, rfl⟩ := User.Draft.create_stored saved
  obtain ⟨given, submitted, full⟩ := User.Draft.password_of_valid_new valid
  obtain ⟨_, mapped⟩ := User.Draft.email_of_valid valid
  obtain ⟨email, named, _⟩ := Option.map_eq_some_iff.mp mapped
  obtain rfl : password = some given := submitted
  have account := User.Draft.account_setPassword verifies draft
    (fun _ same => Option.some.inj same ▸ full) named
  exact ⟨email, given, named, rfl, account ▸ database.becomes_insert valid⟩

/-- A saved record of a user is revised, its password where there is a new one. That no other row
has its address is what the validation of the email has found.
-/
theorem User.Draft.update_becomes (draft : User.Draft) {password : Option String}
    {user row : User} {stored : Store} (known : user ∈ database.store.users.rows)
    (saved
      : (draft.setPassword platform env password).update platform env database.store user
        = .stored (row, stored))
    : ∃ email, draft.email = some email
        ∧ database.Becomes platform
            (.revise user.id
              ⟨platform.normalize email,
                password.elim (platform.phrases draft.encryptedPassword) accepted⟩) stored := by
  obtain ⟨valid, rfl⟩ := User.Draft.update_stored saved
  obtain ⟨_, mapped⟩ := User.Draft.email_of_valid valid
  obtain ⟨email, named, _⟩ := Option.map_eq_some_iff.mp mapped
  have account := User.Draft.account_setPassword verifies draft
    (fun _ given => User.Draft.password_of_valid valid given) named
  refine ⟨email, named, database.becomes_update _ known
    ((User.Draft.applyTo_account platform env _ user).trans account) ?_⟩
  intro other member taken
  have same : (((draft.setPassword platform env password).beforeValidation
      platform).email).getD "" = platform.normalize email := congrArg Account.name account
  obtain ⟨self, here, id⟩ := User.Draft.valid_facts valid
    (fun _ given => ⟨Option.some.inj given ▸ known, database.consistent⟩) other member
    (taken.trans same.symm)
  exact Option.some.inj here ▸ id.symm

-----------------------------------------------------------------------------------------
-- The actions that save a user
-----------------------------------------------------------------------------------------

/-- The answers of the actions that save a user. -/
def HttpStatus.accepts : HttpStatus → Bool
  | .ok | .created | .seeOther => true
  | .noContent | .found | .badRequest | .unauthorized | .forbidden | .notFound | .notAcceptable
  | .unprocessableEntity | .internalServerError => false

/-- Nothing is saved, and the answer says so. -/
def Outcome.Refused (s : Store) (outcome : Outcome) : Prop :=
  outcome.1.status.accepts = false ∧ outcome.2 = s

/-- A registration is refused without a write, or enrols an account under the next id with the
normalized address and the phrases that its password accepts.
-/
theorem Devise.createRegistration_becomes (format : Format)
    (email password confirmation : Option String)
    : let outcome :=
        createRegistration platform env format email password confirmation database.store
      outcome.Refused database.store
      ∨ ∃ given, password = some given
          ∧ database.Becomes platform
              (.enrol database.store.users.nextKey
                ⟨platform.normalize (email.getD ""), accepted given⟩) outcome.2 := by
  simp only [createRegistration]
  split
  · next saved =>
    obtain ⟨address, given, named, submitted, becomes⟩ := User.Draft.create_becomes verifies
      { User.new with
        email := email.or User.new.email
        passwordConfirmation := confirmation } saved
    have same : email.getD "" = address := by
      cases email <;> simpa [User.new] using named
    exact Or.inr ⟨given, submitted, same ▸ becomes⟩
  · exact Or.inl ⟨by rw [registrationInvalid_status]; rfl, rfl⟩
  · exact Or.inl ⟨rfl, rfl⟩

/-- So is a member that a librarian creates, unless the action refuses the record: its parameters
come to one draft with the submitted password.
-/
theorem MembersController.create_becomes (params : UserParams)
    : let outcome := create platform env (some params) database.store
      outcome.Refused database.store
      ∨ ∃ given, params.password.read = some given
          ∧ database.Becomes platform
              (.enrol database.store.users.nextKey
                ⟨platform.normalize ((params.email.assign (some "")).getD ""), accepted given⟩)
              outcome.2 := by
  simp only [create, params.assign_eq platform env User.new rfl]
  split
  · next saved =>
    obtain ⟨address, given, named, submitted, becomes⟩ := User.Draft.create_becomes verifies
      { User.new with
        email := params.email.assign User.new.email
        firstName := params.firstName.assign User.new.firstName
        lastName := params.lastName.assign User.new.lastName
        role := some Role.member } saved
    have same : (params.email.assign (some "")).getD "" = address := by
      rw [show params.email.assign (some "") = some address from named, Option.getD_some]
    exact Or.inr ⟨given, submitted, same ▸ becomes⟩
  · exact Or.inl ⟨rfl, rfl⟩
  · exact Or.inl ⟨rfl, rfl⟩

/-- An edited member is refused without a write, or the account is revised by the parameters that
are given.
-/
theorem MembersController.update_becomes {member : User}
    (known : member ∈ database.store.users.rows) (params : UserParams)
    : let outcome := update platform env member (some params) database.store
      outcome.Refused database.store
      ∨ database.Becomes platform
          (.revise member.id (member.assigned platform accepted params.email params.password))
          outcome.2 := by
  simp only [update, params.assign_eq platform env member.load rfl]
  split
  · next saved =>
    obtain ⟨address, named, becomes⟩ := User.Draft.update_becomes verifies _ known saved
    have same : (params.email.assign (some member.email)).getD "" = address := by
      rw [show params.email.assign (some member.email) = some address from named,
        Option.getD_some]
    rw [User.assigned, same]
    exact Or.inr becomes
  · exact Or.inl ⟨rfl, rfl⟩
  · exact Or.inl ⟨rfl, rfl⟩

/-- So is the own account, or the action refuses. Its parameters have no password, so the account
keeps the one it has.
-/
theorem AccountsController.update_becomes {user : User}
    (known : user ∈ database.store.users.rows) (params : UserParams)
    : let outcome := update platform env user (some params) database.store
      outcome.Refused database.store
      ∨ database.Becomes platform
          (.revise user.id (user.assigned platform accepted params.email .absent)) outcome.2 := by
  simp only [update, (accountParams params).assign_eq platform env user.load rfl]
  split
  · next saved =>
    obtain ⟨address, named, becomes⟩ := User.Draft.update_becomes verifies _ known saved
    have same : (params.email.assign (some user.email)).getD "" = address := by
      rw [show params.email.assign (some user.email) = some address from named, Option.getD_some]
    rw [User.assigned, same]
    exact Or.inr becomes
  · exact Or.inl ⟨rfl, rfl⟩
  · exact Or.inl ⟨rfl, rfl⟩

/-- A password change is refused without a write, or the current password was right and the account
has the phrases of the new one.
-/
theorem AccountsController.password_becomes {user : User}
    (known : user ∈ database.store.users.rows) (currentPassword given confirmation : Param String)
    : let outcome :=
        password platform env user currentPassword given confirmation database.store
      outcome.Refused database.store
      ∨ platform.validPassword user.encryptedPassword (currentPassword.read.getD "")
        ∧ database.Becomes platform
            (.revise user.id (user.assigned platform accepted .absent given)) outcome.2 := by
  simp only [password]
  split
  · next right =>
    split
    · next saved =>
      obtain ⟨address, named, becomes⟩ := User.Draft.update_becomes verifies
        { user.load with passwordConfirmation := confirmation.read } known saved
      obtain rfl := Option.some.inj named
      exact Or.inr ⟨right, becomes⟩
    · exact Or.inl ⟨rfl, rfl⟩
    · exact Or.inl ⟨rfl, rfl⟩
  · exact Or.inl ⟨rfl, rfl⟩

end Saves

end LibraryManagement
