import LibraryManagement.Server.Platform
import LibraryManagement.Server.Text
import Mathlib.Data.List.ReduceOption

/-! `app/models/user.rb`, with the validations of Devise's `:validatable`. -/

namespace LibraryManagement

open Relational

/-- A user record in memory. `password` and its confirmation are virtual attributes. -/
structure User.Draft where
  email : Option String
  encryptedPassword : String
  password : Option String := none
  passwordConfirmation : Option String := none
  firstName : Option String := none
  lastName : Option String := none
  role : Option Role
  deriving DecidableEq, Repr

namespace User

/-- `User.new`: every attribute has the default of its column. -/
def new : Draft where
  email := some ""
  encryptedPassword := ""
  role := Role.ofColumn usersRoleDefault

def load (user : User) : Draft where
  email := some user.email
  encryptedPassword := user.encryptedPassword
  firstName := user.firstName
  lastName := user.lastName
  role := some user.role

def isLibrarian (user : User) : Bool := user.role == .librarian

def isMember (user : User) : Bool := user.role == .member

namespace Draft

/-- Devise's `password=` digests only a present password. -/
def setPassword (platform : Platform) (env : Env) (password : Option String) (draft : Draft)
    : Draft :=
  { draft with
    password := password
    encryptedPassword :=
      match presence password with
      | some given => platform.digest env.salt given
      | none => draft.encryptedPassword }

/-- `before_validation`: Devise downcases and strips the email. -/
def beforeValidation (platform : Platform) (draft : Draft) : Draft :=
  { draft with email := draft.email.map (fun email => strip (platform.downcase email)) }

/-- `config.email_regexp`, `\A[^@\s]+@[^@\s]+\z` -/
def emailRegexp (email : String) : Bool :=
  let plain := fun char : Char =>
    char != '@' && !(char == ' ' || (9 ≤ char.toNat && char.toNat ≤ 13))
  let chars := email.toList
  match chars.dropWhile plain with
  | '@' :: domain => !(chars.takeWhile plain).isEmpty && !domain.isEmpty && domain.all plain
  | _ => false

def emailTaken (s : Store) (persisted : Option User) (email : String) : Bool :=
  s.users.rows.any (fun other =>
    other.email == email && persisted.all (fun self => self.id != other.id))

def emailErrors (s : Store) (persisted : Option User) (draft : Draft) : List ModelError :=
  let changed := persisted.all (fun self => some self.email != draft.email)
  (if blank? draft.email then [⟨"email", "can't be blank"⟩] else [])
  ++ match presence draft.email with
    | none => []
    | some email =>
        (if changed && emailTaken s persisted email then
          [⟨"email", "has already been taken"⟩] else [])
        ++ (if changed && !emailRegexp email then [⟨"email", "is invalid"⟩] else [])

/-- `password_required?` -/
def passwordRequired (persisted : Option User) (draft : Draft) : Bool :=
  persisted.isNone || draft.password.isSome || draft.passwordConfirmation.isSome

def passwordErrors (persisted : Option User) (draft : Draft) : List ModelError :=
  (if draft.passwordRequired persisted && blank? draft.password then
    [⟨"password", "can't be blank"⟩] else [])
  ++ (if draft.passwordRequired persisted && draft.passwordConfirmation.isSome
        && draft.passwordConfirmation != draft.password then
      [⟨"password_confirmation", "doesn't match Password"⟩] else [])
  ++ match presence draft.password with
    | none => []
    | some password =>
        (if password.length < 6 then
          [⟨"password", "is too short (minimum is 6 characters)"⟩] else [])
        ++ (if 128 < password.length then
          [⟨"password", "is too long (maximum is 128 characters)"⟩] else [])

/-- All validations in the order in which Devise and the model declare them. -/
def errors (s : Store) (persisted : Option User) (draft : Draft) : List ModelError :=
  draft.emailErrors s persisted
  ++ draft.passwordErrors persisted
  ++ (if draft.role.isNone then [⟨"role", "can't be blank"⟩] else [])

/-- A valid record has an email. -/
theorem email_of_valid {s : Store} {persisted : Option User} {draft : Draft}
    (valid : draft.errors s persisted = [])
    : ∃ email, draft.email = some email := by
  cases given : draft.email with
  | none => simp [errors, emailErrors, given, blank?] at valid
  | some email => exact ⟨email, rfl⟩

/-- A valid record has a role. -/
theorem role_of_valid {s : Store} {persisted : Option User} {draft : Draft}
    (valid : draft.errors s persisted = [])
    : ∃ role, draft.role = some role := by
  cases given : draft.role with
  | none => simp [errors, given] at valid
  | some role => exact ⟨role, rfl⟩

/-- What a save writes into a text column, if anything: a new record all that it has, a loaded one
what has changed.
-/
def written (persisted : Option User) (column : User → Option String) (value : Option String)
    : Option String :=
  if persisted.bind column = value then none else value

def writtenEmail (persisted : Option User) (draft : Draft) : Option String :=
  written persisted (fun user => some user.email) draft.email

def writtenTexts (persisted : Option User) (draft : Draft) : List String :=
  [draft.writtenEmail persisted, written persisted User.firstName draft.firstName,
    written persisted User.lastName draft.lastName].reduceOption

/-- What writing a valid record raises: sending the statement, on a null character; or the
database, on an email too long for its index.
-/
def writeException (platform : Platform) (persisted : Option User) (draft : Draft)
    : Option String :=
  if (draft.writtenTexts persisted).any hasNull then
    some "ArgumentError"
  else if !(draft.writtenEmail persisted).all platform.indexable then
    some "ActiveRecord::StatementInvalid"
  else
    none

/-- The role that a saved record has, or why nothing is saved. The query of the uniqueness
validation, which carries an email that has changed, raises on a null character.
-/
def prepare (platform : Platform) (s : Store) (persisted : Option User) (draft : Draft)
    : Saved Role :=
  if (draft.writtenEmail persisted).any hasNull then
    .raised "ArgumentError"
  else
    match draft.errors s persisted, draft.role with
    | [], some role =>
        match draft.writeException platform persisted with
        | some exception => .raised exception
        | none => .stored role
    | errors, _ => .invalid errors

def toRow (env : Env) (draft : Draft) (role : Role) (id : Nat) : User where
  id := id
  email := draft.email.getD ""
  encryptedPassword := draft.encryptedPassword
  firstName := draft.firstName
  lastName := draft.lastName
  role := role
  createdAt := env.now
  updatedAt := env.now

/-- `save` of a new record. The row is returned with the store. -/
def create (platform : Platform) (env : Env) (s : Store) (draft : Draft)
    : Saved (User × Store) :=
  let draft := draft.beforeValidation platform
  match draft.prepare platform s none with
  | .stored role =>
      .stored (draft.toRow env role s.users.nextKey,
        { s with users := s.users.insert ⟨draft.toRow env role, fun _ => rfl⟩ })
  | .invalid errors => .invalid errors
  | .raised exception => .raised exception

/-- `clear_reset_password_token?`: the save changes the email or the password. -/
def clearsToken (draft : Draft) (loaded : User) : Bool :=
  draft.email.getD "" != loaded.email || draft.encryptedPassword != loaded.encryptedPassword

/-- The attributes that a save assigns to a loaded record, those included that Devise clears
before the update.
-/
def assigned (draft : Draft) (loaded : User) : User :=
  { loaded with
    email := draft.email.getD ""
    encryptedPassword := draft.encryptedPassword
    resetPasswordToken := if draft.clearsToken loaded then none else loaded.resetPasswordToken
    resetPasswordSentAt := if draft.clearsToken loaded then none else loaded.resetPasswordSentAt
    firstName := draft.firstName
    lastName := draft.lastName }

/-- The row after an `UPDATE` with the draft's attributes; the timestamp moves only when
another column does.
-/
def applyTo (env : Env) (draft : Draft) (user : User) : User :=
  let changed := draft.assigned user
  if changed = user then user else { changed with updatedAt := env.now }

@[simp] theorem applyTo_id (env : Env) (draft : Draft) (user : User)
    : (draft.applyTo env user).id = user.id := by
  rw [applyTo]
  split <;> rfl

@[simp] theorem applyTo_role (env : Env) (draft : Draft) (user : User)
    : (draft.applyTo env user).role = user.role := by
  rw [applyTo]
  split <;> rfl

/-- `save` of a loaded record. No caller assigns the role of a loaded record, so that
column is not among those written.
-/
def update (platform : Platform) (env : Env) (s : Store) (user : User) (draft : Draft)
    : Saved (User × Store) :=
  let draft := draft.beforeValidation platform
  match draft.prepare platform s (some user) with
  | .stored _ =>
      .stored (draft.applyTo env user,
        { s with
          users := s.users.update (fun row => row.id == user.id)
            ⟨draft.applyTo env, draft.applyTo_id env⟩ })
  | .invalid errors => .invalid errors
  | .raised exception => .raised exception

/-- The texts that a save writes are free of null characters, and the email fits its index. -/
def TextsFit (platform : Platform) (persisted : Option User) (draft : Draft) : Prop :=
  (∀ text ∈ draft.writtenTexts persisted, hasNull text = false)
  ∧ ∀ email ∈ draft.writtenEmail persisted, platform.indexable email

instance (platform : Platform) (persisted : Option User) (draft : Draft)
    : Decidable (draft.TextsFit platform persisted) :=
  inferInstanceAs (Decidable (_ ∧ ∀ email ∈ draft.writtenEmail persisted, _))

/-- A record whose texts are those of its row writes none. -/
theorem textsFit_of_same (platform : Platform) {user : User} {draft : Draft}
    (email : draft.email = some user.email) (firstName : draft.firstName = user.firstName)
    (lastName : draft.lastName = user.lastName)
    : draft.TextsFit platform (some user) := by
  simp [TextsFit, writtenTexts, writtenEmail, written, email, firstName, lastName]

theorem writeException_eq_none_iff {platform : Platform} {persisted : Option User} {draft : Draft}
    : draft.writeException platform persisted = none ↔ draft.TextsFit platform persisted := by
  rw [writeException, TextsFit]
  by_cases plain : (draft.writtenTexts persisted).any hasNull
  · obtain ⟨text, written, null⟩ := List.any_eq_true.mp plain
    rw [if_pos plain]
    refine iff_of_false (by simp) (fun fits => ?_)
    exact Bool.false_ne_true ((fits.1 text written).symm.trans null)
  · have free : ∀ text ∈ draft.writtenTexts persisted, hasNull text = false := by
      simpa using plain
    rw [if_neg plain, and_iff_right free]
    cases draft.writtenEmail persisted <;> simp

/-- A changed email is among the texts that are written, so that the uniqueness query raises for
none that fit.
-/
theorem TextsFit.writtenEmail {platform : Platform} {persisted : Option User} {draft : Draft}
    (fits : draft.TextsFit platform persisted)
    : (draft.writtenEmail persisted).any hasNull = false := by
  cases written : draft.writtenEmail persisted with
  | none => rfl
  | some email => exact fits.1 email (by simp [writtenTexts, written, List.reduceOption_mem_iff])

/-- Nothing is in the way of a save. -/
def Savable (platform : Platform) (s : Store) (persisted : Option User) (draft : Draft) : Prop :=
  draft.errors s persisted = [] ∧ draft.TextsFit platform persisted

instance (platform : Platform) (s : Store) (persisted : Option User) (draft : Draft)
    : Decidable (draft.Savable platform s persisted) :=
  inferInstanceAs (Decidable (_ ∧ _))

section Saves

variable {platform : Platform} {env : Env} {s : Store} {persisted : Option User} {draft : Draft}

/-- A save is prepared exactly for a valid record whose columns take the texts that it writes. -/
theorem prepare_eq_stored_iff {role : Role}
    : draft.prepare platform s persisted = .stored role
      ↔ draft.Savable platform s persisted ∧ draft.role = some role := by
  constructor
  · intro saved
    rw [prepare] at saved
    split at saved
    case isTrue => cases saved
    case isFalse =>
      split at saved
      · next given valid assigned =>
        split at saved
        · cases saved
        · next unraised =>
          obtain rfl := Saved.stored.inj saved
          exact ⟨⟨valid, writeException_eq_none_iff.mp unraised⟩, assigned⟩
      · cases saved
  · rintro ⟨⟨valid, fits⟩, assigned⟩
    have unraised := writeException_eq_none_iff.mpr fits
    simp [prepare, fits.writtenEmail, valid, assigned, unraised]

/-- A new record is stored exactly where nothing is in the way, in a row under the next id. -/
theorem create_eq_stored_iff {saved : User × Store}
    : draft.create platform env s = .stored saved
      ↔ (draft.beforeValidation platform).Savable platform s none
        ∧ ∃ role, draft.role = some role
          ∧ saved = ((draft.beforeValidation platform).toRow env role s.users.nextKey,
              { s with
                users := s.users.insert
                  ⟨(draft.beforeValidation platform).toRow env role, fun _ => rfl⟩ }) := by
  rw [create]
  constructor
  · intro stored
    split at stored
    · next role prepared =>
      obtain ⟨savable, given⟩ := prepare_eq_stored_iff.mp prepared
      exact ⟨savable, role, given, (Saved.stored.inj stored).symm⟩
    · cases stored
    · cases stored
  · rintro ⟨savable, role, given, rfl⟩
    have prepared := prepare_eq_stored_iff.mpr ⟨savable, given⟩
    simp only [prepared]

/-- A loaded record is stored exactly where nothing is in the way, in the row of its id; it has a
role, since the validations ask for one.
-/
theorem update_eq_stored_iff {user : User} {saved : User × Store}
    : draft.update platform env s user = .stored saved
      ↔ (draft.beforeValidation platform).Savable platform s (some user)
        ∧ saved = ((draft.beforeValidation platform).applyTo env user,
            { s with
              users := s.users.update (fun row => row.id == user.id)
                ⟨(draft.beforeValidation platform).applyTo env,
                  (draft.beforeValidation platform).applyTo_id env⟩ }) := by
  rw [update]
  constructor
  · intro stored
    split at stored
    · next role prepared =>
      exact ⟨(prepare_eq_stored_iff.mp prepared).1, (Saved.stored.inj stored).symm⟩
    · cases stored
    · cases stored
  · rintro ⟨savable, rfl⟩
    obtain ⟨role, given⟩ := role_of_valid savable.1
    have prepared := prepare_eq_stored_iff.mpr ⟨savable, given⟩
    simp only [prepared]

end Saves

end Draft
end User

/-- `user.destroy`: `has_many :borrowings, dependent: :destroy` goes first. -/
def Store.destroyUser (s : Store) (id : Nat) : Store :=
  { s with
    borrowings := s.borrowings.delete (fun loan => loan.userId == id)
    users := s.users.delete (fun user => user.id == id) }

end LibraryManagement
