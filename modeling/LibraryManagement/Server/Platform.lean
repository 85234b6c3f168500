import LibraryManagement.Server.Clock
import LibraryManagement.Server.Response

/-! What the application takes from outside the repository: Devise, bcrypt, Ruby's date
parser and the character tables of Ruby and of the database.
-/

namespace LibraryManagement

/-- What one request reads from its surroundings. -/
structure Env where
  /-- `Time.current`; a request reads the clock once. -/
  now : Int
  /-- The random salt of a password digest. -/
  salt : String
  /-- The order, by row id, in which the database returns rows that a query's
  `ORDER BY` leaves tied. -/
  tie : Nat → Nat

/-- `Date.current` -/
def Env.today (env : Env) : Int := toDate env.now

/-- The routes of `devise_for :users`. -/
inductive DeviseRequest where
  | newSession
  | createSession (email password : String) (rememberMe : Bool)
  | destroySession
  | newPassword
  | editPassword
  | createPassword (email : String)
  | updatePassword (resetPasswordToken : String) (password passwordConfirmation : Option String)
  | newRegistration
  | editRegistration
  | cancelRegistration
  | createRegistration (email password passwordConfirmation : Option String)
  | updateRegistration (email password passwordConfirmation : Option String)
    (currentPassword : String)
  | destroyRegistration
  deriving DecidableEq, Repr

/-- The columns Devise writes: its own and the timestamp. Neither its permit lists nor its
strategies name another.
-/
structure DeviseColumns where
  email : String
  encryptedPassword : String
  resetPasswordToken : Option String
  resetPasswordSentAt : Option Int
  rememberCreatedAt : Option Int
  updatedAt : Int
  deriving DecidableEq, Repr

def DeviseColumns.applyTo (columns : DeviseColumns) (user : User) : User :=
  { user with
    email := columns.email
    encryptedPassword := columns.encryptedPassword
    resetPasswordToken := columns.resetPasswordToken
    resetPasswordSentAt := columns.resetPasswordSentAt
    rememberCreatedAt := columns.rememberCreatedAt
    updatedAt := columns.updatedAt }

structure Platform where
  /-- `String#downcase` -/
  downcase : String → String
  downcase_empty : downcase "" = ""
  /-- `Date.parse`, none where it raises. -/
  parseDate : String → Option Int
  /-- The case folding of ILIKE. -/
  fold : Char → Char
  /-- A row of a btree index takes the text; long texts only if they compress well. -/
  indexable : String → Bool
  indexable_short : ∀ text, text.length ≤ 500 → indexable text
  /-- The bcrypt digest of a password under a salt. -/
  digest : String → String → String
  /-- `valid_password?` of a stored digest. -/
  validPassword : String → String → Bool
  /-- What a Devise route other than creating and destroying registrations writes for the
  signed-in user, if any: the Devise columns of at most one row. -/
  deviseWrite : DeviseRequest → Env → Option User → Store → Option (Nat × DeviseColumns)
  /-- What a Devise route other than creating registrations answers, its own refusals and
  failures included. -/
  deviseAnswer : DeviseRequest → Env → Format → Option User → Store → Response

/-- `UPDATE users SET ...` by Devise. The unique indexes refuse an email and a reset token that
another row has; null is no token.
-/
def Store.writeDeviseColumns (s : Store) (id : Nat) (columns : DeviseColumns) : Store :=
  if s.users.rows.any (fun other =>
      other.id != id
      && (other.email == columns.email
        || columns.resetPasswordToken.isSome
          && other.resetPasswordToken == columns.resetPasswordToken)) then
    s
  else
    { s with
      users := s.users.update (fun user => user.id == id)
        ⟨columns.applyTo, fun _ => rfl⟩ }

/-- A platform for concrete runs, right on ASCII text without password resets. -/
def Platform.ascii : Platform where
  downcase text := String.ofList (text.toList.map Char.toLower)
  downcase_empty := rfl
  parseDate _ := none
  fold := Char.toLower
  indexable text := decide (text.length ≤ 500)
  indexable_short _ short := decide_eq_true short
  digest salt password := salt ++ "$" ++ password
  validPassword encrypted password :=
    (encrypted.toList.dropWhile (fun char => char != '$')).drop 1 == password.toList
  deviseWrite _ _ _ _ := none
  deviseAnswer _ _ _ _ _ := ⟨.found, .empty⟩

end LibraryManagement
