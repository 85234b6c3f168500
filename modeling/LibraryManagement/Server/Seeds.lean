import LibraryManagement.Server.User
import LibraryManagement.Transition.Settling

/-! `db/seeds.rb` -/

namespace LibraryManagement

open Relational Transition

structure DemoUser where
  email : String
  firstName : String
  lastName : String
  role : Role
  password : String
  passwordConfirmation : String
  deriving DecidableEq, Repr

def demoUsers : List DemoUser := [
  { email := "librarian@example.com"
    firstName := "Libby"
    lastName := "Rarian"
    role := .librarian
    password := "password123"
    passwordConfirmation := "password123" },
  { email := "megan@example.com"
    firstName := "Megan"
    lastName := "Member"
    role := .member
    password := "password123"
    passwordConfirmation := "password123" },
  { email := "john@example.com"
    firstName := "John"
    lastName := "Doe"
    role := .member
    password := "password123"
    passwordConfirmation := "password123" }]

namespace DemoUser

/-- The record that the block fills in. -/
def build (platform : Platform) (env : Env) (user : DemoUser) : User.Draft :=
  let assigned := { User.new with
    email := some user.email
    firstName := some user.firstName
    lastName := some user.lastName
    role := some user.role }
  { assigned.setPassword platform env (some user.password) with
    passwordConfirmation := some user.passwordConfirmation }

/-- `User.find_or_create_by!(email: ...)`; none where it raises. -/
def findOrCreate (platform : Platform) (env : Env) (user : DemoUser) (s : Store)
    : Option Store :=
  match s.users.rows.find? (fun row => row.email == user.email) with
  | some _ => some s
  | none =>
      match (user.build platform env).create platform env s with
      | .stored (_, stored) => some stored
      | .invalid _ | .raised _ => none

end DemoUser

/-- `db:seed`, each record under its own reading of the clock and its own salt. -/
def seedUsers (platform : Platform) (envs : DemoUser → Env) (s : Store) : Store :=
  carryOut (fun user => user.findOrCreate platform (envs user)) demoUsers s

end LibraryManagement
