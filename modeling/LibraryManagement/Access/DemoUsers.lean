import LibraryManagement.Access.SignIn
import LibraryManagement.Lending.Availability
import LibraryManagement.Server.Seeds

/-! The accounts of `db:seed`. It creates those whose address no account has, leaves all others
alone, and can be repeated.
-/

namespace LibraryManagement

open Relational Transition Registry

namespace DemoUser

/-- The account is the one of the seeds. -/
structure StoredAs (platform : Platform) (accepted : String → Set String) (user : DemoUser)
    (row : User) : Prop where
  email : row.email = user.email
  firstName : row.firstName = some user.firstName
  lastName : row.lastName = some user.lastName
  role : row.role = user.role
  phrases : platform.phrases row.encryptedPassword = accepted user.password

def Present (user : DemoUser) (s : Store) : Prop := ∃ row ∈ s.users.rows, row.email = user.email

instance (user : DemoUser) (s : Store) : Decidable (user.Present s) :=
  inferInstanceAs (Decidable (∃ row ∈ _, _))

/-- What the validators and the columns ask of a demo user apart from the other accounts. -/
structure Valid (user : DemoUser) : Prop where
  email : presence (some user.email) = some user.email
  regexp : User.Draft.emailRegexp user.email
  password : presence (some user.password) = some user.password
  confirmed : user.passwordConfirmation = user.password
  long : 6 ≤ user.password.length
  short : user.password.length ≤ 128
  plain : ∀ text ∈ [user.email, user.firstName, user.lastName], hasNull text = false
  indexed : user.email.length ≤ 500

theorem demoUsers_valid : ∀ user ∈ demoUsers, user.Valid := by
  intro user listed
  simp only [demoUsers, List.mem_cons, List.not_mem_nil, or_false] at listed
  rcases listed with rfl | rfl | rfl <;>
    exact ⟨by decide, by decide, by decide, rfl, by decide, by decide, by decide, by decide⟩

theorem eq_of_email : ∀ first ∈ demoUsers, ∀ second ∈ demoUsers,
    first.email = second.email → first = second := by
  decide

-----------------------------------------------------------------------------------------
-- One record
-----------------------------------------------------------------------------------------

section Record

variable {platform : Platform} {env : Env} {user : DemoUser} {s : Store}

theorem build_valid (valid : user.Valid) (normalized : platform.normalize user.email = user.email)
    (absent : ¬user.Present s)
    : ((user.build platform env).beforeValidation platform).errors s none = [] := by
  have email : ((user.build platform env).beforeValidation platform).email = some user.email :=
    congrArg some normalized
  have untaken : User.Draft.emailTaken s none user.email = false := by
    refine List.any_eq_false.mpr (fun row member taken => absent ⟨row, member, ?_⟩)
    simpa using taken
  have filled : blank user.email = false := by simpa [presence] using valid.email
  have secret : blank user.password = false := by simpa [presence] using valid.password
  have emails : ((user.build platform env).beforeValidation platform).emailErrors s none = [] := by
    simp [User.Draft.emailErrors, email, valid.email, valid.regexp, untaken, blank?, filled]
  have passwords
      : ((user.build platform env).beforeValidation platform).passwordErrors none = [] := by
    simp [User.Draft.passwordErrors, User.Draft.beforeValidation, build, User.Draft.setPassword,
      valid.password, valid.confirmed, blank?, secret, valid.long, valid.short]
  rw [User.Draft.errors, emails, passwords]
  rfl

theorem build_savable (valid : user.Valid)
    (normalized : platform.normalize user.email = user.email) (absent : ¬user.Present s)
    : ((user.build platform env).beforeValidation platform).Savable platform s none := by
  have email : ((user.build platform env).beforeValidation platform).email = some user.email :=
    congrArg some normalized
  refine ⟨build_valid valid normalized absent, ?_, ?_⟩
  · have texts : ((user.build platform env).beforeValidation platform).writtenTexts none
        = [user.email, user.firstName, user.lastName] := by
      rw [User.Draft.writtenTexts, User.Draft.writtenEmail, email]
      rfl
    exact texts ▸ valid.plain
  · rw [User.Draft.writtenEmail, email]
    simpa [User.Draft.written] using platform.indexable_short user.email valid.indexed

/-- A missing account is created. -/
theorem findOrCreate_absent (valid : user.Valid)
    (normalized : platform.normalize user.email = user.email) (absent : ¬user.Present s)
    : user.findOrCreate platform env s
      = some { s with
          users := s.users.insert
            ⟨((user.build platform env).beforeValidation platform).toRow env user.role,
              fun _ => rfl⟩ } := by
  have unknown : s.users.rows.find? (fun row => row.email == user.email) = none := by
    refine List.find?_eq_none.mpr (fun row member same => absent ⟨row, member, ?_⟩)
    simpa using same
  have saved : (user.build platform env).create platform env s = .stored _ :=
    User.Draft.create_eq_stored_iff.mpr
      ⟨build_savable valid normalized absent, user.role, rfl, rfl⟩
  simp only [findOrCreate, unknown, saved]

theorem findOrCreate_present (present : user.Present s)
    : user.findOrCreate platform env s = some s := by
  obtain ⟨row, member, named⟩ := present
  rw [findOrCreate]
  cases found : s.users.rows.find? (fun row => row.email == user.email) with
  | none => exact absurd (beq_iff_eq.mpr named) (List.find?_eq_none.mp found row member)
  | some _ => rfl

/-- The account that is created is that of the seeds. -/
theorem build_storedAs {accepted : String → Set String} (valid : user.Valid)
    (normalized : platform.normalize user.email = user.email)
    (verifies : platform.Verifies accepted env.salt) (id : Nat)
    : user.StoredAs platform accepted
        (((user.build platform env).beforeValidation platform).toRow env user.role id) where
  email := normalized
  firstName := rfl
  lastName := rfl
  role := rfl
  phrases := by
    simp [User.Draft.toRow, User.Draft.beforeValidation, build, User.Draft.setPassword,
      valid.password, verifies user.password]

end Record
end DemoUser

-----------------------------------------------------------------------------------------
-- The whole task
-----------------------------------------------------------------------------------------

/-- Accounts come in behind those that were there, and nothing else changes. -/
structure Store.Enrols (enrolled : User → Prop) (s s' : Store) : Prop where
  users : s.users.rows <+: s'.users.rows
  new : ∀ row ∈ s'.users.rows, row ∈ s.users.rows ∨ enrolled row
  books : s'.books = s.books
  borrowings : s'.borrowings = s.borrowings

theorem Store.Enrols.refl (enrolled : User → Prop) (s : Store) : Enrols enrolled s s where
  users := List.prefix_rfl
  new _ member := Or.inl member
  books := rfl
  borrowings := rfl

theorem Store.Enrols.trans {enrolled : User → Prop} {s s' s'' : Store}
    (first : Enrols enrolled s s') (second : Enrols enrolled s' s'')
    : Enrols enrolled s s'' where
  users := first.users.trans second.users
  new row member := (second.new row member).elim (first.new row) Or.inr
  books := second.books.trans first.books
  borrowings := second.borrowings.trans first.borrowings

/-- What comes in keeps the constraints: a found user changes nothing, and a saved one has an
address that its validation has not found in any row.
-/
theorem DemoUser.findOrCreate_consistent {platform : Platform} {env : Env} {user : DemoUser}
    {s saved : Store} (consistent : s.Consistent)
    (succeeds : user.findOrCreate platform env s = some saved)
    : saved.Consistent ∧ saved.books = s.books ∧ saved.borrowings = s.borrowings := by
  rw [findOrCreate] at succeeds
  split at succeeds
  · obtain rfl := Option.some.inj succeeds
    exact ⟨consistent, rfl, rfl⟩
  · split at succeeds
    · next row stored done =>
      obtain rfl := Option.some.inj succeeds
      obtain ⟨role, valid, _, rfl⟩ := User.Draft.create_stored done
      exact ⟨consistent.insertUser (User.Draft.email_ne_of_valid_new valid) rfl, rfl, rfl⟩
    · cases succeeds
    · cases succeeds

section Task

variable {platform : Platform} {accepted : String → Set String}

theorem DemoUser.findOrCreate_enrols {env : Env} {user : DemoUser} {s saved : Store}
    (listed : user ∈ demoUsers) (normalized : platform.normalize user.email = user.email)
    (verifies : platform.Verifies accepted env.salt)
    (succeeds : user.findOrCreate platform env s = some saved)
    : s.Enrols (fun row => ∃ user ∈ demoUsers, user.StoredAs platform accepted row) saved := by
  have valid := demoUsers_valid user listed
  by_cases present : user.Present s
  · rw [findOrCreate_present present, Option.some.injEq] at succeeds
    exact succeeds ▸ .refl _ s
  · rw [findOrCreate_absent valid normalized present, Option.some.injEq] at succeeds
    subst succeeds
    refine ⟨List.prefix_append _ _, fun row member => ?_, rfl, rfl⟩
    rcases (s.users.mem_insert).mp member with old | rfl
    · exact Or.inl old
    · exact Or.inr ⟨user, listed, build_storedAs valid normalized verifies _⟩

variable (normalized : ∀ user ∈ demoUsers, platform.normalize user.email = user.email)

include normalized

theorem demoUsers_settles (envs : DemoUser → Env)
    : Settles (fun user => user.findOrCreate platform (envs user)) Store.Consistent
        DemoUser.Present demoUsers where
  meets := by
    intro user listed s consistent
    by_cases present : user.Present s
    · exact ⟨s, DemoUser.findOrCreate_present present, consistent, present,
        fun _ _ before => before⟩
    · have valid := DemoUser.demoUsers_valid user listed
      have named := normalized user listed
      refine ⟨_, DemoUser.findOrCreate_absent valid named present, ?_, ?_, ?_⟩
      · refine consistent.insertUser (fun other member same => present ⟨other, member, ?_⟩) rfl
        exact same.trans named
      · exact ⟨_, (s.users.mem_insert).mpr (Or.inr rfl), named⟩
      · rintro other - ⟨row, member, named⟩
        exact ⟨row, (s.users.mem_insert).mpr (Or.inl member), named⟩
  rests := fun _ _ _ _ present => DemoUser.findOrCreate_present present

/-- The task leaves an account under each address of the seeds. It creates those that were missing
with their names, their role and their password, which signs in to them, and touches nothing
else. It changes nothing exactly where all addresses were known, hence never when it is repeated.
-/
theorem seedUsers_settles (envs again : DemoUser → Env)
    (verifies : ∀ user ∈ demoUsers, platform.Verifies accepted (envs user).salt)
    (database : Database)
    : ∃ seeded : Database, seeded.store = seedUsers platform envs database.store
      ∧ database.store.Enrols (fun row => ∃ user ∈ demoUsers, user.StoredAs platform accepted row)
          seeded.store
      ∧ (∀ user ∈ demoUsers, user.Present seeded.store)
      ∧ (seeded.store = database.store ↔ ∀ user ∈ demoUsers, user.Present database.store)
      ∧ seedUsers platform again seeded.store = seeded.store
      ∧ ∀ user ∈ demoUsers, ¬user.Present database.store
          → ∃ row ∈ seeded.store.users.rows, user.StoredAs platform accepted row
              ∧ ∀ call email password, call.request = .sessions (.create email password)
                → platform.normalize (email.getD "") = user.email
                → ((perform platform seeded.store call).1.signedIn = some row.id
                  ↔ password.getD "" ∈ accepted user.password) := by
  have settles := demoUsers_settles normalized envs
  obtain ⟨kept, all⟩ := settles.carryOut_all database.consistent
  have enrols : database.store.Enrols
      (fun row => ∃ user ∈ demoUsers, user.StoredAs platform accepted row)
      (seedUsers platform envs database.store) := by
    refine carryOut_relates (.refl _) (fun _ _ _ => .trans) (fun user listed s saved succeeds => ?_)
      database.store
    exact DemoUser.findOrCreate_enrols listed (normalized user listed) (verifies user listed)
      succeeds
  refine ⟨⟨_, kept⟩, rfl, enrols, all, settles.carryOut_eq_self_iff database.consistent,
    settles.carryOut_again (demoUsers_settles normalized again) database.consistent, ?_⟩
  intro user listed absent
  obtain ⟨row, member, named⟩ := all user listed
  obtain ⟨other, known, stored⟩ :=
    (enrols.new row member).resolve_left (fun old => absent ⟨row, old, named⟩)
  obtain rfl : other = user := DemoUser.eq_of_email other known user listed
    (stored.email.symm.trans named)
  refine ⟨row, member, stored, fun call email password requested spelled => ?_⟩
  have account
      : row.account platform = ⟨platform.normalize other.email, accepted other.password⟩ := by
    rw [User.account, stored.email, stored.phrases, normalized other listed]
  let seeded : Database := ⟨_, kept⟩
  have here : (seeded.register platform).accounts row.id = some (row.account platform) :=
    seeded.accounts_of_mem member
  rw [account] at here
  exact (seeded.answersSignIn_of_account here requested
    (spelled.trans (normalized other listed).symm)).1

end Task

/-- The seeds of an empty database: the librarian can sign in, with the address in capitals and a
blank before it.
-/
theorem seedUsers_settles_sample
    : let envs : DemoUser → Env := fun _ => ⟨0, "s", id⟩
      let seeded := seedUsers .ascii envs .empty
      ∃ row ∈ seeded.users.rows, row.role = .librarian
        ∧ ((perform .ascii seeded (.onDay 0 none (.sessions
          (.create (some " Librarian@Example.com") (some "password123"))))).1.signedIn
            = some row.id) := by
  intro envs
  have normalized : ∀ user ∈ demoUsers, Platform.ascii.normalize user.email = user.email := by
    decide
  obtain ⟨seeded, same, _, _, _, _, signIn⟩ := seedUsers_settles normalized envs envs
    (fun _ _ => Platform.ascii_verifies_salt) ⟨.empty, Store.empty_consistent⟩
  have absent (user : DemoUser) : ¬user.Present .empty := by
    rintro ⟨row, member, -⟩
    cases member
  obtain ⟨row, member, stored, opens⟩ := signIn _ List.mem_cons_self (absent _)
  rw [same] at member opens
  refine ⟨row, member, stored.role, ?_⟩
  exact (opens _ (some " Librarian@Example.com") (some "password123") rfl (by decide)).mpr rfl

end LibraryManagement
