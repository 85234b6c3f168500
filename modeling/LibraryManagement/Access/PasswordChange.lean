import LibraryManagement.Lending.Consistency

/-! `PATCH /account/password`. Its answer is that of `save`, and `save` has nothing to object to
where neither the password nor its confirmation is given, or where only the confirmation is left
out.
-/

namespace LibraryManagement

open Relational

def Call.changePassword (env : Env) (format : Format) (user : User)
    (currentPassword password passwordConfirmation : Param String)
    : Call where
  env := env
  session := some user.id
  format := format
  request := .account (.password currentPassword password passwordConfirmation)

/-- The answer `ok` is given for the right password and a confirmed new one only, which is the
user's afterwards; any other answer leaves the digest as it was.
-/
def ReportsTruth (platform : Platform) (s : Store) (env : Env) (format : Format) (user : User)
    (currentPassword password passwordConfirmation : Param String)
    : Prop :=
  let outcome := perform platform s
    (.changePassword env format user currentPassword password passwordConfirmation)
  (outcome.1 = ⟨.ok, .ok⟩
    → platform.validPassword user.encryptedPassword (currentPassword.read.getD "")
      ∧ ∃ given, password = .value given ∧ passwordConfirmation = .value given
        ∧ ∃ row ∈ outcome.2.users.find? user.id,
          platform.validPassword row.encryptedPassword given)
  ∧ (outcome.1 ≠ ⟨.ok, .ok⟩
    → (outcome.2.users.find? user.id).map User.encryptedPassword = some user.encryptedPassword)

/-- A new password that the validations accept: present, with 6 to 128 characters. -/
def acceptedPassword (password : String) : Bool :=
  !blank password && 6 ≤ password.length && password.length ≤ 128

/-- The current password is right, the confirmation is left out, and the rest can be saved: the
user's own email, and the new password unless that is left out too.
-/
def UnconfirmedChange (platform : Platform) (s : Store) (user : User)
    (currentPassword password passwordConfirmation : Param String)
    : Prop :=
  platform.validPassword user.encryptedPassword (currentPassword.read.getD "")
  ∧ passwordConfirmation.read = none
  ∧ (user.load.beforeValidation platform).emailErrors s (some user) = []
  ∧ (user.load.beforeValidation platform).TextsFit platform (some user)
  ∧ ∀ given ∈ password.read, acceptedPassword given

instance (platform : Platform) (s : Store) (user : User)
    (currentPassword password passwordConfirmation : Param String)
    : Decidable (UnconfirmedChange platform s user currentPassword password passwordConfirmation) :=
  inferInstanceAs (Decidable (_ ∧ _ ∧ _ ∧ _ ∧ ∀ given ∈ password.read, _))

theorem Param.read_eq_some_iff {param : Param α} {given : α}
    : param.read = some given ↔ param = .value given := by
  cases param <;> simp [read, assign]

section Validation

variable {platform : Platform} {s : Store} {user : User}

/-- What the validations of a password accept, for a stored user. -/
theorem User.Draft.passwordErrors_eq_nil_iff {draft : User.Draft}
    : draft.passwordErrors (some user) = []
      ↔ (draft.password = none ∧ draft.passwordConfirmation = none)
        ∨ ∃ given, draft.password = some given ∧ acceptedPassword given
          ∧ (draft.passwordConfirmation = none ∨ draft.passwordConfirmation = some given) := by
  cases password : draft.password with
  | none =>
      cases confirmation : draft.passwordConfirmation <;>
        simp [passwordErrors, passwordRequired, password, confirmation, blank?, presence]
  | some given =>
      cases isBlank : blank given <;> cases confirmation : draft.passwordConfirmation <;>
        simp [passwordErrors, passwordRequired, password, confirmation, blank?, presence,
          Option.filter, isBlank, acceptedPassword]
      exact and_comm

theorem User.Draft.emailErrors_congr {draft other : User.Draft} (same : draft.email = other.email)
    : draft.emailErrors s (some user) = other.emailErrors s (some user) := by
  simp only [emailErrors, same]

/-- The record that `AccountsController#password` saves. -/
def User.changed (platform : Platform) (env : Env) (user : User)
    (password passwordConfirmation : Param String)
    : User.Draft :=
  { user.load.setPassword platform env password.read with
    passwordConfirmation := passwordConfirmation.read }

/-- What is saved of the record: its texts are the user's own. -/
theorem User.changed_savable_iff (platform : Platform) (s : Store) (user : User) (env : Env)
    (password passwordConfirmation : Param String)
    : ((user.changed platform env password passwordConfirmation).beforeValidation
          platform).Savable platform s (some user)
      ↔ (user.load.beforeValidation platform).emailErrors s (some user) = []
        ∧ (user.load.beforeValidation platform).TextsFit platform (some user)
        ∧ ((password.read = none ∧ passwordConfirmation.read = none)
          ∨ ∃ given, password.read = some given ∧ acceptedPassword given
            ∧ (passwordConfirmation.read = none ∨ passwordConfirmation.read = some given)) := by
  have email : ((user.changed platform env password passwordConfirmation).beforeValidation
      platform).emailErrors s (some user)
      = (user.load.beforeValidation platform).emailErrors s (some user) :=
    User.Draft.emailErrors_congr rfl
  have role : ((user.changed platform env password passwordConfirmation).beforeValidation
      platform).role = some user.role := rfl
  have texts : ((user.changed platform env password passwordConfirmation).beforeValidation
      platform).TextsFit platform (some user)
      ↔ (user.load.beforeValidation platform).TextsFit platform (some user) := Iff.rfl
  rw [User.Draft.Savable, texts, and_comm, and_left_comm, and_congr_right_iff]
  intro _
  simp only [User.Draft.errors, List.append_eq_nil_iff, email, role,
    User.Draft.passwordErrors_eq_nil_iff]
  simp [User.changed, User.Draft.beforeValidation, User.Draft.setPassword]

theorem User.Draft.applyTo_encryptedPassword (env : Env) (draft : User.Draft) (user : User)
    : (draft.applyTo env user).encryptedPassword = draft.encryptedPassword := by
  rw [applyTo]
  split
  · next same => exact (congrArg User.encryptedPassword same).symm
  · rfl

/-- A record that can be saved is saved to the user's row. -/
theorem User.Draft.update_found (known : user ∈ s.users.rows) (env : Env) {draft : User.Draft}
    (savable : (draft.beforeValidation platform).Savable platform s (some user))
    : ∃ row s', draft.update platform env s user = .stored (row, s')
        ∧ s'.users.find? user.id = some ((draft.beforeValidation platform).applyTo env user) := by
  have here : (draft.beforeValidation platform).applyTo env user
      ∈ (s.users.update (fun row => row.id == user.id)
          ⟨(draft.beforeValidation platform).applyTo env,
            (draft.beforeValidation platform).applyTo_id env⟩).rows :=
    (s.users.mem_update).mpr ⟨user, known, if_pos (beq_self_eq_true user.id)⟩
  have found := (Table.find?_eq_some_iff _).mpr
    ⟨here, (draft.beforeValidation platform).applyTo_id env user⟩
  exact ⟨_, _, update_eq_stored_iff.mpr ⟨savable, rfl⟩, found⟩

/-- An accepted password becomes the digest that is saved. -/
theorem User.changed_encryptedPassword (env : Env) {password : Param String} {given : String}
    (read : password.read = some given) (accepted : acceptedPassword given)
    (passwordConfirmation : Param String)
    : ((user.changed platform env password passwordConfirmation).beforeValidation
        platform).encryptedPassword = platform.digest env.salt given := by
  simp only [acceptedPassword, Bool.and_eq_true, Bool.not_eq_true'] at accepted
  simp [User.changed, User.Draft.beforeValidation, User.Draft.setPassword, read, presence,
    Option.filter, accepted.1.1]

end Validation

-----------------------------------------------------------------------------------------
-- The answer
-----------------------------------------------------------------------------------------

section Answer

variable (platform : Platform) {s : Store} {user : User}

theorem perform_changePassword (known : user ∈ s.users.rows) (env : Env) (format : Format)
    (currentPassword password passwordConfirmation : Param String)
    : perform platform s
        (.changePassword env format user currentPassword password passwordConfirmation)
      = if platform.validPassword user.encryptedPassword (currentPassword.read.getD "") then
          match (user.changed platform env password passwordConfirmation).update platform env s
              user with
          | .stored (_, stored) => (⟨.ok, .ok⟩, stored)
          | .invalid errors => (recordInvalid errors, s)
          | .raised exception => (raised exception, s)
        else
          (⟨.unprocessableEntity, .error "Current password is incorrect"⟩, s) := by
  have signedIn : s.users.find? user.id = some user := s.users.find?_of_mem known
  generalize saved : (user.changed platform env password passwordConfirmation).update platform env s
    user = outcome
  unfold User.changed at saved
  cases outcome <;>
    simp only [perform, Call.changePassword, Call.currentUser, Option.bind_some, signedIn,
      AccountsController.handle, authenticateUser, AccountsController.password, saved]

variable {platform}

/-- A request that is not answered `ok` leaves the digest alone. -/
theorem reportsTruth_of_refused (known : user ∈ s.users.rows) {env : Env} {format : Format}
    {currentPassword password passwordConfirmation : Param String} {response : Response}
    (refused
      : perform platform s
          (.changePassword env format user currentPassword password passwordConfirmation)
        = (response, s))
    (other : response ≠ ⟨.ok, .ok⟩)
    : ReportsTruth platform s env format user currentPassword password passwordConfirmation := by
  rw [ReportsTruth, refused]
  have kept : s.users.find? user.id = some user := s.users.find?_of_mem known
  exact ⟨fun ok => absurd ok other, fun _ => congrArg (Option.map User.encryptedPassword) kept⟩

/-- The answer `ok` is true of a confirmed password that is the user's now. -/
theorem reportsTruth_of_ok {env : Env} {format : Format}
    {currentPassword password passwordConfirmation : Param String} {s' : Store} {row : User}
    (answered
      : perform platform s
          (.changePassword env format user currentPassword password passwordConfirmation)
        = (⟨.ok, .ok⟩, s'))
    (found : s'.users.find? user.id = some row)
    : ReportsTruth platform s env format user currentPassword password passwordConfirmation
      ↔ platform.validPassword user.encryptedPassword (currentPassword.read.getD "")
        ∧ ∃ given, password = .value given ∧ passwordConfirmation = .value given
          ∧ platform.validPassword row.encryptedPassword given := by
  rw [ReportsTruth, answered]
  simp only [found, Option.mem_some, exists_eq_left', ne_eq, not_true_eq_false, forall_true_left,
    false_imp_iff, and_true]

/-- Nothing is in the way of an unconfirmed change. -/
theorem UnconfirmedChange.savable {currentPassword password passwordConfirmation : Param String}
    (asked : UnconfirmedChange platform s user currentPassword password passwordConfirmation)
    (env : Env)
    : ((user.changed platform env password passwordConfirmation).beforeValidation
        platform).Savable platform s (some user) := by
  obtain ⟨_, unconfirmed, email, fits, accepted⟩ := asked
  refine (User.changed_savable_iff platform s user env password passwordConfirmation).mpr
    ⟨email, fits, ?_⟩
  cases read : password.read with
  | none => exact Or.inl ⟨rfl, unconfirmed⟩
  | some given => exact Or.inr ⟨given, rfl, accepted given read, Or.inl unconfirmed⟩

/-- Any other change that is saved is a confirmed one: of the ways in which the record can be valid,
the first two are unconfirmed changes.
-/
theorem confirmed_of_savable {currentPassword password passwordConfirmation : Param String}
    {env : Env}
    (right : platform.validPassword user.encryptedPassword (currentPassword.read.getD ""))
    (savable
      : ((user.changed platform env password passwordConfirmation).beforeValidation
          platform).Savable platform s (some user))
    (confirmed : ¬UnconfirmedChange platform s user currentPassword password passwordConfirmation)
    : ∃ given, password.read = some given ∧ passwordConfirmation.read = some given
        ∧ acceptedPassword given := by
  obtain ⟨email, fits, accepted⟩ := (User.changed_savable_iff platform s user env password
    passwordConfirmation).mp savable
  rcases accepted with ⟨noPassword, noConfirmation⟩ | ⟨given, read, fine, confirmation⟩
  · exact absurd ⟨right, noConfirmation, email, fits, by simp [noPassword]⟩ confirmed
  · rcases confirmation with noConfirmation | confirmation
    · exact absurd ⟨right, noConfirmation, email, fits, by simpa [read] using fine⟩ confirmed
    · exact ⟨given, read, confirmation, fine⟩

/-- The answer reports the truth exactly when it is no unconfirmed change that is asked for. The
digest of a password is taken to be one that the password matches.
-/
theorem reportsTruth_iff (known : user ∈ s.users.rows) (env : Env)
    (verifies : ∀ given, platform.validPassword (platform.digest env.salt given) given)
    (format : Format) (currentPassword password passwordConfirmation : Param String)
    : ReportsTruth platform s env format user currentPassword password passwordConfirmation
      ↔ ¬UnconfirmedChange platform s user currentPassword password passwordConfirmation := by
  have answer := perform_changePassword platform known env format currentPassword
    password passwordConfirmation
  cases right : platform.validPassword user.encryptedPassword (currentPassword.read.getD "") with
  | false =>
      rw [right, if_neg Bool.false_ne_true] at answer
      refine iff_of_true (reportsTruth_of_refused known answer (by simp)) ?_
      exact fun asked => Bool.false_ne_true (right.symm.trans asked.1)
  | true =>
      rw [right, if_pos rfl] at answer
      by_cases savable : ((user.changed platform env password passwordConfirmation).beforeValidation
          platform).Savable platform s (some user)
      · obtain ⟨_, s', saved, found⟩ := User.Draft.update_found known env savable
        simp only [saved] at answer
        rw [reportsTruth_of_ok answer found, User.Draft.applyTo_encryptedPassword]
        constructor
        · intro truth asked
          obtain ⟨_, given, _, confirmed, _⟩ := truth
          obtain ⟨_, unconfirmed, _⟩ := asked
          exact Option.some_ne_none given
            ((Param.read_eq_some_iff.mpr confirmed).symm.trans unconfirmed)
        · intro confirmed
          obtain ⟨given, read, confirmation, fine⟩ := confirmed_of_savable right savable confirmed
          refine ⟨right, given, Param.read_eq_some_iff.mp read,
            Param.read_eq_some_iff.mp confirmation, ?_⟩
          rw [User.changed_encryptedPassword env read fine]
          exact verifies given
      · have refused : ReportsTruth platform s env format user currentPassword password
            passwordConfirmation := by
          cases saved : (user.changed platform env password passwordConfirmation).update platform
              env s user with
          | stored row => exact absurd (User.Draft.update_eq_stored_iff.mp saved).1 savable
          | invalid errors =>
              simp only [saved] at answer
              exact reportsTruth_of_refused known answer (by simp [recordInvalid])
          | raised exception =>
              simp only [saved] at answer
              exact reportsTruth_of_refused known answer (by simp [raised])
        exact iff_of_true refused (fun asked => savable (asked.savable env))

end Answer

/-- The digests of the sample platform are ones that their password matches. -/
theorem Platform.ascii_verifies (given : String)
    : Platform.ascii.validPassword (Platform.ascii.digest "s" given) given := by
  simp [Platform.ascii]

/-- A confirmed change by the second user of the sample. -/
theorem reportsTruth_sample
    : let s := Database.sample.store
      ReportsTruth .ascii s (Call.onDay 0 none .health).env .json s.users.rows[1]
        (.value "password123") (.value "password456") (.value "password456") := by
  intro s
  have known : s.users.rows[1] ∈ s.users.rows := List.getElem_mem _
  have exact' := reportsTruth_iff known (Call.onDay 0 none .health).env Platform.ascii_verifies
    .json (.value "password123") (.value "password456") (.value "password456")
  exact exact'.mpr (fun asked => Option.some_ne_none _ asked.2.1)

/-- With the right current password alone, the answer is `ok` and nothing has changed. -/
theorem missing_password_ok
    : let s := Database.sample.store
      let env := (Call.onDay 0 none .health).env
      perform .ascii s
          (.changePassword env .json s.users.rows[1] (.value "password123") .absent .absent)
          = (⟨.ok, .ok⟩, s)
        ∧ ¬ReportsTruth .ascii s env .json s.users.rows[1] (.value "password123") .absent
            .absent := by
  have answered : perform .ascii Database.sample.store
      (.changePassword (Call.onDay 0 none .health).env .json Database.sample.store.users.rows[1]
        (.value "password123") .absent .absent)
      = (⟨.ok, .ok⟩, Database.sample.store) := by decide
  refine ⟨answered, fun truth => ?_⟩
  obtain ⟨_, _, given, _⟩ := truth.1 (congrArg Prod.fst answered)
  contradiction

end LibraryManagement
