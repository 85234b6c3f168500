import LibraryManagement.Lending.Jobs

/-! Addresses as they are stored. Every save of a user goes through the validations of Devise, so
the rows of the users table keep the one spelling under which signing in looks an address up.
-/

namespace LibraryManagement

open Relational Transition

/-- What the validations let into the column. -/
structure Platform.Address (platform : Platform) (text : String) : Prop where
  normal : platform.normalize text = text
  filled : blank text = false
  formed : User.Draft.emailRegexp text

def Store.Addressed (platform : Platform) (s : Store) : Prop :=
  ∀ user ∈ s.users.rows, platform.Address user.email

/-- Normal text has one spelling only, and Devise writes the address of a row or one that has
passed the validations.
-/
structure Platform.Addresses (platform : Platform) : Prop where
  settles : ∀ text, platform.normalize (platform.normalize text) = platform.normalize text
  devise
    : ∀ request env currentUser s id columns,
        platform.deviseWrite request env currentUser s = some (id, columns)
        → platform.Address columns.email ∨ ∃ user ∈ s.users.rows, user.email = columns.email

/-- Lowered text has nothing to lower. -/
theorem toLower_toLower (char : Char) : char.toLower.toLower = char.toLower := by
  by_cases upper : char.val ≥ 'A'.val ∧ char.val ≤ 'Z'.val
  · have lowered : char.toLower.val = char.val + 32 := congrArg Char.val (dif_pos upper)
    have below : ¬(char.toLower.val ≥ 'A'.val ∧ char.toLower.val ≤ 'Z'.val) := by
      rw [lowered]
      simp only [ge_iff_le, UInt32.le_iff_toNat_le, UInt32.toNat_add, UInt32.reduceToNat,
        Char.reduceVal] at upper ⊢
      omega
    exact dif_neg below
  · have same : char.toLower = char := dif_neg upper
    rw [same, same]

/-- Stripping leaves no other characters. -/
theorem mem_of_mem_strip {char : Char} {text : String} (kept : char ∈ (strip text).toList)
    : char ∈ text.toList := by
  rw [strip, String.toList_ofList, List.mem_reverse] at kept
  have front := (List.dropWhile_sublist isStripped).subset kept
  exact (List.dropWhile_sublist isStripped).subset (List.mem_reverse.mp front)

/-- Lowering and stripping ASCII text twice is doing it once. -/
theorem Platform.ascii_addresses : Platform.ascii.Addresses where
  settles text := by
    have lowered : Platform.ascii.downcase (Platform.ascii.normalize text)
        = Platform.ascii.normalize text := by
      refine String.toList_injective ?_
      rw [ascii, String.toList_ofList]
      refine (List.map_congr_left (fun char kept => ?_)).trans (List.map_id _)
      have given := mem_of_mem_strip kept
      rw [downcase, String.toList_ofList] at given
      obtain ⟨upper, _, rfl⟩ := List.mem_map.mp given
      exact toLower_toLower upper
    rw [normalize, lowered]
    exact strip_strip _
  devise _ _ _ _ _ _ written := by cases written

-----------------------------------------------------------------------------------------
-- What a request does to the users
-----------------------------------------------------------------------------------------

/-- The digest is the old one, or one of a password under the salt. -/
def Platform.Redigested (platform : Platform) (salt before after : String) : Prop :=
  after = before ∨ ∃ given, after = platform.digest salt given

/-- Assigning a password replaces the digest by one under the salt of the request, or leaves it
where the password is blank.
-/
theorem User.Draft.setPassword_redigested (platform : Platform) (env : Env)
    (password : Option String) (draft : User.Draft)
    : platform.Redigested env.salt draft.encryptedPassword
        (draft.setPassword platform env password).encryptedPassword := by
  rw [setPassword]
  split
  · next given _ => exact Or.inr ⟨given, rfl⟩
  · exact Or.inl rfl

/-- So does assigning parameters. -/
theorem UserParams.assign_redigested (platform : Platform) (env : Env) (params : UserParams)
    (draft : User.Draft)
    : platform.Redigested env.salt draft.encryptedPassword
        (params.assign platform env draft).encryptedPassword := by
  simp only [assign]
  split
  · exact Or.inl rfl
  · exact User.Draft.setPassword_redigested platform env none _
  · next given _ => exact User.Draft.setPassword_redigested platform env (some given) _

/-- Users are written by `save`, by Devise and by the two ways out. -/
inductive UserEffect (platform : Platform) (call : Call) (s : Store) : Store → Prop
  | kept {s' : Store} (same : s'.users = s.users) : UserEffect platform call s s'
  | created {draft : User.Draft} {user : User} {s' : Store}
    (saved : draft.create platform call.env s = .stored (user, s'))
    : UserEffect platform call s s'
  | updated {draft : User.Draft} {user row : User} {s' : Store} (known : user ∈ s.users.rows)
    (digest
      : platform.Redigested call.env.salt user.encryptedPassword draft.encryptedPassword)
    (saved : draft.update platform call.env s user = .stored (row, s'))
    : UserEffect platform call s s'
  | forgotten (user : User)
    : UserEffect platform call s (SessionsController.forgetMe call.env user s)
  | written {request : DeviseRequest} {currentUser : Option User} {id : Nat}
    {columns : DeviseColumns}
    (written : platform.deviseWrite request call.env currentUser s = some (id, columns))
    : UserEffect platform call s (s.writeDeviseColumns id columns)
  | destroyed (id : Nat) : UserEffect platform call s (s.destroyUser id)

section Requests

variable {platform : Platform} {call : Call} {s : Store}

theorem SessionsController.userEffect (request : SessionsRequest)
    : UserEffect platform call s
        (handle platform call.env call.format (call.currentUser s) request s).2 := by
  have unchanged : UserEffect platform call s s := .kept rfl
  cases request with
  | create email password | preflight | current | csrf => exact unchanged
  | destroy => exact authenticateUser_holds unchanged (fun user _ => .forgotten user)

/-- The actions on members save or delete a user, or leave the table alone: what holds of an
unchanged table and of each write holds behind every filter.
-/
theorem MembersController.userEffect (request : MembersRequest)
    : UserEffect platform call s
        (handle platform call.env call.format (call.currentUser s) request s).2 := by
  have unchanged : UserEffect platform call s s := .kept rfl
  cases request with
  | new | edit id => exact unchanged
  | index q page =>
      exact authenticateUser_holds unchanged (fun _ _ => requireLibrarian_holds unchanged
        (fun _ => unchanged))
  | «show» id =>
      exact authenticateUser_holds unchanged (fun _ _ => requireLibrarian_holds unchanged
        (fun _ => setRecord_holds unchanged (fun _ _ => unchanged)))
  | create params =>
      refine authenticateUser_holds unchanged (fun _ _ => requireLibrarian_holds unchanged
        (fun _ => ?_))
      cases params with
      | none => exact unchanged
      | some params =>
          simp only [create]
          split
          · next saved => exact .created saved
          · exact unchanged
          · exact unchanged
  | update id params =>
      refine authenticateUser_holds unchanged (fun _ _ => requireLibrarian_holds unchanged
        (fun _ => setRecord_holds unchanged (fun member found => ?_)))
      cases params with
      | none => exact unchanged
      | some params =>
          simp only [update]
          split
          · next saved =>
            exact .updated (mem_of_setMember found).1
              (params.assign_redigested platform call.env member.load) saved
          · exact unchanged
          · exact unchanged
  | destroy id =>
      exact authenticateUser_holds unchanged (fun _ _ => requireLibrarian_holds unchanged
        (fun _ => setRecord_holds unchanged (fun member _ => .destroyed member.id)))

/-- Those on the own account save the current user, the password action with the digest of a
password that was given.
-/
theorem AccountsController.userEffect (request : AccountsRequest)
    : UserEffect platform call s
        (handle platform call.env call.format (call.currentUser s) request s).2 := by
  have unchanged : UserEffect platform call s s := .kept rfl
  refine authenticateUser_holds unchanged (fun user signedIn => ?_)
  have known := Call.mem_of_currentUser signedIn
  cases request with
  | «show» => exact unchanged
  | update params =>
      cases params with
      | none => exact unchanged
      | some params =>
          simp only [update]
          split
          · next saved =>
            exact .updated known
              ((accountParams params).assign_redigested platform call.env user.load) saved
          · exact unchanged
          · exact unchanged
  | password current given confirmation =>
      simp only [password]
      split
      · split
        · next saved =>
          refine .updated known ?_ saved
          exact user.load.setPassword_redigested platform call.env given.read
        · exact unchanged
        · exact unchanged
      · exact unchanged

/-- Devise saves a registration, writes columns of its own or deletes the current user; where it
answers first, nothing is written.
-/
theorem Devise.userEffect (request : DeviseRequest)
    : UserEffect platform call s
        (handle platform call.env call.format (call.currentUser s) request s).2 := by
  have unchanged : UserEffect platform call s s := .kept rfl
  have written (currentUser : Option User)
      : UserEffect platform call s
          (write platform call.env call.format currentUser request s).2 := by
    simp only [write]
    split
    · exact unchanged
    · next written => exact .written written
  simp only [handle]
  split
  · exact unchanged
  · cases request with
    | newSession | newPassword | editPassword | newRegistration | cancelRegistration =>
        exact unchanged
    | createSession | createPassword | updatePassword | destroySession =>
        exact written (call.currentUser s)
    | editRegistration => exact authenticateUser_holds unchanged (fun _ _ => unchanged)
    | updateRegistration =>
        exact authenticateUser_holds unchanged (fun user _ => written (some user))
    | destroyRegistration =>
        exact authenticateUser_holds unchanged (fun user _ => .destroyed user.id)
    | createRegistration email password confirmation =>
        simp only [createRegistration]
        split
        · next saved => exact .created saved
        · exact unchanged
        · exact unchanged

/-- What a request does to the users is one of these, by cases on the controller its route reaches.
-/
theorem step_userEffect (platform : Platform) (s : Store) (call : Call)
    : UserEffect platform call s (step platform s call) := by
  rw [step, perform]
  split
  · exact .kept rfl
  · exact Devise.userEffect _
  · exact SessionsController.userEffect _
  · exact AccountsController.userEffect _
  · exact .kept (BooksController.users_kept platform s call _)
  · exact .kept (BorrowingsController.users_kept platform s call _)
  · exact MembersController.userEffect _
  · exact .kept (DashboardsController.users_kept s call _)

end Requests

-----------------------------------------------------------------------------------------
-- Addresses that are saved
-----------------------------------------------------------------------------------------

section Saved

variable {platform : Platform} {env : Env} {s s' : Store} {draft : User.Draft}

/-- A valid record has an address: a changed one has passed the validations of the email, and one
that a loaded record has kept was an address before.
-/
theorem User.Draft.address_of_valid (addresses : platform.Addresses) {persisted : Option User}
    (before : ∀ user ∈ persisted, platform.Address user.email)
    (valid : (draft.beforeValidation platform).errors s persisted = [])
    : platform.Address ((draft.beforeValidation platform).email.getD "") := by
  obtain ⟨email, named⟩ := email_of_valid valid
  obtain ⟨given, _, normal⟩ := Option.map_eq_some_iff.mp named
  rw [named, Option.getD_some]
  by_cases changed : persisted.all (fun self => some self.email != some email)
  · simp only [errors, List.append_eq_nil_iff] at valid
    have valid := valid.1.1
    rw [emailErrors, named, changed] at valid
    cases filled : blank email with
    | true => simp [blank?, filled] at valid
    | false =>
        refine ⟨normal ▸ addresses.settles given, filled, ?_⟩
        by_contra formed
        simp [blank?, presence, Option.filter, filled, formed] at valid
  · cases loaded : persisted with
    | none => simp [loaded] at changed
    | some self =>
        have same : self.email = email := by simpa [loaded] using changed
        exact same ▸ before self loaded

/-- A saved new user has an address that passed the validations. -/
theorem Store.Addressed.create (addressed : s.Addressed platform)
    (addresses : platform.Addresses) {user : User}
    (saved : draft.create platform env s = .stored (user, s'))
    : s'.Addressed platform := by
  obtain ⟨role, valid, _, rfl⟩ := User.Draft.create_stored saved
  intro row member
  rcases (s.users.mem_insert).mp member with old | rfl
  · exact addressed row old
  · exact User.Draft.address_of_valid addresses (fun _ absent => by cases absent) valid

/-- A saved user has an address that passed them, or the one that was stored. -/
theorem Store.Addressed.update (addressed : s.Addressed platform)
    (addresses : platform.Addresses) {user row : User} (known : user ∈ s.users.rows)
    (saved : draft.update platform env s user = .stored (row, s'))
    : s'.Addressed platform := by
  obtain ⟨valid, rfl⟩ := User.Draft.update_stored saved
  intro other member
  obtain ⟨old, present, rfl⟩ := (s.users.mem_update).mp member
  split
  · rw [User.Draft.applyTo_email]
    exact User.Draft.address_of_valid addresses
      (fun _ loaded => Option.some.inj loaded ▸ addressed user known) valid
  · exact addressed old present

theorem Store.Addressed.of_users (addressed : s.Addressed platform)
    (same : s'.users = s.users)
    : s'.Addressed platform := by
  rw [Addressed, same]
  exact addressed

/-- A request keeps the stored addresses normal: by cases on what it does to the users, with the
assumption about Devise's own writes.
-/
theorem Store.Addressed.step (addressed : s.Addressed platform)
    (addresses : platform.Addresses) (call : Call)
    : (step platform s call).Addressed platform := by
  have effect := step_userEffect platform s call
  generalize LibraryManagement.step platform s call = after at effect
  cases effect with
  | kept same => exact addressed.of_users same
  | created saved => exact addressed.create addresses saved
  | updated known _ saved => exact addressed.update addresses known saved
  | forgotten user =>
      intro row member
      obtain ⟨old, present, rfl⟩ := (s.users.mem_update).mp member
      split <;> exact addressed old present
  | @written request currentUser id columns written =>
      rw [Store.writeDeviseColumns]
      split
      · exact addressed
      · intro row member
        obtain ⟨old, present, rfl⟩ := (s.users.mem_update).mp member
        split
        · rcases addresses.devise request call.env currentUser s id columns written with
            address | ⟨user, known, same⟩
          · exact address
          · exact show platform.Address columns.email from same ▸ addressed user known
        · exact addressed old present
  | destroyed id => exact fun row member => addressed row ((s.users.mem_delete).mp member).1

/-- So does a transaction of a task, by its kind: users are saved through the same validations, and
the other transactions leave them alone.
-/
theorem Job.run_addressed (addresses : platform.Addresses) (job : Job)
    (consistent : s.Consistent) (addressed : s.Addressed platform)
    : (job.run platform s).Addressed platform := by
  cases job with
  | request call => exact addressed.step addresses call
  | findOrCreate env user =>
      rw [run, DemoUser.findOrCreate]
      split
      · exact addressed
      · split
        · next saved => exact addressed.create addresses saved
        · exact addressed
        · exact addressed
  | saveBestseller env entry listed =>
      exact addressed.of_users (run_saveBestseller platform consistent env listed).2.users
  | destroyLoan id => exact addressed.of_users rfl
  | createLoan loan drawn =>
      rw [run_createLoan]
      split <;> exact addressed
  | markOverdue today =>
      rw [run, OverdueService.markOverdueBooks_store]
      exact addressed.of_users rfl

end Saved

/-- However requests and tasks come after one another, every stored address has passed the
validations, no two accounts have addresses that differ in their spelling only, and an account is
signed in under every spelling of its address, with the phrases that its digest lets pass.
-/
theorem addresses_stand (platform : Platform) (addresses : platform.Addresses) (jobs : List Job)
    : ∀ s ∈ states (Job.run platform) .empty jobs, ∀ user ∈ s.users.rows,
        platform.Address user.email
        ∧ (∀ other ∈ s.users.rows,
          platform.normalize other.email = platform.normalize user.email → other = user)
        ∧ ∀ call spelled phrase,
          call.request = .sessions (.create (some spelled) (some phrase))
          → ((perform platform s call).1.signedIn = some user.id
            ↔ platform.normalize spelled = user.email
              ∧ platform.validPassword user.encryptedPassword phrase) := by
  have addressed : ∀ reached ∈ states (Job.run platform) .empty jobs,
      reached.Sound ∧ reached.Addressed platform := by
    refine invariant ⟨Store.empty_sound, List.forall_mem_nil _⟩ ?_ jobs
    exact fun s job before =>
      ⟨job.run_sound before.1, job.run_addressed addresses before.1.consistent before.2⟩
  intro s reached user known
  obtain ⟨sound, stored⟩ := addressed s reached
  refine ⟨stored user known, ?_, ?_⟩
  · intro other present same
    rw [(stored other present).normal, (stored user known).normal] at same
    exact s.users.eq_of_key_eq present known (sound.consistent.emails other present user known same)
  · intro call spelled phrase requested
    let database : Database := ⟨s, sound.consistent⟩
    have answers := (database.answersSignIn platform requested).1 user.id
    rw [Option.getD_some, Option.getD_some, Database.opens_iff] at answers
    rw [answers]
    constructor
    · rintro ⟨other, present, same, named, opens⟩
      obtain rfl : other = user := s.users.eq_of_key_eq present known same
      exact ⟨named.symm, opens⟩
    · rintro ⟨named, opens⟩
      exact ⟨user, known, rfl, named.symm, opens⟩

/-- The accounts of the seeds. -/
def Job.sampleAccounts : List Job := demoUsers.map (.findOrCreate ⟨0, "s", id⟩)

theorem addresses_stand_sample
    : let s := Job.sampleAccounts.foldl (Job.run .ascii) .empty
      ∃ user ∈ s.users.rows, Platform.ascii.Address user.email
        ∧ (perform .ascii s (.onDay 0 none (.sessions
          (.create (some " Megan@Example.com") (some "password123"))))).1.signedIn
            = some user.id := by
  intro s
  have reached : s ∈ states (Job.run .ascii) .empty Job.sampleAccounts := foldl_mem_states _ _
  have users : ∃ user ∈ s.users.rows, user.email = "megan@example.com"
      ∧ Platform.ascii.validPassword user.encryptedPassword "password123" := by
    decide
  obtain ⟨user, known, named, opens⟩ := users
  obtain ⟨address, _, signsIn⟩ :=
    addresses_stand .ascii Platform.ascii_addresses Job.sampleAccounts s reached user known
  refine ⟨user, known, address, (signsIn _ _ _ rfl).mpr ⟨?_, opens⟩⟩
  rw [named]
  decide

end LibraryManagement
