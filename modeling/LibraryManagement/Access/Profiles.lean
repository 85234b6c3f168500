import LibraryManagement.Access.Addresses
import LibraryManagement.Access.OwnData
import LibraryManagement.Client.NextPage
import LibraryManagement.Viewing.Resource

/-! Names and addresses of users, which a librarian edits in the dialog of `GET /members` and
everybody in the form of `GET /account`. Addresses come out in their one spelling, and the form of
one's own account shows a missing name as an empty one.
-/

namespace LibraryManagement

open Relational Transition Viewing

/-- What the dialog Edit Member is filled with. -/
def User.form (user : User) : MemberForm where
  email := user.email
  firstName := user.firstName
  lastName := user.lastName

def UserRecord.form (record : UserRecord) : MemberForm where
  email := record.email
  firstName := record.firstName
  lastName := record.lastName

/-- `setProfile({ first_name: u?.first_name || "", ... })` -/
def UserRecord.profile (record : UserRecord) : MemberForm where
  email := record.email
  firstName := some (record.firstName.getD "")
  lastName := some (record.lastName.getD "")

/-- What a form reads once it has been saved. -/
def MemberForm.settle (platform : Platform) (form : MemberForm) : MemberForm where
  email := platform.normalize form.email
  firstName := form.firstName
  lastName := form.lastName

/-- The requests that save a form: of the dialog, by a librarian, and of one's own account. -/
inductive Call.SavesForm (s : Store) (id : Nat) (form : MemberForm) (call : Call) : Prop
  | member {user member : User} (signedIn : call.currentUser s = some user)
    (librarian : user.role = .librarian) (found : s.users.find? id = some member)
    (isMember : member.role = .member)
    (requested : call.request = .members (.update id (some form.updateParams)))
  | account {user : User} (signedIn : call.currentUser s = some user)
    (found : s.users.find? id = some user)
    (requested : call.request = .account (.update (some form.updateParams)))

inductive Store.ShowsUser (platform : Platform) (s : Store) (record : UserRecord) : Prop
  | listed {call : Call} {q page} {records : List UserRecord}
    (requested : call.request = .members (.index q page))
    (answered : (perform platform s call).1 = ⟨.ok, .users records⟩) (member : record ∈ records)
  | member {call : Call} {id} (requested : call.request = .members (.show id))
    (answered : (perform platform s call).1 = ⟨.ok, .user (some record)⟩)
  | account {call : Call} (requested : call.request = .account .show)
    (answered : (perform platform s call).1 = ⟨.ok, .user (some record)⟩)

-----------------------------------------------------------------------------------------
-- Reading and writing a form
-----------------------------------------------------------------------------------------

def profileResource (platform : Platform) (id : Nat) : Resource Store Env MemberForm where
  read s := (s.users.find? id).map User.form
  write env form s :=
    (s.users.find? id).bind (fun user =>
      match (form.updated platform env user).update platform env s user with
      | .stored (_, stored) => some stored
      | .invalid _ | .raised _ => none)

section Forms

variable {platform : Platform} {env : Env} {s s' : Store} {id : Nat} {form : MemberForm}
  {user : User}

theorem profileResource_read (platform : Platform) (id : Nat) (s : Store)
    : (profileResource platform id).read s = (s.users.find? id).map User.form := rfl

/-- The record that is validated. -/
theorem MemberForm.updated_eq (platform : Platform) (env : Env) (user : User) (form : MemberForm)
    : (form.updated platform env user).beforeValidation platform
      = { user.load with
          email := some (form.settle platform).email
          firstName := (form.settle platform).firstName
          lastName := (form.settle platform).lastName } := by
  cases firstName : form.firstName <;> cases lastName : form.lastName <;>
    simp [updated, updateParams, UserParams.assign, param, Param.assign, firstName, lastName,
      User.Draft.beforeValidation, settle, Platform.normalize]

theorem User.Draft.applyTo_names (env : Env) (draft : User.Draft) (user : User)
    : (draft.applyTo env user).firstName = draft.firstName
      ∧ (draft.applyTo env user).lastName = draft.lastName := by
  rw [applyTo]
  split
  · next same => exact ⟨(congrArg User.firstName same).symm, (congrArg User.lastName same).symm⟩
  · exact ⟨rfl, rfl⟩

theorem profileResource_write_eq_some_iff
    : (profileResource platform id).write env form s = some s'
      ↔ ∃ user row, s.users.find? id = some user
          ∧ (form.updated platform env user).update platform env s user = .stored (row, s') := by
  constructor
  · intro written
    obtain ⟨user, found, stored⟩ := Option.bind_eq_some_iff.mp written
    split at stored
    · next row after saved =>
      obtain rfl := Option.some.inj stored
      exact ⟨user, row, found, saved⟩
    · cases stored
    · cases stored
  · rintro ⟨user, row, found, saved⟩
    exact Option.bind_eq_some_iff.mpr ⟨user, found, by simp only [saved]⟩

theorem User.Draft.update_row {draft : User.Draft} {row : User}
    (saved : draft.update platform env s user = .stored (row, s'))
    : row = (draft.beforeValidation platform).applyTo env user :=
  congrArg Prod.fst (update_eq_stored_iff.mp saved).2

/-- A save of a loaded record leaves its row as it was saved. -/
theorem MemberForm.update_stored {row : User} (found : s.users.find? id = some user)
    (saved : (form.updated platform env user).update platform env s user = .stored (row, s'))
    : s'.users.find? id = some row ∧ row.form = form.settle platform := by
  obtain ⟨known, rfl⟩ := (s.users.find?_eq_some_iff).mp found
  obtain ⟨_, stored⟩ := User.Draft.update_stored saved
  rw [User.Draft.update_row saved]
  constructor
  · rw [stored, Table.find?_update, ← key_user, found]
    simp
  · obtain ⟨firstName, lastName⟩ := User.Draft.applyTo_names env
      ((form.updated platform env user).beforeValidation platform) user
    rw [User.form, User.Draft.applyTo_email, firstName, lastName, form.updated_eq]
    rfl

/-- All columns that no form shows are kept, but for the timestamp and for the reset token, which
a new address clears.
-/
def User.ReplacesForm (before after : User) : Prop :=
  after = { before with
    email := after.email
    resetPasswordToken :=
      if after.email = before.email then before.resetPasswordToken else none
    resetPasswordSentAt :=
      if after.email = before.email then before.resetPasswordSentAt else none
    firstName := after.firstName
    lastName := after.lastName
    updatedAt := after.updatedAt }

/-- A save that keeps the password replaces what a form shows: by cases on whether it changes
the row at all, and on whether it changes the address.
-/
theorem User.Draft.applyTo_replacesForm {draft : User.Draft}
    (kept : draft.encryptedPassword = user.encryptedPassword) (env : Env)
    : user.ReplacesForm (draft.applyTo env user) := by
  rw [applyTo]
  split
  · simp [User.ReplacesForm]
  · by_cases same : draft.email.getD "" = user.email
    · simp [User.ReplacesForm, assigned, clearsToken, kept, same]
    · simp [User.ReplacesForm, assigned, clearsToken, kept, same]

/-- A save changes no other row, and no other column than those of the form and the timestamp. -/
theorem MemberForm.update_replacesForm {row : User}
    (saved : (form.updated platform env user).update platform env s user = .stored (row, s'))
    : user.ReplacesForm row ∧ s.AgreesOutside user s' := by
  obtain ⟨_, stored⟩ := User.Draft.update_stored saved
  have kept : ((form.updated platform env user).beforeValidation platform).encryptedPassword
      = user.encryptedPassword := by
    rw [form.updated_eq]
    rfl
  rw [User.Draft.update_row saved, stored]
  exact ⟨User.Draft.applyTo_replacesForm kept env,
    .updateUsers (fun row _ chosen => beq_iff_eq.mp chosen)⟩

/-- An address that is kept is not validated again. -/
theorem MemberForm.valid_of_address (address : platform.Address user.email)
    (same : form.email = user.email) (s : Store) (env : Env)
    : ((form.updated platform env user).beforeValidation platform).errors s (some user) = [] := by
  rw [updated_eq, settle, same, address.normal]
  simp [User.Draft.errors, User.Draft.emailErrors, User.Draft.passwordErrors,
    User.Draft.passwordRequired, User.load, blank?, presence, Option.filter, address.filled]

/-- A record that is saved as it was loaded assigns what its row has. -/
theorem User.load_assigned (user : User) : user.load.assigned user = user := by
  simp [load, Draft.assigned, Draft.clearsToken]

/-- Saving a form that has not been touched changes nothing. -/
theorem MemberForm.update_loaded (known : user ∈ s.users.rows)
    (address : platform.Address user.email) (env : Env)
    : (user.form.updated platform env user).update platform env s user = .stored (user, s) := by
  have loaded : (user.form.updated platform env user).beforeValidation platform = user.load := by
    rw [updated_eq, settle, User.form, address.normal]
    rfl
  have fixed (row : User) (same : row.id = user.id) (member : row ∈ s.users.rows)
      : user.load.applyTo env row = row := by
    obtain rfl := s.users.eq_of_key_eq member known same
    exact if_pos row.load_assigned
  have savable : user.load.Savable platform s (some user) :=
    ⟨loaded ▸ valid_of_address address rfl s env, User.Draft.textsFit_of_same platform rfl rfl rfl⟩
  have unchanged : s.users.update (fun row => row.id == user.id)
      ⟨user.load.applyTo env, user.load.applyTo_id env⟩ = s.users :=
    s.users.update_eq_of_fixed (fun row member chosen => fixed row (beq_iff_eq.mp chosen) member)
  refine User.Draft.update_eq_stored_iff.mpr ⟨loaded.symm ▸ savable, ?_⟩
  simp only [loaded, fixed user rfl known, unchanged]

structure Store.UsersSettled (platform : Platform) (s : Store) : Prop where
  consistent : s.Consistent
  addressed : s.Addressed platform

/-- A name that a form of the own account shows is written nowhere, or as an empty one. -/
theorem User.Draft.written_shown {column : User → Option String} {text : String}
    (written : text ∈ User.Draft.written (some user) column (some ((column user).getD "")))
    : text = "" := by
  cases stored : column user with
  | none => simpa [User.Draft.written, stored, eq_comm] using written
  | some name => simp [User.Draft.written, stored] at written

/-- The form of one's own account writes no text but empty ones: the address is kept, and so are
the names that are there.
-/
theorem UserRecord.profile_textsFit (address : platform.Address user.email) {record : UserRecord}
    (same : user.form = record.form) (env : Env)
    : ((record.profile.updated platform env user).beforeValidation platform).TextsFit platform
        (some user) := by
  have email : record.profile.email = user.email := (congrArg MemberForm.email same).symm
  have firstName : user.firstName = record.firstName := congrArg MemberForm.firstName same
  have lastName : user.lastName = record.lastName := congrArg MemberForm.lastName same
  have kept : ((record.profile.updated platform env user).beforeValidation
      platform).writtenEmail (some user) = none := by
    rw [record.profile.updated_eq, MemberForm.settle, email, address.normal]
    exact if_pos rfl
  have blank (text : String) (written : text ∈ ((record.profile.updated platform env
      user).beforeValidation platform).writtenTexts (some user))
      : text = "" := by
    rw [User.Draft.writtenTexts, kept, record.profile.updated_eq,
      List.reduceOption_mem_iff] at written
    simp only [MemberForm.settle, UserRecord.profile, ← firstName, ← lastName] at written
    rcases List.mem_cons.mp written with absent | names
    · cases absent
    · rcases List.mem_pair.mp names with first | last
      · exact User.Draft.written_shown first.symm
      · exact User.Draft.written_shown last.symm
  refine ⟨fun text written => ?_, by simp [kept]⟩
  rw [blank text written]
  rfl

/-- The form of one's own account is accepted as it is filled. -/
theorem profileResource_write_profile (found : s.users.find? id = some user)
    (address : platform.Address user.email) {record : UserRecord}
    (same : user.form = record.form) (env : Env)
    : ∃ s', (profileResource platform id).write env record.profile s = some s' := by
  have email : record.profile.email = user.email := (congrArg MemberForm.email same).symm
  have valid := MemberForm.valid_of_address address email s env
  have fits := record.profile_textsFit address same env
  exact ⟨_, profileResource_write_eq_some_iff.mpr
    ⟨user, _, found, User.Draft.update_eq_stored_iff.mpr ⟨⟨valid, fits⟩, rfl⟩⟩⟩

/-- A write stores the settled form. -/
theorem profileResource_write_congr {other : MemberForm}
    (same : form.settle platform = other.settle platform)
    : (profileResource platform id).write env form s
      = (profileResource platform id).write env other s := by
  have validated (user : User)
      : (form.updated platform env user).beforeValidation platform
        = (other.updated platform env user).beforeValidation platform := by
    rw [MemberForm.updated_eq, MemberForm.updated_eq, same]
  simp only [profileResource, User.Draft.update, validated]

/-- A write is read as it was settled, and what is read can be written back: a loaded record that is
saved unchanged is valid, since its address was settled before.
-/
theorem profileResource_lawful (addresses : platform.Addresses) (id : Nat)
    : (profileResource platform id).Lawful (Store.UsersSettled platform)
        (MemberForm.settle platform) where
  keeps := by
    intro env form s settled s' written
    obtain ⟨user, row, found, saved⟩ := profileResource_write_eq_some_iff.mp written
    obtain ⟨known, _⟩ := (s.users.find?_eq_some_iff).mp found
    refine ⟨?_, settled.addressed.update addresses known saved⟩
    obtain ⟨valid, rfl⟩ := User.Draft.update_stored saved
    exact settled.consistent.updateUser known valid
  write_read := by
    intro env form s settled read
    obtain ⟨user, found, rfl⟩ := Option.map_eq_some_iff.mp read
    obtain ⟨known, _⟩ := (s.users.find?_eq_some_iff).mp found
    have unchanged := MemberForm.update_loaded known (settled.addressed user known) env
    exact profileResource_write_eq_some_iff.mpr ⟨user, user, found, unchanged⟩
  read_write := by
    intro env form s settled s' written
    obtain ⟨user, row, found, saved⟩ := profileResource_write_eq_some_iff.mp written
    obtain ⟨here, same⟩ := MemberForm.update_stored found saved
    rw [profileResource_read, here, Option.map_some, same]

end Forms

-----------------------------------------------------------------------------------------
-- Requests
-----------------------------------------------------------------------------------------

section Requests

variable {platform : Platform} {s s' : Store} {id : Nat} {form : MemberForm} {call : Call}
  {record : UserRecord}

theorem AccountsController.update_form (platform : Platform) (env : Env) (user : User)
    (form : MemberForm) (s : Store)
    : update platform env user (some form.updateParams) s
      = match (form.updated platform env user).update platform env s user with
        | .stored (user, stored) => (⟨.ok, .user (some (userJson user))⟩, stored)
        | .invalid errors => (recordInvalid errors, s)
        | .raised exception => (raised exception, s) := by
  have permitted : accountParams form.updateParams = form.updateParams := rfl
  generalize saved : (form.updated platform env user).update platform env s user = outcome
  rw [MemberForm.updated] at saved
  cases outcome <;> simp only [update, permitted, saved]

/-- Both requests come to one save; their answers show its row, their refusals have status 422. The
two differ in who is saved and in how answers are rendered, which the statement leaves open.
-/
theorem Call.SavesForm.perform_eq (saves : call.SavesForm s id form)
    : ∃ (user : User) (answer : User → UserRecord) (refusal : List ModelError → Response),
        s.users.find? id = some user
        ∧ (∀ row, (answer row).id = row.id ∧ (answer row).form = row.form)
        ∧ (∀ errors, (refusal errors).status = .unprocessableEntity)
        ∧ perform platform s call
          = match (form.updated platform call.env user).update platform call.env s user with
            | .stored (row, stored) => (⟨.ok, .user (some (answer row))⟩, stored)
            | .invalid errors => (refusal errors, s)
            | .raised exception => (raised exception, s) := by
  cases saves with
  | @member user member signedIn librarian found isMember requested =>
      have item : MembersController.setMember s id = some member := by
        simp [MembersController.setMember, found, Option.filter, User.isMember, isMember]
      refine ⟨member, memberJson, fun errors => ⟨.unprocessableEntity, .errors errors⟩, found,
        fun row => ⟨rfl, rfl⟩, fun errors => rfl, ?_⟩
      have saved := MembersController.update_form platform call.env member form s
      rw [perform_updateMember platform signedIn librarian requested, item, setRecord]
      generalize (form.updated platform call.env member).update platform call.env s member
        = outcome at saved ⊢
      cases outcome <;> exact saved
  | @account user signedIn found requested =>
      refine ⟨user, userJson, recordInvalid, found, fun row => ⟨rfl, rfl⟩, fun errors => rfl, ?_⟩
      have saved := AccountsController.update_form platform call.env user form s
      simp only [perform, requested, signedIn, AccountsController.handle, authenticateUser]
      generalize (form.updated platform call.env user).update platform call.env s user
        = outcome at saved ⊢
      cases outcome <;> exact saved

/-- An answer with a user comes from the save: of its three outcomes, refusals and exceptions have
another status.
-/
theorem Call.SavesForm.saved_of_answer (saves : call.SavesForm s id form)
    (answered : perform platform s call = (⟨.ok, .user (some record)⟩, s'))
    : ∃ user row, s.users.find? id = some user
        ∧ (form.updated platform call.env user).update platform call.env s user
          = .stored (row, s')
        ∧ record.id = row.id ∧ record.form = row.form := by
  obtain ⟨user, answer, refusal, found, renders, refused, performed⟩ := saves.perform_eq
  rw [performed] at answered
  split at answered
  · next row stored saved =>
    obtain rfl := congrArg Prod.snd answered
    have shown : answer row = record := by
      simpa using congrArg (fun out => out.1.body) answered
    rw [← shown]
    exact ⟨user, row, found, saved, renders row⟩
  · next errors _ =>
    have status := congrArg (fun out => out.1.status) answered
    cases (refused errors).symm.trans status
  · cases congrArg (fun out => out.1.status) answered

/-- The requests are answered with the row exactly where the form is written. -/
theorem Call.SavesForm.answered_iff (saves : call.SavesForm s id form)
    : (profileResource platform id).write call.env form s = some s'
      ↔ ∃ record, perform platform s call = (⟨.ok, .user (some record)⟩, s') := by
  rw [profileResource_write_eq_some_iff]
  constructor
  · rintro ⟨other, row, here, saved⟩
    obtain ⟨user, answer, refusal, found, _, _, performed⟩ := saves.perform_eq
    obtain rfl := Option.some.inj (found.symm.trans here)
    rw [performed]
    exact ⟨answer row, by rw [saved]⟩
  · rintro ⟨record, answered⟩
    obtain ⟨user, row, found, saved, _⟩ := saves.saved_of_answer answered
    exact ⟨user, row, found, saved⟩

theorem Call.SavesForm.answer_eq (saves : call.SavesForm s id form)
    (answered : perform platform s call = (⟨.ok, .user (some record)⟩, s'))
    : record.id = id ∧ record.form = form.settle platform := by
  obtain ⟨user, row, found, saved, identified, shown⟩ := saves.saved_of_answer answered
  obtain ⟨here, same⟩ := MemberForm.update_stored found saved
  exact ⟨identified.trans ((s'.users.find?_eq_some_iff).mp here).2, shown.trans same⟩

/-- Where a form is written, the answer shows it as it was settled. -/
theorem Call.SavesForm.answer_of_write (saves : call.SavesForm s id form)
    (written : (profileResource platform id).write call.env form s = some s')
    : ∃ record, record.id = id ∧ record.form = form.settle platform
        ∧ perform platform s call = (⟨.ok, .user (some record)⟩, s') := by
  obtain ⟨record, answered⟩ := saves.answered_iff.mp written
  obtain ⟨same, shown⟩ := saves.answer_eq answered
  exact ⟨record, same, shown, answered⟩

/-- Answers show the stored users, by the three actions that show any: the list and the entry of a
member behind the filter for librarians, and the own account.
-/
theorem Store.ShowsUser.find? (shown : s.ShowsUser platform record)
    : ∃ user, s.users.find? record.id = some user ∧ user.form = record.form := by
  cases shown with
  | @listed call q page records requested answered member =>
      have accepted : (perform platform s call).1.status.accepts := by
        rw [answered]
        rfl
      simp only [perform, requested, MembersController.handle] at accepted answered
      obtain ⟨user, _, ran⟩ := authenticateUser_accepts accepted
      rw [ran] at accepted answered
      rw [requireLibrarian_accepts accepted] at answered
      injection answered with _ rows
      injection rows with rows
      rw [← rows] at member
      obtain ⟨row, paged, rfl⟩ := List.mem_map.mp member
      have queried := (List.mem_filter.mp (mem_orderBy.mp (mem_of_mem_page paged))).1
      exact ⟨row, s.users.find?_of_mem queried, rfl⟩
  | @member call id requested answered =>
      have accepted : (perform platform s call).1.status.accepts := by
        rw [answered]
        rfl
      simp only [perform, requested, MembersController.handle] at accepted answered
      obtain ⟨user, _, ran⟩ := authenticateUser_accepts accepted
      rw [ran] at accepted answered
      rw [requireLibrarian_accepts accepted] at answered
      cases found : MembersController.setMember s id with
      | none =>
          rw [found, setRecord] at answered
          cases answered
      | some row =>
          rw [found, setRecord] at answered
          injection answered with _ shown
          injection shown with shown
          rw [← Option.some.inj shown]
          exact ⟨row, s.users.find?_of_mem (MembersController.mem_of_setMember found).1, rfl⟩
  | @account call requested answered =>
      have accepted : (perform platform s call).1.status.accepts := by
        rw [answered]
        rfl
      simp only [perform, requested, AccountsController.handle] at accepted answered
      obtain ⟨user, signedIn, ran⟩ := authenticateUser_accepts accepted
      rw [ran] at answered
      injection answered with _ shown
      injection shown with shown
      rw [← Option.some.inj shown]
      exact ⟨user, s.users.find?_of_mem (Call.mem_of_currentUser signedIn), rfl⟩

def Call.showAccount (user : User) : Call where
  env := { now := 0, salt := "", tie := fun key => key }
  session := some user.id
  request := .account .show

/-- A stored user is shown. -/
theorem Store.showsUser_of_mem (platform : Platform) {user : User} (known : user ∈ s.users.rows)
    : s.ShowsUser platform (userJson user) := by
  have signedIn : (Call.showAccount user).currentUser s = some user :=
    Call.currentUser_eq_some known rfl
  have requested : (Call.showAccount user).request = .account .show := rfl
  refine .account requested ?_
  simp only [perform, requested, signedIn, AccountsController.handle, authenticateUser]

end Requests
/-- Both forms lose nothing but the spelling of an address. In every store that jobs reach, what an
answer shows of a user can be sent back and changes nothing, apart from names that the form of the
own account shows as empty because they are missing; and what is accepted changes nothing else, is
what every answer shows from then on, and changes nothing when it is sent once more, however its
address is spelled.
-/
theorem profiles_round_trip (platform : Platform) (addresses : platform.Addresses)
    (jobs : List Job)
    : ∀ s ∈ states (Job.run platform) .empty jobs,
        (∀ record call, s.ShowsUser platform record → call.SavesForm s record.id record.form →
          ∃ answer, answer.id = record.id ∧ answer.form = record.form
            ∧ perform platform s call = (⟨.ok, .user (some answer)⟩, s))
        ∧ (∀ record call, s.ShowsUser platform record →
          call.SavesForm s record.id record.profile →
            ∃ answer s', answer.id = record.id ∧ answer.form = record.profile
              ∧ perform platform s call = (⟨.ok, .user (some answer)⟩, s')
              ∧ (s' = s ↔ record.firstName.isSome ∧ record.lastName.isSome))
        ∧ ∀ id form call answer s', call.SavesForm s id form →
            perform platform s call = (⟨.ok, .user (some answer)⟩, s')
            → answer.id = id ∧ answer.form = form.settle platform
              ∧ (∃ before ∈ s.users.rows, ∃ after ∈ s'.users.rows, before.id = id
                ∧ before.ReplacesForm after ∧ s.AgreesOutside before s')
              ∧ (∃ record, s'.ShowsUser platform record ∧ record.id = id)
              ∧ (∀ record, s'.ShowsUser platform record → record.id = id
                → record.form = form.settle platform)
              ∧ ∀ value again, value.settle platform = form.settle platform →
                  again.SavesForm s' id value
                  → ∃ repeated, repeated.form = form.settle platform
                    ∧ perform platform s' again = (⟨.ok, .user (some repeated)⟩, s') := by
  have settled : ∀ reached ∈ states (Job.run platform) .empty jobs,
      reached.Sound ∧ reached.Addressed platform := by
    refine invariant ⟨Store.empty_sound, List.forall_mem_nil _⟩ ?_ jobs
    exact fun s job before =>
      ⟨job.run_sound before.1, job.run_addressed addresses before.1.consistent before.2⟩
  intro s reached
  have here : s.UsersSettled platform := ⟨(settled s reached).1.consistent, (settled s reached).2⟩
  have unchanged (record : UserRecord) (call : Call) (shown : s.ShowsUser platform record)
      (saves : call.SavesForm s record.id record.form)
      : ∃ answer, answer.id = record.id ∧ answer.form = record.form
          ∧ perform platform s call = (⟨.ok, .user (some answer)⟩, s) := by
    obtain ⟨user, found, same⟩ := shown.find?
    have lawful := profileResource_lawful addresses record.id
    have read : (profileResource platform record.id).read s = some record.form := by
      rw [profileResource_read, found, Option.map_some, same]
    have fixed : record.form.settle platform = record.form :=
      lawful.settle_read call.env here read
    obtain ⟨answer, identified, form, answered⟩ :=
      saves.answer_of_write (lawful.write_read call.env record.form s here read)
    exact ⟨answer, identified, form.trans fixed, answered⟩
  refine ⟨unchanged, ?_, ?_⟩
  · intro record call shown saves
    obtain ⟨user, found, same⟩ := shown.find?
    obtain ⟨known, _⟩ := (s.users.find?_eq_some_iff).mp found
    have address := here.addressed user known
    have kept : record.profile.email = user.email := (congrArg MemberForm.email same).symm
    have fixed : record.profile.settle platform = record.profile := by
      rw [MemberForm.settle, kept, address.normal, ← kept]
      rfl
    have read : (profileResource platform record.id).read s = some record.form := by
      rw [profileResource_read, found, Option.map_some, same]
    have lawful := profileResource_lawful addresses record.id
    obtain ⟨s', written⟩ := profileResource_write_profile found address same call.env
    obtain ⟨answer, identified, form, answered⟩ := saves.answer_of_write written
    refine ⟨answer, s', identified, form.trans fixed, answered, ?_, ?_⟩
    · rintro rfl
      have settled := lawful.read_write call.env record.profile s' here s' written
      have filled : record.form = record.profile :=
        (Option.some.inj (read.symm.trans settled)).trans fixed
      have firstName : record.firstName = some (record.firstName.getD "") :=
        congrArg MemberForm.firstName filled
      have lastName : record.lastName = some (record.lastName.getD "") :=
        congrArg MemberForm.lastName filled
      exact ⟨firstName ▸ rfl, lastName ▸ rfl⟩
    · rintro ⟨firstName, lastName⟩
      have filled : record.profile = record.form := by
        obtain ⟨first, firstGiven⟩ := Option.isSome_iff_exists.mp firstName
        obtain ⟨last, lastGiven⟩ := Option.isSome_iff_exists.mp lastName
        simp [UserRecord.profile, UserRecord.form, firstGiven, lastGiven]
      have again := lawful.write_read call.env record.form s here read
      rw [filled] at written
      exact Option.some.inj (written.symm.trans again)
  · intro id form call answer s' saves answered
    have lawful := profileResource_lawful addresses id
    have written := saves.answered_iff.mpr ⟨answer, answered⟩
    obtain ⟨identified, shown⟩ := saves.answer_eq answered
    have read := lawful.read_write call.env form s here s' written
    obtain ⟨user, found, same⟩ := Option.map_eq_some_iff.mp read
    obtain ⟨known, key⟩ := (s'.users.find?_eq_some_iff).mp found
    obtain ⟨before, row, there, saved⟩ := profileResource_write_eq_some_iff.mp written
    obtain ⟨present, named⟩ := (s.users.find?_eq_some_iff).mp there
    obtain ⟨stored, _⟩ := MemberForm.update_stored there saved
    obtain ⟨replaces, outside⟩ := MemberForm.update_replacesForm saved
    obtain rfl := Option.some.inj (stored.symm.trans found)
    refine ⟨identified, shown, ⟨before, present, row, known, named, replaces, outside⟩,
      ⟨_, Store.showsUser_of_mem platform known, key⟩, ?_, ?_⟩
    · intro record shows about
      obtain ⟨other, stored, filled⟩ := shows.find?
      obtain rfl := Option.some.inj (stored.symm.trans (about ▸ found))
      exact filled.symm.trans same
    · intro value again alike savesAgain
      have twice : value.settle platform = (form.settle platform).settle platform :=
        alike.trans (lawful.settle_settle call.env here written).symm
      have rewritten := lawful.write_again call.env again.env here written
      rw [← profileResource_write_congr twice] at rewritten
      obtain ⟨repeated, _, settled, answered⟩ := savesAgain.answer_of_write rewritten
      exact ⟨repeated, settled.trans alike, answered⟩

def Call.saveAccount (env : Env) (user : User) (form : MemberForm) : Call where
  env := env
  session := some user.id
  request := .account (.update (some form.updateParams))

theorem profiles_round_trip_sample
    : let s := Job.sampleAccounts.foldl (Job.run .ascii) .empty
      ∃ user ∈ s.users.rows, user.role = .member ∧ ∀ env, ∃ answer,
        perform .ascii s (.saveAccount env user (userJson user).profile)
          = (⟨.ok, .user (some answer)⟩, s) := by
  intro s
  have reached : s ∈ states (Job.run .ascii) .empty Job.sampleAccounts := foldl_mem_states _ _
  have users : ∃ user ∈ s.users.rows, user.role = .member
      ∧ user.firstName.isSome ∧ user.lastName.isSome := by
    decide
  obtain ⟨user, known, isMember, named⟩ := users
  obtain ⟨_, own, _⟩ :=
    profiles_round_trip .ascii Platform.ascii_addresses Job.sampleAccounts s reached
  refine ⟨user, known, isMember, fun env => ?_⟩
  have saves : (Call.saveAccount env user (userJson user).profile).SavesForm s user.id
      (userJson user).profile :=
    .account (Call.currentUser_eq_some known rfl) (s.users.find?_of_mem known) rfl
  obtain ⟨answer, s', _, _, answered, unchanged⟩ := own (userJson user) _
    (Store.showsUser_of_mem .ascii known) saves
  obtain rfl := unchanged.mpr named
  exact ⟨answer, answered⟩

end LibraryManagement
