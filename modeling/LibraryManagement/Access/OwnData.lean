import LibraryManagement.Access.OwnEffects

/-! What members can write: their own row and their own loans. -/

namespace LibraryManagement

open Relational

/-- The columns that Devise writes for a signed-in user are in the row of that user. -/
def Platform.WritesOwnRow (platform : Platform) : Prop :=
  ∀ request env user s id columns,
    platform.deviseWrite request env (some user) s = some (id, columns) → id = user.id

/-- Both stores have the same books, the same other users and the same loans of others. -/
structure Store.AgreesOutside (user : User) (before after : Store) : Prop where
  books : after.books = before.books
  users
    : after.users.rows.filter (fun row => row.id != user.id)
      = before.users.rows.filter (fun row => row.id != user.id)
  borrowings
    : after.borrowings.rows.filter (fun loan => loan.userId != user.id)
      = before.borrowings.rows.filter (fun loan => loan.userId != user.id)

/-- A write to the user's row changes no other row. -/
theorem Store.AgreesOutside.updateUsers {s : Store} {user : User} {selected : User → Bool}
    {change : Table.Change User} (own : ∀ row ∈ s.users.rows, selected row → row.id = user.id)
    : Store.AgreesOutside user s { s with users := s.users.update selected change } where
  books := rfl
  borrowings := rfl
  users := by
    refine s.users.filter_update ?_
    intro row member chosen
    have same := own row member chosen
    have kept : (change.apply row).id = row.id := change.keeps row
    simp [same, kept]

/-- A valid registration adds another user, whose key no row had. -/
theorem registers_not_agreesOutside {platform : Platform} {s : Store} {call : Call} {user : User}
    (known : user ∈ s.users.rows) (registers : call.registers platform s)
    : ¬Store.AgreesOutside user s (step platform s call) := by
  intro agrees
  obtain ⟨new, member, fresh, _⟩ := exists_librarian_of_registers registers
  have other : new.id ≠ user.id := by
    rw [fresh]
    exact (s.users.key_ne_nextKey known).symm
  have kept : new ∈ (step platform s call).users.rows.filter (fun row => row.id != user.id) :=
    List.mem_filter.mpr ⟨member, bne_iff_ne.mpr other⟩
  rw [agrees.users] at kept
  exact s.users.key_ne_nextKey (List.mem_filter.mp kept).1 fresh

/-- A member's request changes nothing of others exactly when it registers nobody: by cases on
its effect, everything else it may write is the row or a loan of the member.
-/
theorem step_agreesOutside_iff (platform : Platform) (own : platform.WritesOwnRow) {s : Store}
    {call : Call} {user : User} (signedIn : call.currentUser s = some user)
    (isMember : user.role = .member)
    : Store.AgreesOutside user s (step platform s call) ↔ ¬call.registers platform s := by
  constructor
  · intro agrees registers
    exact registers_not_agreesOutside (Call.mem_of_currentUser signedIn) registers agrees
  intro unregistered
  have effect := step_ownEffect platform signedIn (by simp [isMember])
  generalize step platform s call = s' at effect
  cases effect with
  | unchanged => exact ⟨rfl, rfl, rfl⟩
  | borrow => exact ⟨rfl, rfl, s.borrowings.filter_insert (by simp)⟩
  | writeRow selected => exact .updateUsers selected
  | writeDevise _ written =>
      rw [Store.writeDeviseColumns]
      split
      · exact ⟨rfl, rfl, rfl⟩
      · refine .updateUsers ?_
        intro row _ chosen
        exact (beq_iff_eq.mp chosen).trans (own _ _ _ _ _ _ written)
  | register registers => exact absurd registers unregistered
  | deregister =>
      refine ⟨rfl, s.users.filter_delete ?_, s.borrowings.filter_delete ?_⟩
      · intro row _ chosen
        simp [beq_iff_eq.mp chosen]
      · intro loan _ chosen
        simp [beq_iff_eq.mp chosen]

/-- Whatever a member requests, with whatever answer, nothing of others changes. Of the Devise
controllers it is taken that they write only the row of the signed-in user: that their column
writes are in it, and that they register nobody for a user who is signed in.
-/
theorem step_agreesOutside (platform : Platform) (own : platform.WritesOwnRow) {s : Store}
    {call : Call} {user : User} (signedIn : call.currentUser s = some user)
    (isMember : user.role = .member) (unregistered : ¬call.registers platform s)
    : Store.AgreesOutside user s (step platform s call) :=
  (step_agreesOutside_iff platform own signedIn isMember).mpr unregistered

/-- On ASCII text, with `PUT /users` changing the address when the current password is
right.
-/
def Platform.asciiProfiles : Platform :=
  { Platform.ascii with
    deviseWrite := fun request env user _ =>
      match request, user with
      | .updateRegistration (some email) none none currentPassword, some user =>
          if Platform.ascii.validPassword user.encryptedPassword currentPassword then
            some (user.id, {
              email := strip (Platform.ascii.downcase email)
              encryptedPassword := user.encryptedPassword
              resetPasswordToken := user.resetPasswordToken
              resetPasswordSentAt := user.resetPasswordSentAt
              rememberCreatedAt := user.rememberCreatedAt
              updatedAt := env.now })
          else
            none
      | _, _ => none }

/-- A member changes the address of the account, which changes the store; it agrees with the one
before outside of the member's own data.
-/
theorem step_agreesOutside_sample
    : ∃ user, user ∈ Database.sample.store.users.rows ∧ user.role = .member
        ∧ let call := Call.onDay 1 (some user.id) (.devise
            (.updateRegistration (some "Megan@Library.example") none none "password123"))
          step .asciiProfiles Database.sample.store call ≠ Database.sample.store
          ∧ Store.AgreesOutside user Database.sample.store
              (step .asciiProfiles Database.sample.store call) := by
  have own : Platform.asciiProfiles.WritesOwnRow := by
    intro request env user s id columns written
    simp only [Platform.asciiProfiles] at written
    split at written
    · next signedIn =>
      obtain rfl := Option.some.inj signedIn
      split at written
      · exact (congrArg Prod.fst (Option.some.inj written)).symm
      · contradiction
    · contradiction
  refine ⟨_, List.mem_cons_of_mem _ List.mem_cons_self, rfl, by decide, ?_⟩
  exact step_agreesOutside .asciiProfiles own rfl rfl (by decide)

end LibraryManagement
