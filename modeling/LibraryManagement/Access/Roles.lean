import LibraryManagement.Lending.Consistency
import LibraryManagement.Relational.History

/-! Roles of accounts along runs. No request changes the role of an account that exists, so
roles are decided where accounts are created: by a librarian, always as a member, and by
the registration route of Devise, with the default of the column.
-/

namespace LibraryManagement

open Relational Transition

/-- A `POST /users` with parameters that can be saved, of a caller who is not signed in or asks for
JSON.
-/
def Call.registers (platform : Platform) (call : Call) (s : Store) : Bool :=
  match call.request with
  | .devise (.createRegistration email password confirmation) =>
      Devise.admits call.format (call.currentUser s)
      && ((Devise.registration platform call.env email password confirmation).beforeValidation
        platform).Savable platform s none
  | _ => false

/-- Accounts keep their role for as long as they exist: by the effect of the request, none of which
assigns a role to a row.
-/
theorem step_keepsRoles (platform : Platform) (s : Store) (call : Call)
    : Table.Follows (fun before after : User => after.role = before.role) s.users
        (step platform s call).users := by
  have reflexive (user : User) : user.role = user.role := rfl
  have effect := step_effect platform s call
  generalize step platform s call = s' at effect
  cases effect with
  | unchanged | borrow | returnBook | markOverdue | createBook | updateBook | destroyBook =>
      exact .refl reflexive _
  | createMember => exact Table.follows_insert reflexive _ _
  | register => exact Table.follows_insert reflexive _ _
  | @updateUser _ _ draft =>
      exact Table.follows_update reflexive _ (fun user _ _ => draft.applyTo_role call.env user)
  | forgetMe => exact Table.follows_update reflexive _ (fun _ _ _ => rfl)
  | writeDevise =>
      rw [Store.writeDeviseColumns]
      split
      · exact .refl reflexive _
      · exact Table.follows_update reflexive _ (fun _ _ _ => rfl)
  | destroyUser => exact Table.follows_delete reflexive _ _

/-- An account that a request creates is a member, or a registration created it: effects that
rewrite or delete users bring in no id, and librarians create members only.
-/
theorem step_newRole {platform : Platform} {s : Store} {call : Call} {user : User}
    (member : user ∈ (step platform s call).users.rows) (new : s.users.nextKey ≤ user.id)
    : user.role = .member ∨ call.registers platform s := by
  have absent : ∀ old ∈ s.users.rows, old.id ≠ user.id := by
    intro old present
    exact Nat.ne_of_lt (Nat.lt_of_lt_of_le (s.users.bounded old present) new)
  have effect := step_effect platform s call
  generalize step platform s call = s' at effect member
  cases effect with
  | unchanged | borrow | returnBook | markOverdue | createBook | updateBook | destroyBook =>
      exact absurd rfl (absent user member)
  | createMember =>
      rcases (s.users.mem_insert).mp member with old | rfl
      · exact absurd rfl (absent user old)
      · exact Or.inl rfl
  | register admitted requested savable =>
      right
      simp [Call.registers, requested, admitted, savable]
  | updateUser | forgetMe =>
      obtain ⟨old, present, same⟩ := s.users.exists_key_of_mem_update member
      exact absurd same (absent old present)
  | writeDevise =>
      unfold Store.writeDeviseColumns at member
      split at member
      · exact absurd rfl (absent user member)
      · obtain ⟨old, present, same⟩ := s.users.exists_key_of_mem_update member
        exact absurd same (absent old present)
  | destroyUser =>
      exact absurd rfl (absent user ((s.users.mem_delete).mp member).1)

/-- A registration creates a librarian: the column defaults to zero, which the enum reads as
librarian.
-/
theorem exists_librarian_of_registers {platform : Platform} {s : Store} {call : Call}
    (registers : call.registers platform s)
    : ∃ user ∈ (step platform s call).users.rows,
        user.id = s.users.nextKey ∧ user.role = .librarian := by
  unfold Call.registers at registers
  split at registers
  · next email password confirmation requested =>
    obtain ⟨admitted, accepted⟩ := Bool.and_eq_true_iff.mp registers
    have saved : (Devise.registration platform call.env email password confirmation).create platform
        call.env s = .stored _ :=
      User.Draft.create_eq_stored_iff.mpr ⟨of_decide_eq_true accepted, .librarian, rfl, rfl⟩
    simp only [step, perform, requested, admitted, Devise.handle,
      Devise.requiresNoAuthentication, Devise.createRegistration, saved, Bool.not_true,
      Bool.and_false, Bool.false_eq_true, if_false]
    exact ⟨_, (s.users.mem_insert).mpr (Or.inr rfl), rfl, rfl⟩
  · contradiction

/-- The caller is not signed in as a librarian. -/
def Unprivileged (s : Store) (call : Call) : Prop :=
  ∀ caller ∈ call.currentUser s, caller.role ≠ .librarian

instance (s : Store) (call : Call) : Decidable (Unprivileged s call) :=
  inferInstanceAs (Decidable (∀ caller ∈ call.currentUser s, _))

/-- Every librarian of the later store was one in the earlier store. -/
def Store.GainsNoLibrarian (earlier later : Store) : Prop :=
  ∀ after ∈ later.users.rows, after.role = .librarian
    → ∃ before ∈ earlier.users.rows, before.id = after.id ∧ before.role = .librarian

instance (earlier later : Store) : Decidable (earlier.GainsNoLibrarian later) :=
  inferInstanceAs (Decidable (∀ after ∈ later.users.rows, _))

theorem Store.GainsNoLibrarian.trans {first second third : Store}
    (hf : first.GainsNoLibrarian second) (hs : second.GainsNoLibrarian third)
    : first.GainsNoLibrarian third := by
  intro after member librarian
  obtain ⟨middle, there, same, role⟩ := hs after member librarian
  obtain ⟨before, present, ids, was⟩ := hf middle there role
  exact ⟨before, present, ids.trans same, was⟩

/-- A request gains no librarian exactly when it is no valid registration: such a one is saved as a
librarian's, and any other new account is a member's.
-/
theorem step_gainsNoLibrarian_iff (platform : Platform) (s : Store) (call : Call)
    : s.GainsNoLibrarian (step platform s call) ↔ ¬call.registers platform s := by
  constructor
  · intro gains registers
    obtain ⟨user, member, fresh, librarian⟩ := exists_librarian_of_registers registers
    obtain ⟨before, present, same, _⟩ := gains user member librarian
    exact s.users.key_ne_nextKey present (same.trans fresh)
  · intro unregistered after member librarian
    rcases Nat.lt_or_ge after.id s.users.nextKey with old | new
    · have kept := step_keepsRoles platform s call
      obtain ⟨before, present, same, role⟩ := kept.rows after member old
      exact ⟨before, present, same, role.symm.trans librarian⟩
    · rcases step_newRole member new with isMember | registers
      · rw [librarian] at isMember
        cases isMember
      · exact absurd registers unregistered

/-- A visitor fails to register under an address that is taken, a member is turned away from the
form of a registration, and borrows.
-/
def Call.sampleUnprivileged : List Call := [
  .onDay 0 none
    (.devise (.createRegistration (some "megan@example.com") (some "password123")
      (some "password123"))),
  { Call.onDay 0 (some 2)
      (.devise (.createRegistration (some "visitor@example.com") (some "password123")
        (some "password123"))) with format := .html },
  .onDay 0 (some 2) (.borrowings (.create 1))]

def Call.sampleRegistration : List Call := [
  .onDay 0 none
    (.devise (.createRegistration (some "visitor@example.com") (some "password123")
      (some "password123")))]

end LibraryManagement
