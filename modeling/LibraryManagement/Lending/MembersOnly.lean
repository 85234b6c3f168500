import LibraryManagement.Access.Roles
import LibraryManagement.Lending.Loans

/-! Owners of loans. The rule that borrowers are members is part of `with_can_borrow_for`
and of no validation.
-/

namespace LibraryManagement

open Relational Transition

def Store.MemberOwns (s : Store) (loan : Borrowing) : Prop :=
  ∃ owner ∈ s.users.rows, owner.id = loan.userId ∧ owner.role = .member

instance (s : Store) (loan : Borrowing) : Decidable (s.MemberOwns loan) :=
  inferInstanceAs (Decidable (∃ owner ∈ s.users.rows, _))

def Store.MembersOnly (s : Store) : Prop := ∀ loan ∈ s.borrowings.rows, s.MemberOwns loan

instance (s : Store) : Decidable s.MembersOnly :=
  inferInstanceAs (Decidable (∀ loan ∈ s.borrowings.rows, _))

/-- Where the request is a borrowing that the validators let through, its user is a member. -/
def LendsToMember (s : Store) (call : Call) : Prop :=
  ∀ lent ∈ call.lends s, lent.1.role = .member

instance (s : Store) (call : Call) : Decidable (LendsToMember s call) :=
  inferInstanceAs (Decidable (∀ lent ∈ call.lends s, _))

/-- Owners of the loans after a request were members before it: no request moves a loan to
another user, and a new loan belongs to the caller.
-/
theorem LendsToMember.owners {s : Store} {call : Call} (toMember : LendsToMember s call)
    (platform : Platform) (only : s.MembersOnly)
    : ∀ loan ∈ (step platform s call).borrowings.rows, s.MemberOwns loan := by
  refine (step_loanEffect platform s call).forall_rows only ?_ ?_ (fun _ _ _ _ owned => owned)
  · intro user book lends
    obtain ⟨signedIn, _⟩ := Call.lends_eq_some_iff.mp lends
    exact ⟨user, Call.mem_of_currentUser signedIn, rfl, toMember (user, book) lends⟩
  · intro loan comment owned
    have parents := Borrowing.saveChanges_assignReturn_parents call.env.now comment loan loan
    simpa only [Store.MemberOwns, parents.1] using owned

/-- A request keeps all owners members exactly when it lends to a member, if it lends: no request
gives an owner another role.
-/
theorem Store.MembersOnly.step_iff {s : Store} (only : s.MembersOnly)
    (consistent : s.Consistent) (platform : Platform) (call : Call)
    : (step platform s call).MembersOnly ↔ LendsToMember s call := by
  constructor
  · intro after ⟨user, book⟩ lends
    obtain ⟨signedIn, _⟩ := Call.lends_eq_some_iff.mp lends
    rw [step_lends lends] at after
    obtain ⟨owner, present, same, isMember⟩ := after _ ((s.borrowings.mem_insert).mpr (Or.inr rfl))
    have caller : owner = user :=
      s.users.eq_of_key_eq present (Call.mem_of_currentUser signedIn) same
    exact caller ▸ isMember
  · intro toMember loan member
    obtain ⟨before, there, ids, isMember⟩ := toMember.owners platform only loan member
    obtain ⟨owner, present, same⟩ :=
      (step_consistent platform s call consistent).borrowers loan member
    have role := (step_keepsRoles platform s call).of_key_eq there present (ids.trans same.symm)
    exact ⟨owner, present, same, role.trans isMember⟩

/-- Only members hold loans, exactly along the runs in which no librarian makes a borrowing
that the validators let through.
-/
theorem reachedStores_membersOnly_iff (platform : Platform) (database : Database)
    (empty : database.store.borrowings.rows = []) (calls : List Call)
    : (∀ reached ∈ reachedStores platform database.store calls, reached.MembersOnly)
      ↔ EachStep (step platform) LendsToMember database.store calls := by
  have onlyAtFirst : database.store.MembersOnly := by simp [Store.MembersOnly, empty]
  refine forall_states_iff Store.Consistent database.consistent onlyAtFirst ?_ ?_ calls
  · exact step_consistent platform
  · exact fun s call consistent only => only.step_iff consistent platform call

/-- The librarian's borrowing is refused, as the member has the only copy. -/
theorem reachedStores_membersOnly_sample
    : Database.sample.store.borrowings.rows = []
      ∧ ∀ reached ∈ reachedStores .ascii Database.sample.store [
            .onDay 0 (some 2) (.borrowings (.create 1)),
            .onDay 1 (some 1) (.borrowings (.create 1)),
            .onDay 2 (some 1) (.borrowings (.returnBook 1 none))],
          reached.MembersOnly :=
  ⟨rfl, (reachedStores_membersOnly_iff .ascii Database.sample rfl _).mpr (by decide)⟩

theorem librarian_borrows
    : Database.sample.store.borrowings.rows = []
      ∧ ¬∀ reached ∈ reachedStores .ascii Database.sample.store [
            .onDay 0 (some 1) (.borrowings (.create 1))],
          reached.MembersOnly := by
  decide

end LibraryManagement
