import LibraryManagement.Access.OwnEffects

/-! Who ends loans. Returns, sweeps and deletions of books and members are guarded, but an
account that its user deletes takes the user's loans with it.
-/

namespace LibraryManagement

open Relational Transition

/-- The user who deletes their own account by `DELETE /users`. -/
def Call.deregisters (call : Call) (s : Store) : Option User :=
  match call.request with
  | .devise .destroyRegistration => call.currentUser s
  | _ => none

/-- Every loan that is out in the earlier store is there and out in the later one. -/
def Store.KeepsOpenLoans (earlier later : Store) : Prop :=
  ∀ loan ∈ earlier.borrowings.rows, loan.returnedAt = none
    → ∃ after ∈ later.borrowings.rows, after.id = loan.id ∧ after.returnedAt = none

instance (earlier later : Store) : Decidable (earlier.KeepsOpenLoans later) :=
  inferInstanceAs (Decidable (∀ loan ∈ earlier.borrowings.rows, _))

/-- Where the request deletes the account of its caller, the caller has returned everything. -/
def DeregistersEmptyHanded (s : Store) (call : Call) : Prop :=
  ∀ user ∈ call.deregisters s, ∀ loan ∈ s.borrowings.rows,
    loan.userId = user.id → loan.returnedAt ≠ none

instance (s : Store) (call : Call) : Decidable (DeregistersEmptyHanded s call) :=
  inferInstanceAs (Decidable (∀ user ∈ call.deregisters s, _))

theorem Store.KeepsOpenLoans.trans {first second third : Store}
    (hf : first.KeepsOpenLoans second) (hs : second.KeepsOpenLoans third)
    : first.KeepsOpenLoans third := by
  intro loan member out
  obtain ⟨middle, there, same, stillOut⟩ := hf loan member out
  obtain ⟨after, present, ids, atLast⟩ := hs middle there stillOut
  exact ⟨after, present, ids.trans same, atLast⟩

/-- Loans that stay in the table as they are stay out. -/
theorem Store.KeepsOpenLoans.of_subset {earlier later : Store}
    (kept
      : ∀ loan ∈ earlier.borrowings.rows, loan.returnedAt = none → loan ∈ later.borrowings.rows)
    : earlier.KeepsOpenLoans later :=
  fun loan member out => ⟨loan, kept loan member out, rfl, out⟩

theorem step_deregisters {platform : Platform} {s : Store} {call : Call} {user : User}
    (deregisters : call.deregisters s = some user)
    : step platform s call = s.destroyUser user.id := by
  unfold Call.deregisters at deregisters
  split at deregisters
  · next requested =>
    simp [step, perform, requested, deregisters, Devise.handle, Devise.requiresNoAuthentication,
      authenticateUser]
  · contradiction

/-- A visitor's request does not touch the loans. -/
theorem step_anonymous_borrowings {platform : Platform} {s : Store} {call : Call}
    (anonymous : call.currentUser s = none)
    : (step platform s call).borrowings = s.borrowings := by
  have effect := step_effect platform s call
  generalize step platform s call = s' at effect
  cases effect with
  | unchanged | register => rfl
  | writeDevise =>
      rw [Store.writeDeviseColumns]
      split <;> rfl
  | borrow signedIn | returnBook signedIn | markOverdue signedIn | createBook signedIn
  | updateBook signedIn | destroyBook signedIn | createMember signedIn | updateUser signedIn
  | forgetMe signedIn | destroyUser signedIn =>
      cases anonymous.symm.trans signedIn

/-- A request without librarian rights keeps the loans that are out, exactly if it does not
delete the account of a user who has one.
-/
theorem Unprivileged.keepsOpenLoans_iff {s : Store} {call : Call}
    (unprivileged : Unprivileged s call) (platform : Platform)
    : s.KeepsOpenLoans (step platform s call) ↔ DeregistersEmptyHanded s call := by
  constructor
  · intro keeps user deregisters loan member owner out
    rw [step_deregisters deregisters] at keeps
    obtain ⟨after, present, same, _⟩ := keeps loan member out
    obtain ⟨there, others⟩ := (s.borrowings.mem_delete).mp present
    obtain rfl := s.borrowings.eq_of_key_eq there member same
    simp [owner] at others
  · intro emptyHanded
    refine .of_subset (fun loan member out => ?_)
    cases signedIn : call.currentUser s with
    | none => exact (@step_anonymous_borrowings platform _ _ signedIn).symm ▸ member
    | some user =>
        have effect := step_ownEffect platform signedIn (unprivileged user signedIn)
        generalize step platform s call = s' at effect
        cases effect with
        | unchanged | writeRow | register => exact member
        | borrow => exact (s.borrowings.mem_insert).mpr (Or.inl member)
        | writeDevise =>
            rw [Store.writeDeviseColumns]
            split <;> exact member
        | deregister requested =>
            have deregisters : call.deregisters s = some user := by
              simp [Call.deregisters, requested, signedIn]
            refine (s.borrowings.mem_delete).mpr ⟨member, ?_⟩
            simp only [beq_eq_false_iff_ne]
            exact fun owner => emptyHanded user deregisters loan member owner out

/-- Requests without librarian rights end no loan, exactly along the runs in which nobody
deletes an account while having a book out.
-/
theorem reachedStores_keepsOpenLoans_iff (platform : Platform) (s : Store) (calls : List Call)
    (unprivileged : EachStep (step platform) Unprivileged s calls)
    : (reachedStores platform s calls).Pairwise Store.KeepsOpenLoans
      ↔ EachStep (step platform) DeregistersEmptyHanded s calls :=
  unprivileged.pairwise_iff (fun _ _ _ => Store.KeepsOpenLoans.trans)
    (fun _ _ caller => caller.keepsOpenLoans_iff platform)

/-- One member borrows and fails to return the book, another one leaves without loans. -/
theorem reachedStores_keepsOpenLoans_sample
    : (reachedStores .ascii Database.sample.store [
          .onDay 0 (some 2) (.borrowings (.create 1)),
          .onDay 1 (some 2) (.borrowings (.returnBook 1 none)),
          .onDay 2 (some 3) (.devise .destroyRegistration)]).Pairwise Store.KeepsOpenLoans :=
  (reachedStores_keepsOpenLoans_iff .ascii Database.sample.store _ (by decide)).mpr (by decide)

/-- A member deletes the account while having the book out. -/
theorem deregistration_ends_loan
    : let borrowed := step .ascii Database.sample.store
        (.onDay 0 (some 2) (.borrowings (.create 1)))
      let leaves := [Call.onDay 1 (some 2) (.devise .destroyRegistration)]
      EachStep (step .ascii) Unprivileged borrowed leaves
      ∧ ¬∀ reached ∈ reachedStores .ascii borrowed leaves, borrowed.KeepsOpenLoans reached := by
  decide

end LibraryManagement
