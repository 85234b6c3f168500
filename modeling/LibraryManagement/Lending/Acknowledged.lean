import LibraryManagement.Lending.Desk

/-! Loans over whole runs. What `POST /borrowings` has answered with is stored once, under the
next number, and stays until its book or its owner is deleted.
-/

namespace LibraryManagement

open Relational Transition Circulation

/-- The row under the same id, with the same owner, book and due date and not set back. -/
structure Borrowing.Ages (before after : Borrowing) : Prop where
  id : after.id = before.id
  userId : after.userId = before.userId
  bookId : after.bookId = before.bookId
  dueDate : after.dueDate = before.dueDate
  status : before.status.phase.rank ≤ after.status.phase.rank

/-- The row is still there, or the owner or the book is gone and the row with it. -/
def Store.Keeps (later : Store) (before : Borrowing) : Prop :=
  (∃ after ∈ later.borrowings.rows, before.Ages after)
  ∨ before.id ∈ later.borrowings.deleted
    ∧ (before.userId ∈ later.users.deleted ∨ before.bookId ∈ later.books.deleted)

/-- The row that answers an accepted borrowing. -/
def Call.granted (platform : Platform) (s : Store) (call : Call) : Option Borrowing :=
  match call.request, (perform platform s call).1 with
  | .borrowings (.create _), ⟨.created, .borrowing row⟩ => some row
  | _, _ => none

/-- The rows that answer the accepted borrowings of a run, in their order. -/
def grantedRows (platform : Platform) : Store → List Call → List Borrowing
  | _, [] => []
  | s, call :: rest =>
      (call.granted platform s).toList ++ grantedRows platform (step platform s call) rest

-----------------------------------------------------------------------------------------
-- Rows and the desk
-----------------------------------------------------------------------------------------

theorem Store.desk_loans {s : Store} {row : Borrowing} (present : row ∈ s.borrowings.rows)
    : s.desk.loans row.id = some row.loan := by
  have here : s.borrowings.find? row.id = some row := s.borrowings.find?_of_mem present
  simp [desk, here]

/-- What the desk keeps of a loan, the tables keep of its row. -/
theorem Store.keeps_of_continues {earlier later : Store}
    (continues : earlier.desk.Continues later.desk) {before : Borrowing}
    (present : before ∈ earlier.borrowings.rows)
    : later.Keeps before := by
  rcases continues.loans before.id before.loan (desk_loans present) with
    ⟨loan, still, aged⟩ | ⟨none, gone⟩
  · obtain ⟨after, found, rfl⟩ := Option.map_eq_some_iff.mp still
    obtain ⟨member, same⟩ := (Table.find?_eq_some_iff _).mp found
    exact Or.inl ⟨after, member, same, aged.patron, aged.item, aged.due, aged.phase⟩
  · have used : before.id < later.borrowings.nextKey :=
      Nat.lt_of_lt_of_le (earlier.borrowings.bounded before present) continues.next
    exact Or.inr ⟨⟨used, Option.map_eq_none_iff.mp none⟩, gone⟩

/-- A number that has lost its loan has lost it for good. -/
theorem Store.deleted_of_continues {earlier later : Store}
    (continues : earlier.desk.Continues later.desk)
    : earlier.borrowings.deleted ⊆ later.borrowings.deleted := by
  rintro number ⟨used, missing⟩
  have lost : earlier.desk.loans number = none := Option.map_eq_none_iff.mpr missing
  have still := continues.unused number used lost
  exact ⟨Nat.lt_of_lt_of_le used continues.next, Option.map_eq_none_iff.mp still⟩

/-- The desk goes on with every request. -/
theorem Store.Sound.continues_step {s : Store} (sound : s.Sound) (platform : Platform)
    (call : Call)
    : s.desk.Continues (step platform s call).desk := by
  obtain ⟨event, here⟩ := sound.step_refines platform call
  rw [here.commutes]
  cases event with
  | none => exact .refl _
  | some event => exact s.desk.continues_apply event

theorem Store.Sound.continues {s : Store} (sound : s.Sound) (platform : Platform)
    (calls : List Call)
    : s.desk.Continues (calls.foldl (step platform) s).desk := by
  induction calls generalizing s with
  | nil => exact .refl _
  | cons call rest ih =>
      exact (sound.continues_step platform call).trans (ih (step_sound platform s call sound))

-----------------------------------------------------------------------------------------
-- Answers
-----------------------------------------------------------------------------------------

/-- The answered row is the new one: a borrowing that is answered with a row has been let through,
since every refusal has another body.
-/
theorem Call.granted_eq (platform : Platform) (s : Store) (call : Call)
    : call.granted platform s
      = (call.lends s).map (fun lent =>
          (Borrowing.requested call.env.now lent.1 lent.2).toRow call.env.now
            s.borrowings.nextKey) := by
  cases lends : call.lends s with
  | some lent =>
      obtain ⟨user, book⟩ := lent
      obtain ⟨_, requested, _⟩ := Call.lends_eq_some_iff.mp lends
      simp [granted, requested, perform_lends lends]
  | none =>
      rw [granted]
      split
      · next bookId row requested answered =>
        cases signedIn : call.currentUser s with
        | none =>
            have refused : (perform platform s call).1 = unauthenticated call.format := by
              simp [perform, requested, signedIn, BorrowingsController.handle, authenticateUser]
            rw [refused] at answered
            cases format : call.format <;> simp [unauthenticated, format] at answered
        | some user =>
            cases found : s.books.find? bookId with
            | none =>
                simp [perform, requested, signedIn, BorrowingsController.handle, authenticateUser,
                  found, setRecord, notFound] at answered
            | some book =>
                obtain ⟨member, rfl⟩ := (Table.find?_eq_some_iff _).mp found
                have refused : s.mayBorrow user book = false := by
                  cases allowed : s.mayBorrow user book with
                  | false => rfl
                  | true =>
                      cases lends.symm.trans
                        (Call.lends_eq_some_iff.mpr ⟨signedIn, requested, member, allowed⟩)
                rw [perform_refused signedIn requested member refused] at answered
                cases answered
      · rfl

/-- An accepted borrowing stores the row it answers with. -/
theorem Call.mem_of_granted {platform : Platform} {s : Store} {call : Call} {row : Borrowing}
    (granted : call.granted platform s = some row)
    : row.id = s.borrowings.nextKey ∧ row ∈ (step platform s call).borrowings.rows
      ∧ (step platform s call).borrowings.nextKey = s.borrowings.nextKey + 1 := by
  rw [granted_eq] at granted
  obtain ⟨lent, lends, rfl⟩ := Option.map_eq_some_iff.mp granted
  rw [step_lends lends]
  exact ⟨rfl, (Table.mem_insert _).mpr (Or.inr rfl), rfl⟩

/-- Only accepted borrowings hand out numbers. -/
theorem step_nextKey_of_refused {platform : Platform} {s : Store} {call : Call}
    (refused : call.granted platform s = none)
    : (step platform s call).borrowings.nextKey = s.borrowings.nextKey := by
  have idle : call.lends s = none := by
    rw [Call.granted_eq] at refused
    exact Option.map_eq_none_iff.mp refused
  have effect := step_loanEffect platform s call
  generalize (step platform s call).borrowings = loans at effect
  cases effect with
  | lent lends => cases idle.symm.trans lends
  | kept | deleted | returned | swept => rfl

-----------------------------------------------------------------------------------------
-- Runs
-----------------------------------------------------------------------------------------

/-- In every run each loan keeps its owner, its book and its due date and its status is never
set back. It vanishes only with its owner or its book, and what was deleted never returns.
-/
theorem reachedStores_keep_loans (platform : Platform) {s : Store} (sound : s.Sound)
    (calls : List Call)
    : (reachedStores platform s calls).Pairwise (fun earlier later =>
        (∀ before ∈ earlier.borrowings.rows, later.Keeps before)
        ∧ earlier.borrowings.deleted ⊆ later.borrowings.deleted
        ∧ earlier.users.deleted ⊆ later.users.deleted
        ∧ earlier.books.deleted ⊆ later.books.deleted) := by
  have steps := EachStep.of_forall_states (invariant sound (step_sound platform) calls)
  have descent : (reachedStores platform s calls).Pairwise (fun earlier later =>
      earlier.desk.Continues later.desk) := by
    refine steps.pairwise (fun _ _ _ => Desk.Continues.trans) ?_
    exact fun _ call kept => kept.1.continues_step platform call
  refine descent.imp (fun continues => ?_)
  exact ⟨fun _ present => Store.keeps_of_continues continues present,
    Store.deleted_of_continues continues, continues.former, continues.withdrawn⟩

/-- A loan is returned late, then its book is deleted. -/
theorem reachedStores_keep_loans_sample
    : Database.sample.store.Sound
      ∧ (reachedStores .ascii Database.sample.store [
            .onDay 0 (some 2) (.borrowings (.create 1)),
            .onDay 20 (some 1) (.dashboard .markOverdue),
            .onDay 21 (some 1) (.borrowings (.returnBook 1 none)),
            .onDay 22 (some 1) (.books (.destroy 1))]).Pairwise (fun earlier later =>
          (∀ before ∈ earlier.borrowings.rows, later.Keeps before)
          ∧ earlier.borrowings.deleted ⊆ later.borrowings.deleted
          ∧ earlier.users.deleted ⊆ later.users.deleted
          ∧ earlier.books.deleted ⊆ later.books.deleted) :=
  ⟨Database.sample.sound_of_empty rfl,
    reachedStores_keep_loans .ascii (Database.sample.sound_of_empty rfl) _⟩

/-- Two members borrow the only copy, one after the other. -/
def Call.sampleTwoBorrow : List Call := [
  .onDay 0 (some 2) (.borrowings (.create 1)),
  .onDay 1 (some 3) (.borrowings (.create 1)),
  .onDay 2 (some 1) (.borrowings (.returnBook 1 none)),
  .onDay 3 (some 3) (.borrowings (.create 1))]

/-- The accepted borrowings of a run are answered with consecutive numbers, and every one of
them is in the tables at the end unless its owner or its book was deleted.
-/
theorem grantedRows_kept (platform : Platform) {s : Store} (sound : s.Sound) (calls : List Call)
    : (grantedRows platform s calls).map Borrowing.id
        = List.range' s.borrowings.nextKey (grantedRows platform s calls).length
      ∧ ∀ row ∈ grantedRows platform s calls,
          (calls.foldl (step platform) s).Keeps row := by
  induction calls generalizing s with
  | nil => exact ⟨rfl, List.forall_mem_nil _⟩
  | cons call rest ih =>
      have after := step_sound platform s call sound
      obtain ⟨numbers, kept⟩ := ih after
      cases granted : call.granted platform s with
      | none =>
          rw [step_nextKey_of_refused granted] at numbers
          simp only [grantedRows, granted, Option.toList_none, List.nil_append]
          exact ⟨numbers, kept⟩
      | some row =>
          obtain ⟨id, stored, next⟩ := Call.mem_of_granted granted
          rw [next] at numbers
          simp only [grantedRows, granted, Option.toList_some, List.singleton_append,
            List.map_cons, List.length_cons, List.range'_succ, List.forall_mem_cons]
          refine ⟨by rw [id, numbers], ?_, kept⟩
          exact Store.keeps_of_continues (after.continues platform rest) stored

theorem grantedRows_kept_sample
    : Database.sample.store.Sound
      ∧ (grantedRows .ascii Database.sample.store Call.sampleTwoBorrow).map Borrowing.id
        = List.range' 1 (grantedRows .ascii Database.sample.store Call.sampleTwoBorrow).length
      ∧ ∀ row ∈ grantedRows .ascii Database.sample.store Call.sampleTwoBorrow,
          (Call.sampleTwoBorrow.foldl (step .ascii) Database.sample.store).Keeps row :=
  ⟨Database.sample.sound_of_empty rfl,
    grantedRows_kept .ascii (Database.sample.sound_of_empty rfl) Call.sampleTwoBorrow⟩

end LibraryManagement
