import LibraryManagement.Lending.Coherence

/-! What the sweep makes of the loans. That a loan with status overdue was due before the day
of a sweep depends on all sweeps before it, hence on a clock that does not go back.
-/

namespace LibraryManagement

open Relational Transition OverdueService

/-- A store on a day: its loans are coherent, and overdue ones were due before that day. -/
structure Store.SweptBefore (day : Int) (s : Store) : Prop where
  coherent : s.Coherent
  overdue : ∀ loan ∈ s.borrowings.rows, loan.status = .overdue → loan.dueDate < day

/-- Requests up to a day keep what is known of overdue loans on that day. -/
theorem Store.SweptBefore.step {platform : Platform} {s : Store} {call : Call} {day : Int}
    (swept : s.SweptBefore day) (past : call.env.today ≤ day)
    : (step platform s call).SweptBefore day := by
  refine ⟨step_coherent platform s call swept.coherent, ?_⟩
  refine (step_loanEffect platform s call).forall_rows swept.overdue ?_ ?_ ?_
  · intro user book _ overdue
    cases overdue
  · intro loan comment _ overdue
    have returned := (Borrowing.saveChanges_self call.env.now comment loan).1
    rw [returned] at overdue
    cases overdue
  · intro loan _ _ selected _ _
    exact Int.lt_of_lt_of_le (overdueBorrowings_iff.mp selected).2 past

def OverdueService.marked (day : Int) (loan : Borrowing) : Borrowing :=
  if overdueBorrowings day loan then { loan with status := .overdue } else loan

theorem OverdueService.updateAll_rows (day : Int) (s : Store)
    : (updateAll day s).borrowings.rows = s.borrowings.rows.map (marked day) := rfl

/-- The sweep selects no row that it has marked or left alone. -/
theorem OverdueService.marked_unselected (day : Int) (loan : Borrowing)
    : ¬overdueBorrowings day (marked day loan) := by
  rw [marked]
  split
  · simp [overdueBorrowings]
  · assumption

/-- The sweep selects the rows whose status it changes. -/
theorem OverdueService.overdueBorrowings_iff_changed (day : Int) (loan : Borrowing)
    : overdueBorrowings day loan ↔ (loan.status != (marked day loan).status) := by
  rw [marked]
  split
  · next selected =>
    refine iff_of_true selected ?_
    simp [(overdueBorrowings_iff.mp selected).1]
  · next unselected => simp [unselected]

/-- After a sweep the overdue loans are those that are out and were due before its day, by the
status before: earlier sweeps marked nothing else.
-/
theorem OverdueService.marked_overdue_iff {day : Int} {loan : Borrowing}
    (coherent : loan.Coherent) (before : loan.status = .overdue → loan.dueDate < day)
    : (marked day loan).status = .overdue
      ↔ (marked day loan).returnedAt = none ∧ (marked day loan).dueDate < day := by
  rw [marked]
  cases status : loan.status with
  | borrowed =>
      have out := coherent.returnedAt_eq_none (by simp [status])
      by_cases due : loan.dueDate < day <;> simp [overdueBorrowings, status, due, out]
  | overdue =>
      have out := coherent.returnedAt_eq_none (by simp [status])
      simp [overdueBorrowings, status, out, before status]
  | returned =>
      obtain ⟨instant, closed⟩ := Option.isSome_iff_exists.mp (coherent.mp status)
      simp [overdueBorrowings, status, closed]

def statusChanges (before after : List Borrowing) : Nat :=
  (before.zip after).countP (fun pair => pair.1.status != pair.2.status)

theorem OverdueService.countP_eq_statusChanges (day : Int) (loans : List Borrowing)
    : loans.countP (overdueBorrowings day) = statusChanges loans (loans.map (marked day)) := by
  have paired : loans.zip (loans.map (marked day))
      = loans.map (fun loan => (loan, marked day loan)) := by
    have both : (loans.map id).zip (loans.map (marked day)) = _ := List.zip_map'
    simpa using both
  rw [statusChanges, paired, List.countP_map]
  exact List.countP_congr (fun loan _ => overdueBorrowings_iff_changed day loan)

/-- The sweep of a day classifies exactly, in every store that a run of requests up to that
day reaches: afterwards a loan is overdue exactly when it is out and was due before the day.
The count is the number of status changes, nothing but statuses changes, and a second sweep
of the day finds nothing.
-/
theorem markOverdueBooks_exact (platform : Platform) (database : Database)
    (empty : database.store.borrowings.rows = []) (calls : List Call) (day : Int)
    (past : ∀ call ∈ calls, call.env.today ≤ day)
    : ∀ reached ∈ reachedStores platform database.store calls,
        let swept := markOverdueBooks day reached
        (∀ loan ∈ swept.store.borrowings.rows,
          loan.status = .overdue ↔ loan.returnedAt = none ∧ loan.dueDate < day)
        ∧ swept.count = statusChanges reached.borrowings.rows swept.store.borrowings.rows
        ∧ List.Forall₂ (fun before after : Borrowing =>
            after = { before with status := after.status })
            reached.borrowings.rows swept.store.borrowings.rows
        ∧ swept.store.users = reached.users ∧ swept.store.books = reached.books
        ∧ (markOverdueBooks day swept.store).count = 0
        ∧ (markOverdueBooks day swept.store).store = swept.store := by
  intro reached member swept
  have known : reached.SweptBefore day := by
    have pastSteps : EachStep (step platform) (fun _ call => call.env.today ≤ day)
      database.store calls := .of_forall_mem past database.store
    have atFirst : database.store.SweptBefore day :=
      ⟨(database.sound_of_empty empty).coherent, by simp [empty]⟩
    exact pastSteps.invariant atFirst (fun s call today before => before.step today) reached member
  have store : swept.store = updateAll day reached := markOverdueBooks_store day reached
  have unselected : ∀ loan ∈ swept.store.borrowings.rows, ¬overdueBorrowings day loan := by
    rw [store, updateAll_rows]
    intro loan there
    obtain ⟨old, _, rfl⟩ := List.mem_map.mp there
    exact marked_unselected day old
  refine ⟨?_, ?_, ?_, ?_, ?_, ?_, ?_⟩
  · rw [store, updateAll_rows]
    intro loan there
    obtain ⟨old, present, rfl⟩ := List.mem_map.mp there
    exact marked_overdue_iff (known.coherent old present) (known.overdue old present)
  · rw [store, updateAll_rows, ← countP_eq_statusChanges]
    exact markOverdueBooks_count day reached
  · rw [store, updateAll_rows, List.forall₂_map_right_iff]
    refine List.forall₂_same.mpr (fun loan _ => ?_)
    rw [marked]
    split <;> rfl
  · rw [store]; rfl
  · rw [store]; rfl
  · rw [markOverdueBooks_count]
    exact List.countP_eq_zero.mpr unselected
  · rw [markOverdueBooks_store]
    simp only [updateAll]
    rw [swept.store.borrowings.update_eq_self unselected]

/-- A loan is marked on day 16, and the days up to 20 are swept again. -/
def Call.sampleSweeps : List Call := [
  .onDay 0 (some 2) (.borrowings (.create 1)),
  .onDay 16 (some 1) (.dashboard .markOverdue)]

theorem markOverdueBooks_sample
    : Database.sample.store.borrowings.rows = []
      ∧ (∀ call ∈ Call.sampleSweeps, call.env.today ≤ 20)
      ∧ ∀ reached ∈ reachedStores .ascii Database.sample.store Call.sampleSweeps,
          ∀ loan ∈ (markOverdueBooks 20 reached).store.borrowings.rows,
            loan.status = .overdue ↔ loan.returnedAt = none ∧ loan.dueDate < 20 := by
  have past : ∀ call ∈ Call.sampleSweeps, call.env.today ≤ 20 := by decide
  refine ⟨rfl, past, ?_⟩
  intro reached member
  exact (markOverdueBooks_exact .ascii Database.sample rfl _ 20 past reached member).1

end LibraryManagement
