import LibraryManagement.Concurrency.Requests
import LibraryManagement.Lending.Coherence

/-! Status and return time of loans when requests overlap. A save may act on an old copy of
its row; what carries the proof is that the copy is coherent and not ahead of the row.
-/

namespace LibraryManagement

open Relational Transition

/-- The order in which a loan passes through its statuses. -/
def Status.rank : Status → Nat
  | .borrowed => 0
  | .overdue => 1
  | .returned => 2

theorem Status.rank_le_returned (status : Status) : status.rank ≤ Status.returned.rank := by
  cases status <;> decide

/-- Each loan that exists in both stores has moved forward, if at all. -/
def Store.MovesForward (earlier later : Store) : Prop :=
  ∀ before ∈ earlier.borrowings.rows, ∀ after ∈ later.borrowings.rows,
    after.id = before.id → before.status.rank ≤ after.status.rank

/-- A copy loaded from an earlier version of the store. -/
structure Borrowing.Behind (loaded : Borrowing) (s : Store) : Prop where
  coherent : loaded.Coherent
  key : loaded.id < s.borrowings.nextKey
  rank : ∀ row ∈ s.borrowings.rows, row.id = loaded.id → loaded.status.rank ≤ row.status.rank

/-- All loans are coherent, and so are the copies in flight, which are behind their rows. -/
structure System.Coherent (system : System) : Prop where
  store : system.store.Coherent
  copies : ∀ loaded comment, .returnBook loaded comment ∈ system.inFlight
    → loaded.Behind system.store

-----------------------------------------------------------------------------------------
-- One action
-----------------------------------------------------------------------------------------

/-- The save of a return moves the row forward, whatever copy it acts on. -/
theorem Borrowing.rank_le_saveChanges (now : Int) (comment : Option String)
    (loaded current : Borrowing)
    : current.status.rank
      ≤ (saveChanges now loaded (loaded.assignReturn now comment) current).status.rank := by
  obtain ⟨status, _⟩ := saveChanges_columns now comment loaded current
  rw [status]
  split
  · exact Nat.le_refl _
  · exact current.status.rank_le_returned

/-- The save of a return leaves its row coherent. Where the copy was returned already, so is
the row, and where it was not, the save writes both columns.
-/
theorem Borrowing.Behind.saveChanges_coherent {loaded : Borrowing} {s : Store}
    (behind : loaded.Behind s) (now : Int) (comment : Option String) {current : Borrowing}
    (member : current ∈ s.borrowings.rows) (same : current.id = loaded.id)
    (coherent : current.Coherent)
    : (saveChanges now loaded (loaded.assignReturn now comment) current).Coherent := by
  obtain ⟨status, returnedAt⟩ := saveChanges_columns now comment loaded current
  rw [Borrowing.Coherent, status, returnedAt]
  by_cases closed : loaded.status = .returned
  · have ahead := behind.rank current member same
    have returned : current.status = .returned := by
      rw [closed] at ahead
      cases current' : current.status with
      | returned => rfl
      | borrowed | overdue =>
          rw [current'] at ahead
          exact absurd ahead (by decide)
    rw [if_pos closed, returned]
    split
    · simpa [returned] using coherent.mp returned
    · simp
  · have out := behind.coherent.returnedAt_eq_none closed
    simp [closed, out]

/-- Every action moves loans forward: what it writes is a new loan, a return or a sweep of borrowed
ones.
-/
theorem System.step_follows (system : System) (action : Action)
    : Table.Follows (fun before after : Borrowing => before.status.rank ≤ after.status.rank)
        system.store.borrowings (system.step action).store.borrowings := by
  have reflexive (loan : Borrowing) : loan.status.rank ≤ loan.status.rank := Nat.le_refl _
  rcases system.step_store action with
    ⟨_, same | ⟨today, swept⟩⟩ | ⟨request, now, _, _, written⟩
  · rw [same]
    exact .refl reflexive _
  · rw [swept]
    refine Table.follows_update reflexive _ (fun loan _ selected => ?_)
    rw [(OverdueService.overdueBorrowings_iff.mp selected).1]
    exact Nat.zero_le _
  · rw [written]
    cases request with
    | borrow => exact Table.follows_insert reflexive _ _
    | returnBook loaded comment =>
        exact Table.follows_update reflexive _
          (fun loan _ _ => Borrowing.rank_le_saveChanges now comment loaded loan)

/-- Every action leaves all loans coherent. A return writes what it has loaded, which is behind the
row that it meets.
-/
theorem System.Coherent.step_store {system : System} (coherent : system.Coherent)
    (action : Action)
    : (system.step action).store.Coherent := by
  rcases system.step_store action with
    ⟨_, same | ⟨today, swept⟩⟩ | ⟨request, now, _, inFlight, written⟩
  · rw [same]
    exact coherent.store
  · rw [swept]
    intro loan member
    obtain ⟨old, present, rfl⟩ := (Table.mem_update _).mp member
    split
    · next selected =>
      exact (coherent.store old present).markOverdue
        (OverdueService.overdueBorrowings_iff.mp selected).1
    · exact coherent.store old present
  · rw [written]
    cases request with
    | borrow validated user book =>
        intro loan member
        rcases (Table.mem_insert _).mp member with old | rfl
        · exact coherent.store loan old
        · exact Borrowing.requested_coherent _ _ user book _
    | returnBook loaded comment =>
        have behind := coherent.copies loaded comment inFlight
        intro loan member
        obtain ⟨old, present, rfl⟩ := (Table.mem_update _).mp member
        split
        · next selected =>
          exact behind.saveChanges_coherent now comment present (beq_iff_eq.mp selected)
            (coherent.store old present)
        · exact coherent.store old present

/-- A return in flight after an action was in flight before it, or has just loaded a row, by the
kind of action.
-/
theorem System.mem_inFlight_step {system : System} {action : Action} {loaded : Borrowing}
    {comment : Option String}
    (member : .returnBook loaded comment ∈ (system.step action).inFlight)
    : .returnBook loaded comment ∈ system.inFlight ∨ loaded ∈ system.store.borrowings.rows := by
  cases action with
  | validate now userId bookId =>
      left
      simp only [step] at member
      split at member
      · split at member
        · simpa using member
        · exact member
      · exact member
  | load id given =>
      simp only [step] at member
      split at member
      · next row found =>
        rcases List.mem_cons.mp member with fresh | earlier
        · obtain ⟨rfl, _⟩ := InFlight.returnBook.inj fresh
          exact Or.inr ((Table.find?_eq_some_iff _).mp found).1
        · exact Or.inl earlier
      · exact Or.inl member
  | write index now =>
      left
      simp only [step] at member
      split at member
      · exact List.mem_of_mem_eraseIdx member
      · exact member
  | markOverdue today => exact Or.inl member

/-- A copy that was behind before an action, or that was loaded then, is behind after it, since rows
only move forward and keys are not given out again.
-/
theorem System.Coherent.step {system : System} (coherent : system.Coherent) (action : Action)
    : (system.step action).Coherent where
  store := coherent.step_store action
  copies := by
    intro loaded comment member
    have follows := system.step_follows action
    have before : loaded.Behind system.store := by
      rcases system.mem_inFlight_step member with earlier | loadedNow
      · exact coherent.copies loaded comment earlier
      · refine ⟨coherent.store loaded loadedNow, system.store.borrowings.bounded _ loadedNow, ?_⟩
        intro row present same
        rw [system.store.borrowings.eq_of_key_eq present loadedNow same]
    refine ⟨before.coherent, Nat.lt_of_lt_of_le before.key follows.keys, ?_⟩
    intro row present same
    have old : row.id < system.store.borrowings.nextKey := same ▸ before.key
    obtain ⟨earlier, there, ids, forward⟩ := follows.rows row present old
    exact Nat.le_trans (before.rank earlier there (ids.trans same)) forward

-----------------------------------------------------------------------------------------
-- Runs
-----------------------------------------------------------------------------------------

/-- Whatever requests overlap, starting without loans and requests: in every state a loan is
returned exactly when its return time is set, and along the run its status only moves from
borrowed over overdue to returned.
-/
theorem states_coherent_and_forward (start : System)
    (empty : start.store.borrowings.rows = []) (idle : start.inFlight = [])
    (actions : List Action)
    : (∀ reached ∈ states System.step start actions,
        ∀ loan ∈ reached.store.borrowings.rows,
          loan.status = .returned ↔ loan.returnedAt.isSome)
      ∧ (states System.step start actions).Pairwise (fun earlier later =>
          earlier.store.MovesForward later.store) := by
  have atFirst : start.Coherent :=
    ⟨by simp [Store.Coherent, empty], by simp [idle]⟩
  constructor
  · intro reached member
    have coherent := invariant atFirst (fun _ action before => System.Coherent.step before action)
      actions reached member
    exact coherent.store
  · have steps : EachStep System.step (fun _ _ => True) start actions :=
      .of_forall (fun _ _ => trivial) start actions
    have descent : (states System.step start actions).Pairwise (fun earlier later =>
        Table.Follows (fun before after : Borrowing => before.status.rank ≤ after.status.rank)
          earlier.store.borrowings later.store.borrowings) := by
      refine steps.pairwise ?_ (fun system action _ => system.step_follows action)
      intro first second third hf hs
      exact hf.trans hs (fun _ _ _ => Nat.le_trans)
    refine descent.imp ?_
    intro earlier later follows before hb after ha same
    exact follows.of_key_eq hb ha same.symm

/-- A return overlaps a sweep and a second return of the same loan. -/
theorem states_coherent_and_forward_sample
    : Database.sample.store.borrowings.rows = []
      ∧ ∀ reached ∈ states System.step ⟨Database.sample.store, []⟩ [
            .validate 0 2 1, .write 0 0, .load 1 (some "Worn cover"), .load 1 none,
            .markOverdue 20, .write 1 5, .markOverdue 20, .write 0 6],
          ∀ loan ∈ reached.store.borrowings.rows,
            loan.status = .returned ↔ loan.returnedAt.isSome :=
  ⟨rfl, (states_coherent_and_forward ⟨Database.sample.store, []⟩ rfl rfl _).1⟩

end LibraryManagement
