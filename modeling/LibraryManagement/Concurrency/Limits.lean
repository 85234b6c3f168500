import LibraryManagement.Concurrency.Requests

/-! The limits that the validations of a borrowing guard, when requests overlap. No constraint
of the borrowings table repeats the validations at the insert.
-/

namespace LibraryManagement

open Relational Transition

def Store.activeCopies (s : Store) (book : Book) : Nat :=
  s.borrowings.rows.countP (fun loan => loan.bookId == book.id && loan.active)

def Store.activeLoans (s : Store) (userId bookId : Nat) : Nat :=
  s.borrowings.rows.countP (fun loan =>
    (loan.userId == userId && loan.bookId == bookId) && loan.active)

/-- Active borrowings exceed neither the copies of their book nor one for each user. -/
structure Store.WithinLimits (s : Store) : Prop where
  copies : ∀ book ∈ s.books.rows, (s.activeCopies book : Int) ≤ book.totalCopies
  loans : ∀ userId bookId, s.activeLoans userId bookId ≤ 1

/-- The two validators would still let the request through. -/
def InFlight.StillValid (s : Store) : InFlight → Prop
  | .borrow validated user book =>
      (Borrowing.requested validated user book).preventDuplicateActiveBorrowing s = []
      ∧ (Borrowing.requested validated user book).copiesAvailableToBorrow s = []
  | .returnBook _ _ => True

instance (s : Store) : ∀ request : InFlight, Decidable (request.StillValid s)
  | .borrow _ _ _ => inferInstanceAs (Decidable (_ ∧ _))
  | .returnBook _ _ => inferInstanceAs (Decidable True)

/-- Where the action is the write of a request, that request is still valid. -/
def WritesValid (system : System) (action : Action) : Prop :=
  ∀ written ∈ system.writes action, written.1.StillValid system.store

instance (system : System) (action : Action) : Decidable (WritesValid system action) :=
  inferInstanceAs (Decidable (∀ written ∈ system.writes action, _))

theorem Borrowing.Draft.preventDuplicate_eq_nil_iff (s : Store) (draft : Draft)
    : draft.preventDuplicateActiveBorrowing s = []
      ↔ s.activeLoans draft.userId draft.bookId = 0 := by
  rw [preventDuplicateActiveBorrowing, Store.activeLoans]
  simp [List.countP_eq_zero]

theorem Borrowing.Draft.copiesAvailable_eq_nil_iff (s : Store) (draft : Draft)
    : draft.copiesAvailableToBorrow s = []
      ↔ ∀ book ∈ s.books.rows, book.id = draft.bookId
        → (s.activeCopies book : Int) < book.totalCopies := by
  have available (book : Book)
      : book.availableCopies s = book.totalCopies - s.activeCopies book := by
    simp only [Book.availableCopies, Store.activeCopies, active, Bool.and_assoc]
  rw [copiesAvailableToBorrow]
  cases found : s.books.find? draft.bookId with
  | none =>
      refine iff_of_true rfl ?_
      intro book member same
      have present := (s.books.find?_isSome_iff).mpr ⟨book, member, same⟩
      simp [found] at present
  | some book =>
      obtain ⟨member, same⟩ := (s.books.find?_eq_some_iff).mp found
      simp only [available]
      constructor
      · intro valid other there ids
        obtain rfl := s.books.eq_of_key_eq member there (same.trans ids.symm)
        by_contra full
        rw [if_pos (by omega)] at valid
        cases valid
      · intro spare
        have free := spare book member same
        rw [if_neg (by omega)]

/-- No write of a return makes a loan active, whatever copy the return had loaded. -/
theorem Borrowing.active_of_saveChanges {now : Int} {comment : Option String}
    {loaded current : Borrowing}
    (active' : (saveChanges now loaded (loaded.assignReturn now comment) current).active)
    : current.active := by
  obtain ⟨status, returnedAt⟩ := saveChanges_columns now comment loaded current
  simp only [active, status, returnedAt, Bool.and_eq_true, beq_iff_eq] at active' ⊢
  obtain ⟨borrowed, out⟩ := active'
  split at borrowed
  · split at out
    · exact ⟨borrowed, out⟩
    · cases out
  · cases borrowed

/-- Returns and sweeps raise no count of active loans of given owners and books. -/
theorem Borrowing.countP_active_le (s : Store) (selected : Borrowing → Bool)
    {change : Table.Change Borrowing} (p : Nat → Nat → Bool)
    (parents : ∀ loan : Borrowing, (change.apply loan).userId = loan.userId
      ∧ (change.apply loan).bookId = loan.bookId)
    (inactive : ∀ loan : Borrowing, (change.apply loan).active → loan.active)
    : (s.borrowings.update selected change).rows.countP (fun loan =>
          p loan.userId loan.bookId && loan.active)
      ≤ s.borrowings.rows.countP (fun loan => p loan.userId loan.bookId && loan.active) := by
  refine s.borrowings.countP_update_le (fun loan _ _ counted => ?_)
  rw [(parents loan).1, (parents loan).2] at counted
  obtain ⟨chosen, isActive⟩ := Bool.and_eq_true_iff.mp counted
  exact Bool.and_eq_true_iff.mpr ⟨chosen, inactive loan isActive⟩

/-- An update of the loans that makes none of them active keeps the limits, which count active
loans.
-/
theorem Store.WithinLimits.updateLoans {s : Store} (within : s.WithinLimits)
    {selected : Borrowing → Bool} {change : Table.Change Borrowing}
    (parents : ∀ loan : Borrowing, (change.apply loan).userId = loan.userId
      ∧ (change.apply loan).bookId = loan.bookId)
    (inactive : ∀ loan : Borrowing, (change.apply loan).active → loan.active)
    : WithinLimits { s with borrowings := s.borrowings.update selected change } where
  copies := by
    intro book member
    have bound := Borrowing.countP_active_le s selected
      (fun _ bookId => bookId == book.id) parents inactive
    have fits := within.copies book member
    unfold Store.activeCopies at fits ⊢
    dsimp only
    omega
  loans userId bookId :=
    Nat.le_trans
      (Borrowing.countP_active_le s selected
        (fun owner item => owner == userId && item == bookId) parents inactive)
      (within.loans userId bookId)

/-- An insert keeps the limits exactly when the two validators still pass: of both counts it raises
the one for its own book and user, by one.
-/
theorem Store.WithinLimits.insert_iff {s : Store} (within : s.WithinLimits)
    (validated now : Int) (user : User) (book : Book)
    : ((Borrowing.requested validated user book).insert now s).WithinLimits
      ↔ (InFlight.borrow validated user book).StillValid s := by
  have copies (other : Book)
      : ((Borrowing.requested validated user book).insert now s).activeCopies other
        = s.activeCopies other + if book.id = other.id then 1 else 0 := by
    unfold Store.activeCopies Borrowing.Draft.insert
    rw [Table.countP_insert]
    simp [Borrowing.active]
  have loans (userId bookId : Nat)
      : ((Borrowing.requested validated user book).insert now s).activeLoans userId bookId
        = s.activeLoans userId bookId
          + if user.id = userId ∧ book.id = bookId then 1 else 0 := by
    unfold Store.activeLoans Borrowing.Draft.insert
    rw [Table.countP_insert]
    simp [Borrowing.active]
  have valid : (InFlight.borrow validated user book).StillValid s
      ↔ s.activeLoans user.id book.id = 0
        ∧ ∀ other ∈ s.books.rows, other.id = book.id
          → (s.activeCopies other : Int) < other.totalCopies :=
    and_congr (Borrowing.Draft.preventDuplicate_eq_nil_iff s _)
      (Borrowing.Draft.copiesAvailable_eq_nil_iff s _)
  rw [valid]
  constructor
  · intro after
    constructor
    · have single := after.loans user.id book.id
      rw [loans, if_pos ⟨rfl, rfl⟩] at single
      omega
    · intro other member same
      have fits := after.copies other member
      rw [copies, if_pos same.symm] at fits
      omega
  · rintro ⟨unheld, spare⟩
    refine ⟨?_, ?_⟩
    · intro other member
      rw [copies]
      split
      · next same =>
        have free := spare other member same.symm
        omega
      · simpa using within.copies other member
    · intro userId bookId
      rw [loans]
      split
      · next same =>
        obtain ⟨rfl, rfl⟩ := same
        omega
      · exact within.loans userId bookId

/-- An action keeps the limits exactly when no borrowing writes that has become invalid; sweeps and
returns make no loan active.
-/
theorem Store.WithinLimits.step_iff {system : System} (within : system.store.WithinLimits)
    (action : Action)
    : (system.step action).store.WithinLimits ↔ WritesValid system action := by
  rcases system.step_store action with
    ⟨idle, same | ⟨today, swept⟩⟩ | ⟨request, now, writes, _, written⟩
  · simp [WritesValid, idle, same, within]
  · have kept : (OverdueService.updateAll today system.store).WithinLimits :=
      within.updateLoans (fun _ => ⟨rfl, rfl⟩) (fun _ active => by cases active)
    simp [WritesValid, idle, swept, kept]
  · rw [written]
    cases request with
    | borrow validated user book =>
        simpa [WritesValid, writes, InFlight.write] using within.insert_iff validated now user book
    | returnBook loaded comment =>
        have kept : (loaded.saveReturn now comment system.store).WithinLimits :=
          within.updateLoans
            (fun loan => Borrowing.saveChanges_assignReturn_parents now comment loaded loan)
            (fun _ => Borrowing.active_of_saveChanges)
        simp [WritesValid, writes, InFlight.write, InFlight.StillValid, kept]

/-- Whatever requests overlap, the limits hold throughout exactly when every borrowing
inserts in a state in which its two validators would pass again.
-/
theorem states_withinLimits_iff (start : System) (within : start.store.WithinLimits)
    (actions : List Action)
    : (∀ reached ∈ states System.step start actions, reached.store.WithinLimits)
      ↔ EachStep System.step WritesValid start actions := by
  refine forall_states_iff (fun _ => True) trivial ?_ (fun _ _ _ => trivial) ?_ actions
  · exact within
  · exact fun _ action _ within => within.step_iff action

/-- Both members borrow the only copy, one after the other. -/
def Action.sampleSerial : List Action := [
  .validate 0 2 1, .write 0 0, .validate 1 3 1, .write 0 1]

/-- The sample has no loans, so it is within all limits. -/
theorem Database.sample_withinLimits : Database.sample.store.WithinLimits where
  copies := by decide
  loans _ _ := Nat.zero_le _

theorem states_withinLimits_sample
    : Database.sample.store.WithinLimits
      ∧ ∀ reached ∈ states System.step ⟨Database.sample.store, []⟩ Action.sampleSerial,
          reached.store.WithinLimits :=
  ⟨Database.sample_withinLimits,
    (states_withinLimits_iff _ Database.sample_withinLimits Action.sampleSerial).mpr (by decide)⟩

/-- Both members read before either writes. -/
def Action.sampleOverlap : List Action := [
  .validate 0 2 1, .validate 0 3 1, .write 0 1, .write 0 1]

/-- One member's request arrives twice. -/
def Action.sampleDouble : List Action := [
  .validate 0 2 1, .validate 0 2 1, .write 0 1, .write 0 1]

theorem overlap_exceeds_limits
    : Database.sample.store.WithinLimits
      ∧ (¬∀ reached ∈ states System.step ⟨Database.sample.store, []⟩ Action.sampleOverlap,
          reached.store.WithinLimits)
      ∧ ¬∀ reached ∈ states System.step ⟨Database.sample.store, []⟩ Action.sampleDouble,
          reached.store.WithinLimits := by
  refine ⟨Database.sample_withinLimits, ?_, ?_⟩
  · intro always
    have copies : ∀ reached ∈ states System.step ⟨Database.sample.store, []⟩ Action.sampleOverlap,
        ∀ book ∈ reached.store.books.rows,
          (reached.store.activeCopies book : Int) ≤ book.totalCopies :=
      fun reached member => (always reached member).copies
    revert copies
    decide
  · intro always
    have loans : ∀ reached ∈ states System.step ⟨Database.sample.store, []⟩ Action.sampleDouble,
        reached.store.activeLoans 2 1 ≤ 1 :=
      fun reached member => (always reached member).loans 2 1
    revert loans
    decide

end LibraryManagement
