import LibraryManagement.Lending.Loans

/-! Requests that overlap. A borrowing reads in its validations and writes in its insert; a
return reads the row it was called on and writes in its save. Every read and every write is
one statement on the committed rows; between them any other request may act.
-/

namespace LibraryManagement

open Relational Transition

/-- A request between its reads and its write. -/
inductive InFlight where
  /-- A `POST /borrowings` that has passed its validations at `now`. -/
  | borrow (now : Int) (user : User) (book : Book)
  /-- A `POST /borrowings/:id/return_book` that has loaded its row. -/
  | returnBook (loaded : Borrowing) (comment : Option String)
  deriving DecidableEq, Repr

structure System where
  store : Store
  inFlight : List InFlight
  deriving DecidableEq

inductive Action where
  /-- A user's `POST /borrowings` runs its validations. -/
  | validate (now : Int) (userId bookId : Nat)
  /-- A librarian's `POST /borrowings/:id/return_book` runs `set_borrowing`. -/
  | load (id : Nat) (comment : Option String)
  /-- One of the requests in flight writes. -/
  | write (index : Nat) (now : Int)
  /-- `update_all(status: :overdue)`. -/
  | markOverdue (today : Int)
  deriving DecidableEq, Repr

namespace InFlight

/-- The statement that ends a request. -/
def write (now : Int) (request : InFlight) (s : Store) : Store :=
  match request with
  | .borrow validated user book => (Borrowing.requested validated user book).insert now s
  | .returnBook loaded comment => loaded.saveReturn now comment s

end InFlight

namespace System

/-- A new request takes the first place in flight; a refused one leaves no trace. -/
def step (system : System) : Action → System
  | .validate now userId bookId =>
      match system.store.users.find? userId, system.store.books.find? bookId with
      | some user, some book =>
          if (Borrowing.requested now user book).errors system.store = [] then
            { system with inFlight := .borrow now user book :: system.inFlight }
          else
            system
      | _, _ => system
  | .load id comment =>
      match system.store.borrowings.find? id with
      | some loaded =>
          { system with inFlight := .returnBook loaded comment :: system.inFlight }
      | none => system
  | .write index now =>
      match system.inFlight[index]? with
      | some request =>
          { store := request.write now system.store, inFlight := system.inFlight.eraseIdx index }
      | none => system
  | .markOverdue today => { system with store := OverdueService.updateAll today system.store }

def writes (system : System) (action : Action) : Option (InFlight × Int) :=
  match action with
  | .write index now => system.inFlight[index]?.map (fun request => (request, now))
  | .validate .. | .load .. | .markOverdue _ => none

end System

/-- What an action does to the store: nothing, a write of a request in flight or a sweep. Invariants
of the store are shown by these cases.
-/
theorem System.step_store (system : System) (action : Action)
    : (system.writes action = none
        ∧ ((system.step action).store = system.store
          ∨ ∃ today, (system.step action).store = OverdueService.updateAll today system.store))
      ∨ ∃ request now, system.writes action = some (request, now)
        ∧ request ∈ system.inFlight
        ∧ (system.step action).store = request.write now system.store := by
  cases action with
  | validate now userId bookId =>
      refine Or.inl ⟨rfl, Or.inl ?_⟩
      simp only [step]
      split
      · split <;> rfl
      · rfl
  | load id comment =>
      refine Or.inl ⟨rfl, Or.inl ?_⟩
      simp only [step]
      split <;> rfl
  | markOverdue today => exact Or.inl ⟨rfl, Or.inr ⟨today, rfl⟩⟩
  | write index now =>
      cases found : system.inFlight[index]? with
      | none => exact Or.inl ⟨by simp [writes, found], Or.inl (by simp [step, found])⟩
      | some request =>
          exact Or.inr ⟨request, now, by simp [writes, found], List.mem_of_getElem? found,
            by simp [step, found]⟩

/-- What the save of a return makes of the row it finds, by then perhaps another version
than the one it had loaded: a column that the return leaves as loaded is not written.
-/
theorem Borrowing.saveChanges_columns (now : Int) (comment : Option String)
    (loaded current : Borrowing)
    : let saved := saveChanges now loaded (loaded.assignReturn now comment) current
      saved.status = (if loaded.status = .returned then current.status else .returned)
        ∧ saved.returnedAt
          = (if loaded.returnedAt = some now then current.returnedAt else some now) := by
  simp only [saveChanges]
  split
  · next same =>
    have status : loaded.status = .returned := (congrArg Borrowing.status same).symm
    have returnedAt : loaded.returnedAt = some now := (congrArg Borrowing.returnedAt same).symm
    simp [status, returnedAt]
  · exact ⟨if_congr eq_comm rfl rfl, if_congr eq_comm rfl rfl⟩

-----------------------------------------------------------------------------------------
-- Uninterrupted requests
-----------------------------------------------------------------------------------------

/-- A borrowing that nothing interrupts is the request of a sequential run: validated and written in
two actions, it leaves what the action leaves in one.
-/
theorem System.uninterrupted_borrow (platform : Platform) (s : Store) (others : List InFlight)
    {call : Call} {user : User} {book : Book} (signedIn : call.currentUser s = some user)
    (requested : call.request = .borrowings (.create book.id)) (found : book ∈ s.books.rows)
    (accepted : s.mayBorrow user book)
    : (((⟨s, others⟩ : System).step (.validate call.env.now user.id book.id)).step
        (.write 0 call.env.now))
      = ⟨LibraryManagement.step platform s call, others⟩ := by
  have known := Call.mem_of_currentUser signedIn
  have owner : s.users.find? user.id = some user := s.users.find?_of_mem known
  have item : s.books.find? book.id = some book := s.books.find?_of_mem found
  have valid : (Borrowing.requested call.env.now user book).errors s = [] :=
    (Borrowing.requested_errors_eq_nil_iff known found).mpr accepted
  have lent : call.lends s = some (user, book) :=
    Call.lends_eq_some_iff.mpr ⟨signedIn, requested, found, accepted⟩
  simp [step, owner, item, valid, InFlight.write, step_lends lent]

theorem System.uninterrupted_return (platform : Platform) (s : Store) (others : List InFlight)
    {call : Call} {loan : Borrowing} {comment : Option String}
    (returns : call.returns s = some (loan, comment))
    : (((⟨s, others⟩ : System).step (.load loan.id comment)).step (.write 0 call.env.now))
      = ⟨LibraryManagement.step platform s call, others⟩ := by
  obtain ⟨_, _, found⟩ := Call.returns_eq_some_iff.mp returns
  have here : s.borrowings.find? loan.id = some loan := s.borrowings.find?_of_mem found
  simp [step, here, InFlight.write, step_returns returns]

theorem System.uninterrupted_sweep (platform : Platform) (s : Store) (others : List InFlight)
    {call : Call} (sweeps : call.sweeps s)
    : (⟨s, others⟩ : System).step (.markOverdue call.env.today)
      = ⟨LibraryManagement.step platform s call, others⟩ := by
  simp [step, step_sweeps sweeps]

end LibraryManagement
