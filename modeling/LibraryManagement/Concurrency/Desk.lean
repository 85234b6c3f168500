import LibraryManagement.Concurrency.Coherence
import LibraryManagement.Concurrency.Limits
import LibraryManagement.Lending.Desk

/-! Requests that overlap, seen from the circulation desk. A borrowing becomes an event of the
desk when it inserts, a return when it saves.
-/

namespace LibraryManagement

open Relational Transition Circulation

inductive Action.Means (system : System) (action : Action) : Option (Event ℕ ℕ) → Prop
  | nothing : Means system action none
  | lend {validated now user book}
    (writes : system.writes action = some (.borrow validated user book, now))
    : Means system action (some (.lend user.id book.id (toDate validated + 14)))
  | giveBack {loaded comment now}
    (writes : system.writes action = some (.returnBook loaded comment, now))
    : Means system action (some (.giveBack loaded.id))
  | expire {today} (requested : action = .markOverdue today)
    : Means system action (some (.expire today))

/-- Borrowings in flight are by users and for books that are still stored. -/
structure System.Ready (system : System) : Prop where
  coherent : system.Coherent
  known
    : ∀ validated user book, .borrow validated user book ∈ system.inFlight
      → user ∈ system.store.users.rows ∧ book ∈ system.store.books.rows

-----------------------------------------------------------------------------------------
-- What every action keeps
-----------------------------------------------------------------------------------------

theorem System.step_parents (system : System) (action : Action)
    : (system.step action).store.users = system.store.users
      ∧ (system.step action).store.books = system.store.books := by
  rcases system.step_store action with
    ⟨_, same | ⟨today, swept⟩⟩ | ⟨request, now, _, _, written⟩
  · rw [same]
    exact ⟨rfl, rfl⟩
  · rw [swept]
    exact ⟨rfl, rfl⟩
  · rw [written]
    cases request <;> exact ⟨rfl, rfl⟩

/-- A borrowing in flight after an action was in flight before it, or has just been validated, with
a user and a book of the store.
-/
theorem System.borrow_mem_inFlight_step {system : System} {action : Action} {validated : Int}
    {user : User} {book : Book}
    (member : .borrow validated user book ∈ (system.step action).inFlight)
    : .borrow validated user book ∈ system.inFlight
      ∨ user ∈ system.store.users.rows ∧ book ∈ system.store.books.rows := by
  cases action with
  | validate now userId bookId =>
      simp only [step] at member
      split at member
      · next owner item known found =>
        split at member
        · rcases List.mem_cons.mp member with fresh | earlier
          · obtain ⟨_, rfl, rfl⟩ := InFlight.borrow.inj fresh
            exact Or.inr ⟨((Table.find?_eq_some_iff _).mp known).1,
              ((Table.find?_eq_some_iff _).mp found).1⟩
          · exact Or.inl earlier
        · exact Or.inl member
      · exact Or.inl member
  | load id given =>
      left
      simp only [step] at member
      split at member
      · simpa using member
      · exact member
  | write index now =>
      left
      simp only [step] at member
      split at member
      · exact List.mem_of_mem_eraseIdx member
      · exact member
  | markOverdue today => exact Or.inl member

theorem System.Ready.step {system : System} (ready : system.Ready) (action : Action)
    : (system.step action).Ready where
  coherent := ready.coherent.step action
  known := by
    intro validated user book member
    obtain ⟨users, books⟩ := system.step_parents action
    rw [users, books]
    rcases system.borrow_mem_inFlight_step member with earlier | stored
    · exact ready.known validated user book earlier
    · exact stored

-----------------------------------------------------------------------------------------
-- One action
-----------------------------------------------------------------------------------------

/-- Both validators pass again exactly where the rules allow the lending. -/
theorem InFlight.stillValid_iff {s : Store} (coherent : s.Coherent) {user : User} {book : Book}
    (known : user ∈ s.users.rows) (found : book ∈ s.books.rows) (validated : Int)
    : (InFlight.borrow validated user book).StillValid s
      ↔ s.desk.Allows (.lend user.id book.id (toDate validated + 14)) := by
  have owner : s.users.find? user.id = some user := s.users.find?_of_mem known
  have item : s.books.find? book.id = some book := s.books.find?_of_mem found
  have valid : (Borrowing.requested validated user book).errors s = [] ↔ s.mayBorrow user book :=
    Borrowing.requested_errors_eq_nil_iff known found
  rw [coherent.allows_lend_iff known found, ← valid]
  simp [StillValid, Borrowing.Draft.errors, owner, item, Borrowing.requested,
    Borrowing.Draft.setDefaults, Status.ofColumn, borrowingsStatusDefault]

/-- The save of a copy that is behind its row returns the row. -/
theorem Borrowing.Behind.desk_saveReturn {s : Store} {loaded : Borrowing}
    (behind : loaded.Behind s) (now : Int) (comment : Option String)
    : (loaded.saveReturn now comment s).desk = s.desk.apply (.giveBack loaded.id) := by
  refine s.desk_saveReturn now comment loaded (fun row member same => ?_)
  rw [(Borrowing.saveChanges_columns now comment loaded row).1]
  split
  · next closed =>
    have ahead := behind.rank row member same
    cases status : row.status with
    | returned => rfl
    | borrowed | overdue =>
        rw [closed, status] at ahead
        exact absurd ahead (by decide)
  · rfl

/-- The write of a borrowing is the lending it was validated for, where the rules still allow
it, and no event otherwise.
-/
theorem System.Ready.refines_borrow_iff {system : System} (ready : system.Ready) {action : Action}
    {validated now : Int} {user : User} {book : Book}
    (writes : system.writes action = some (.borrow validated user book, now))
    (inFlight : .borrow validated user book ∈ system.inFlight)
    (written
      : (system.step action).store
        = (Borrowing.requested validated user book).insert now system.store)
    : (∃ event, RefinesStep System.step Desk.apply (fun system => system.store.desk) Action.Means
          Desk.Allows system action event)
      ↔ (InFlight.borrow validated user book).StillValid system.store := by
  obtain ⟨known, found⟩ := ready.known validated user book inFlight
  have lent : (system.step action).store.desk
      = system.store.desk.lend user.id book.id (toDate validated + 14) := by
    rw [written]
    exact system.store.desk_borrow validated now user book
  rw [InFlight.stillValid_iff ready.coherent.store known found]
  constructor
  · rintro ⟨event, here⟩
    have commutes := here.commutes.symm.trans lent
    cases event with
    | none => exact absurd (congrArg Desk.next commutes) (Nat.ne_of_lt (Nat.lt_succ_self _))
    | some event =>
        obtain rfl := Desk.lend_unique commutes
        exact here.allowed _ rfl
  · intro allowed
    exact ⟨_, .of_some (.lend writes) lent allowed⟩

/-- The write of a return is an event of the desk, unless its row is gone; then the desk has nothing
under the number either.
-/
theorem System.Ready.refines_return {system : System} (ready : system.Ready) {action : Action}
    {loaded : Borrowing} {comment : Option String} {now : Int}
    (writes : system.writes action = some (.returnBook loaded comment, now))
    (inFlight : .returnBook loaded comment ∈ system.inFlight)
    (written : (system.step action).store = loaded.saveReturn now comment system.store)
    : ∃ event, RefinesStep System.step Desk.apply (fun system => system.store.desk) Action.Means
        Desk.Allows system action event := by
  have behind := ready.coherent.copies loaded comment inFlight
  have returned : (system.step action).store.desk
      = system.store.desk.apply (.giveBack loaded.id) := by
    rw [written]
    exact behind.desk_saveReturn now comment
  cases present : system.store.desk.loans loaded.id with
  | some loan =>
      exact ⟨_, .of_some (.giveBack writes) returned (by simp [Desk.Allows, present])⟩
  | none => exact ⟨none, .of_none .nothing (returned.trans (Desk.giveBack_missing present))⟩

/-- An action is an event of the desk, or none, exactly where what it writes is still valid: reads
are no event, sweeps and returns always are one, and a borrowing is where it may lend.
-/
theorem System.Ready.refines_iff {system : System} (ready : system.Ready) (action : Action)
    : (∃ event, RefinesStep System.step Desk.apply (fun system => system.store.desk) Action.Means
          Desk.Allows system action event)
      ↔ WritesValid system action := by
  have reads (same : (system.step action).store = system.store)
      (idle : system.writes action = none)
      : (∃ event, RefinesStep System.step Desk.apply (fun system => system.store.desk)
            Action.Means Desk.Allows system action event)
        ↔ WritesValid system action := by
    refine iff_of_true ⟨none, .of_none .nothing (congrArg Store.desk same)⟩ ?_
    simp [WritesValid, idle]
  cases action with
  | validate now userId bookId =>
      refine reads ?_ rfl
      simp only [System.step]
      split
      · split <;> rfl
      · rfl
  | load id comment =>
      refine reads ?_ rfl
      simp only [System.step]
      split <;> rfl
  | markOverdue today =>
      refine iff_of_true ?_ (by simp [WritesValid, System.writes])
      exact ⟨_, .of_some (.expire rfl) (system.store.desk_updateAll today) trivial⟩
  | write index now =>
      cases found : system.inFlight[index]? with
      | none => exact reads (by simp [System.step, found]) (by simp [System.writes, found])
      | some request =>
          have writes : system.writes (.write index now) = some (request, now) := by
            simp [System.writes, found]
          have written : (system.step (.write index now)).store
              = request.write now system.store := by
            simp [System.step, found]
          have inFlight := List.mem_of_getElem? found
          simp only [WritesValid, writes, Option.mem_def, Option.some.injEq, forall_eq']
          cases request with
          | borrow validated user book => exact ready.refines_borrow_iff writes inFlight written
          | returnBook loaded comment =>
              exact iff_of_true (ready.refines_return writes inFlight written) trivial

-----------------------------------------------------------------------------------------
-- Runs
-----------------------------------------------------------------------------------------

/-- However requests overlap, the run is a run of the desk exactly when every borrowing inserts
in a state in which its two validators would pass again. Each action is then one event, or
none, that takes place when the request writes.
-/
theorem interleavings_refine_desk_iff (start : System) (coherent : start.store.Coherent)
    (idle : start.inFlight = []) (actions : List Action)
    : (∃ events, Refines System.step Desk.apply (fun system => system.store.desk) Action.Means
          Desk.Allows start actions events)
      ↔ EachStep System.step WritesValid start actions := by
  have ready : start.Ready := ⟨⟨coherent, by simp [idle]⟩, by simp [idle]⟩
  exact exists_refines_iff ready (fun _ action before => before.step action)
    (fun _ action before => before.refines_iff action) actions

/-- One member's borrowing and the other's overlap, but the copy is back before the second
inserts.
-/
theorem interleavings_refine_desk_sample
    : Database.sample.store.Coherent
      ∧ ∃ events, Refines System.step Desk.apply (fun system => system.store.desk) Action.Means
          Desk.Allows ⟨Database.sample.store, []⟩ [
            .validate 0 2 1, .validate 0 3 1, .write 1 0, .load 1 none, .write 0 1, .write 0 2]
          events :=
  have coherent := (Database.sample.sound_of_empty rfl).coherent
  ⟨coherent, (interleavings_refine_desk_iff _ coherent rfl _).mpr (by decide)⟩

end LibraryManagement
