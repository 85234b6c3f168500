import LibraryManagement.Concurrency.Desk
import LibraryManagement.Concurrency.Pending
import LibraryManagement.Lending.Acknowledged

/-! All requests of the application, however they overlap: those that read first and write later,
and in between any others that nothing interrupts.
-/

namespace LibraryManagement

open Relational Transition Circulation

inductive Statement where
  /-- A save runs its validations. -/
  | validate (given : Save)
  /-- A user's `POST /borrowings` runs its validations. -/
  | validateLoan (now : Int) (userId bookId : Nat)
  /-- A `POST /borrowings/:id/return_book` runs `set_borrowing`. -/
  | loadLoan (id : Nat) (comment : Option String)
  /-- A `DELETE /books/:id` loads the book and its borrowings. -/
  | loadBook (id : Nat)
  /-- A `DELETE` of a member or of the own account loads the user and their borrowings. -/
  | loadUser (id : Nat)
  /-- One of the requests in flight writes. -/
  | write (index : Nat) (env : Env)
  /-- `update_all(status: :overdue)`. -/
  | markOverdue (today : Int)
  /-- Any request that nothing interrupts. -/
  | request (call : Call)

structure Traffic where
  store : Store
  inFlight : List Pending

/-- What the reads of a request leave in flight; a request that they refuse leaves no trace. -/
def Statement.begins (platform : Platform) (s : Store) : Statement → Option Pending
  | .validate given => if given.Valid platform s then some (.save given) else none
  | .validateLoan now userId bookId =>
      match s.users.find? userId, s.books.find? bookId with
      | some user, some book =>
          if (Borrowing.requested now user book).errors s = [] then
            some (.loan (.borrow now user book))
          else
            none
      | _, _ => none
  | .loadLoan id comment =>
      (s.borrowings.find? id).map (fun loaded => .loan (.returnBook loaded comment))
  | .loadBook id =>
      (s.books.find? id).map (fun book =>
        .destroyBook book.id (s.borrowings.childKeys Borrowing.bookId book.id))
  | .loadUser id =>
      (s.users.find? id).map (fun user =>
        .destroyUser user.id (s.borrowings.childKeys Borrowing.userId user.id))
  | .write _ _ | .markOverdue _ | .request _ => none

namespace Traffic

def step (platform : Platform) (traffic : Traffic) (statement : Statement) : Traffic :=
  match statement with
  | .write index env =>
      match traffic.inFlight[index]? with
      | some pending =>
          { store := (pending.write env traffic.store).getD traffic.store
            inFlight := traffic.inFlight.eraseIdx index }
      | none => traffic
  | .markOverdue today =>
      { traffic with store := OverdueService.updateAll today traffic.store }
  | .request call => { traffic with store := LibraryManagement.step platform traffic.store call }
  | .validate _ | .validateLoan _ _ _ | .loadLoan _ _ | .loadBook _ | .loadUser _ =>
      { traffic with
        inFlight := (statement.begins platform traffic.store).toList ++ traffic.inFlight }

def writes (traffic : Traffic) : Statement → Option (Pending × Env)
  | .write index env => traffic.inFlight[index]?.map (fun pending => (pending, env))
  | .validate _ | .validateLoan _ _ _ | .loadLoan _ _ | .loadBook _ | .loadUser _
  | .markOverdue _ | .request _ => none

end Traffic

/-- Where the statement is the write of a request, that request is still valid. -/
def Traffic.WritesValid (traffic : Traffic) (statement : Statement) : Prop :=
  ∀ written ∈ traffic.writes statement, written.1.StillValid traffic.store

instance (traffic : Traffic) (statement : Statement) : Decidable (traffic.WritesValid statement) :=
  inferInstanceAs (Decidable (∀ written ∈ traffic.writes statement, _))

inductive Statement.Means (traffic : Traffic) (statement : Statement) : Option (Event ℕ ℕ) → Prop
  | nothing : Means traffic statement none
  | lend {validated user book env}
    (writes : traffic.writes statement = some (.loan (.borrow validated user book), env))
    : Means traffic statement (some (.lend user.id book.id (toDate validated + 14)))
  | giveBack {loaded comment env}
    (writes : traffic.writes statement = some (.loan (.returnBook loaded comment), env))
    : Means traffic statement (some (.giveBack loaded.id))
  | acquire {draft value env}
    (writes : traffic.writes statement = some (.save (.createBook draft value), env))
    : Means traffic statement (some (.acquire traffic.store.books.nextKey value.toNat))
  | restock {loaded draft value env row}
    (writes : traffic.writes statement = some (.save (.updateBook loaded draft value), env))
    (found : row ∈ traffic.store.books.rows) (same : row.id = loaded.id)
    : Means traffic statement (some (.restock loaded.id
        (Book.saveChanges env.now loaded (draft.assigned value loaded) row).totalCopies.toNat))
  | enrol {draft role env}
    (writes : traffic.writes statement = some (.save (.createUser draft role), env))
    : Means traffic statement (some (.enrol traffic.store.users.nextKey))
  | discard {id loans env}
    (writes : traffic.writes statement = some (.destroyBook id loans, env))
    : Means traffic statement (some (.discard id))
  | leave {id loans env}
    (writes : traffic.writes statement = some (.destroyUser id loans, env))
    : Means traffic statement (some (.leave id))
  | expire {today} (requested : statement = .markOverdue today)
    : Means traffic statement (some (.expire today))
  | request {call event} (requested : statement = .request call)
    (means : call.Means traffic.store event)
    : Means traffic statement event

structure Traffic.Ready (platform : Platform) (traffic : Traffic) : Prop where
  sound : traffic.store.Sound
  inFlight : ∀ pending ∈ traffic.inFlight, pending.Ready platform traffic.store

-----------------------------------------------------------------------------------------
-- Events
-----------------------------------------------------------------------------------------

/-- The statement is one event of the desk, or none, that the rules allow. -/
abbrev Traffic.Permits (platform : Platform) (traffic : Traffic) (statement : Statement) : Prop :=
  ∃ event, RefinesStep (Traffic.step platform) Desk.apply (fun traffic => traffic.store.desk)
    Statement.Means Desk.Allows traffic statement event

section Permitted

variable {platform : Platform} {traffic : Traffic} {statement : Statement} {env : Env} {s' : Store}

/-- A statement that leaves the store alone is no event, which the desk allows. -/
theorem Traffic.permits_of_same (same : (traffic.step platform statement).store = traffic.store)
    : traffic.Permits platform statement :=
  ⟨none, .of_none .nothing (congrArg Store.desk same)⟩

/-- Saves of books and users are acquisitions, restocks and enrolments. A book whose row is gone and
a change of a user are nothing to the desk.
-/
theorem Traffic.permits_save {given : Save}
    (writes : traffic.writes statement = some (.save given, env))
    (written : given.write env traffic.store = some s')
    (stored : (traffic.step platform statement).store = s')
    : traffic.Permits platform statement := by
  cases given with
  | createBook draft value =>
      obtain ⟨books, inserted, rfl⟩ := Option.map_eq_some_iff.mp written
      obtain ⟨_, rfl⟩ := Table.insertUnique_eq_some_iff.mp inserted
      refine ⟨_, .of_some (.acquire writes) ?_ ?_⟩
      · rw [stored]
        exact traffic.store.desk_insertBook _
      · simp [Desk.Allows, Store.desk, Table.deleted]
  | updateBook loaded draft value =>
      obtain ⟨books, updated, rfl⟩ := Option.map_eq_some_iff.mp written
      obtain ⟨_, rfl⟩ := Table.updateUnique_eq_some_iff.mp updated
      cases here : traffic.store.books.find? loaded.id with
      | none =>
          refine permits_of_same (stored.trans ?_)
          rw [traffic.store.books.update_eq_self (fun row member chosen => ?_)]
          have found := traffic.store.books.find?_of_mem member
          rw [beq_iff_eq.mp chosen, here] at found
          cases found
      | some row =>
          obtain ⟨found, same⟩ := (Table.find?_eq_some_iff _).mp here
          have restocked := @Store.desk_updateBook traffic.store row found
            ⟨Book.saveChanges env.now loaded (draft.assigned value loaded),
              Book.saveChanges_id env.now loaded (draft.assigned value loaded)⟩
          rw [show row.id = loaded.id from same] at restocked
          refine ⟨_, .of_some (.restock writes found same) ?_ ?_⟩
          · rw [stored]
            exact restocked
          · simp [Desk.Allows, Store.desk, here]
  | createUser draft role =>
      obtain ⟨users, inserted, rfl⟩ := Option.map_eq_some_iff.mp written
      obtain ⟨_, rfl⟩ := Table.insertUnique_eq_some_iff.mp inserted
      refine ⟨_, .of_some (.enrol writes) ?_ ?_⟩
      · rw [stored]
        exact traffic.store.desk_insertUser _
      · simp [Desk.Allows, Store.desk, Table.deleted]
  | updateUser loaded draft =>
      obtain ⟨users, updated, rfl⟩ := Option.map_eq_some_iff.mp written
      obtain ⟨_, rfl⟩ := Table.updateUnique_eq_some_iff.mp updated
      refine ⟨none, .of_none .nothing ?_⟩
      rw [stored]
      exact traffic.store.desk_updateUsers _ _

/-- A return that was read earlier is an event of the desk when it is written: the row has kept its
loan since, or is gone.
-/
theorem Traffic.permits_return {loaded : Borrowing} {comment : Option String}
    (behind : loaded.Behind traffic.store)
    (writes : traffic.writes statement = some (.loan (.returnBook loaded comment), env))
    (stored
      : (traffic.step platform statement).store = loaded.saveReturn env.now comment traffic.store)
    : traffic.Permits platform statement := by
  have returned : (traffic.step platform statement).store.desk
      = traffic.store.desk.apply (.giveBack loaded.id) := by
    rw [stored]
    exact behind.desk_saveReturn env.now comment
  cases present : traffic.store.desk.loans loaded.id with
  | some loan => exact ⟨_, .of_some (.giveBack writes) returned (by simp [Desk.Allows, present])⟩
  | none => exact ⟨none, .of_none .nothing (returned.trans (Desk.giveBack_missing present))⟩

/-- A deletion of a book that the foreign keys let through has loaded every loan that the book has
by then, so it takes effect as a whole, as the book is discarded.
-/
theorem Traffic.permits_destroyBook (consistent : traffic.store.Consistent) {id : Nat}
    {loans : List Nat} (writes : traffic.writes statement = some (.destroyBook id loans, env))
    (stored : (traffic.step platform statement).store = traffic.store.destroyBook id)
    : traffic.Permits platform statement := by
  cases here : traffic.store.books.find? id with
  | none => exact permits_of_same (stored.trans (consistent.destroyBook_missing here))
  | some book =>
      obtain ⟨found, rfl⟩ := (Table.find?_eq_some_iff _).mp here
      refine ⟨_, .of_some (.discard writes) ?_ ?_⟩
      · rw [stored]
        exact traffic.store.desk_destroyBook found
      · simp [Desk.Allows, Store.desk_copies found]

/-- The same for a user, who leaves. -/
theorem Traffic.permits_destroyUser (consistent : traffic.store.Consistent) {id : Nat}
    {loans : List Nat} (writes : traffic.writes statement = some (.destroyUser id loans, env))
    (stored : (traffic.step platform statement).store = traffic.store.destroyUser id)
    : traffic.Permits platform statement := by
  cases here : traffic.store.users.find? id with
  | none => exact permits_of_same (stored.trans (consistent.destroyUser_missing here))
  | some user =>
      obtain ⟨found, rfl⟩ := (Table.find?_eq_some_iff _).mp here
      refine ⟨_, .of_some (.leave writes) ?_ ?_⟩
      · rw [stored]
        exact traffic.store.desk_destroyUser found
      · exact Store.desk_mem_patrons found

/-- A request that writes was in flight; the store stays where the database refuses it. -/
theorem Traffic.step_of_writes {pending : Pending}
    (writes : traffic.writes statement = some (pending, env))
    : pending ∈ traffic.inFlight
      ∧ (traffic.step platform statement).store
        = (pending.write env traffic.store).getD traffic.store := by
  cases statement with
  | write index given =>
      obtain ⟨other, found, same⟩ := Option.map_eq_some_iff.mp writes
      obtain ⟨rfl, rfl⟩ := Prod.mk.inj same
      exact ⟨List.mem_of_getElem? found, by simp [step, found]⟩
  | validate | validateLoan | loadLoan | loadBook | loadUser | markOverdue | request => cases writes

/-- A lending is allowed where the validators would pass again, on the rows by now: the desk after
the write is that after this lending, and after no other event.
-/
theorem Traffic.permits_borrow_iff (coherent : traffic.store.Coherent) {validated : Int}
    {user : User} {book : Book}
    (writes : traffic.writes statement = some (.loan (.borrow validated user book), env))
    (written : (Pending.loan (.borrow validated user book)).write env traffic.store = some s')
    (stored : (traffic.step platform statement).store = s')
    : traffic.Permits platform statement ↔ traffic.WritesValid statement := by
  obtain ⟨⟨owner, known, ownerId⟩, ⟨item, found, itemId⟩, rfl⟩ :=
    Pending.write_borrow_iff.mp written
  have lent : (traffic.step platform statement).store.desk
      = traffic.store.desk.lend user.id book.id (toDate validated + 14) := by
    rw [stored]
    exact traffic.store.desk_borrow validated env.now user book
  have valid : traffic.WritesValid statement
      ↔ traffic.store.desk.Allows (.lend user.id book.id (toDate validated + 14)) := by
    have present : (traffic.store.users.find? owner.id).isSome
        ∧ (traffic.store.books.find? item.id).isSome :=
      ⟨(Table.find?_isSome_iff _).mpr ⟨owner, known, rfl⟩,
        (Table.find?_isSome_iff _).mpr ⟨item, found, rfl⟩⟩
    have rows := InFlight.stillValid_iff coherent known found validated
    simp only [InFlight.StillValid, Borrowing.requested, ownerId, itemId] at rows present ⊢
    simp only [WritesValid, writes, Option.mem_def, Option.some.injEq, forall_eq',
      Pending.StillValid, present, forall_const, InFlight.StillValid, Borrowing.requested]
    exact rows
  rw [valid]
  constructor
  · rintro ⟨event, here⟩
    have commutes := here.commutes.symm.trans lent
    cases event with
    | none => exact absurd (congrArg Desk.next commutes) (Nat.ne_of_lt (Nat.lt_succ_self _))
    | some event =>
        obtain rfl := Desk.lend_unique commutes
        exact here.allowed _ rfl
  · intro allowed
    exact ⟨_, .of_some (.lend writes) lent allowed⟩

/-- A statement is an event of the desk, or none, exactly where what it writes is still valid. What
reads, or is refused, leaves the desk as it is; of the writes only a borrowing can be invalid.
-/
theorem Traffic.Ready.permits_iff (ready : traffic.Ready platform) (statement : Statement)
    : traffic.Permits platform statement ↔ traffic.WritesValid statement := by
  have free (idle : traffic.writes statement = none) (permits : traffic.Permits platform statement)
      : traffic.Permits platform statement ↔ traffic.WritesValid statement :=
    iff_of_true permits (by simp [WritesValid, idle])
  cases statement with
  | validate | validateLoan | loadLoan | loadBook | loadUser =>
      exact free rfl (permits_of_same rfl)
  | markOverdue today =>
      exact free rfl ⟨_, .of_some (.expire rfl) (traffic.store.desk_updateAll today) trivial⟩
  | request call =>
      obtain ⟨event, here⟩ := ready.sound.step_refines platform call
      exact free rfl ⟨event, .request rfl here.labels, here.commutes, here.allowed⟩
  | write index env =>
      cases found : traffic.inFlight[index]? with
      | none =>
          exact free (by simp [writes, found]) (permits_of_same (by simp [step, found]))
      | some pending =>
          have writing : traffic.writes (.write index env) = some (pending, env) := by
            simp [writes, found]
          obtain ⟨member, stored⟩ := @step_of_writes platform traffic _ env pending writing
          have kept := ready.inFlight pending member
          cases written : pending.write env traffic.store with
          | none =>
              rw [written, Option.getD_none] at stored
              refine iff_of_true (permits_of_same stored) ?_
              simpa [WritesValid, writing] using Pending.stillValid_of_refused written
          | some s' =>
              rw [written, Option.getD_some] at stored
              have valid (trivial : pending.StillValid traffic.store)
                  : traffic.WritesValid (.write index env) := by
                simpa [WritesValid, writing] using trivial
              cases pending with
              | save given =>
                  exact iff_of_true (permits_save writing written stored) (valid trivial)
              | loan request =>
                  cases request with
                  | borrow => exact permits_borrow_iff ready.sound.coherent writing written stored
                  | returnBook loaded comment =>
                      obtain rfl := Option.some.inj written
                      exact iff_of_true (permits_return kept writing stored) (valid trivial)
              | destroyBook id loans =>
                  obtain ⟨_, rfl⟩ := (Pending.write_destroyBook_iff kept).mp written
                  exact iff_of_true
                    (permits_destroyBook ready.sound.consistent writing stored) (valid trivial)
              | destroyUser id loans =>
                  obtain ⟨_, rfl⟩ := (Pending.write_destroyUser_iff kept).mp written
                  exact iff_of_true
                    (permits_destroyUser ready.sound.consistent writing stored) (valid trivial)

/-- Every statement is an event of the desk, or none, allowed or not: one that is not permitted is a
borrowing, which lends all the same.
-/
theorem Traffic.Ready.commutes (ready : traffic.Ready platform) (statement : Statement)
    : ∃ event, (traffic.step platform statement).store.desk
        = visible Desk.apply traffic.store.desk event := by
  by_cases valid : traffic.WritesValid statement
  · obtain ⟨event, here⟩ := (ready.permits_iff statement).mpr valid
    exact ⟨event, here.commutes⟩
  · simp only [WritesValid, Option.mem_def, not_forall] at valid
    obtain ⟨⟨pending, env⟩, writes, invalid⟩ := valid
    cases pending with
    | loan request =>
        cases request with
        | borrow validated user book =>
            simp only [Pending.StillValid, not_forall] at invalid
            obtain ⟨known, found, _⟩ := invalid
            obtain ⟨_, stored⟩ := @step_of_writes platform traffic statement env _ writes
            refine ⟨some (.lend user.id book.id (toDate validated + 14)), ?_⟩
            rw [stored, Pending.write, known, found]
            exact traffic.store.desk_borrow validated env.now user book
        | returnBook => exact absurd trivial invalid
    | save | destroyBook | destroyUser => exact absurd trivial invalid

end Permitted

-----------------------------------------------------------------------------------------
-- Requests in flight
-----------------------------------------------------------------------------------------

/-- The reads of a request make sure of what its write relies on: what it loads is in the store, and
so are the loans of what it will delete.
-/
theorem Statement.begins_ready {platform : Platform} {s : Store} {statement : Statement}
    {pending : Pending} (coherent : s.Coherent)
    (begins : statement.begins platform s = some pending)
    : pending.Ready platform s := by
  cases statement with
  | validate given =>
      obtain ⟨valid, same⟩ := Option.ite_none_right_eq_some.mp begins
      obtain rfl := Option.some.inj same
      exact ⟨s, valid⟩
  | validateLoan now userId bookId =>
      simp only [Statement.begins] at begins
      split at begins
      · next user book known found =>
        obtain ⟨_, same⟩ := Option.ite_none_right_eq_some.mp begins
        obtain rfl := Option.some.inj same
        exact ⟨s.users.bounded user ((Table.find?_eq_some_iff _).mp known).1,
          s.books.bounded book ((Table.find?_eq_some_iff _).mp found).1⟩
      · cases begins
  | loadLoan id comment =>
      obtain ⟨loaded, found, rfl⟩ := Option.map_eq_some_iff.mp begins
      obtain ⟨present, _⟩ := (Table.find?_eq_some_iff _).mp found
      refine ⟨coherent loaded present, s.borrowings.bounded loaded present, ?_⟩
      intro row member same
      rw [s.borrowings.eq_of_key_eq member present same]
  | loadBook id =>
      obtain ⟨book, found, rfl⟩ := Option.map_eq_some_iff.mp begins
      exact Table.loadedUnder_childKeys _ _ _
  | loadUser id =>
      obtain ⟨user, found, rfl⟩ := Option.map_eq_some_iff.mp begins
      exact Table.loadedUnder_childKeys _ _ _
  | write | markOverdue | request => cases begins


/-- The ids of users that were handed out are those of patrons and of former ones. -/
theorem Store.lt_users_nextKey_iff {s : Store} {id : Nat}
    : id < s.users.nextKey ↔ id ∈ s.desk.patrons ∪ s.desk.former :=
  s.users.lt_nextKey_iff

/-- Those of books are the items and the withdrawn ones. -/
theorem Store.lt_books_nextKey_iff {s : Store} {id : Nat}
    : id < s.books.nextKey ↔ id ∈ s.desk.items ∪ s.desk.withdrawn := by
  rw [s.books.lt_nextKey_iff]
  simp [desk, Desk.items]

theorem Status.phase_rank (status : Status) : status.phase.rank = status.rank := by
  cases status <;> rfl

/-- What the desk keeps of loans, the rows keep: the desk shows every column that a later row has to
share with the earlier one.
-/
theorem Store.follows_of_continues {earlier later : Store}
    (continues : earlier.desk.Continues later.desk)
    : Table.Follows Borrowing.Ages earlier.borrowings later.borrowings where
  keys := continues.next
  rows := by
    intro after present used
    have still : later.desk.loans after.id = some after.loan := desk_loans present
    cases old : earlier.desk.loans after.id with
    | none => cases still.symm.trans (continues.unused after.id used old)
    | some loan =>
        obtain ⟨before, found, rfl⟩ := Option.map_eq_some_iff.mp old
        obtain ⟨member, same⟩ := (Table.find?_eq_some_iff _).mp found
        rcases continues.loans after.id before.loan old with ⟨loan, here, aged⟩ | ⟨gone, _⟩
        · obtain rfl := Option.some.inj (still.symm.trans here)
          exact ⟨before, member, same, same.symm, aged.patron, aged.item, aged.due, aged.phase⟩
        · cases still.symm.trans gone

/-- What requests in flight rely on stays true, whatever the desk goes through: patrons and items
stay known, and loans age.
-/
theorem Pending.Ready.of_event {platform : Platform} {s s' : Store} {pending : Pending}
    (ready : pending.Ready platform s) {event : Option (Event ℕ ℕ)}
    (commutes : s'.desk = visible Desk.apply s.desk event)
    : pending.Ready platform s' := by
  have follows := Store.follows_of_continues (Desk.continues_visible commutes)
  cases pending with
  | save given => exact ready
  | loan request =>
      cases request with
      | borrow validated user book =>
          rw [Ready, Store.lt_users_nextKey_iff, Store.lt_books_nextKey_iff] at ready ⊢
          rw [commutes]
          cases event with
          | none => exact ready
          | some event =>
              exact ⟨s.desk.patrons_apply event ready.1, s.desk.items_apply event ready.2⟩
      | returnBook loaded comment =>
          refine ⟨ready.coherent, Nat.lt_of_lt_of_le ready.key follows.keys, ?_⟩
          intro row present same
          have old : row.id < s.borrowings.nextKey := same ▸ ready.key
          obtain ⟨earlier, there, ids, aged⟩ := follows.rows row present old
          have forward := aged.status
          rw [Status.phase_rank, Status.phase_rank] at forward
          exact Nat.le_trans (ready.rank earlier there (ids.trans same)) forward
  | destroyBook id loans =>
      exact ready.follows follows (fun _ _ aged => aged.bookId)
  | destroyUser id loans =>
      exact ready.follows follows (fun _ _ aged => aged.userId)

/-- Each statement keeps the constraints of the store and what is known of the writes in flight, by
cases on the statement: what is read is valid when it is read, and no write changes what another one
in flight rests on (its row is still the one of its key, or gone for good).
-/
theorem Traffic.Ready.step {platform : Platform} {traffic : Traffic}
    (ready : traffic.Ready platform) (statement : Statement)
    : (traffic.step platform statement).Ready platform := by
  obtain ⟨event, commutes⟩ := ready.commutes statement
  have kept (pending : Pending) (earlier : pending ∈ traffic.inFlight)
      : pending.Ready platform (traffic.step platform statement).store :=
    (ready.inFlight pending earlier).of_event commutes
  have begun (same : (traffic.step platform statement).store = traffic.store)
      (queued : (traffic.step platform statement).inFlight
        = (statement.begins platform traffic.store).toList ++ traffic.inFlight)
      : (traffic.step platform statement).Ready platform := by
    refine ⟨same ▸ ready.sound, fun pending member => ?_⟩
    rw [queued] at member
    rcases List.mem_append.mp member with fresh | earlier
    · rw [same]
      exact statement.begins_ready ready.sound.coherent (by simpa using fresh)
    · exact kept pending earlier
  cases statement with
  | validate | validateLoan | loadLoan | loadBook | loadUser => exact begun rfl rfl
  | markOverdue today =>
      refine ⟨⟨?_, ?_⟩, kept⟩
      · exact ready.sound.consistent.updateLoans (fun _ _ _ => rfl) (fun _ _ _ => rfl)
      · intro loan member
        obtain ⟨old, present, rfl⟩ := (Table.mem_update _).mp member
        split
        · next selected =>
          exact (ready.sound.coherent old present).markOverdue
            (OverdueService.overdueBorrowings_iff.mp selected).1
        · exact ready.sound.coherent old present
  | request call => exact ⟨step_sound platform traffic.store call ready.sound, kept⟩
  | write index env =>
      cases found : traffic.inFlight[index]? with
      | none =>
          have idle : traffic.step platform (.write index env) = traffic := by
            simp [Traffic.step, found]
          rw [idle]
          exact ready
      | some pending =>
          have member := List.mem_of_getElem? found
          have stepped : traffic.step platform (.write index env)
              = ⟨(pending.write env traffic.store).getD traffic.store,
                traffic.inFlight.eraseIdx index⟩ := by
            simp [Traffic.step, found]
          refine ⟨?_, fun other still => kept other ?_⟩
          · rw [stepped]
            cases written : pending.write env traffic.store with
            | none => exact ready.sound
            | some s' => exact (ready.inFlight pending member).write_sound ready.sound written
          · rw [stepped] at still
            exact List.mem_of_mem_eraseIdx still

-----------------------------------------------------------------------------------------
-- Uninterrupted deletions
-----------------------------------------------------------------------------------------

section Uninterrupted

variable (platform : Platform) (s : Store) (others : List Pending) {call : Call} {user : User}
  (env : Env)

/-- A deletion that nothing interrupts is the request of a sequential run: the loans that it has
loaded are then all that the book has.
-/
theorem Traffic.uninterrupted_destroyBook (signedIn : call.currentUser s = some user)
    (librarian : user.role = .librarian) {book : Book} (found : book ∈ s.books.rows)
    (requested : call.request = .books (.destroy book.id))
    : (((⟨s, others⟩ : Traffic).step platform (.loadBook book.id)).step platform (.write 0 env))
      = ⟨LibraryManagement.step platform s call, others⟩ := by
  have here : s.books.find? book.id = some book := s.books.find?_of_mem found
  have written
      : (Pending.destroyBook book.id (s.borrowings.childKeys Borrowing.bookId book.id)).write env s
        = some (s.destroyBook book.id) := by
    refine (Pending.write_destroyBook_iff (Table.loadedUnder_childKeys _ _ _)).mpr ⟨?_, rfl⟩
    exact fun loan member lent => Table.mem_childKeys.mpr ⟨loan, member, lent, rfl⟩
  have stepped : LibraryManagement.step platform s call = s.destroyBook book.id := by
    rw [LibraryManagement.step, perform_destroyBook platform signedIn librarian requested, here]
    rfl
  simp [step, Statement.begins, here, written, stepped]

/-- A deletion of a member that nothing interrupts is that of the request, for the same reason. -/
theorem Traffic.uninterrupted_destroyMember (signedIn : call.currentUser s = some user)
    (librarian : user.role = .librarian) {member : User} (found : member ∈ s.users.rows)
    (isMember : member.role = .member)
    (requested : call.request = .members (.destroy member.id))
    : (((⟨s, others⟩ : Traffic).step platform (.loadUser member.id)).step platform (.write 0 env))
      = ⟨LibraryManagement.step platform s call, others⟩ := by
  have here : s.users.find? member.id = some member := s.users.find?_of_mem found
  have written
      : (Pending.destroyUser member.id (s.borrowings.childKeys Borrowing.userId member.id)).write
          env s
        = some (s.destroyUser member.id) := by
    refine (Pending.write_destroyUser_iff (Table.loadedUnder_childKeys _ _ _)).mpr ⟨?_, rfl⟩
    exact fun loan present owned => Table.mem_childKeys.mpr ⟨loan, present, owned, rfl⟩
  have stepped : LibraryManagement.step platform s call = s.destroyUser member.id := by
    rw [LibraryManagement.step, perform_destroyMember platform signedIn librarian requested]
    simp [MembersController.setMember, here, User.isMember, isMember, Option.filter, setRecord]
  simp [step, Statement.begins, here, written, stepped]

end Uninterrupted

-----------------------------------------------------------------------------------------
-- Runs
-----------------------------------------------------------------------------------------

/-- However requests of all kinds overlap, deletions among them, in every state the constraints
hold, status and return time of each loan agree, and a write in flight would be refused exactly for
a value that is taken, a user or a book that was deleted, or a loan that was not there when the
deletion loaded its loans. Each loan keeps its owner, its book and its due date, is never set back
and vanishes only with its owner or its book.
-/
theorem overlapping_requests_safe (platform : Platform) (start : Traffic)
    (sound : start.store.Sound) (idle : start.inFlight = []) (statements : List Statement)
    : (∀ reached ∈ states (Traffic.step platform) start statements,
        reached.store.Sound
        ∧ ∀ pending ∈ reached.inFlight, ∀ env,
            pending.write env reached.store = none ↔ pending.Refused reached.store)
      ∧ (states (Traffic.step platform) start statements).Pairwise (fun earlier later =>
          (∀ before ∈ earlier.store.borrowings.rows, later.store.Keeps before)
          ∧ earlier.store.borrowings.deleted ⊆ later.store.borrowings.deleted
          ∧ earlier.store.users.deleted ⊆ later.store.users.deleted
          ∧ earlier.store.books.deleted ⊆ later.store.books.deleted) := by
  have ready : ∀ reached ∈ states (Traffic.step platform) start statements,
      reached.Ready platform := by
    refine invariant ⟨sound, by simp [idle]⟩ ?_ statements
    exact fun _ statement before => before.step statement
  refine ⟨fun reached member => ⟨(ready reached member).sound, fun pending inFlight env => ?_⟩, ?_⟩
  · exact ((ready reached member).inFlight pending inFlight).write_eq_none_iff
      (ready reached member).sound.consistent env
  · have descent : (states (Traffic.step platform) start statements).Pairwise
        (fun earlier later => earlier.store.desk.Continues later.store.desk) := by
      refine (EachStep.of_forall_states ready).pairwise (fun _ _ _ => Desk.Continues.trans) ?_
      intro traffic statement kept
      obtain ⟨event, commutes⟩ := kept.1.commutes statement
      exact Desk.continues_visible commutes
    refine descent.imp (fun continues => ?_)
    exact ⟨fun _ present => Store.keeps_of_continues continues present,
      Store.deleted_of_continues continues, continues.former, continues.withdrawn⟩

/-- A member borrows the only copy while the book is deleted; the loan is refused. -/
def Statement.sampleDeleted : List Statement := [
  .validateLoan 0 2 1, .loadBook 1, .write 0 ⟨0, "s", id⟩, .write 0 ⟨0, "s", id⟩]

/-- A member borrows while their account is deleted; the deletion is refused. -/
def Statement.sampleBorrowed : List Statement := [
  .validateLoan 0 2 1, .loadUser 2, .write 1 ⟨0, "s", id⟩, .write 0 ⟨0, "s", id⟩]

theorem overlapping_requests_safe_sample
    : Database.sample.store.Sound
      ∧ ∀ reached ∈ states (Traffic.step .ascii) ⟨Database.sample.store, []⟩
            Statement.sampleDeleted,
          reached.store.Sound :=
  have sound := Database.sample.sound_of_empty rfl
  ⟨sound, fun reached member =>
    ((overlapping_requests_safe .ascii ⟨Database.sample.store, []⟩ sound rfl _).1 reached
      member).1⟩

end LibraryManagement
