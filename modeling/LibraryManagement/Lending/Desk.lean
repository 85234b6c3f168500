import LibraryManagement.Circulation.Desk
import LibraryManagement.Lending.Coherence
import LibraryManagement.Relational.Lookup

/-! The application is a circulation desk. Its users are the patrons and its books the items;
what a request does to the tables is an event of the desk that its caller may cause.
-/

namespace LibraryManagement

open Relational Transition Circulation

def Status.phase : Status → Phase
  | .borrowed => .out
  | .overdue => .late
  | .returned => .back

/-- What the desk knows of a loan. -/
def Borrowing.loan (row : Borrowing) : Loan ℕ ℕ where
  patron := row.userId
  item := row.bookId
  due := row.dueDate
  phase := row.status.phase

/-- The desk that the tables hold. -/
def Store.desk (s : Store) : Desk ℕ ℕ where
  patrons := { id | (s.users.find? id).isSome }
  former := s.users.deleted
  copies id := (s.books.find? id).map (fun book => book.totalCopies.toNat)
  withdrawn := s.books.deleted
  loans number := (s.borrowings.find? number).map Borrowing.loan
  next := s.borrowings.nextKey
  numbered number unused := by rw [s.borrowings.find?_of_nextKey_le unused, Option.map_none]

/-- The events that a request may stand for, by its caller. -/
inductive Call.Means (s : Store) (call : Call) : Option (Event ℕ ℕ) → Prop
  | nothing : Means s call none
  | lend {user id} (signedIn : call.currentUser s = some user)
    (requested : call.request = .borrowings (.create id))
    : Means s call (some (.lend user.id id (call.env.today + 14)))
  | giveBack {user id comment} (signedIn : call.currentUser s = some user)
    (librarian : user.role = .librarian)
    (requested : call.request = .borrowings (.returnBook id comment))
    : Means s call (some (.giveBack id))
  | expire {user} (signedIn : call.currentUser s = some user) (librarian : user.role = .librarian)
    (requested : call.request = .dashboard .markOverdue)
    : Means s call (some (.expire call.env.today))
  | acquire {user owned} (signedIn : call.currentUser s = some user)
    (librarian : user.role = .librarian)
    : Means s call (some (.acquire s.books.nextKey owned))
  | restock {user id owned} (signedIn : call.currentUser s = some user)
    (librarian : user.role = .librarian)
    : Means s call (some (.restock id owned))
  | discard {user id} (signedIn : call.currentUser s = some user)
    (librarian : user.role = .librarian)
    : Means s call (some (.discard id))
  | enrol {user params} (signedIn : call.currentUser s = some user)
    (librarian : user.role = .librarian) (requested : call.request = .members (.create params))
    : Means s call (some (.enrol s.users.nextKey))
  | register {email password confirmation}
    (admitted : Devise.admits call.format (call.currentUser s))
    (requested : call.request = .devise (.createRegistration email password confirmation))
    : Means s call (some (.enrol s.users.nextKey))
  | leave {caller user} (signedIn : call.currentUser s = some caller)
    (entitled : caller.role = .librarian ∧ user.role = .member ∨ caller = user)
    : Means s call (some (.leave user.id))

-----------------------------------------------------------------------------------------
-- The rule for lending
-----------------------------------------------------------------------------------------

theorem Store.desk_mem_patrons {s : Store} {user : User} (known : user ∈ s.users.rows)
    : user.id ∈ s.desk.patrons := by
  have here : s.users.find? user.id = some user := s.users.find?_of_mem known
  simp [desk, here]

theorem Store.desk_copies {s : Store} {book : Book} (found : book ∈ s.books.rows)
    : s.desk.copies book.id = some book.totalCopies.toNat := by
  have here : s.books.find? book.id = some book := s.books.find?_of_mem found
  simp [desk, here]

/-- In coherent tables the loans that are out are the active ones: a borrowed loan has not been
returned.
-/
theorem Store.Coherent.desk_outOf {s : Store} (coherent : s.Coherent) (id : ℕ)
    : s.desk.outOf id
      = { number | ∃ row ∈ s.borrowings.rows, row.id = number ∧ row.bookId = id ∧ row.active } := by
  have active {row : Borrowing} (member : row ∈ s.borrowings.rows)
      : row.status.phase = .out ↔ row.active := by
    cases status : row.status with
    | borrowed =>
        have out := (coherent row member).returnedAt_eq_none (by simp [status])
        simp [Status.phase, Borrowing.active, status, out]
    | overdue | returned => simp [Status.phase, Borrowing.active, status]
  ext number
  simp only [Desk.outOf, desk, Option.map_eq_some_iff, Set.mem_ofPred_eq, Table.find?_eq_some_iff]
  constructor
  · rintro ⟨_, ⟨row, ⟨member, same⟩, rfl⟩, item, out⟩
    exact ⟨row, member, same, item, (active member).mp out⟩
  · rintro ⟨row, member, same, item, out⟩
    exact ⟨row.loan, ⟨row, ⟨member, same⟩, rfl⟩, item, (active member).mpr out⟩

/-- As many loans of an item are out as its book has active borrowings, whose ids are distinct. -/
theorem Store.Coherent.ncard_outOf {s : Store} (coherent : s.Coherent) (id : ℕ)
    : (s.desk.outOf id).ncard
      = s.borrowings.rows.countP (fun row => row.bookId == id && row.active) := by
  have single : ((s.borrowings.rows.filter (fun row => row.bookId == id && row.active)).map
      Borrowing.id).Nodup :=
    s.borrowings.nodup_keys.sublist (List.filter_sublist.map _)
  rw [coherent.desk_outOf, List.countP_eq_length_filter, ← List.length_map Borrowing.id,
    ← List.toFinset_card_of_nodup single, ← Set.ncard_coe_finset]
  congr 1
  ext number
  simp only [List.coe_toFinset, Set.mem_ofPred_eq, List.mem_map, List.mem_filter, Bool.and_eq_true,
    beq_iff_eq]
  constructor
  · rintro ⟨row, member, same, item, out⟩
    exact ⟨row, ⟨member, item, out⟩, same⟩
  · rintro ⟨row, ⟨member, item, out⟩, same⟩
    exact ⟨row, member, same, item, out⟩

/-- The validators of a borrowing are the rule of the desk: a copy is left, and none that is out is
with the patron.
-/
theorem Store.Coherent.allows_lend_iff {s : Store} (coherent : s.Coherent) {user : User}
    {book : Book} (known : user ∈ s.users.rows) (found : book ∈ s.books.rows) (due : Int)
    : s.desk.Allows (.lend user.id book.id due) ↔ s.mayBorrow user book := by
  have copies : (∃ owned, s.desk.copies book.id = some owned
        ∧ (s.desk.outOf book.id).ncard < owned)
      ↔ 0 < book.availableCopies s := by
    have counts : s.borrowings.rows.countP (fun row => row.bookId == book.id && row.active)
        = s.borrowings.rows.countP (fun loan =>
            loan.bookId == book.id && loan.status == .borrowed && loan.returnedAt.isNone) := by
      simp only [Borrowing.active, Bool.and_assoc]
    rw [desk_copies found, coherent.ncard_outOf, counts, Book.availableCopies]
    simp only [Option.some.injEq, exists_eq_left']
    omega
  have single : (∀ number ∈ s.desk.outOf book.id, ∀ loan, s.desk.loans number = some loan
        → loan.patron ≠ user.id)
      ↔ ¬s.borrowings.rows.any (fun loan =>
          loan.userId == user.id && loan.bookId == book.id && loan.active) := by
    rw [coherent.desk_outOf]
    simp only [Set.mem_ofPred_eq, List.any_eq_true, Bool.and_eq_true, beq_iff_eq, not_exists,
      not_and]
    constructor
    · intro apart row member owner out
      have here : s.borrowings.find? row.id = some row := s.borrowings.find?_of_mem member
      exact apart row.id ⟨row, member, rfl, owner.2, out⟩ row.loan (by simp [desk, here]) owner.1
    · rintro apart number ⟨row, member, rfl, item, out⟩ loan present owner
      have here : s.borrowings.find? row.id = some row := s.borrowings.find?_of_mem member
      obtain rfl : row.loan = loan := by simpa [desk, here] using present
      exact apart row member ⟨owner, item⟩ out
  simp only [Desk.Allows, desk_mem_patrons known, true_and, copies, single, mayBorrow]
  simp [and_comm]

-----------------------------------------------------------------------------------------
-- The desk after a write
-----------------------------------------------------------------------------------------

/-- An inserted loan is a loan of the desk, under the next number and with its due date. -/
theorem Store.desk_borrow (s : Store) (validated now : Int) (user : User) (book : Book)
    : ((Borrowing.requested validated user book).insert now s).desk
      = s.desk.lend user.id book.id (toDate validated + 14) := by
  refine Desk.ext rfl rfl rfl rfl ?_ rfl
  funext number
  simp only [desk, Borrowing.Draft.insert, Table.find?_insert, Desk.lend]
  by_cases fresh : number = s.borrowings.nextKey
  · simp [fresh, Borrowing.loan, Borrowing.requested_dueDate, Status.phase]
  · simp [fresh]

/-- The save of a return that leaves its row returned gives the loan back at the desk; the other
loans and columns stay.
-/
theorem Store.desk_saveReturn (s : Store) (now : Int) (comment : Option String)
    (loaded : Borrowing)
    (returned
      : ∀ row ∈ s.borrowings.rows, row.id = loaded.id
        → (Borrowing.saveChanges now loaded (loaded.assignReturn now comment) row).status
          = .returned)
    : (loaded.saveReturn now comment s).desk = s.desk.apply (.giveBack loaded.id) := by
  refine Desk.ext rfl rfl rfl rfl ?_ rfl
  funext number
  simp only [desk, Borrowing.saveReturn, Table.find?_update, Desk.apply, Desk.revise]
  cases here : s.borrowings.find? number with
  | none => rfl
  | some row =>
      obtain ⟨member, rfl⟩ := (Table.find?_eq_some_iff _).mp here
      by_cases chosen : row.id = loaded.id
      · have parents := Borrowing.saveChanges_assignReturn_parents now comment loaded row
        have due : (Borrowing.saveChanges now loaded (loaded.assignReturn now comment) row).dueDate
            = row.dueDate := by
          rw [Borrowing.saveChanges]
          split <;> simp [Borrowing.dirtyColumn, Borrowing.assignReturn]
        simp [chosen, Borrowing.loan, parents, due, returned row member chosen, Status.phase,
          Desk.receive]
      · simp [chosen, Borrowing.loan, Desk.receive]

/-- The sweep makes late what is out and was due before today, as the desk does, loan by loan. -/
theorem Store.desk_updateAll (s : Store) (today : Int)
    : (OverdueService.updateAll today s).desk = s.desk.apply (.expire today) := by
  refine Desk.ext rfl rfl rfl rfl ?_ rfl
  funext number
  simp only [desk, OverdueService.updateAll, Table.find?_update, Desk.apply, Desk.revise]
  cases s.borrowings.find? number with
  | none => rfl
  | some row =>
      have phase : row.status.phase = .out ↔ row.status = .borrowed := by
        cases row.status <;> simp [Status.phase]
      by_cases passed : row.status = .borrowed ∧ row.dueDate < today
      · simp [OverdueService.overdueBorrowings_iff, Borrowing.loan, passed, Status.phase,
          Desk.expireLoan]
      · simp [OverdueService.overdueBorrowings_iff, Borrowing.loan, phase, passed,
          Desk.expireLoan]

/-- A new book is acquired with its copies. -/
theorem Store.desk_insertBook (s : Store) (new : Table.NewRow Book)
    : Store.desk { s with books := s.books.insert new }
      = s.desk.apply
          (.acquire s.books.nextKey (new.build s.books.nextKey).totalCopies.toNat) := by
  refine Desk.ext rfl rfl ?_ (s.books.deleted_insert new) rfl rfl
  funext id
  simp only [desk, Table.find?_insert, Desk.apply, Function.update_apply]
  split <;> rfl

/-- A changed book is restocked; its texts do not show at the desk, and neither does any other book.
-/
theorem Store.desk_updateBook (s : Store) {book : Book} (found : book ∈ s.books.rows)
    {change : Table.Change Book}
    : Store.desk { s with books := s.books.update (fun row => row.id == book.id) change }
      = s.desk.apply (.restock book.id (change.apply book).totalCopies.toNat) := by
  refine Desk.ext rfl rfl ?_ ?_ rfl rfl
  · funext id
    simp only [desk, Table.find?_update, Desk.apply, Function.update_apply]
    by_cases same : id = book.id
    · have here : s.books.find? book.id = some book := s.books.find?_of_mem found
      simp [same, here]
    · cases here : s.books.find? id with
      | none => simp [same]
      | some row =>
          have key : row.id = id := ((s.books.find?_eq_some_iff).mp here).2
          simp [key, same]
  · exact s.books.deleted_update _ _

/-- A deleted book is discarded, and its loans with it: nothing is found under their ids any more.
-/
theorem Store.desk_destroyBook (s : Store) {book : Book} (found : book ∈ s.books.rows)
    : (s.destroyBook book.id).desk = s.desk.apply (.discard book.id) := by
  refine Desk.ext rfl rfl ?_ (s.books.deleted_delete_key found) ?_ rfl
  · funext id
    have gone : (s.destroyBook book.id).books.find? id
        = if id = book.id then none else s.books.find? id :=
      s.books.find?_delete_key book.id id
    simp only [desk, gone, Desk.apply, Function.update_apply]
    split <;> rfl
  · funext number
    simp only [desk, destroyBook, Table.find?_delete, Desk.apply, Desk.revise]
    cases s.borrowings.find? number with
    | none => rfl
    | some row =>
        by_cases lent : row.bookId = book.id <;> simp [lent, Borrowing.loan, Desk.dropItem]

/-- A new user is enrolled. -/
theorem Store.desk_insertUser (s : Store) (new : Table.NewRow User)
    : Store.desk { s with users := s.users.insert new }
      = s.desk.apply (.enrol s.users.nextKey) := by
  refine Desk.ext ?_ (s.users.deleted_insert new) rfl rfl rfl rfl
  ext id
  simp only [desk, Table.find?_insert, Desk.apply, Set.mem_ofPred_eq, Set.mem_insert_iff]
  by_cases fresh : id = s.users.nextKey <;> simp [fresh]

/-- The desk does not see what users are called. -/
theorem Store.desk_updateUsers (s : Store) (selected : User → Bool) (change : Table.Change User)
    : Store.desk { s with users := s.users.update selected change } = s.desk := by
  refine Desk.ext ?_ (s.users.deleted_update selected change) rfl rfl rfl rfl
  simp only [desk, Table.find?_update, Option.isSome_map]

/-- A deleted user leaves, and the loans with them; the id is not given out again. -/
theorem Store.desk_destroyUser (s : Store) {user : User} (found : user ∈ s.users.rows)
    : (s.destroyUser user.id).desk = s.desk.apply (.leave user.id) := by
  refine Desk.ext ?_ (s.users.deleted_delete_key found) rfl rfl ?_ rfl
  · ext id
    have gone : (s.destroyUser user.id).users.find? id
        = if id = user.id then none else s.users.find? id :=
      s.users.find?_delete_key user.id id
    simp only [desk, gone, Desk.apply, Set.mem_ofPred_eq, Set.mem_sdiff, Set.mem_singleton_iff]
    by_cases same : id = user.id <;> simp [same]
  · funext number
    simp only [desk, destroyUser, Table.find?_delete, Desk.apply, Desk.revise]
    cases s.borrowings.find? number with
    | none => rfl
    | some row =>
        by_cases owned : row.userId = user.id <;> simp [owned, Borrowing.loan, Desk.dropPatron]

-----------------------------------------------------------------------------------------
-- Requests
-----------------------------------------------------------------------------------------

/-- A request is one event of the desk, or none, that the rules allow and its caller may
cause.
-/
theorem Store.Sound.step_refines {s : Store} (sound : s.Sound) (platform : Platform) (call : Call)
    : ∃ event, RefinesStep (step platform) Desk.apply Store.desk Call.Means Desk.Allows s call
        event := by
  have effect := step_effect platform s call
  generalize written : step platform s call = s' at effect
  cases effect with
  | unchanged => exact ⟨none, .of_none .nothing (congrArg Store.desk written)⟩
  | @borrow user book signedIn requested found valid =>
      have known := Call.mem_of_currentUser signedIn
      have allowed := (Borrowing.requested_errors_eq_nil_iff known found).mp valid
      refine ⟨_, .of_some (.lend signedIn requested) ?_ ?_⟩
      · rw [written]
        exact s.desk_borrow _ _ user book
      · exact (sound.coherent.allows_lend_iff known found _).mpr allowed
  | @returnBook user loan comment signedIn librarian requested found =>
      refine ⟨_, .of_some (.giveBack signedIn librarian requested) ?_ ?_⟩
      · rw [written]
        refine s.desk_saveReturn _ comment loan (fun row member same => ?_)
        obtain rfl := s.borrowings.eq_of_key_eq member found same
        exact (Borrowing.saveChanges_self call.env.now comment row).1
      · have here : s.borrowings.find? loan.id = some loan := s.borrowings.find?_of_mem found
        simp [Desk.Allows, desk, here]
  | markOverdue signedIn librarian requested =>
      refine ⟨_, .of_some (.expire signedIn librarian requested) ?_ trivial⟩
      rw [written]
      exact s.desk_updateAll _
  | @createBook user draft value signedIn librarian valid number =>
      refine ⟨some (.acquire s.books.nextKey value.toNat),
        .of_some (.acquire signedIn librarian) ?_ ?_⟩
      · rw [written]
        exact s.desk_insertBook _
      · simp [Desk.Allows, desk, Table.deleted]
  | @updateBook user book draft value signedIn librarian found valid number =>
      refine ⟨some (.restock book.id (draft.applyTo call.env value book).totalCopies.toNat),
        .of_some (.restock signedIn librarian) ?_ ?_⟩
      · rw [written]
        exact s.desk_updateBook found
      · simp [Desk.Allows, desk_copies found]
  | @destroyBook user book signedIn librarian found =>
      refine ⟨some (.discard book.id), .of_some (.discard signedIn librarian) ?_ ?_⟩
      · rw [written]
        exact s.desk_destroyBook found
      · simp [Desk.Allows, desk_copies found]
  | createMember signedIn librarian requested valid =>
      refine ⟨_, .of_some (.enrol signedIn librarian requested) ?_ ?_⟩
      · rw [written]
        exact s.desk_insertUser _
      · simp [Desk.Allows, desk, Table.deleted]
  | register admitted requested =>
      refine ⟨_, .of_some (.register admitted requested) ?_ ?_⟩
      · rw [written]
        exact s.desk_insertUser _
      · simp [Desk.Allows, desk, Table.deleted]
  | updateUser =>
      refine ⟨none, .of_none .nothing ?_⟩
      rw [written]
      exact s.desk_updateUsers _ _
  | forgetMe =>
      refine ⟨none, .of_none .nothing ?_⟩
      rw [written]
      exact s.desk_updateUsers _ _
  | writeDevise =>
      refine ⟨none, .of_none .nothing ?_⟩
      rw [written, Store.writeDeviseColumns]
      split
      · rfl
      · exact s.desk_updateUsers _ _
  | @destroyUser caller user signedIn allowed found =>
      refine ⟨_, .of_some (.leave signedIn allowed) ?_ ?_⟩
      · rw [written]
        exact s.desk_destroyUser found
      · exact desk_mem_patrons found

end LibraryManagement
