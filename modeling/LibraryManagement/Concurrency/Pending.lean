import LibraryManagement.Concurrency.Coherence
import LibraryManagement.Concurrency.Limits
import LibraryManagement.Concurrency.Saves
import LibraryManagement.Relational.ForeignKey
import LibraryManagement.Relational.Lookup

/-! What ends a request that writes: saves, borrowings and returns as before, and deletions, which
load the loans of a book or of a user and delete them with it in one transaction. The foreign keys
of the loans are checked in the statements that write.
-/

namespace LibraryManagement

open Relational

/-- A request between its reads and its write. -/
inductive Pending where
  | save (given : Save)
  | loan (request : InFlight)
  /-- A `book.destroy!` that has loaded the borrowings of the book. -/
  | destroyBook (id : Nat) (loans : List Nat)
  /-- A `user.destroy` that has loaded the borrowings of the user. -/
  | destroyUser (id : Nat) (loans : List Nat)

/-- What ends a request, none where the database refuses it and the transaction is rolled back. -/
def Pending.write (env : Env) (s : Store) : Pending → Option Store
  | .save given => given.write env s
  | .loan (.borrow validated user book) =>
      if (s.users.find? user.id).isSome && (s.books.find? book.id).isSome then
        some ((Borrowing.requested validated user book).insert env.now s)
      else
        none
  | .loan (.returnBook loaded comment) => some (loaded.saveReturn env.now comment s)
  | .destroyBook id loans =>
      (s.books.deleteWith s.borrowings Borrowing.bookId id loans).map (fun deleted =>
        { s with books := deleted.1, borrowings := deleted.2 })
  | .destroyUser id loans =>
      (s.users.deleteWith s.borrowings Borrowing.userId id loans).map (fun deleted =>
        { s with users := deleted.1, borrowings := deleted.2 })

/-- A write that would be refused, by the index or by a foreign key. -/
def Pending.Refused (s : Store) : Pending → Prop
  | .save given => given.Taken s
  | .loan (.borrow _ user book) => user.id ∈ s.users.deleted ∨ book.id ∈ s.books.deleted
  | .loan (.returnBook _ _) => False
  | .destroyBook id loans => ∃ loan ∈ s.borrowings.rows, loan.bookId = id ∧ loan.id ∉ loans
  | .destroyUser id loans => ∃ loan ∈ s.borrowings.rows, loan.userId = id ∧ loan.id ∉ loans

/-- The two validators would still let a borrowing through that the foreign keys let through. -/
def Pending.StillValid (s : Store) : Pending → Prop
  | .loan (.borrow validated user book) =>
      (s.users.find? user.id).isSome → (s.books.find? book.id).isSome
      → (InFlight.borrow validated user book).StillValid s
  | .loan (.returnBook _ _) | .save _ | .destroyBook _ _ | .destroyUser _ _ => True

instance (s : Store) : ∀ pending : Pending, Decidable (pending.StillValid s)
  | .loan (.borrow _ _ _) => inferInstanceAs (Decidable (_ → _ → _))
  | .loan (.returnBook _ _) | .save _ | .destroyBook _ _ | .destroyUser _ _ => isTrue trivial

/-- What the reads of a request have made sure of and what stays true however others go on. -/
def Pending.Ready (platform : Platform) (s : Store) : Pending → Prop
  | .save given => ∃ earlier, given.Valid platform earlier
  | .loan (.borrow _ user book) => user.id < s.users.nextKey ∧ book.id < s.books.nextKey
  | .loan (.returnBook loaded _) => loaded.Behind s
  | .destroyBook id loans => s.borrowings.LoadedUnder Borrowing.bookId id loans
  | .destroyUser id loans => s.borrowings.LoadedUnder Borrowing.userId id loans

-----------------------------------------------------------------------------------------
-- Writes
-----------------------------------------------------------------------------------------

section Writes

variable {platform : Platform} {s s' : Store} {env : Env}

/-- A deletion has the effect of the deletion that runs on its own, where all loans had been
loaded.
-/
theorem Pending.write_destroyBook_iff {id : Nat} {loans : List Nat}
    (under : s.borrowings.LoadedUnder Borrowing.bookId id loans)
    : (Pending.destroyBook id loans).write env s = some s'
      ↔ (∀ loan ∈ s.borrowings.rows, loan.bookId = id → loan.id ∈ loans)
        ∧ s' = s.destroyBook id := by
  rw [write, Option.map_eq_some_iff]
  constructor
  · rintro ⟨deleted, outcome, rfl⟩
    obtain ⟨all, rfl⟩ := under.deleteWith_eq_some_iff.mp outcome
    exact ⟨all, rfl⟩
  · rintro ⟨all, rfl⟩
    exact ⟨_, under.deleteWith_eq_some_iff.mpr ⟨all, rfl⟩, rfl⟩

theorem Pending.write_destroyUser_iff {id : Nat} {loans : List Nat}
    (under : s.borrowings.LoadedUnder Borrowing.userId id loans)
    : (Pending.destroyUser id loans).write env s = some s'
      ↔ (∀ loan ∈ s.borrowings.rows, loan.userId = id → loan.id ∈ loans)
        ∧ s' = s.destroyUser id := by
  rw [write, Option.map_eq_some_iff]
  constructor
  · rintro ⟨deleted, outcome, rfl⟩
    obtain ⟨all, rfl⟩ := under.deleteWith_eq_some_iff.mp outcome
    exact ⟨all, rfl⟩
  · rintro ⟨all, rfl⟩
    exact ⟨_, under.deleteWith_eq_some_iff.mpr ⟨all, rfl⟩, rfl⟩

/-- The foreign keys of a new loan. -/
theorem Pending.write_borrow_iff {validated : Int} {user : User} {book : Book}
    : (Pending.loan (.borrow validated user book)).write env s = some s'
      ↔ (∃ row ∈ s.users.rows, row.id = user.id) ∧ (∃ row ∈ s.books.rows, row.id = book.id)
        ∧ s' = (Borrowing.requested validated user book).insert env.now s := by
  rw [write, Option.ite_none_right_eq_some, Bool.and_eq_true, Table.find?_isSome_iff,
    Table.find?_isSome_iff, Option.some.injEq, and_assoc]
  exact and_congr_right (fun _ => and_congr_right (fun _ => eq_comm))

/-- The database refuses a write for no other reasons than its unique indexes and foreign keys, by
the kind of write.
-/
theorem Pending.Ready.write_eq_none_iff {pending : Pending} (ready : pending.Ready platform s)
    (consistent : s.Consistent) (env : Env)
    : pending.write env s = none ↔ pending.Refused s := by
  cases pending with
  | save given => exact Save.write_eq_none_iff consistent ready env
  | loan request =>
      cases request with
      | borrow validated user book =>
          obtain ⟨owner, item⟩ := ready
          simp only [write, Refused, Table.deleted, Set.mem_ofPred_eq, owner, item, true_and,
            ite_eq_right_iff, Bool.and_eq_true,
            Option.isSome_iff_ne_none, reduceCtorEq, imp_false, not_and_or, ne_eq, not_not]
      | returnBook loaded comment => simp [write, Refused]
  | destroyBook id loans =>
      rw [write, Option.map_eq_none_iff]
      exact Table.LoadedUnder.deleteWith_eq_none_iff ready
  | destroyUser id loans =>
      rw [write, Option.map_eq_none_iff]
      exact Table.LoadedUnder.deleteWith_eq_none_iff ready

theorem Store.Consistent.withLoan (consistent : s.Consistent) {new : Table.NewRow Borrowing}
    (owner : ∃ row ∈ s.users.rows, row.id = (new.build s.borrowings.nextKey).userId)
    (item : ∃ row ∈ s.books.rows, row.id = (new.build s.borrowings.nextKey).bookId)
    : Consistent { s with borrowings := s.borrowings.insert new } := by
  refine { consistent with borrowers := ?_, booksOfLoans := ?_ }
  · intro loan member
    rcases (s.borrowings.mem_insert).mp member with old | rfl
    · exact consistent.borrowers loan old
    · exact owner
  · intro loan member
    rcases (s.borrowings.mem_insert).mp member with old | rfl
    · exact consistent.booksOfLoans loan old
    · exact item

/-- Only loans are coherent or not, and fewer loans are as coherent as all. -/
theorem Store.Coherent.of_loans (coherent : s.Coherent)
    (kept : ∀ loan ∈ s'.borrowings.rows, loan ∈ s.borrowings.rows)
    : s'.Coherent :=
  fun loan member => coherent loan (kept loan member)

theorem Save.write_borrowings {given : Save} (written : given.write env s = some s')
    : s'.borrowings = s.borrowings := by
  cases given <;> obtain ⟨_, _, rfl⟩ := Option.map_eq_some_iff.mp written <;> rfl

/-- What a write leaves satisfies the constraints, with statuses and return times that agree,
whenever the request read what it relies on.
-/
theorem Pending.Ready.write_sound {pending : Pending} (ready : pending.Ready platform s)
    (sound : s.Sound) (written : pending.write env s = some s')
    : s'.Sound := by
  cases pending with
  | save given =>
      refine ⟨Save.write_consistent sound.consistent ready written, sound.coherent.of_loans ?_⟩
      rw [Save.write_borrowings written]
      exact fun _ member => member
  | loan request =>
      cases request with
      | borrow validated user book =>
          obtain ⟨owner, item, rfl⟩ := write_borrow_iff.mp written
          refine ⟨sound.consistent.withLoan owner item, ?_⟩
          intro loan member
          rcases (Table.mem_insert _).mp member with old | rfl
          · exact sound.coherent loan old
          · exact Borrowing.requested_coherent _ _ user book _
      | returnBook loaded comment =>
          obtain rfl := Option.some.inj written
          refine ⟨sound.consistent.updateLoans
            (fun loan _ _ => (Borrowing.saveChanges_assignReturn_parents _ _ _ loan).1)
            (fun loan _ _ => (Borrowing.saveChanges_assignReturn_parents _ _ _ loan).2), ?_⟩
          intro loan member
          obtain ⟨old, present, rfl⟩ := (Table.mem_update _).mp member
          split
          · next selected =>
            exact ready.saveChanges_coherent env.now comment present (beq_iff_eq.mp selected)
              (sound.coherent old present)
          · exact sound.coherent old present
  | destroyBook id loans =>
      obtain ⟨_, rfl⟩ := (write_destroyBook_iff ready).mp written
      exact ⟨sound.consistent.destroyBook id,
        sound.coherent.of_loans (fun loan member => ((Table.mem_delete _).mp member).1)⟩
  | destroyUser id loans =>
      obtain ⟨_, rfl⟩ := (write_destroyUser_iff ready).mp written
      exact ⟨sound.consistent.destroyUser id,
        sound.coherent.of_loans (fun loan member => ((Table.mem_delete _).mp member).1)⟩

/-- What the foreign keys refuse need not be valid. -/
theorem Pending.stillValid_of_refused {pending : Pending}
    (refused : pending.write env s = none)
    : pending.StillValid s := by
  cases pending with
  | loan request =>
      cases request with
      | borrow validated user book =>
          intro known found
          simp [write, known, found] at refused
      | returnBook => trivial
  | save | destroyBook | destroyUser => trivial

/-- Where there is no such book, there is nothing to delete. -/
theorem Store.Consistent.destroyBook_missing (consistent : s.Consistent) {id : Nat}
    (missing : s.books.find? id = none)
    : s.destroyBook id = s := by
  have noBook : ∀ book ∈ s.books.rows, ¬book.id = id := by
    rintro book member rfl
    cases (s.books.find?_of_mem member).symm.trans missing
  have books : s.books.delete (fun book => book.id == id) = s.books :=
    s.books.delete_eq_self (fun book member => by simpa using noBook book member)
  have loans : s.borrowings.delete (fun loan => loan.bookId == id) = s.borrowings := by
    refine s.borrowings.delete_eq_self (fun loan member chosen => ?_)
    obtain ⟨book, present, lent⟩ := consistent.booksOfLoans loan member
    exact noBook book present (lent.trans (beq_iff_eq.mp chosen))
  rw [Store.destroyBook, books, loans]

theorem Store.Consistent.destroyUser_missing (consistent : s.Consistent) {id : Nat}
    (missing : s.users.find? id = none)
    : s.destroyUser id = s := by
  have noUser : ∀ user ∈ s.users.rows, ¬user.id = id := by
    rintro user member rfl
    cases (s.users.find?_of_mem member).symm.trans missing
  have users : s.users.delete (fun user => user.id == id) = s.users :=
    s.users.delete_eq_self (fun user member => by simpa using noUser user member)
  have loans : s.borrowings.delete (fun loan => loan.userId == id) = s.borrowings := by
    refine s.borrowings.delete_eq_self (fun loan member chosen => ?_)
    obtain ⟨user, present, owns⟩ := consistent.borrowers loan member
    exact noUser user present (owns.trans (beq_iff_eq.mp chosen))
  rw [Store.destroyUser, users, loans]

end Writes

end LibraryManagement
