import LibraryManagement.Lending.Revisions
import LibraryManagement.Relational.UniqueIndex

/-! Saves of books and of users when requests overlap. A save reads in its validations and
writes in its `INSERT` or `UPDATE`, which the unique indexes on `isbn` and `email` check once
more. Any other request may act in between.
-/

namespace LibraryManagement

open Relational Transition

/-- The attributes that a valid draft assigns to a loaded book. -/
def Book.Draft.assigned (draft : Book.Draft) (value : Int) (loaded : Book) : Book :=
  { loaded with
    title := draft.title.getD ""
    author := draft.author.getD ""
    genre := draft.genre.getD ""
    isbn := draft.isbn.getD ""
    totalCopies := value }

/-- `UPDATE books SET <changed columns> WHERE id = ...`, for a copy loaded earlier. -/
def Book.saveChanges (now : Int) (loaded assigned current : Book) : Book :=
  if assigned = loaded then
    current
  else
    { current with
      title := Borrowing.dirtyColumn loaded.title assigned.title current.title
      author := Borrowing.dirtyColumn loaded.author assigned.author current.author
      genre := Borrowing.dirtyColumn loaded.genre assigned.genre current.genre
      isbn := Borrowing.dirtyColumn loaded.isbn assigned.isbn current.isbn
      totalCopies :=
        Borrowing.dirtyColumn loaded.totalCopies assigned.totalCopies current.totalCopies
      updatedAt := now }

/-- `UPDATE users SET <changed columns> WHERE id = ...`, for a copy loaded earlier. -/
def User.saveChanges (now : Int) (loaded assigned current : User) : User :=
  if assigned = loaded then
    current
  else
    { current with
      email := Borrowing.dirtyColumn loaded.email assigned.email current.email
      encryptedPassword :=
        Borrowing.dirtyColumn loaded.encryptedPassword assigned.encryptedPassword
          current.encryptedPassword
      resetPasswordToken :=
        Borrowing.dirtyColumn loaded.resetPasswordToken assigned.resetPasswordToken
          current.resetPasswordToken
      resetPasswordSentAt :=
        Borrowing.dirtyColumn loaded.resetPasswordSentAt assigned.resetPasswordSentAt
          current.resetPasswordSentAt
      firstName := Borrowing.dirtyColumn loaded.firstName assigned.firstName current.firstName
      lastName := Borrowing.dirtyColumn loaded.lastName assigned.lastName current.lastName
      updatedAt := now }

@[simp] theorem Book.saveChanges_id (now : Int) (loaded assigned current : Book)
    : (saveChanges now loaded assigned current).id = current.id := by
  rw [saveChanges]
  split <;> rfl

@[simp] theorem User.saveChanges_id (now : Int) (loaded assigned current : User)
    : (saveChanges now loaded assigned current).id = current.id := by
  rw [saveChanges]
  split <;> rfl

theorem Book.Draft.toRow_id (env : Env) (draft : Book.Draft) (value : Int) (id : Nat)
    : (draft.toRow env value id).id = id := rfl

theorem User.Draft.toRow_id (env : Env) (draft : User.Draft) (role : Role) (id : Nat)
    : (draft.toRow env role id).id = id := rfl

/-- A save between its validations and its write; user drafts are past `before_validation`. -/
inductive Save where
  | createBook (draft : Book.Draft) (value : Int)
  | updateBook (loaded : Book) (draft : Book.Draft) (value : Int)
  | createUser (draft : User.Draft) (role : Role)
  | updateUser (loaded : User) (draft : User.Draft)
  deriving DecidableEq

namespace Save

/-- The validations pass and the columns take what is written, for an update on a copy that has
just been loaded.
-/
def Valid (platform : Platform) (s : Store) : Save → Prop
  | .createBook draft value => draft.validCopies platform s none = some value
  | .updateBook loaded draft value =>
      loaded ∈ s.books.rows ∧ draft.validCopies platform s (some loaded) = some value
  | .createUser draft role => draft.Savable platform s none ∧ draft.role = some role
  | .updateUser loaded draft =>
      loaded ∈ s.users.rows ∧ draft.Savable platform s (some loaded)

instance (platform : Platform) (s : Store) : DecidablePred (Valid platform s)
  | .createBook _ _ => inferInstanceAs (Decidable (_ = _))
  | .updateBook _ _ _ => inferInstanceAs (Decidable (_ ∧ _))
  | .createUser _ _ => inferInstanceAs (Decidable (_ ∧ _))
  | .updateUser _ _ => inferInstanceAs (Decidable (_ ∧ _))

/-- The statement that ends a save, none where `ActiveRecord::RecordNotUnique` is raised. -/
def write (env : Env) (s : Store) : Save → Option Store
  | .createBook draft value =>
      (s.books.insertUnique Book.isbn
        ⟨draft.toRow env value, draft.toRow_id env value⟩).map (fun books =>
        { s with books := books })
  | .updateBook loaded draft value =>
      (s.books.updateUnique Book.isbn loaded.id
        ⟨Book.saveChanges env.now loaded (draft.assigned value loaded),
          Book.saveChanges_id env.now loaded (draft.assigned value loaded)⟩).map (fun books =>
        { s with books := books })
  | .createUser draft role =>
      (s.users.insertUnique User.email
        ⟨draft.toRow env role, draft.toRow_id env role⟩).map (fun users =>
        { s with users := users })
  | .updateUser loaded draft =>
      (s.users.updateUnique User.email loaded.id
        ⟨User.saveChanges env.now loaded (draft.assigned loaded),
          User.saveChanges_id env.now loaded (draft.assigned loaded)⟩).map (fun users =>
        { s with users := users })

/-- The uniqueness validations would now refuse the value that the save writes. -/
def Taken (s : Store) : Save → Prop
  | .createBook draft _ => Book.Draft.isbnTaken s none draft.isbn
  | .updateBook loaded draft _ =>
      draft.isbn ≠ some loaded.isbn ∧ (s.books.find? loaded.id).isSome
      ∧ Book.Draft.isbnTaken s (some loaded) draft.isbn
  | .createUser draft _ => User.Draft.emailTaken s none (draft.email.getD "")
  | .updateUser loaded draft =>
      draft.email ≠ some loaded.email ∧ (s.users.find? loaded.id).isSome
      ∧ User.Draft.emailTaken s (some loaded) (draft.email.getD "")

end Save

structure SaveSystem where
  store : Store
  inFlight : List Save

inductive SaveAction where
  /-- A save runs its validations. -/
  | validate (save : Save)
  /-- One of the saves in flight writes. -/
  | write (index : Nat) (env : Env)
  /-- Any request that nothing interrupts. -/
  | request (call : Call)

namespace SaveSystem

/-- A save that the index refuses leaves the store as it is. -/
def step (platform : Platform) (system : SaveSystem) : SaveAction → SaveSystem
  | .validate save =>
      if save.Valid platform system.store then
        { system with inFlight := save :: system.inFlight }
      else
        system
  | .write index env =>
      match system.inFlight[index]? with
      | some save =>
          { store := (save.write env system.store).getD system.store
            inFlight := system.inFlight.eraseIdx index }
      | none => system
  | .request call => { system with store := LibraryManagement.step platform system.store call }

end SaveSystem

-----------------------------------------------------------------------------------------
-- The constraints after a write
-----------------------------------------------------------------------------------------

/-- Other rows in the table of books, none of the old ones missing. -/
theorem Store.Consistent.withBooks {s : Store} (consistent : s.Consistent) {books : Table Book}
    (isbns : books.UniqueOn Book.isbn)
    (kept : ∀ old ∈ s.books.rows, ∃ book ∈ books.rows, book.id = old.id)
    (copies : ∀ book ∈ books.rows, 0 ≤ book.totalCopies)
    : Consistent { s with books := books } := by
  refine { consistent with isbns := isbns, booksOfLoans := ?_, copies := copies }
  intro loan member
  obtain ⟨old, present, lent⟩ := consistent.booksOfLoans loan member
  obtain ⟨book, still, same⟩ := kept old present
  exact ⟨book, still, same.trans lent⟩

/-- Other users keep the constraints where emails stay unique, no row of a loan's owner vanishes,
and no row has a token that it had not before.
-/
theorem Store.Consistent.withUsers {s : Store} (consistent : s.Consistent) {users : Table User}
    (emails : users.UniqueOn User.email)
    (kept : ∀ old ∈ s.users.rows, ∃ user ∈ users.rows, user.id = old.id)
    (tokens
      : ∀ user ∈ users.rows, user.resetPasswordToken.isSome
          → ∃ old ∈ s.users.rows, old.id = user.id
            ∧ old.resetPasswordToken = user.resetPasswordToken)
    : Consistent { s with users := users } := by
  refine { consistent with emails := emails, tokens := ?_, borrowers := ?_ }
  · intro first hf given second hs same
    obtain ⟨old, present, ids, token⟩ := tokens first hf given
    obtain ⟨other, there, also, known⟩ := tokens second hs (same ▸ given)
    rw [← ids, ← also]
    exact consistent.tokens old present (token ▸ given) other there
      (token.trans (same.trans known.symm))
  · intro loan member
    obtain ⟨old, present, owns⟩ := consistent.borrowers loan member
    obtain ⟨user, still, same⟩ := kept old present
    exact ⟨user, still, same.trans owns⟩

/-- A number of copies that passes the validations is not negative. -/
theorem Book.Draft.nonnegative_of_validCopies {platform : Platform} {s : Store}
    {persisted : Option Book} {draft : Book.Draft} {value : Int}
    (valid : draft.validCopies platform s persisted = some value)
    : 0 ≤ value := by
  obtain ⟨noErrors, number, _⟩ := validCopies_eq_some_iff.mp valid
  exact (draft.valid_facts noErrors number).1

/-- A dirty number of copies is the assigned one, a clean one is what the row has by then. -/
theorem Book.nonnegative_saveChanges {now : Int} {draft : Book.Draft} {value : Int}
    {loaded current : Book} (before : 0 ≤ current.totalCopies) (assigned : 0 ≤ value)
    : 0 ≤ (saveChanges now loaded (draft.assigned value loaded) current).totalCopies := by
  rw [saveChanges]
  split
  · exact before
  · dsimp only [Borrowing.dirtyColumn]
    split
    · exact before
    · exact assigned

/-- A column that is cleared or left alone has no other value than the row had. -/
theorem Borrowing.dirtyColumn_of_isSome [DecidableEq α] {loaded assigned current : Option α}
    (cleared : assigned = none ∨ assigned = loaded)
    (given : (dirtyColumn loaded assigned current).isSome)
    : dirtyColumn loaded assigned current = current := by
  rw [dirtyColumn] at given ⊢
  split at given
  · next clean => rw [if_pos clean]
  · next dirty =>
    rcases cleared with rfl | rfl
    · cases given
    · exact absurd rfl dirty

/-- A save keeps the token of the row or clears it, whatever copy it was validated on, since it
assigns no other token than none.
-/
theorem User.saveChanges_token {now : Int} {draft : User.Draft} {loaded current : User}
    (given
      : (saveChanges now loaded (draft.assigned loaded) current).resetPasswordToken.isSome)
    : (saveChanges now loaded (draft.assigned loaded) current).resetPasswordToken
      = current.resetPasswordToken := by
  have cleared : (draft.assigned loaded).resetPasswordToken = none
      ∨ (draft.assigned loaded).resetPasswordToken = loaded.resetPasswordToken := by
    rw [User.Draft.assigned]
    split
    · exact Or.inl rfl
    · exact Or.inr rfl
  rw [saveChanges] at given ⊢
  split at given
  · next same => rw [if_pos same]
  · next changed =>
    rw [if_neg changed]
    exact Borrowing.dirtyColumn_of_isSome cleared given

/-- A save that the index admits keeps the constraints, whenever its validations ran: those that are
not in the index depend on the record alone.
-/
theorem Save.write_consistent {platform : Platform} {env : Env} {s s' : Store} {save : Save}
    (consistent : s.Consistent) (valid : ∃ earlier, save.Valid platform earlier)
    (written : save.write env s = some s')
    : s'.Consistent := by
  obtain ⟨earlier, passed⟩ := valid
  cases save with
  | createBook draft value =>
      obtain ⟨books, inserted, rfl⟩ := Option.map_eq_some_iff.mp written
      refine consistent.withBooks (Table.UniqueOn.insertUnique consistent.isbns inserted)
        (Table.insertUnique_keeps inserted) ?_
      obtain ⟨_, rfl⟩ := Table.insertUnique_eq_some_iff.mp inserted
      intro book member
      rcases (Table.mem_insert _).mp member with old | rfl
      · exact consistent.copies book old
      · exact Book.Draft.nonnegative_of_validCopies passed
  | updateBook loaded draft value =>
      obtain ⟨books, updated, rfl⟩ := Option.map_eq_some_iff.mp written
      refine consistent.withBooks (Table.UniqueOn.updateUnique consistent.isbns updated)
        (Table.updateUnique_keeps updated) ?_
      obtain ⟨_, rfl⟩ := Table.updateUnique_eq_some_iff.mp updated
      intro book member
      obtain ⟨old, present, rfl⟩ := (Table.mem_update _).mp member
      split
      · exact Book.nonnegative_saveChanges (consistent.copies old present)
          (Book.Draft.nonnegative_of_validCopies passed.2)
      · exact consistent.copies old present
  | createUser draft role =>
      obtain ⟨users, inserted, rfl⟩ := Option.map_eq_some_iff.mp written
      refine consistent.withUsers (Table.UniqueOn.insertUnique consistent.emails inserted)
        (Table.insertUnique_keeps inserted) ?_
      obtain ⟨_, rfl⟩ := Table.insertUnique_eq_some_iff.mp inserted
      intro user member given
      rcases (Table.mem_insert _).mp member with old | rfl
      · exact ⟨user, old, rfl, rfl⟩
      · cases given
  | updateUser loaded draft =>
      obtain ⟨users, updated, rfl⟩ := Option.map_eq_some_iff.mp written
      refine consistent.withUsers (Table.UniqueOn.updateUnique consistent.emails updated)
        (Table.updateUnique_keeps updated) ?_
      obtain ⟨_, rfl⟩ := Table.updateUnique_eq_some_iff.mp updated
      intro user member given
      obtain ⟨old, present, rfl⟩ := (Table.mem_update _).mp member
      refine ⟨old, present, ?_, ?_⟩
      · split
        · exact (User.saveChanges_id env.now loaded (draft.assigned loaded) old).symm
        · rfl
      · split at given
        · next chosen =>
          rw [if_pos chosen]
          exact (User.saveChanges_token given).symm
        · next other => rw [if_neg other]

-----------------------------------------------------------------------------------------
-- Refused writes
-----------------------------------------------------------------------------------------

/-- The isbn of a valid draft is present. -/
theorem Book.Draft.isbn_of_valid {platform : Platform} {s : Store} {persisted : Option Book}
    {draft : Book.Draft} {value : Int}
    (valid : draft.validCopies platform s persisted = some value)
    : ∃ isbn, draft.isbn = some isbn := by
  obtain ⟨noErrors, _, _⟩ := validCopies_eq_some_iff.mp valid
  simp only [errors, List.append_eq_nil_iff] at noErrors
  obtain ⟨⟨⟨⟨_, _⟩, present⟩, _⟩, _⟩ := noErrors
  cases isbn : draft.isbn with
  | none => simp [presenceErrors, blank?, isbn] at present
  | some text => exact ⟨text, rfl⟩

/-- The column that a save leaves clean keeps its value, a dirty one gets the new value. -/
theorem Book.saveChanges_isbn (now : Int) (draft : Book.Draft) (value : Int)
    (loaded current : Book)
    : (saveChanges now loaded (draft.assigned value loaded) current).isbn
      = if draft.isbn.getD "" = loaded.isbn then current.isbn else draft.isbn.getD "" := by
  rw [saveChanges]
  split
  · next same =>
    have clean : draft.isbn.getD "" = loaded.isbn := congrArg Book.isbn same
    rw [if_pos clean]
  · rfl

/-- The email that a save writes is that of the draft where it changed, and otherwise the one that
the row has by then.
-/
theorem User.saveChanges_email (now : Int) (draft : User.Draft) (loaded current : User)
    : (saveChanges now loaded (draft.assigned loaded) current).email
      = if draft.email.getD "" = loaded.email then current.email else draft.email.getD "" := by
  rw [saveChanges]
  split
  · next same =>
    have clean : draft.email.getD "" = loaded.email := congrArg User.email same
    rw [if_pos clean]
  · rfl

/-- The index refuses a write exactly where the uniqueness validation, run again, would; a save that
leaves its column as loaded is never refused.
-/
theorem Save.write_eq_none_iff {platform : Platform} {s : Store} {save : Save}
    (consistent : s.Consistent) (valid : ∃ earlier, save.Valid platform earlier) (env : Env)
    : save.write env s = none ↔ save.Taken s := by
  obtain ⟨earlier, passed⟩ := valid
  cases save with
  | createBook draft value =>
      obtain ⟨isbn, given⟩ := Book.Draft.isbn_of_valid passed
      rw [write, Option.map_eq_none_iff, Table.insertUnique_eq_none_iff]
      simp [Taken, given, Book.Draft.isbnTaken, Book.Draft.toRow]
  | updateBook loaded draft value =>
      obtain ⟨isbn, given⟩ := Book.Draft.isbn_of_valid passed.2
      rw [write, Option.map_eq_none_iff, Table.updateUnique_eq_none_iff consistent.isbns
        (Book.saveChanges_isbn env.now draft value loaded)]
      simp only [Taken, given, Option.getD_some, ne_eq, Option.some.injEq, Book.Draft.isbnTaken,
        List.any_eq_true, Bool.and_eq_true, beq_iff_eq, Option.all_some, bne_iff_ne, key_book]
      refine and_congr_right (fun _ => and_congr_right (fun _ => exists_congr (fun other => ?_)))
      exact and_congr_right (fun _ => ⟨fun ⟨apart, same⟩ => ⟨same, Ne.symm apart⟩,
        fun ⟨same, apart⟩ => ⟨Ne.symm apart, same⟩⟩)
  | createUser draft role =>
      rw [write, Option.map_eq_none_iff, Table.insertUnique_eq_none_iff]
      simp [Taken, User.Draft.emailTaken, User.Draft.toRow]
  | updateUser loaded draft =>
      obtain ⟨email, given⟩ := User.Draft.email_of_valid passed.2.1
      rw [write, Option.map_eq_none_iff, Table.updateUnique_eq_none_iff consistent.emails
        (User.saveChanges_email env.now draft loaded)]
      simp only [Taken, given, Option.getD_some, ne_eq, Option.some.injEq, User.Draft.emailTaken,
        List.any_eq_true, Bool.and_eq_true, beq_iff_eq, Option.all_some, bne_iff_ne, key_user]
      refine and_congr_right (fun _ => and_congr_right (fun _ => exists_congr (fun other => ?_)))
      exact and_congr_right (fun _ => ⟨fun ⟨apart, same⟩ => ⟨same, Ne.symm apart⟩,
        fun ⟨same, apart⟩ => ⟨Ne.symm apart, same⟩⟩)

-----------------------------------------------------------------------------------------
-- Uninterrupted saves
-----------------------------------------------------------------------------------------

/-- On the row that was loaded, writing the changed columns is writing all of them. -/
theorem Book.Draft.applyTo_eq_saveChanges (env : Env) (draft : Book.Draft) (value : Int)
    (book : Book)
    : draft.applyTo env value book
      = Book.saveChanges env.now book (draft.assigned value book) book := by
  rw [applyTo, Book.saveChanges]
  simp only [Borrowing.dirtyColumn_self]
  rfl

/-- The same for users, with the columns that Devise clears. -/
theorem User.Draft.applyTo_eq_saveChanges (env : Env) (draft : User.Draft) (user : User)
    : draft.applyTo env user = User.saveChanges env.now user (draft.assigned user) user := by
  rw [applyTo, User.saveChanges]
  simp only [Borrowing.dirtyColumn_self]
  rfl

/-- Validations that pass leave nothing for the index to refuse, as long as nothing is written in
between.
-/
theorem Save.Valid.not_taken {platform : Platform} {s : Store} {save : Save}
    (valid : save.Valid platform s) (consistent : s.Consistent)
    : ¬save.Taken s := by
  cases save with
  | createBook draft value =>
      intro taken
      obtain ⟨isbn, given⟩ := Book.Draft.isbn_of_valid valid
      obtain ⟨noErrors, number, _⟩ := Book.Draft.validCopies_eq_some_iff.mp valid
      obtain ⟨other, there, same⟩ := List.any_eq_true.mp taken
      exact draft.isbn_ne_of_valid_new noErrors number other there (by simpa [given] using same)
  | updateBook loaded draft value =>
      rintro ⟨_, _, taken⟩
      obtain ⟨isbn, given⟩ := Book.Draft.isbn_of_valid valid.2
      obtain ⟨noErrors, number, _⟩ := Book.Draft.validCopies_eq_some_iff.mp valid.2
      obtain ⟨other, there, same⟩ := List.any_eq_true.mp taken
      simp only [given, Bool.and_eq_true, beq_iff_eq, Option.some.injEq, Option.all_some,
        bne_iff_ne] at same
      obtain ⟨self, here, ids⟩ := (draft.valid_facts noErrors number).2 other there
        (by simpa [given] using same.1)
      cases here
      exact same.2 ids
  | createUser draft role =>
      intro taken
      obtain ⟨other, there, same⟩ := List.any_eq_true.mp taken
      exact draft.email_ne_of_valid_new valid.1.1 other there (by simpa using same)
  | updateUser loaded draft =>
      rintro ⟨_, _, taken⟩
      obtain ⟨other, there, same⟩ := List.any_eq_true.mp taken
      simp only [Bool.and_eq_true, beq_iff_eq, Option.all_some, bne_iff_ne] at same
      obtain ⟨self, here, ids⟩ := draft.valid_facts valid.2.1
        (fun self here => ⟨Option.some.inj here ▸ valid.1, consistent⟩) other there same.1
      cases here
      exact same.2 ids

/-- A save that is valid in a state is not refused there: its own value is free, since the
validation has just looked.
-/
theorem Save.Valid.write_isSome {platform : Platform} {s : Store} {save : Save}
    (valid : save.Valid platform s) (consistent : s.Consistent) (env : Env)
    : ∃ s', save.write env s = some s' := by
  cases written : save.write env s with
  | some s' => exact ⟨s', rfl⟩
  | none =>
      exact absurd ((write_eq_none_iff consistent ⟨s, valid⟩ env).mp written)
        (valid.not_taken consistent)

/-- A save that writes right after its validations is the save of a sequential request, here for a
new book.
-/
theorem Save.write_createBook {platform : Platform} {env : Env} {s s' : Store}
    {draft : Book.Draft} {book : Book} (consistent : s.Consistent)
    (stored : draft.create platform env s = .stored (book, s'))
    : ∃ value, (Save.createBook draft value).Valid platform s
        ∧ (Save.createBook draft value).write env s = some s' := by
  rw [Book.Draft.create] at stored
  split at stored
  · next value prepared =>
    injection stored with same
    obtain ⟨_, rfl⟩ := Prod.mk.inj same
    have valid : (Save.createBook draft value).Valid platform s :=
      Book.Draft.validCopies_of_prepare prepared
    obtain ⟨s', written⟩ := valid.write_isSome consistent env
    obtain ⟨books, inserted, rfl⟩ := Option.map_eq_some_iff.mp written
    obtain ⟨_, rfl⟩ := Table.insertUnique_eq_some_iff.mp inserted
    exact ⟨value, valid, written⟩
  · cases stored
  · cases stored

/-- A save that nothing interrupts writes what the action writes, for a loaded book: the columns
that have changed since it was loaded are all that is assigned.
-/
theorem Save.write_updateBook {platform : Platform} {env : Env} {s s' : Store}
    {draft : Book.Draft} {book row : Book} (consistent : s.Consistent)
    (found : book ∈ s.books.rows)
    (stored : draft.update platform env s book = .stored (row, s'))
    : ∃ value, (Save.updateBook book draft value).Valid platform s
        ∧ (Save.updateBook book draft value).write env s = some s' := by
  rw [Book.Draft.update] at stored
  split at stored
  · next value prepared =>
    injection stored with same
    obtain ⟨_, rfl⟩ := Prod.mk.inj same
    have valid : (Save.updateBook book draft value).Valid platform s :=
      ⟨found, Book.Draft.validCopies_of_prepare prepared⟩
    obtain ⟨s', written⟩ := valid.write_isSome consistent env
    refine ⟨value, valid, written.trans ?_⟩
    obtain ⟨books, updated, rfl⟩ := Option.map_eq_some_iff.mp written
    obtain ⟨_, rfl⟩ := Table.updateUnique_eq_some_iff.mp updated
    congr 2
    refine Table.update_congr (fun other member chosen => ?_)
    obtain rfl := s.books.eq_of_key_eq member found (beq_iff_eq.mp chosen)
    exact (draft.applyTo_eq_saveChanges env value other).symm
  · cases stored
  · cases stored

/-- The same for a new user. -/
theorem Save.write_createUser {platform : Platform} {env : Env} {s s' : Store}
    {draft : User.Draft} {user : User} (consistent : s.Consistent)
    (stored : draft.create platform env s = .stored (user, s'))
    : ∃ role, (Save.createUser (draft.beforeValidation platform) role).Valid platform s
        ∧ (Save.createUser (draft.beforeValidation platform) role).write env s = some s' := by
  obtain ⟨savable, role, given, same⟩ := User.Draft.create_eq_stored_iff.mp stored
  obtain ⟨_, rfl⟩ := Prod.mk.inj same
  have valid : (Save.createUser (draft.beforeValidation platform) role).Valid platform s :=
    ⟨savable, given⟩
  obtain ⟨s', written⟩ := valid.write_isSome consistent env
  obtain ⟨users, inserted, rfl⟩ := Option.map_eq_some_iff.mp written
  obtain ⟨_, rfl⟩ := Table.insertUnique_eq_some_iff.mp inserted
  exact ⟨role, valid, written⟩

/-- The same for a loaded user, whose columns in the row are those of the copy. -/
theorem Save.write_updateUser {platform : Platform} {env : Env} {s s' : Store}
    {draft : User.Draft} {user row : User} (consistent : s.Consistent)
    (found : user ∈ s.users.rows)
    (stored : draft.update platform env s user = .stored (row, s'))
    : (Save.updateUser user (draft.beforeValidation platform)).Valid platform s
        ∧ (Save.updateUser user (draft.beforeValidation platform)).write env s = some s' := by
  obtain ⟨savable, same⟩ := User.Draft.update_eq_stored_iff.mp stored
  obtain ⟨_, rfl⟩ := Prod.mk.inj same
  have valid : (Save.updateUser user (draft.beforeValidation platform)).Valid platform s :=
    ⟨found, savable⟩
  obtain ⟨s', written⟩ := valid.write_isSome consistent env
  refine ⟨valid, written.trans ?_⟩
  obtain ⟨users, updated, rfl⟩ := Option.map_eq_some_iff.mp written
  obtain ⟨_, rfl⟩ := Table.updateUnique_eq_some_iff.mp updated
  congr 2
  refine Table.update_congr (fun other member chosen => ?_)
  obtain rfl := s.users.eq_of_key_eq member found (beq_iff_eq.mp chosen)
  exact ((draft.beforeValidation platform).applyTo_eq_saveChanges env other).symm

-----------------------------------------------------------------------------------------
-- Runs
-----------------------------------------------------------------------------------------

/-- The constraints hold, and every save in flight has passed its validations at some time. -/
structure SaveSystem.Ready (platform : Platform) (system : SaveSystem) : Prop where
  consistent : system.store.Consistent
  valid : ∀ save ∈ system.inFlight, ∃ earlier, save.Valid platform earlier

/-- Each action keeps the constraints and the validity of what is in flight: a save begins with a
valid record, and a write that the unique index lets through keeps it, by cases on the record.
-/
theorem SaveSystem.Ready.step {platform : Platform} {system : SaveSystem}
    (ready : system.Ready platform) (action : SaveAction)
    : (system.step platform action).Ready platform := by
  cases action with
  | validate save =>
      simp only [SaveSystem.step]
      split
      · next valid =>
        refine ⟨ready.consistent, ?_⟩
        intro other member
        rcases List.mem_cons.mp member with rfl | earlier
        · exact ⟨system.store, valid⟩
        · exact ready.valid other earlier
      · exact ready
  | write index env =>
      simp only [SaveSystem.step]
      split
      · next save found =>
        refine ⟨?_, fun other member => ready.valid other (List.mem_of_mem_eraseIdx member)⟩
        cases written : save.write env system.store with
        | none => exact ready.consistent
        | some s' =>
            exact Save.write_consistent ready.consistent
              (ready.valid save (List.mem_of_getElem? found)) written
      · exact ready
  | request call =>
      exact ⟨step_consistent platform system.store call ready.consistent, ready.valid⟩

/-- However saves of books and users overlap with each other and with any other requests, the
constraints of the schema hold in every state, and a save in flight would be refused there
exactly for an isbn or email that its own validation would by then report as taken.
-/
theorem interleaved_saves_consistent (platform : Platform) (start : SaveSystem)
    (consistent : start.store.Consistent) (idle : start.inFlight = []) (actions : List SaveAction)
    : ∀ reached ∈ states (SaveSystem.step platform) start actions,
        reached.store.Consistent
        ∧ ∀ save ∈ reached.inFlight, ∀ env,
            save.write env reached.store = none ↔ save.Taken reached.store := by
  have atFirst : start.Ready platform := ⟨consistent, by simp [idle]⟩
  intro reached member
  have ready := invariant atFirst (fun _ action before => before.step action) actions
    reached member
  exact ⟨ready.consistent, fun save inFlight env =>
    Save.write_eq_none_iff ready.consistent (ready.valid save inFlight) env⟩

def SaveAction.sampleDouble : List SaveAction :=
  let draft : Book.Draft := ⟨some "Emma", some "Jane Austen", some "Classic", some "1", .int 1⟩
  let env : Env := { now := 0, salt := "s", tie := id }
  [.validate (.createBook draft 1), .validate (.createBook draft 1), .write 0 env, .write 0 env]

theorem interleaved_saves_consistent_sample
    : Database.sample.store.Consistent
      ∧ ∀ reached ∈ states (SaveSystem.step .ascii) ⟨Database.sample.store, []⟩
            SaveAction.sampleDouble,
          reached.store.Consistent
          ∧ ∀ save ∈ reached.inFlight, ∀ env,
              save.write env reached.store = none ↔ save.Taken reached.store :=
  ⟨Database.sample.consistent,
    interleaved_saves_consistent .ascii ⟨Database.sample.store, []⟩ Database.sample.consistent rfl
      _⟩

end LibraryManagement
