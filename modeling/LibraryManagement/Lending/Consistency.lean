import LibraryManagement.Controllers.Effects

/-! The constraints of `db/schema.rb` and the validation of `total_copies` hold in every
store that requests reach. Foreign keys survive deletions because both parents destroy
their borrowings first.
-/

namespace LibraryManagement

open Relational

/-- The unique indexes, the foreign keys and the lower bound of `total_copies`. -/
structure Store.Consistent (s : Store) : Prop where
  emails : ∀ first ∈ s.users.rows, ∀ second ∈ s.users.rows,
    first.email = second.email → first.id = second.id
  tokens : ∀ first ∈ s.users.rows, first.resetPasswordToken.isSome → ∀ second ∈ s.users.rows,
    first.resetPasswordToken = second.resetPasswordToken → first.id = second.id
  isbns : ∀ first ∈ s.books.rows, ∀ second ∈ s.books.rows,
    first.isbn = second.isbn → first.id = second.id
  borrowers : ∀ loan ∈ s.borrowings.rows, ∃ user ∈ s.users.rows, user.id = loan.userId
  booksOfLoans : ∀ loan ∈ s.borrowings.rows, ∃ book ∈ s.books.rows, book.id = loan.bookId
  copies : ∀ book ∈ s.books.rows, 0 ≤ book.totalCopies

/-- A database is a store under its constraints. -/
structure Database where
  store : Store
  consistent : store.Consistent

/-- One librarian, two members and one copy of one book. -/
def Database.sample : Database where
  store :=
    { users :=
        { rows := [
            { id := 1, email := "librarian@example.com", encryptedPassword := "s$password123",
              role := .librarian, createdAt := 0, updatedAt := 0 },
            { id := 2, email := "megan@example.com", encryptedPassword := "s$password123",
              role := .member, createdAt := 0, updatedAt := 0 },
            { id := 3, email := "john@example.com", encryptedPassword := "s$password123",
              role := .member, createdAt := 0, updatedAt := 0 }]
          nextKey := 4
          increasing := by decide
          bounded := by decide }
      books :=
        { rows := [
            { id := 1, title := "MyString", author := "MyString", genre := "MyString",
              isbn := "MyString", totalCopies := 1, createdAt := 0, updatedAt := 0 }]
          nextKey := 2
          increasing := by decide
          bounded := by decide }
      borrowings := .empty }
  consistent := {
    emails := by decide
    tokens := by decide
    isbns := by decide
    borrowers := by decide
    booksOfLoans := by decide
    copies := by decide }

/-- The accounts of the sample and twenty-six books. -/
def Store.sampleCatalog : Store where
  users := Database.sample.store.users
  books :=
    { rows := (List.range 26).map (fun number => {
        id := number + 1, title := "MyString", author := "MyString", genre := "MyString",
        isbn := toString number, totalCopies := 1, createdAt := 0, updatedAt := 0 })
      nextKey := 27
      increasing := by decide
      bounded := by decide }
  borrowings := .empty

/-- Each member of the sample had thirty loans, one a day in turns. The last four are out, two
of them marked as overdue.
-/
def Store.sampleLending : Store where
  users := sampleCatalog.users
  books := sampleCatalog.books
  borrowings :=
    { rows := (List.range 60).map (fun number : Nat =>
        let borrowed : Int := number * microsecondsPerDay
        { id := number + 1, userId := 2 + number % 2, bookId := 1 + number % 26,
          borrowedAt := borrowed, dueDate := number + 14,
          returnedAt := if number < 56 then some (daysFromNow 1 borrowed) else none,
          status := if number < 56 then .returned else if number < 58 then .overdue else .borrowed,
          createdAt := borrowed, updatedAt := borrowed })
      nextKey := 61
      increasing := by decide +kernel
      bounded := by decide +kernel }

-----------------------------------------------------------------------------------------
-- What validated records are
-----------------------------------------------------------------------------------------

/-- A valid book has a nonempty isbn that no other row has, and no negative number of
copies.
-/
theorem Book.Draft.valid_facts {s : Store} {persisted : Option Book} {draft : Book.Draft}
    {value : Int} (valid : draft.errors s persisted = [])
    (number : draft.totalCopies = .int value)
    : 0 ≤ value
      ∧ ∀ other ∈ s.books.rows, other.isbn = draft.isbn.getD ""
        → ∃ self, persisted = some self ∧ self.id = other.id := by
  simp only [errors, List.append_eq_nil_iff] at valid
  obtain ⟨⟨⟨⟨_, _⟩, isbn⟩, taken⟩, copies⟩ := valid
  constructor
  · by_contra negative
    simp [totalCopiesErrors, number, Int.not_le.mp negative] at copies
  · intro other member same
    have given : draft.isbn = some (draft.isbn.getD "") := by
      cases present : draft.isbn with
      | none => simp [presenceErrors, blank?, present] at isbn
      | some text => rfl
    have free : ¬isbnTaken s persisted draft.isbn := by
      intro isTaken
      simp [isTaken] at taken
    rw [given] at free
    cases persisted with
    | none => exact absurd (List.any_eq_true.mpr ⟨other, member, by simp [same]⟩) free
    | some self =>
        refine ⟨self, rfl, ?_⟩
        by_contra different
        exact free (List.any_eq_true.mpr ⟨other, member, by simp [same, different]⟩)

/-- A valid new book has an isbn that no row has, since there is no row of its own. -/
theorem Book.Draft.isbn_ne_of_valid_new {s : Store} {draft : Book.Draft} {value : Int}
    (valid : draft.errors s none = []) (number : draft.totalCopies = .int value)
    : ∀ other ∈ s.books.rows, other.isbn ≠ draft.isbn.getD "" := by
  intro other member same
  obtain ⟨self, absent, _⟩ := (draft.valid_facts valid number).2 other member same
  cases absent

/-- A valid user has an email that no other row has: a changed one by its validation, and one that
is kept by the constraint on the rows.
-/
theorem User.Draft.valid_facts {s : Store} {persisted : Option User} {draft : User.Draft}
    (valid : draft.errors s persisted = [])
    (stored : ∀ self, persisted = some self → self ∈ s.users.rows ∧ s.Consistent)
    : ∀ other ∈ s.users.rows, other.email = draft.email.getD ""
        → ∃ self, persisted = some self ∧ self.id = other.id := by
  intro other member same
  simp only [errors, emailErrors, List.append_eq_nil_iff] at valid
  obtain ⟨⟨⟨blankEmail, emailValid⟩, _⟩, _⟩ := valid
  cases given : draft.email with
  | none => simp [given, blank?] at blankEmail
  | some email =>
      have full : blank email = false := by
        cases isBlank : blank email with
        | false => rfl
        | true => simp [given, blank?, isBlank] at blankEmail
      simp only [given, Option.getD_some] at same
      simp only [given, presence, Option.filter_some, full, Bool.not_false, if_true,
        List.append_eq_nil_iff] at emailValid
      cases persisted with
      | none =>
          have isTaken : emailTaken s none email :=
            List.any_eq_true.mpr ⟨other, member, by simp [same]⟩
          simp [isTaken] at emailValid
      | some self =>
          refine ⟨self, rfl, ?_⟩
          by_contra different
          by_cases kept : self.email = email
          · obtain ⟨row, consistent⟩ := stored self rfl
            exact different (consistent.emails self row other member (kept.trans same.symm))
          · have isTaken : emailTaken s (some self) email :=
              List.any_eq_true.mpr ⟨other, member, by simp [same, different]⟩
            simp [isTaken, kept] at emailValid

/-- A valid new user has an email that no row has, since there is no row of its own. -/
theorem User.Draft.email_ne_of_valid_new {s : Store} {draft : User.Draft}
    (valid : draft.errors s none = [])
    : ∀ other ∈ s.users.rows, other.email ≠ draft.email.getD "" := by
  intro other member same
  obtain ⟨self, absent, _⟩ := draft.valid_facts valid (fun _ given => by cases given) other member
    same
  cases absent

/-- A valid request names an existing user and an existing book. -/
theorem Borrowing.Draft.valid_facts {s : Store} {draft : Borrowing.Draft}
    (valid : draft.errors s = [])
    : (∃ user ∈ s.users.rows, user.id = draft.userId)
      ∧ ∃ book ∈ s.books.rows, book.id = draft.bookId := by
  simp only [errors, List.append_eq_nil_iff] at valid
  obtain ⟨⟨⟨⟨⟨⟨user, book⟩, _⟩, _⟩, _⟩, _⟩, _⟩ := valid
  constructor
  · exact (s.users.find?_isSome_iff).mp (by
      cases found : s.users.find? draft.userId <;> simp [found] at user ⊢)
  · exact (s.books.find?_isSome_iff).mp (by
      cases found : s.books.find? draft.bookId <;> simp [found] at book ⊢)

-----------------------------------------------------------------------------------------
-- Each table write keeps the constraints
-----------------------------------------------------------------------------------------

/-- Rewriting loans without touching their owners and books keeps the constraints, of which only the
foreign keys speak of loans.
-/
theorem Store.Consistent.updateLoans {s : Store} (consistent : s.Consistent)
    {selected : Borrowing → Bool} {change : Table.Change Borrowing}
    (owner
      : ∀ loan ∈ s.borrowings.rows, selected loan → (change.apply loan).userId = loan.userId)
    (book
      : ∀ loan ∈ s.borrowings.rows, selected loan → (change.apply loan).bookId = loan.bookId)
    : Consistent { s with borrowings := s.borrowings.update selected change } := by
  refine { consistent with borrowers := ?_, booksOfLoans := ?_ }
  · intro loan member
    obtain ⟨old, present, rfl⟩ := (s.borrowings.mem_update).mp member
    split
    · next chosen => simpa only [owner old present chosen] using consistent.borrowers old present
    · exact consistent.borrowers old present
  · intro loan member
    obtain ⟨old, present, rfl⟩ := (s.borrowings.mem_update).mp member
    split
    · next chosen => simpa only [book old present chosen] using consistent.booksOfLoans old present
    · exact consistent.booksOfLoans old present

/-- Fewer loans refer to what all of them refer to. -/
theorem Store.Consistent.deleteLoans {s : Store} (consistent : s.Consistent)
    (selected : Borrowing → Bool)
    : Consistent { s with borrowings := s.borrowings.delete selected } where
  emails := consistent.emails
  tokens := consistent.tokens
  isbns := consistent.isbns
  copies := consistent.copies
  borrowers loan member := consistent.borrowers loan ((s.borrowings.mem_delete).mp member).1
  booksOfLoans loan member := consistent.booksOfLoans loan ((s.borrowings.mem_delete).mp member).1

/-- Rewriting one user with an email and a token that stay unique keeps the constraints. Two rows
are compared by which of them is rewritten.
-/
theorem Store.Consistent.updateUsers {s : Store} (consistent : s.Consistent)
    {selected : User → Bool} {change : Table.Change User}
    (emails
      : ∀ first ∈ s.users.rows, selected first → ∀ second ∈ s.users.rows,
          (change.apply first).email = second.email → first.id = second.id)
    (tokens
      : ∀ first ∈ s.users.rows, selected first → (change.apply first).resetPasswordToken.isSome
          → ∀ second ∈ s.users.rows,
            (change.apply first).resetPasswordToken = second.resetPasswordToken
            → first.id = second.id)
    (single
      : ∀ first ∈ s.users.rows, selected first → ∀ second ∈ s.users.rows,
          selected second → first.id = second.id)
    : Consistent { s with users := s.users.update selected change } := by
  have ids (user : User) : (if selected user then change.apply user else user).id = user.id :=
    Table.key_of_update change user
  refine { consistent with emails := ?_, tokens := ?_, borrowers := ?_ }
  · intro first hf second hs same
    obtain ⟨before, present, rfl⟩ := (s.users.mem_update).mp hf
    obtain ⟨other, there, rfl⟩ := (s.users.mem_update).mp hs
    rw [ids, ids]
    by_cases chosen : selected before <;> by_cases also : selected other <;>
      simp only [chosen, also, if_true, if_false, Bool.false_eq_true] at same
    · exact single before present chosen other there also
    · exact emails before present chosen other there same
    · exact (emails other there also before present same.symm).symm
    · exact consistent.emails before present other there same
  · intro first hf given second hs same
    obtain ⟨before, present, rfl⟩ := (s.users.mem_update).mp hf
    obtain ⟨other, there, rfl⟩ := (s.users.mem_update).mp hs
    rw [ids, ids]
    by_cases chosen : selected before <;> by_cases also : selected other <;>
      simp only [chosen, also, if_true, if_false, Bool.false_eq_true] at given same
    · exact single before present chosen other there also
    · exact tokens before present chosen given other there same
    · exact (tokens other there also (same ▸ given) before present same.symm).symm
    · exact consistent.tokens before present given other there same
  · intro loan member
    obtain ⟨user, present, owns⟩ := consistent.borrowers loan member
    exact ⟨_, (s.users.mem_update).mpr ⟨user, present, rfl⟩,
      (Table.key_of_update change user).trans owns⟩

/-- A new user has a fresh email and no token, so it is in conflict with no row. -/
theorem Store.Consistent.insertUser {s : Store} (consistent : s.Consistent)
    {new : Table.NewRow User}
    (fresh : ∀ other ∈ s.users.rows, other.email ≠ (new.build s.users.nextKey).email)
    (untokened : (new.build s.users.nextKey).resetPasswordToken = none)
    : Consistent { s with users := s.users.insert new } := by
  refine { consistent with emails := ?_, tokens := ?_, borrowers := ?_ }
  · intro first hf second hs same
    rcases (s.users.mem_insert).mp hf with hf | hf <;>
      rcases (s.users.mem_insert).mp hs with hs | hs
    · exact consistent.emails first hf second hs same
    · exact absurd (same.trans (congrArg User.email hs)) (fresh first hf)
    · exact absurd (same.symm.trans (congrArg User.email hf)) (fresh second hs)
    · rw [hf, hs]
  · intro first hf given second hs same
    rcases (s.users.mem_insert).mp hf with hf | rfl
    · rcases (s.users.mem_insert).mp hs with hs | rfl
      · exact consistent.tokens first hf given second hs same
      · rw [same, untokened] at given
        cases given
    · rw [untokened] at given
      cases given
  · intro loan member
    obtain ⟨user, present, owns⟩ := consistent.borrowers loan member
    exact ⟨user, (s.users.mem_insert).mpr (Or.inl present), owns⟩

/-- A loan that passes the validations refers to a stored user and a stored book. -/
theorem Store.Consistent.borrow {s : Store} (consistent : s.Consistent)
    {now : Int} {draft : Borrowing.Draft} (valid : draft.errors s = [])
    : (draft.insert now s).Consistent := by
  obtain ⟨user, book⟩ := draft.valid_facts valid
  refine { consistent with borrowers := ?_, booksOfLoans := ?_ }
  · intro loan member
    rcases (s.borrowings.mem_insert).mp member with old | rfl
    · exact consistent.borrowers loan old
    · exact user
  · intro loan member
    rcases (s.borrowings.mem_insert).mp member with old | rfl
    · exact consistent.booksOfLoans loan old
    · exact book

/-- A new book has an isbn that no row has, by its validation, and no negative number of copies;
there are no loans of it yet.
-/
theorem Store.Consistent.createBook {s : Store} (consistent : s.Consistent) {env : Env}
    {draft : Book.Draft} {value : Int} (valid : draft.errors s none = [])
    (number : draft.totalCopies = .int value)
    : Consistent { s with books := s.books.insert ⟨draft.toRow env value, fun _ => rfl⟩ } := by
  have copies := (draft.valid_facts valid number).1
  have fresh := Book.Draft.isbn_ne_of_valid_new valid number
  refine { consistent with isbns := ?_, booksOfLoans := ?_, copies := ?_ }
  · intro first hf second hs same
    rcases (s.books.mem_insert).mp hf with hf | hf <;>
      rcases (s.books.mem_insert).mp hs with hs | hs
    · exact consistent.isbns first hf second hs same
    · exact absurd (same.trans (congrArg Book.isbn hs)) (fresh first hf)
    · exact absurd (same.symm.trans (congrArg Book.isbn hf)) (fresh second hs)
    · rw [hf, hs]
  · intro loan member
    obtain ⟨book, present, lent⟩ := consistent.booksOfLoans loan member
    exact ⟨book, (s.books.mem_insert).mpr (Or.inl present), lent⟩
  · intro book member
    rcases (s.books.mem_insert).mp member with old | rfl
    · exact consistent.copies book old
    · exact copies

/-- The saved attributes of a valid book, whether or not the row was touched. -/
theorem Book.Draft.applyTo_columns (env : Env) (draft : Book.Draft) (value : Int) (book : Book)
    : (draft.applyTo env value book).isbn = draft.isbn.getD ""
      ∧ (draft.applyTo env value book).totalCopies = value := by
  rw [applyTo]
  dsimp only
  split
  · next same => exact ⟨(congrArg Book.isbn same).symm, (congrArg Book.totalCopies same).symm⟩
  · exact ⟨rfl, rfl⟩

/-- A changed book keeps the isbns distinct: its own is the old one or has been found free. Its id
stays, so loans still refer to it.
-/
theorem Store.Consistent.updateBook {s : Store} (consistent : s.Consistent) {env : Env}
    {draft : Book.Draft} {book : Book} {value : Int} (valid : draft.errors s (some book) = [])
    (number : draft.totalCopies = .int value)
    : Consistent { s with
        books := s.books.update (fun row => row.id == book.id)
          ⟨draft.applyTo env value, draft.applyTo_id env value⟩ } := by
  obtain ⟨copies, unique⟩ := draft.valid_facts valid number
  have taken : ∀ other ∈ s.books.rows, other.isbn = draft.isbn.getD "" → book.id = other.id := by
    intro other member same
    obtain ⟨self, here, id⟩ := unique other member same
    obtain rfl := Option.some.inj here
    exact id
  have ids (row : Book)
      : (if row.id == book.id then draft.applyTo env value row else row).id = row.id := by
    split
    · exact draft.applyTo_id env value row
    · rfl
  refine { consistent with isbns := ?_, booksOfLoans := ?_, copies := ?_ }
  · intro first hf second hs same
    obtain ⟨before, present, rfl⟩ := (s.books.mem_update).mp hf
    obtain ⟨other, there, rfl⟩ := (s.books.mem_update).mp hs
    rw [ids, ids]
    by_cases chosen : before.id = book.id <;> by_cases also : other.id = book.id <;>
      simp only [chosen, also, beq_self_eq_true, if_true, beq_iff_eq, if_false,
        (draft.applyTo_columns env value _).1] at same
    · rw [chosen, also]
    · exact chosen.trans (taken other there same.symm)
    · exact (also.trans (taken before present same)).symm
    · exact consistent.isbns before present other there same
  · intro loan member
    obtain ⟨row, present, lent⟩ := consistent.booksOfLoans loan member
    exact ⟨_, (s.books.mem_update).mpr ⟨row, present, rfl⟩, (ids row).trans lent⟩
  · intro row member
    obtain ⟨old, present, rfl⟩ := (s.books.mem_update).mp member
    split
    · simpa only [(draft.applyTo_columns env value old).2] using copies
    · exact consistent.copies old present

/-- The loans of a deleted book go first, so none refers to it. -/
theorem Store.Consistent.destroyBook {s : Store} (consistent : s.Consistent) (id : Nat)
    : (s.destroyBook id).Consistent := by
  refine { consistent with isbns := ?_, borrowers := ?_, booksOfLoans := ?_, copies := ?_ }
  · intro first hf second hs
    exact consistent.isbns first ((s.books.mem_delete).mp hf).1 second
      ((s.books.mem_delete).mp hs).1
  · intro loan member
    exact consistent.borrowers loan ((s.borrowings.mem_delete).mp member).1
  · intro loan member
    obtain ⟨old, kept⟩ := (s.borrowings.mem_delete).mp member
    obtain ⟨book, present, lent⟩ := consistent.booksOfLoans loan old
    exact ⟨book, (s.books.mem_delete).mpr ⟨present, by simpa [lent] using kept⟩, lent⟩
  · intro book member
    exact consistent.copies book ((s.books.mem_delete).mp member).1

/-- The same for a deleted user: the rows that are left were distinct before, and the loans that are
left belong to others.
-/
theorem Store.Consistent.destroyUser {s : Store} (consistent : s.Consistent) (id : Nat)
    : (s.destroyUser id).Consistent := by
  refine { consistent with emails := ?_, tokens := ?_, borrowers := ?_, booksOfLoans := ?_ }
  · intro first hf second hs
    exact consistent.emails first ((s.users.mem_delete).mp hf).1 second
      ((s.users.mem_delete).mp hs).1
  · intro first hf given second hs
    exact consistent.tokens first ((s.users.mem_delete).mp hf).1 given second
      ((s.users.mem_delete).mp hs).1
  · intro loan member
    obtain ⟨old, kept⟩ := (s.borrowings.mem_delete).mp member
    obtain ⟨user, present, owns⟩ := consistent.borrowers loan old
    exact ⟨user, (s.users.mem_delete).mpr ⟨present, by simpa [owns] using kept⟩, owns⟩
  · intro loan member
    exact consistent.booksOfLoans loan ((s.borrowings.mem_delete).mp member).1

theorem User.Draft.applyTo_email (env : Env) (draft : User.Draft) (user : User)
    : (draft.applyTo env user).email = draft.email.getD "" := by
  rw [applyTo]
  split
  · next same => exact (congrArg User.email same).symm
  · rfl

/-- A save keeps the token of the row or clears it. -/
theorem User.Draft.applyTo_token (env : Env) (draft : User.Draft) (user : User)
    : (draft.applyTo env user).resetPasswordToken
      = if draft.clearsToken user then none else user.resetPasswordToken := by
  rw [applyTo]
  split
  · next same => exact (congrArg User.resetPasswordToken same).symm
  · rfl

/-- A changed user keeps the emails distinct, by the validation, and the tokens, which a save keeps
or clears.
-/
theorem Store.Consistent.updateUser {s : Store} (consistent : s.Consistent) {env : Env}
    {draft : User.Draft} {user : User} (found : user ∈ s.users.rows)
    (valid : draft.errors s (some user) = [])
    : Consistent { s with
        users := s.users.update (fun row => row.id == user.id)
          ⟨draft.applyTo env, draft.applyTo_id env⟩ } := by
  have unique := draft.valid_facts valid (fun self here =>
    ⟨Option.some.inj here ▸ found, consistent⟩)
  refine consistent.updateUsers ?_ ?_ ?_
  · intro first _ chosen second hs same
    obtain ⟨self, here, id⟩ := unique second hs (same.symm.trans (draft.applyTo_email env first))
    obtain rfl := Option.some.inj here
    exact (beq_iff_eq.mp chosen).trans id
  · intro first hf _ given second hs same
    rw [draft.applyTo_token] at given same
    split at given
    · cases given
    · next kept =>
      rw [if_neg kept] at same
      exact consistent.tokens first hf given second hs same
  · intro first _ chosen second _ also
    exact (beq_iff_eq.mp chosen).trans (beq_iff_eq.mp also).symm

/-- What Devise writes is refused by the unique indexes, or keeps emails and tokens distinct, as
nobody else has either.
-/
theorem Store.Consistent.writeDeviseColumns {s : Store} (consistent : s.Consistent) (id : Nat)
    (columns : DeviseColumns)
    : (s.writeDeviseColumns id columns).Consistent := by
  rw [Store.writeDeviseColumns]
  split
  · exact consistent
  · next free =>
    have taken {first second : User} (chosen : first.id == id) (there : second ∈ s.users.rows)
        (same
          : second.email = columns.email
            ∨ columns.resetPasswordToken.isSome
              ∧ second.resetPasswordToken = columns.resetPasswordToken)
        : first.id = second.id := by
      by_contra different
      have other : second.id ≠ id := fun here =>
        different ((beq_iff_eq.mp chosen).trans here.symm)
      exact free (List.any_eq_true.mpr ⟨second, there, by simp [other, same]⟩)
    refine consistent.updateUsers ?_ ?_ ?_
    · exact fun first _ chosen second hs same => taken chosen hs (Or.inl same.symm)
    · exact fun first _ chosen given second hs same => taken chosen hs (Or.inr ⟨given, same.symm⟩)
    · intro first _ chosen second _ also
      exact (beq_iff_eq.mp chosen).trans (beq_iff_eq.mp also).symm

/-- Forgetting a user touches no column that a constraint is about. -/
theorem Store.Consistent.forgetMe {s : Store} (consistent : s.Consistent) (env : Env)
    (user : User)
    : (SessionsController.forgetMe env user s).Consistent := by
  refine consistent.updateUsers ?_ ?_ ?_
  · intro first hf _ second hs same
    exact consistent.emails first hf second hs same
  · intro first hf _ given second hs same
    exact consistent.tokens first hf given second hs same
  · intro first _ chosen second _ also
    simp only [Bool.and_eq_true, beq_iff_eq] at chosen also
    exact chosen.1.trans also.1.symm

/-- Saving a return writes neither the owner nor the book of a loan. -/
theorem Borrowing.saveChanges_assignReturn_parents (now : Int) (comment : Option String)
    (loaded current : Borrowing)
    : (saveChanges now loaded (loaded.assignReturn now comment) current).userId = current.userId
      ∧ (saveChanges now loaded (loaded.assignReturn now comment) current).bookId
        = current.bookId := by
  rw [saveChanges]
  split <;> simp [dirtyColumn, assignReturn]

-----------------------------------------------------------------------------------------
-- Runs
-----------------------------------------------------------------------------------------

/-- Every effect keeps the constraints, one case for each kind of write. What the indexes ask of new
and changed rows is what their validations have found.
-/
theorem Effect.consistent {platform : Platform} {call : Call} {s s' : Store}
    (effect : Effect platform call s s') (consistent : s.Consistent)
    : s'.Consistent := by
  cases effect with
  | unchanged => exact consistent
  | borrow _ _ _ valid => exact consistent.borrow valid
  | returnBook =>
      exact consistent.updateLoans
        (fun loan _ _ => (Borrowing.saveChanges_assignReturn_parents _ _ _ loan).1)
        (fun loan _ _ => (Borrowing.saveChanges_assignReturn_parents _ _ _ loan).2)
  | markOverdue => exact consistent.updateLoans (fun _ _ _ => rfl) (fun _ _ _ => rfl)
  | createBook _ _ valid number => exact consistent.createBook valid number
  | updateBook _ _ _ valid number => exact consistent.updateBook valid number
  | destroyBook => exact consistent.destroyBook _
  | createMember _ _ _ valid =>
      exact consistent.insertUser (User.Draft.email_ne_of_valid_new valid) rfl
  | register _ _ savable =>
      exact consistent.insertUser (User.Draft.email_ne_of_valid_new savable.1) rfl
  | updateUser _ _ found valid => exact consistent.updateUser found valid
  | forgetMe => exact consistent.forgetMe _ _
  | writeDevise => exact consistent.writeDeviseColumns _ _
  | destroyUser => exact consistent.destroyUser _

/-- Every request keeps the constraints of the schema, by cases on its effect. -/
theorem step_consistent (platform : Platform) (s : Store) (call : Call)
    (consistent : s.Consistent)
    : (step platform s call).Consistent :=
  (step_effect platform s call).consistent consistent

end LibraryManagement
