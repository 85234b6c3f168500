import LibraryManagement.Lending.Consistency

/-! What a librarian gets for saving a book, with all its attributes given: the validations put no
upper bound on `total_copies`, the column has one.
-/

namespace LibraryManagement

open Relational

/-- The attributes of a book as they are submitted. -/
structure SubmittedBook where
  title : String
  author : String
  genre : String
  isbn : String
  totalCopies : Int
  deriving DecidableEq, Repr

namespace SubmittedBook

def params (submitted : SubmittedBook) : BookParams where
  title := .value submitted.title
  author := .value submitted.author
  genre := .value submitted.genre
  isbn := .value submitted.isbn
  totalCopies := some (.int submitted.totalCopies)

def draft (submitted : SubmittedBook) : Book.Draft where
  title := some submitted.title
  author := some submitted.author
  genre := some submitted.genre
  isbn := some submitted.isbn
  totalCopies := .int submitted.totalCopies

@[simp] theorem assign_params (submitted : SubmittedBook) (record : Book.Draft)
    : submitted.params.assign record = submitted.draft := rfl

/-- The row carries exactly the submitted values. -/
def CarriedBy (submitted : SubmittedBook) (book : Book) : Prop :=
  book.title = submitted.title ∧ book.author = submitted.author ∧ book.genre = submitted.genre
  ∧ book.isbn = submitted.isbn ∧ book.totalCopies = submitted.totalCopies

theorem carriedBy_applyTo (submitted : SubmittedBook) (env : Env) (book : Book)
    : submitted.CarriedBy (submitted.draft.applyTo env submitted.totalCopies book) := by
  rw [Book.Draft.applyTo]
  dsimp only
  split
  · next same =>
    exact ⟨(congrArg Book.title same).symm, (congrArg Book.author same).symm,
      (congrArg Book.genre same).symm, (congrArg Book.isbn same).symm,
      (congrArg Book.totalCopies same).symm⟩
  · exact ⟨rfl, rfl, rfl, rfl, rfl⟩

end SubmittedBook

namespace SubmittedBook

def Valid (submitted : SubmittedBook) (s : Store) (target : Option Book) : Prop :=
  submitted.draft.errors s target = []

instance (submitted : SubmittedBook) (s : Store) (target : Option Book)
    : Decidable (submitted.Valid s target) :=
  inferInstanceAs (Decidable (_ = _))

/-- The columns take the number of copies and the texts that are written. -/
def Fits (submitted : SubmittedBook) (platform : Platform) (target : Option Book) : Prop :=
  submitted.totalCopies ≤ 2147483647 ∧ submitted.draft.TextsFit platform target

instance (submitted : SubmittedBook) (platform : Platform) (target : Option Book)
    : Decidable (submitted.Fits platform target) :=
  inferInstanceAs (Decidable (_ ∧ _))

/-- `save` of a new record, or of the target's. -/
def save (submitted : SubmittedBook) (platform : Platform) (env : Env) (s : Store)
    : Option Book → Saved (Book × Store)
  | none => submitted.draft.create platform env s
  | some book => submitted.draft.update platform env s book

section Save

variable {submitted : SubmittedBook} {platform : Platform} {s : Store} {target : Option Book}

/-- No valid number of copies is below the column's range. -/
theorem Valid.inInteger_iff (valid : submitted.Valid s target)
    : Book.Draft.inInteger submitted.totalCopies ↔ submitted.totalCopies ≤ 2147483647 := by
  have positive := (Book.Draft.valid_facts valid rfl).1
  simp only [Book.Draft.inInteger, Bool.and_eq_true, decide_eq_true_eq]
  omega

/-- A save that the preparation ends writes nothing. -/
theorem save_raised {exception : String} (env : Env)
    (prepared : submitted.draft.prepare platform s target = .raised exception)
    : submitted.save platform env s target = .raised exception := by
  cases target <;> simp only [save, Book.Draft.create, Book.Draft.update, prepared]

theorem save_invalid {errors : List ModelError} (env : Env)
    (prepared : submitted.draft.prepare platform s target = .invalid errors)
    : submitted.save platform env s target = .invalid errors := by
  cases target <;> simp only [save, Book.Draft.create, Book.Draft.update, prepared]

/-- A valid book that its columns do not take raises, whichever of them it is. -/
theorem prepare_raised (sent : submitted.draft.uniquenessRaises target = false)
    (valid : submitted.Valid s target) (unfit : ¬submitted.Fits platform target)
    : ∃ exception, submitted.draft.prepare platform s target = .raised exception := by
  have number : submitted.draft.totalCopies = .int submitted.totalCopies := rfl
  have range := valid.inInteger_iff
  have noErrors : submitted.draft.errors s target = [] := valid
  simp only [Book.Draft.prepare, sent, noErrors, number, Bool.false_eq_true, if_false]
  cases raises : submitted.draft.writeException platform target submitted.totalCopies with
  | none =>
      obtain ⟨inRange, fit⟩ := Book.Draft.writeException_eq_none_iff.mp raises
      exact absurd ⟨range.mp inRange, fit⟩ unfit
  | some exception => exact ⟨exception, rfl⟩

theorem prepare_invalid (sent : submitted.draft.uniquenessRaises target = false)
    (invalid : ¬submitted.Valid s target)
    : submitted.draft.prepare platform s target
      = .invalid (submitted.draft.errors s target) := by
  rw [Valid] at invalid
  simp only [Book.Draft.prepare, sent, Bool.false_eq_true, if_false]
  split
  · next noErrors _ => exact absurd noErrors invalid
  · rfl

/-- A valid book that its columns take is stored as it was submitted, in a new row or in the row
that it was loaded from.
-/
theorem save_stored (env : Env) (stored : ∀ book ∈ target, book ∈ s.books.rows)
    (valid : submitted.Valid s target) (fits : submitted.Fits platform target)
    : ∃ book s', submitted.save platform env s target = .stored (book, s')
        ∧ book ∈ s'.books.rows ∧ submitted.CarriedBy book
        ∧ ∀ before ∈ target, book.id = before.id := by
  have prepared := Book.Draft.prepare_eq_stored_iff.mpr
    ⟨valid, rfl, valid.inInteger_iff.mpr fits.1, fits.2⟩
  cases target with
  | none =>
      simp only [save, Book.Draft.create, prepared]
      refine ⟨_, _, rfl, ?_, ?_, ?_⟩
      · exact (s.books.mem_insert).mpr (Or.inr rfl)
      · exact ⟨rfl, rfl, rfl, rfl, rfl⟩
      · exact fun before none => absurd none (Option.not_mem_none before)
  | some book =>
      simp only [save, Book.Draft.update, prepared]
      refine ⟨_, _, rfl, ?_, ?_, ?_⟩
      · exact (s.books.mem_update).mpr ⟨book, stored book rfl, if_pos (beq_self_eq_true book.id)⟩
      · exact submitted.carriedBy_applyTo env book
      · intro before target
        obtain rfl := Option.some.inj target
        exact Book.Draft.applyTo_id env _ _ _

end Save
end SubmittedBook

/-- A librarian's `POST /books`, or `PUT /books/:id` for a stored book. -/
def Call.saveBook (env : Env) (librarian : User) (target : Option Book)
    (submitted : SubmittedBook)
    : Call where
  env := env
  session := some librarian.id
  request := .books (match target with
    | none => .create (some submitted.params)
    | some book => .update book.id (some submitted.params))

/-- `:created`, or `:ok` for an update. -/
def savedStatus : Option Book → HttpStatus
  | none => .created
  | some _ => .ok

/-- A success with a stored book of the submitted values, under the id it had, and with isbns that
are distinct; or a 422 that leaves the store as it was.
-/
def SavesCleanly (platform : Platform) (s : Store) (env : Env) (librarian : User)
    (target : Option Book) (submitted : SubmittedBook)
    : Prop :=
  let outcome := perform platform s (.saveBook env librarian target submitted)
  (∃ book ∈ outcome.2.books.rows, outcome.1 = ⟨savedStatus target, .book book⟩
      ∧ submitted.CarriedBy book
      ∧ (∀ before ∈ target, book.id = before.id)
      ∧ ∀ first ∈ outcome.2.books.rows, ∀ second ∈ outcome.2.books.rows,
        first.isbn = second.isbn → first.id = second.id)
    ∨ (outcome.1.status = .unprocessableEntity ∧ outcome.2 = s)

/-- The answer to a save by a librarian, for a creation and an update alike: the book, the messages
or the exception.
-/
theorem perform_saveBook (platform : Platform) {s : Store} {librarian : User}
    (known : librarian ∈ s.users.rows) (isLibrarian : librarian.role = .librarian) (env : Env)
    {target : Option Book} (stored : ∀ book ∈ target, book ∈ s.books.rows)
    (submitted : SubmittedBook)
    : perform platform s (.saveBook env librarian target submitted)
      = match submitted.save platform env s target with
        | .stored (book, stored) => (⟨savedStatus target, .book book⟩, stored)
        | .invalid errors => (⟨.unprocessableEntity, .errors errors⟩, s)
        | .raised exception => (raised exception, s) := by
  have signedIn : (Call.saveBook env librarian target submitted).currentUser s = some librarian :=
    Call.currentUser_eq_some known rfl
  cases target with
  | none =>
      rw [perform_createBook platform signedIn isLibrarian rfl]
      simp only [BooksController.create, SubmittedBook.assign_params]
      rfl
  | some book =>
      have here : s.books.find? book.id = some book := s.books.find?_of_mem (stored book rfl)
      rw [perform_updateBook platform signedIn isLibrarian rfl, here]
      simp only [setRecord, BooksController.update, SubmittedBook.assign_params]
      rfl

/-- A save that raises is not clean. -/
theorem SavesCleanly.unraised {platform : Platform} {s : Store} {env : Env} {librarian : User}
    {target : Option Book} {submitted : SubmittedBook} {exception : String}
    (clean : SavesCleanly platform s env librarian target submitted)
    (answer : (perform platform s (.saveBook env librarian target submitted)).1
      = raised exception)
    : False := by
  rcases clean with ⟨_, _, success, _⟩ | ⟨refusal, _⟩
  · rw [answer] at success
    cases target <;> cases success
  · rw [answer] at refusal
    cases refusal

/-- A save is clean exactly when the uniqueness query can carry the isbn and the columns take
every book that the validations let through. What the validations refuse is refused with 422,
and what raises is neither stored nor refused.
-/
theorem savesCleanly_iff (platform : Platform) {s : Store} (consistent : s.Consistent)
    {librarian : User} (known : librarian ∈ s.users.rows)
    (isLibrarian : librarian.role = .librarian) (env : Env) {target : Option Book}
    (stored : ∀ book ∈ target, book ∈ s.books.rows) (submitted : SubmittedBook)
    : SavesCleanly platform s env librarian target submitted
      ↔ submitted.draft.uniquenessRaises target = false
        ∧ (submitted.Valid s target → submitted.Fits platform target) := by
  have answer := perform_saveBook platform known isLibrarian env stored submitted
  constructor
  · intro clean
    have unraised {exception : String}
        (prepared : submitted.draft.prepare platform s target = .raised exception)
        : False := by
      rw [SubmittedBook.save_raised env prepared] at answer
      exact clean.unraised (congrArg Prod.fst answer)
    have sent : submitted.draft.uniquenessRaises target = false := by
      refine Bool.eq_false_iff.mpr (fun raises => ?_)
      exact unraised (if_pos raises)
    refine ⟨sent, fun valid => ?_⟩
    by_contra unfit
    obtain ⟨exception, prepared⟩ := SubmittedBook.prepare_raised sent valid unfit
    exact unraised prepared
  · rintro ⟨sent, fits⟩
    by_cases valid : submitted.Valid s target
    · obtain ⟨book, s', saved, member, carried, same⟩ :=
        SubmittedBook.save_stored env stored valid (fits valid)
      have distinct := (step_consistent platform s (.saveBook env librarian target submitted)
        consistent).isbns
      rw [saved] at answer
      rw [step, answer] at distinct
      rw [SavesCleanly, answer]
      exact Or.inl ⟨book, member, rfl, carried, same, distinct⟩
    · rw [SubmittedBook.save_invalid env (SubmittedBook.prepare_invalid sent valid)] at answer
      rw [SavesCleanly, answer]
      exact Or.inr ⟨rfl, rfl⟩

/-- `total_copies` at the limit of the column, and one above it. -/
def SubmittedBook.sample (totalCopies : Int) : SubmittedBook where
  title := "MyString"
  author := "MyString"
  genre := "MyString"
  isbn := "MyString"
  totalCopies := totalCopies

theorem savesCleanly_sample
    : let s := Database.sample.store
      SavesCleanly .ascii s (Call.onDay 0 none .health).env s.users.rows[0]
        (some s.books.rows[0]) (.sample 2147483647) := by
  refine (savesCleanly_iff .ascii Database.sample.consistent (List.getElem_mem _) rfl _ ?_ _).mpr ?_
  · intro book target
    obtain rfl := Option.some.inj target
    exact List.getElem_mem _
  · exact ⟨by decide, fun _ => by decide⟩

/-- The update passes the validations and raises. -/
theorem copies_out_of_range
    : let s := Database.sample.store
      let env := (Call.onDay 0 none .health).env
      let call := Call.saveBook env s.users.rows[0] (some s.books.rows[0]) (.sample 2147483648)
      (SubmittedBook.sample 2147483648).Valid s (some s.books.rows[0])
        ∧ (perform .ascii s call).1 = raised "ActiveModel::RangeError"
        ∧ ¬SavesCleanly .ascii s env s.users.rows[0] (some s.books.rows[0])
            (.sample 2147483648) := by
  have answered : (perform .ascii Database.sample.store
      (.saveBook (Call.onDay 0 none .health).env Database.sample.store.users.rows[0]
        (some Database.sample.store.books.rows[0]) (.sample 2147483648))).1
      = raised "ActiveModel::RangeError" := by decide
  refine ⟨by decide, answered, ?_⟩
  rintro (⟨_, _, failed, _⟩ | ⟨failed, _⟩)
  · cases answered.symm.trans failed
  · rw [answered] at failed
    cases failed

end LibraryManagement
