import LibraryManagement.Relational.Like
import LibraryManagement.Relational.Query
import LibraryManagement.Server.Platform
import LibraryManagement.Server.Text

/-! `app/models/book.rb` -/

namespace LibraryManagement

open Relational

/-- What a submitted number is to `validates ... numericality`. -/
inductive NumberInput where
  | null
  | int (value : Int)
  /-- A number that is no integer. -/
  | decimal (negative : Bool)
  | notNumeric
  deriving DecidableEq, Repr

/-- A book record in memory. -/
structure Book.Draft where
  title : Option String
  author : Option String
  genre : Option String
  isbn : Option String
  totalCopies : NumberInput
  deriving DecidableEq, Repr

namespace Book

/-- `Book.new`: every attribute has the default of its column. -/
def new : Draft where
  title := none
  author := none
  genre := none
  isbn := none
  totalCopies := .int booksTotalCopiesDefault

def load (book : Book) : Draft where
  title := some book.title
  author := some book.author
  genre := some book.genre
  isbn := some book.isbn
  totalCopies := .int book.totalCopies

def availableCopies (s : Store) (book : Book) : Int :=
  let activeBorrowings := s.borrowings.rows.countP (fun loan =>
    loan.bookId == book.id && loan.status == .borrowed && loan.returnedAt.isNone)
  book.totalCopies - activeBorrowings

/-- `Book.with_can_borrow_for(user)`: each row of the query with its `can_borrow` column. -/
def withCanBorrowFor (s : Store) (user : Option User) : List (Book × Bool) :=
  let userId := (user.map User.id).getD 0
  let isMemberSql := user.any (fun user => user.role == .member)
  let active := groupCount Borrowing.bookId (s.borrowings.rows.filter (fun loan =>
    loan.status == .borrowed && loan.returnedAt.isNone))
  let userActive := distinct Borrowing.bookId (s.borrowings.rows.filter (fun loan =>
    loan.userId == userId && loan.status == .borrowed && loan.returnedAt.isNone))
  let joined :=
    leftJoin (fun row bookId => bookId == row.1.id)
      (leftJoin (fun book group => group.1 == book.id) s.books.rows active)
      userActive
  joined.map (fun row =>
    let book := row.1.1
    let activeCount := (row.1.2.map Prod.snd).getD 0
    (book, isMemberSql && decide ((activeCount : Int) < book.totalCopies) && row.2.isNone))

/-- `Book.search(query)` keeps the rows one of whose three columns matches. -/
def search (platform : Platform) (query : Option String) (book : Book) : Bool :=
  match presence query with
  | none => true
  | some query =>
      let pattern := "%".toList ++ (strip query).toList ++ "%".toList
      let ilike := fun column : String => like platform.fold pattern column.toList
      ilike book.title || ilike book.author || ilike book.genre

/-- `Book.top_by_borrowings(limit)`: books with their number of borrowings, highest first. -/
def topByBorrowings (env : Env) (s : Store) (limit : Nat) : List (Book × Nat) :=
  let counted := s.books.rows.map (fun book =>
    (book, s.borrowings.rows.countP (fun loan => loan.bookId == book.id)))
  (orderBy (fun first second => second.2 ≤ first.2) (fun row => env.tie row.1.id)
    counted).take limit

namespace Draft

def presenceErrors (name : String) (value : Option String) : List ModelError :=
  if blank? value then [⟨name, "can't be blank"⟩] else []

def isbnTaken (s : Store) (persisted : Option Book) (isbn : Option String) : Bool :=
  s.books.rows.any (fun other =>
    some other.isbn == isbn && persisted.all (fun self => self.id != other.id))

def totalCopiesErrors : NumberInput → List ModelError
  | .null | .notNumeric => [⟨"total_copies", "is not a number"⟩]
  | .decimal _ => [⟨"total_copies", "must be an integer"⟩]
  | .int value =>
      if value < 0 then [⟨"total_copies", "must be greater than or equal to 0"⟩] else []

/-- All validations in the order in which the model declares them. -/
def errors (s : Store) (persisted : Option Book) (draft : Draft) : List ModelError :=
  presenceErrors "title" draft.title
  ++ presenceErrors "author" draft.author
  ++ presenceErrors "genre" draft.genre
  ++ presenceErrors "isbn" draft.isbn
  ++ (if isbnTaken s persisted draft.isbn then [⟨"isbn", "has already been taken"⟩] else [])
  ++ totalCopiesErrors draft.totalCopies

/-- The values a Postgres `integer` column holds. -/
def inInteger (value : Int) : Bool := -2147483648 ≤ value && value ≤ 2147483647

/-- The texts that a save writes: all of a new record, the changed ones of a loaded record. -/
def writtenTexts (persisted : Option Book) (draft : Draft) : List String :=
  let written := fun (value : Option String) (column : Book → String) =>
    if persisted.map column = some (value.getD "") then [] else [value.getD ""]
  written draft.title Book.title ++ written draft.author Book.author
    ++ written draft.genre Book.genre ++ written draft.isbn Book.isbn

/-- The query of the uniqueness validation raises: it carries an isbn that has changed. -/
def uniquenessRaises (persisted : Option Book) (draft : Draft) : Bool :=
  draft.isbn.any hasNull && persisted.map Book.isbn != draft.isbn

/-- What writing a valid record raises: building the statement, on a number that the column type
excludes; sending it, on a null character; or the database, on a text too long for its index.
-/
def writeException (platform : Platform) (persisted : Option Book) (draft : Draft)
    (totalCopies : Int)
    : Option String :=
  let texts := draft.writtenTexts persisted
  if !inInteger totalCopies then
    some "ActiveModel::RangeError"
  else if texts.any hasNull then
    some "ArgumentError"
  else if !texts.all platform.indexable then
    some "ActiveRecord::StatementInvalid"
  else
    none

/-- The number of copies that a save writes, or why it writes nothing. -/
def prepare (platform : Platform) (s : Store) (persisted : Option Book) (draft : Draft)
    : Saved Int :=
  if draft.uniquenessRaises persisted then
    .raised "ArgumentError"
  else
    match draft.errors s persisted, draft.totalCopies with
    | [], .int value =>
        match draft.writeException platform persisted value with
        | some exception => .raised exception
        | none => .stored value
    | errors, _ => .invalid errors

def toRow (env : Env) (draft : Draft) (totalCopies : Int) (id : Nat) : Book where
  id := id
  title := draft.title.getD ""
  author := draft.author.getD ""
  genre := draft.genre.getD ""
  isbn := draft.isbn.getD ""
  totalCopies := totalCopies
  createdAt := env.now
  updatedAt := env.now

/-- The row after an `UPDATE` with the draft's attributes; the timestamp moves only when
another column does.
-/
def applyTo (env : Env) (draft : Draft) (totalCopies : Int) (book : Book) : Book :=
  let changed := { book with
    title := draft.title.getD ""
    author := draft.author.getD ""
    genre := draft.genre.getD ""
    isbn := draft.isbn.getD ""
    totalCopies := totalCopies }
  if changed = book then book else { changed with updatedAt := env.now }

@[simp] theorem applyTo_id (env : Env) (draft : Draft) (totalCopies : Int) (book : Book)
    : (draft.applyTo env totalCopies book).id = book.id := by
  rw [applyTo]
  dsimp only
  split <;> rfl

/-- `save` of a new record. -/
def create (platform : Platform) (env : Env) (s : Store) (draft : Draft) : Saved (Book × Store) :=
  match draft.prepare platform s none with
  | .stored value =>
      .stored (draft.toRow env value s.books.nextKey,
        { s with books := s.books.insert ⟨draft.toRow env value, fun _ => rfl⟩ })
  | .invalid errors => .invalid errors
  | .raised exception => .raised exception

/-- `save` of a loaded record. -/
def update (platform : Platform) (env : Env) (s : Store) (book : Book) (draft : Draft)
    : Saved (Book × Store) :=
  match draft.prepare platform s (some book) with
  | .stored value =>
      .stored (draft.applyTo env value book,
        { s with
          books := s.books.update (fun row => row.id == book.id)
            ⟨draft.applyTo env value, draft.applyTo_id env value⟩ })
  | .invalid errors => .invalid errors
  | .raised exception => .raised exception

theorem writtenTexts_sublist (persisted : Option Book) (draft : Draft)
    : (draft.writtenTexts persisted).Sublist
        [draft.title.getD "", draft.author.getD "", draft.genre.getD "", draft.isbn.getD ""] := by
  have one (value : Option String) (column : Book → String)
      : (if persisted.map column = some (value.getD "") then [] else [value.getD ""]).Sublist
          [value.getD ""] := by
    split
    · exact List.nil_sublist _
    · exact List.Sublist.refl _
  exact (((one draft.title Book.title).append (one draft.author Book.author)).append
    (one draft.genre Book.genre)).append (one draft.isbn Book.isbn)

/-- The texts that a save writes are free of null characters and fit their indexes. -/
def TextsFit (platform : Platform) (persisted : Option Book) (draft : Draft) : Prop :=
  ∀ text ∈ draft.writtenTexts persisted, hasNull text = false ∧ platform.indexable text

instance (platform : Platform) (persisted : Option Book) (draft : Draft)
    : Decidable (draft.TextsFit platform persisted) :=
  inferInstanceAs (Decidable (∀ text ∈ draft.writtenTexts persisted, _))

/-- A record that is saved as it was loaded writes no text. -/
theorem textsFit_load (platform : Platform) (book : Book)
    : book.load.TextsFit platform (some book) := by
  simp [TextsFit, writtenTexts, load]

/-- A changed isbn is among the texts that are written, so that the uniqueness query raises for
none that fit.
-/
theorem TextsFit.uniquenessRaises {platform : Platform} {persisted : Option Book} {draft : Draft}
    (fit : draft.TextsFit platform persisted)
    : draft.uniquenessRaises persisted = false := by
  rw [Draft.uniquenessRaises]
  cases given : draft.isbn with
  | none => rfl
  | some isbn =>
      by_cases same : persisted.map Book.isbn = some isbn
      · simp [same]
      · have written : isbn ∈ draft.writtenTexts persisted := by
          simp [writtenTexts, given, same]
        simp [(fit isbn written).1]

theorem writeException_eq_none_iff {platform : Platform} {persisted : Option Book} {draft : Draft}
    {totalCopies : Int}
    : draft.writeException platform persisted totalCopies = none
      ↔ inInteger totalCopies ∧ draft.TextsFit platform persisted := by
  have split : draft.TextsFit platform persisted
      ↔ (draft.writtenTexts persisted).any hasNull = false
        ∧ (draft.writtenTexts persisted).all platform.indexable := by
    simp only [TextsFit, List.any_eq_false, List.all_eq_true, Bool.not_eq_true, forall_and]
  rw [split, writeException]
  cases inInteger totalCopies <;> cases (draft.writtenTexts persisted).any hasNull <;>
    cases (draft.writtenTexts persisted).all platform.indexable <;> simp

/-- A save succeeds exactly for a valid record whose columns take all that it writes; what makes the
query of the uniqueness validation raise, they do not take either.
-/
theorem prepare_eq_stored_iff {platform : Platform} {s : Store} {persisted : Option Book}
    {draft : Draft} {value : Int}
    : draft.prepare platform s persisted = .stored value
      ↔ draft.errors s persisted = [] ∧ draft.totalCopies = .int value ∧ inInteger value
        ∧ draft.TextsFit platform persisted := by
  constructor
  · intro saved
    rw [prepare] at saved
    split at saved
    case isTrue => cases saved
    case isFalse =>
      split at saved
      · next given valid number =>
        split at saved
        · cases saved
        · next unraised =>
          obtain rfl := Saved.stored.inj saved
          exact ⟨valid, number, writeException_eq_none_iff.mp unraised⟩
      · cases saved
  · rintro ⟨valid, number, fits⟩
    have unraised := writeException_eq_none_iff.mpr fits
    simp [prepare, fits.2.uniquenessRaises, valid, number, unraised]

end Draft
end Book

/-- `book.destroy!`: `has_many :borrowings, dependent: :destroy` goes first. -/
def Store.destroyBook (s : Store) (id : Nat) : Store :=
  { s with
    borrowings := s.borrowings.delete (fun loan => loan.bookId == id)
    books := s.books.delete (fun book => book.id == id) }

end LibraryManagement
