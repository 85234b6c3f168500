import LibraryManagement.Controllers.Http

/-! `app/controllers/borrowings_controller.rb` -/

namespace LibraryManagement

open Relational

/-- The parameters of the list; a missing `page` reads as zero. -/
structure BorrowingsParams where
  status : Option String := none
  q : Option String := none
  date : Option String := none
  sort : Option String := none
  direction : Option String := none
  page : Int := 0
  deriving DecidableEq, Repr

/-- The routes of `resources :borrowings`. -/
inductive BorrowingsRequest where
  | index (params : BorrowingsParams)
  | create (bookId : Nat)
  | returnBook (id : Nat) (comment : Option String)
  deriving DecidableEq, Repr

inductive Direction where
  | asc
  | desc
  deriving DecidableEq, Repr

namespace BorrowingsController

/-- `current_user.librarian? ? Borrowing.all : current_user.borrowings` -/
def scope (currentUser : User) (loan : Borrowing) : Bool :=
  currentUser.isLibrarian || loan.userId == currentUser.id

/-- The status filter; `all` and unknown statuses do not filter. -/
def statusFilter (param : Option String) (loan : Borrowing) : Bool :=
  match (presence param).bind Status.statuses with
  | none => true
  | some status => loan.status == status

/-- `params[:q].to_s.strip` -/
def text (param : Option String) : String := strip (param.getD "")

def textFilter (platform : Platform) (param : Option String) (s : Store)
    (loans : List Borrowing)
    : List Borrowing :=
  if blank (text param) then loans else Borrowing.textSearchJoin platform (text param) s loans

/-- The day of the date filter, none when the date does not parse. -/
def day (platform : Platform) (param : Option String) : Option Int :=
  (presence param).bind platform.parseDate

/-- The filter on the day of borrowing. -/
def dateFilter (platform : Platform) (param : Option String) (loan : Borrowing) : Bool :=
  match day platform param with
  | none => true
  | some date =>
      decide (beginningOfDay date ≤ loan.borrowedAt ∧ loan.borrowedAt ≤ endOfDay date)

/-- The direction asked for, compared after `downcase`. -/
def direction (platform : Platform) (param : Option String) : Option Direction :=
  match platform.downcase (param.getD "") with
  | "asc" => some .asc
  | "desc" => some .desc
  | _ => none

/-- `ORDER BY column dir, id dir` -/
def before (column : Borrowing → Int) (dir : Direction) (first second : Borrowing) : Prop :=
  match dir with
  | .asc => column first < column second ∨ (column first = column second ∧ first.id ≤ second.id)
  | .desc => column second < column first ∨ (column first = column second ∧ second.id ≤ first.id)

instance (column : Borrowing → Int) (dir : Direction) : DecidableRel (before column dir) :=
  match dir with
  | .asc => fun _ _ => inferInstanceAs (Decidable (_ ∨ _))
  | .desc => fun _ _ => inferInstanceAs (Decidable (_ ∨ _))

/-- The sort column with its default direction. -/
def ordering (platform : Platform) (params : BorrowingsParams)
    : (Borrowing → Int) × Direction :=
  if presence params.sort = some "due_date" then
    (Borrowing.dueDate, (direction platform params.direction).getD .asc)
  else
    (Borrowing.borrowedAt, (direction platform params.direction).getD .desc)

/-- All rows of the list query, before they are cut into pages. -/
def rows (platform : Platform) (env : Env) (currentUser : User) (params : BorrowingsParams)
    (s : Store)
    : List Borrowing :=
  let filtered := textFilter platform params.q s (s.borrowings.rows.filter (fun loan =>
    scope currentUser loan && statusFilter params.status loan
      && dateFilter platform params.date loan))
  let (column, dir) := ordering platform params
  orderBy (before column dir) (fun loan => env.tie loan.id) filtered

/-- What the list query raises: on a null character when the text is quoted, and on a day
outside the timestamps when the database runs it. Only `Date.parse` is in the `begin`.
-/
def exception (platform : Platform) (params : BorrowingsParams) : Option String :=
  if !blank (text params.q) && hasNull (text params.q) then
    some "ArgumentError"
  else if (day platform params.date).any (fun date => !inTimestamp date) then
    some "ActiveRecord::StatementInvalid"
  else
    none

/-- `as_json(include: { book: {}, user: { only: [:id, :email, :first_name, :last_name] } })` -/
def item (s : Store) (loan : Borrowing) : BorrowingItem where
  borrowing := loan
  book := s.books.find? loan.bookId
  user := (s.users.find? loan.userId).map nameJson

def items (platform : Platform) (env : Env) (currentUser : User) (params : BorrowingsParams)
    (s : Store)
    : List BorrowingItem :=
  (page perPage (pageNumber params.page) (rows platform env currentUser params s)).map (item s)

def index (platform : Platform) (env : Env) (currentUser : User) (params : BorrowingsParams)
    (s : Store)
    : Response :=
  match exception platform params with
  | some exception => raised exception
  | none => ⟨.ok, .borrowings (items platform env currentUser params s)⟩

def create (env : Env) (currentUser : User) (book : Book) (s : Store) : Outcome :=
  let draft : Borrowing.Draft := { userId := currentUser.id, bookId := book.id }
  match draft.create! env.now s with
  | .stored (borrowing, stored) => (⟨.created, .borrowing borrowing⟩, stored)
  | .invalid errors => (recordInvalid errors, s)
  | .raised exception => (raised exception, s)

def returnBook (env : Env) (currentUser : User) (borrowing : Borrowing)
    (comment : Option String) (s : Store)
    : Outcome :=
  if currentUser.role ≠ .librarian then
    (forbidden, s)
  else
    let (returned, stored) := borrowing.return! env.now comment s
    (⟨.ok, .borrowing returned⟩, stored)

def handle (platform : Platform) (env : Env) (format : Format) (currentUser : Option User)
    (request : BorrowingsRequest) (s : Store)
    : Outcome :=
  match request with
  | .index params =>
      authenticateUser format currentUser s (fun user =>
        (index platform env user params s, s))
  | .create bookId =>
      authenticateUser format currentUser s (fun user =>
        setRecord (s.books.find? bookId) s (fun book => create env user book s))
  | .returnBook id comment =>
      authenticateUser format currentUser s (fun user =>
        setRecord (s.borrowings.find? id) s (fun borrowing =>
          returnBook env user borrowing comment s))

end BorrowingsController
end LibraryManagement
