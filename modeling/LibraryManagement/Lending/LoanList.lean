import LibraryManagement.Lending.Consistency
import Mathlib.Data.Prod.Lex

/-! The list of loans that `GET /borrowings` serves in pages: which loans it lists, in which
order, and that the pages are a partition of it.
-/

namespace LibraryManagement

open Relational

-----------------------------------------------------------------------------------------
-- What the parameters ask for
-----------------------------------------------------------------------------------------

/-- The filters and the order that a request asks for. A filter that is left out, or whose
value is not recognised, is none.
-/
structure LoanQuery where
  status : Option Status
  text : Option String
  day : Option Int
  column : Borrowing → Int
  direction : Direction

/-- The columns of the book and of the user of a loan that the text is looked for in. -/
def Borrowing.searched (s : Store) (loan : Borrowing) : List String :=
  ((s.books.find? loan.bookId).toList.flatMap (fun book => [book.title, book.author]))
  ++ (s.users.find? loan.userId).toList.flatMap (fun user =>
    user.email :: (user.firstName.toList ++ user.lastName.toList))

namespace LoanQuery

def ofParams (platform : Platform) (params : BorrowingsParams) : LoanQuery where
  status := params.status.bind Status.statuses
  text :=
    let q := BorrowingsController.text params.q
    if blank q then none else some q
  day := BorrowingsController.day platform params.date
  column := if params.sort = some "due_date" then Borrowing.dueDate else Borrowing.borrowedAt
  direction := (BorrowingsController.direction platform params.direction).getD
    (if params.sort = some "due_date" then .asc else .desc)

/-- What the parameters ask for does not depend on the page. -/
theorem ofParams_page (platform : Platform) (params : BorrowingsParams) (number : Int)
    : ofParams platform { params with page := number } = ofParams platform params := rfl

/-- The loan passes every filter that is asked for. -/
def Matches (platform : Platform) (s : Store) (query : LoanQuery) (loan : Borrowing) : Prop :=
  (∀ status ∈ query.status, loan.status = status)
  ∧ (∀ text ∈ query.text, ∃ column ∈ loan.searched s,
      like platform.fold ('%' :: text.toList ++ ['%']) column.toList)
  ∧ ∀ day ∈ query.day, toDate loan.borrowedAt = day

/-- Strictly before, by the column and the id, in the direction that is asked for. -/
def Precedes (query : LoanQuery) (first second : Borrowing) : Prop :=
  let place := fun loan : Borrowing => toLex (query.column loan, loan.id)
  match query.direction with
  | .asc => place first < place second
  | .desc => place second < place first

end LoanQuery

/-- Librarians see all loans, members their own. -/
def User.Sees (user : User) (loan : Borrowing) : Prop :=
  user.role = .librarian ∨ loan.userId = user.id

-----------------------------------------------------------------------------------------
-- The filters
-----------------------------------------------------------------------------------------

theorem presence_eq_some_iff {text : Option String} {value : String} (full : blank value = false)
    : presence text = some value ↔ text = some value := by
  simp only [presence, Option.filter_eq_some_iff]
  exact ⟨And.left, fun given => ⟨given, by simp [full]⟩⟩

/-- A blank status is none of the statuses. -/
theorem bind_presence_statuses (param : Option String)
    : (presence param).bind Status.statuses = param.bind Status.statuses := by
  cases param with
  | none => rfl
  | some text =>
      cases isBlank : blank text with
      | false => simp [presence, Option.filter, isBlank]
      | true =>
          have unknown : Status.statuses text = none := by
            unfold Status.statuses
            split <;> first | rfl | exact absurd isBlank (by decide)
          simp [presence, Option.filter, isBlank, unknown]

/-- The search looks into the columns of the joined book and user. -/
theorem Borrowing.textSearch_iff {platform : Platform} {query : String} {s : Store}
    {loan : Borrowing} (full : blank query = false)
    : loan.textSearch platform query s
      ↔ ∃ column ∈ loan.searched s,
          like platform.fold ('%' :: (strip query).toList ++ ['%']) column.toList := by
  simp only [textSearch, full, searched]
  cases s.books.find? loan.bookId <;> cases s.users.find? loan.userId <;>
    simp [Option.any_eq_true, or_and_right, exists_or, or_assoc]

/-- The scope keeps each matching loan once, since a loan has one book and one user, so that the
joins never multiply rows.
-/
theorem Borrowing.textSearchJoin_eq (platform : Platform) (query : String) (s : Store)
    (loans : List Borrowing)
    : textSearchJoin platform query s loans
      = loans.filter (textSearch platform query s) := by
  have books (loan : Borrowing)
      : (s.books.rows.filter (fun book => book.id == loan.bookId)).length ≤ 1 :=
    s.books.filter_key_length_le_one loan.bookId
  have users (row : Borrowing × Option Book)
      : (s.users.rows.filter (fun user => user.id == row.1.userId)).length ≤ 1 :=
    s.users.filter_key_length_le_one row.1.userId
  cases isBlank : blank query with
  | true =>
      have keeps : ∀ loan ∈ loans, loan.textSearch platform query s := fun _ _ => if_pos isBlank
      rw [List.filter_eq_self.mpr keeps, textSearchJoin, if_pos isBlank]
  | false =>
      simp only [textSearchJoin, isBlank, Bool.false_eq_true, if_false]
      rw [leftJoin_eq_map users, leftJoin_eq_map books]
      simp only [List.map_map, List.filter_map]
      refine (List.map_id'' ?_ _).trans (List.filter_congr ?_)
      · exact fun _ => rfl
      · intro loan _
        simp only [textSearch, isBlank]
        rfl

namespace BorrowingsController

/-- Librarians see all loans, members their own. -/
theorem scope_iff {user : User} {loan : Borrowing} : scope user loan ↔ user.Sees loan := by
  simp [scope, User.Sees, User.isLibrarian]

/-- The filter by status is by a recognised status, or lets all loans pass. -/
theorem statusFilter_iff {param : Option String} {loan : Borrowing}
    : statusFilter param loan ↔ ∀ status ∈ param.bind Status.statuses, loan.status = status := by
  rw [statusFilter, bind_presence_statuses]
  cases param.bind Status.statuses <;> simp

/-- The filter by date is by the day that the parser reads, or lets all loans pass. -/
theorem dateFilter_iff {platform : Platform} {param : Option String} {loan : Borrowing}
    : dateFilter platform param loan
      ↔ ∀ date ∈ day platform param, toDate loan.borrowedAt = date := by
  rw [dateFilter]
  cases day platform param <;> simp [toDate_eq_iff]

def textMatches (platform : Platform) (param : Option String) (s : Store) (loan : Borrowing)
    : Bool :=
  blank (text param) || loan.textSearch platform (text param) s

/-- The filter by text selects the loans whose book or user matches it: the join of the scope has
one row for each loan, since a loan has one book and one user.
-/
theorem textFilter_eq (platform : Platform) (param : Option String) (s : Store)
    (loans : List Borrowing)
    : textFilter platform param s loans = loans.filter (textMatches platform param s) := by
  rw [textFilter]
  split
  case isTrue isBlank =>
    exact (List.filter_eq_self.mpr (fun loan _ => by simp [textMatches, isBlank])).symm
  case isFalse full =>
    rw [Borrowing.textSearchJoin_eq]
    exact List.filter_congr (fun loan _ => by simp [textMatches, full])

/-- The text is looked for as the controller stripped it. -/
theorem textMatches_iff {platform : Platform} {param : Option String} {s : Store}
    {loan : Borrowing}
    : textMatches platform param s loan
      ↔ ∀ sought ∈ if blank (text param) then none else some (text param),
          ∃ column ∈ loan.searched s,
            like platform.fold ('%' :: sought.toList ++ ['%']) column.toList := by
  cases isBlank : blank (text param) with
  | true => simp [textMatches, isBlank]
  | false =>
      have stripped : strip (text param) = text param := strip_strip _
      have found := @Borrowing.textSearch_iff platform _ s loan isBlank
      rw [stripped] at found
      simp only [textMatches, isBlank, Bool.false_or, Bool.false_eq_true, if_false, found,
        Option.mem_def, Option.some.injEq, forall_eq']

def passes (platform : Platform) (user : User) (params : BorrowingsParams) (s : Store)
    (loan : Borrowing)
    : Bool :=
  scope user loan && statusFilter params.status loan && dateFilter platform params.date loan
    && textMatches platform params.q s loan

/-- A loan passes all filters exactly where the user sees it and it has what the parameters ask for.
-/
theorem passes_iff {platform : Platform} {user : User} {params : BorrowingsParams} {s : Store}
    {loan : Borrowing}
    : passes platform user params s loan
      ↔ user.Sees loan ∧ (LoanQuery.ofParams platform params).Matches platform s loan := by
  simp only [passes, Bool.and_eq_true, scope_iff, statusFilter_iff, dateFilter_iff,
    textMatches_iff, LoanQuery.Matches, LoanQuery.ofParams]
  tauto

/-- The list query, with its join replaced by a condition on the loan. -/
theorem rows_eq_filter (platform : Platform) (env : Env) (user : User)
    (params : BorrowingsParams) (s : Store)
    : rows platform env user params s
      = orderBy (before (ordering platform params).1 (ordering platform params).2)
          (fun loan => env.tie loan.id)
          (s.borrowings.rows.filter (passes platform user params s)) := by
  simp only [rows, textFilter_eq, List.filter_filter]
  refine congrArg (orderBy _ _) (List.filter_congr (fun loan _ => ?_))
  rw [passes, Bool.and_comm]

/-- The list query finds the loans that the user sees and that pass the filters. -/
theorem mem_rows_iff {platform : Platform} {env : Env} {user : User}
    {params : BorrowingsParams} {s : Store} {loan : Borrowing}
    : loan ∈ rows platform env user params s
      ↔ loan ∈ s.borrowings.rows ∧ user.Sees loan
        ∧ (LoanQuery.ofParams platform params).Matches platform s loan := by
  rw [rows_eq_filter, mem_orderBy, List.mem_filter]
  exact and_congr_right (fun _ => passes_iff)

-----------------------------------------------------------------------------------------
-- The order
-----------------------------------------------------------------------------------------

instance (column : Borrowing → Int) (dir : Direction) : Std.Total (before column dir) where
  total first second := by
    cases dir <;> simp only [before] <;> omega

instance (column : Borrowing → Int) (dir : Direction) : IsTrans Borrowing (before column dir) where
  trans first second third hf hs := by
    cases dir <;> simp only [before] at hf hs ⊢ <;> omega

/-- The id breaks every tie of the sort column. -/
theorem id_eq_of_before {column : Borrowing → Int} {dir : Direction} {first second : Borrowing}
    (hf : before column dir first second) (hs : before column dir second first)
    : first.id = second.id := by
  cases dir <;> simp only [before] at hf hs <;> omega

/-- The order is by the column and in the direction that the parameters ask for. -/
theorem ordering_eq (platform : Platform) (params : BorrowingsParams)
    : ordering platform params = ((LoanQuery.ofParams platform params).column,
        (LoanQuery.ofParams platform params).direction) := by
  have due : presence params.sort = some "due_date" ↔ params.sort = some "due_date" :=
    presence_eq_some_iff (by decide)
  simp only [ordering, LoanQuery.ofParams, due]
  split <;> rfl

/-- The list depends on what the parameters ask for alone, not on values that are not
recognised, nor on how the database returns ties.
-/
theorem rows_eq (platform : Platform) (env env' : Env) (user : User)
    {params params' : BorrowingsParams}
    (same : LoanQuery.ofParams platform params = LoanQuery.ofParams platform params')
    (s : Store)
    : rows platform env user params s = rows platform env' user params' s := by
  rw [rows_eq_filter, rows_eq_filter, ordering_eq, ordering_eq, same]
  refine orderBy_eq _ _ (.of_eq (List.filter_congr ?_)) ?_
  · intro loan _
    refine Bool.eq_iff_iff.mpr ?_
    rw [passes_iff, passes_iff, same]
  · intro first hf second hs forth back
    exact s.borrowings.eq_of_key_eq (List.mem_filter.mp hf).1 (List.mem_filter.mp hs).1
      (id_eq_of_before forth back)

/-- Different loans are strictly ordered. -/
theorem precedes_of_before {query : LoanQuery} {first second : Borrowing}
    (earlier : before query.column query.direction first second)
    (different : first.id ≠ second.id)
    : query.Precedes first second := by
  rw [LoanQuery.Precedes]
  cases dir : query.direction <;> simp only [dir, before] at earlier <;>
    simp only [Prod.Lex.toLex_lt_toLex] <;> omega

/-- The list is strictly ordered: ties of the chosen column are broken by the id, which no two rows
share.
-/
theorem rows_pairwise (platform : Platform) (env : Env) (user : User) (params : BorrowingsParams)
    (s : Store)
    : (rows platform env user params s).Pairwise
        (LoanQuery.ofParams platform params).Precedes := by
  have ordered : (rows platform env user params s).Pairwise
      (before (LoanQuery.ofParams platform params).column
        (LoanQuery.ofParams platform params).direction) := by
    rw [rows_eq_filter, ordering_eq]
    exact orderBy_pairwise _ _ _
  have distinct : (rows platform env user params s).Pairwise
      (fun first second => first.id ≠ second.id) := by
    rw [rows_eq_filter]
    refine List.pairwise_map.mp (List.Perm.nodup ((orderBy_perm _ _ _).map _).symm ?_)
    exact s.borrowings.nodup_keys.sublist (List.filter_sublist.map _)
  refine (ordered.and distinct).imp ?_
  rintro first second ⟨earlier, different⟩
  exact precedes_of_before earlier different

end BorrowingsController

-----------------------------------------------------------------------------------------
-- Requests that are answered with a list
-----------------------------------------------------------------------------------------

/-- The database can run the query: the text has no null character, and the day is one that its
timestamps reach.
-/
def LoanQuery.Answerable (query : LoanQuery) : Prop :=
  (∀ text ∈ query.text, hasNull text = false) ∧ ∀ date ∈ query.day, inTimestamp date

instance (query : LoanQuery) : Decidable query.Answerable :=
  inferInstanceAs (Decidable ((∀ text ∈ query.text, _) ∧ ∀ date ∈ query.day, _))

/-- A request without a text and a date is answered with a list. -/
theorem LoanQuery.answerable_of_absent (platform : Platform) {params : BorrowingsParams}
    (noText : params.q = none) (noDate : params.date = none)
    : (ofParams platform params).Answerable := by
  have empty : BorrowingsController.text none = "" := rfl
  have isBlank : blank "" := rfl
  simp [Answerable, ofParams, BorrowingsController.day, presence, noText, noDate, empty, isBlank]

def LoanQuery.exception (query : LoanQuery) : Option String :=
  if query.text.any hasNull then
    some "ArgumentError"
  else if query.day.any (fun date => !inTimestamp date) then
    some "ActiveRecord::StatementInvalid"
  else
    none

/-- The query raises nothing exactly where the database takes its text and its day. -/
theorem LoanQuery.exception_eq_none_iff {query : LoanQuery}
    : query.exception = none ↔ query.Answerable := by
  have texts : query.text.any hasNull = false ↔ ∀ text ∈ query.text, hasNull text = false := by
    cases query.text <;> simp
  have days : query.day.any (fun date => !inTimestamp date) = false
      ↔ ∀ date ∈ query.day, inTimestamp date := by
    cases query.day <;> simp
  rw [Answerable, ← texts, ← days, exception]
  cases query.text.any hasNull <;> cases query.day.any (fun date => !inTimestamp date) <;> simp

/-- What is raised depends on what the parameters ask for alone. -/
theorem BorrowingsController.exception_eq (platform : Platform) (params : BorrowingsParams)
    : exception platform params = (LoanQuery.ofParams platform params).exception := by
  have sought : (!blank (text params.q) && hasNull (text params.q))
      = (LoanQuery.ofParams platform params).text.any hasNull := by
    simp only [LoanQuery.ofParams]
    cases blank (text params.q) <;> rfl
  rw [exception, sought, LoanQuery.exception]
  rfl

/-- The parameters without the values that are not recognised. -/
def BorrowingsParams.recognised (platform : Platform) (params : BorrowingsParams)
    : BorrowingsParams :=
  { params with
    status := params.status.filter (fun status => (Status.statuses status).isSome)
    date := params.date.filter (fun date => (platform.parseDate date).isSome)
    direction := params.direction.filter (fun direction =>
      (BorrowingsController.direction platform (some direction)).isSome) }

/-- Values that are not recognised ask for nothing: each parameter is read the same way without
them.
-/
theorem BorrowingsParams.ofParams_recognised (platform : Platform) (params : BorrowingsParams)
    : LoanQuery.ofParams platform (params.recognised platform)
      = LoanQuery.ofParams platform params := by
  have status : (params.status.filter (fun status => (Status.statuses status).isSome)).bind
        Status.statuses
      = params.status.bind Status.statuses := by
    cases params.status with
    | none => rfl
    | some status => cases known : Status.statuses status <;> simp [Option.filter, known]
  have date : BorrowingsController.day platform
        (params.date.filter (fun date => (platform.parseDate date).isSome))
      = BorrowingsController.day platform params.date := by
    cases params.date with
    | none => rfl
    | some date =>
        cases parsed : platform.parseDate date <;> cases isBlank : blank date <;>
          simp [BorrowingsController.day, presence, Option.filter, parsed, isBlank]
  have direction : BorrowingsController.direction platform
        (params.direction.filter (fun direction =>
          (BorrowingsController.direction platform (some direction)).isSome))
      = BorrowingsController.direction platform params.direction := by
    have absent : BorrowingsController.direction platform none = none := by
      simp [BorrowingsController.direction, platform.downcase_empty]
    cases params.direction with
    | none => rfl
    | some direction =>
        cases known : BorrowingsController.direction platform (some direction) <;>
          simp [Option.filter, known, absent]
  simp only [LoanQuery.ofParams, recognised, status, date, direction]
  rfl

-----------------------------------------------------------------------------------------
-- The pages
-----------------------------------------------------------------------------------------

namespace BorrowingsController

/-- A page depends on its number and on what its parameters ask for alone. -/
theorem index_eq (platform : Platform) (env env' : Env) (user : User)
    {params params' : BorrowingsParams}
    (same : LoanQuery.ofParams platform params = LoanQuery.ofParams platform params')
    (number : Int) (s : Store)
    : index platform env user { params with page := number } s
      = index platform env' user { params' with page := number } s := by
  rw [← LoanQuery.ofParams_page platform params number,
    ← LoanQuery.ofParams_page platform params' number] at same
  have listed := rows_eq platform env env' user same s
  rw [index, index, exception_eq, exception_eq, same, items, items, listed]

/-- Where it raises nothing the answer is the list. -/
theorem index_of_answerable {platform : Platform} (env : Env) (user : User)
    {params : BorrowingsParams} (answerable : (LoanQuery.ofParams platform params).Answerable)
    (s : Store)
    : index platform env user params s
      = ⟨.ok, .borrowings (items platform env user params s)⟩ := by
  rw [index, exception_eq, LoanQuery.exception_eq_none_iff.mpr answerable]

/-- A list is served only where nothing is raised. -/
theorem answerable_of_index {platform : Platform} {env : Env} {user : User}
    {params : BorrowingsParams} {s : Store} {served : List BorrowingItem}
    (answered : index platform env user params s = ⟨.ok, .borrowings served⟩)
    : (LoanQuery.ofParams platform params).Answerable := by
  rw [index, exception_eq] at answered
  refine LoanQuery.exception_eq_none_iff.mp ?_
  cases outcome : (LoanQuery.ofParams platform params).exception with
  | none => rfl
  | some exception =>
      rw [outcome] at answered
      cases answered

end BorrowingsController

/-- What a signed-in user gets for a page of the list. -/
def loanPage (platform : Platform) (s : Store) (user : User) (format : Format)
    (params : BorrowingsParams) (env : Env) (number : Nat)
    : Response :=
  (perform platform s {
    env := env
    session := some user.id
    format := format
    request := .borrowings (.index { params with page := number }) }).1

def Response.loans (response : Response) : List Borrowing :=
  match response.body with
  | .borrowings items => items.map BorrowingItem.borrowing
  | _ => []

/-- A page is what the action answers for its number. -/
theorem loanPage_index (platform : Platform) {s : Store} {user : User}
    (known : user ∈ s.users.rows) (format : Format) (params : BorrowingsParams) (env : Env)
    (number : Nat)
    : loanPage platform s user format params env number
      = BorrowingsController.index platform env user { params with page := number } s := by
  have signedIn : s.users.find? user.id = some user := s.users.find?_of_mem known
  simp only [loanPage, perform, Call.currentUser, Option.bind_some, signedIn,
    BorrowingsController.handle, authenticateUser]

/-- Every page is cut from the same list, whatever the database does with ties. -/
theorem loanPage_eq (platform : Platform) {s : Store} {user : User} (known : user ∈ s.users.rows)
    (format : Format) {params params' : BorrowingsParams} (env env' : Env)
    (same : LoanQuery.ofParams platform params = LoanQuery.ofParams platform params')
    (answerable : (LoanQuery.ofParams platform params').Answerable) (index : Nat)
    : loanPage platform s user format params env (index + 1)
      = ⟨.ok, .borrowings ((page perPage (index + 1)
          (BorrowingsController.rows platform env' user params' s)).map
            (BorrowingsController.item s))⟩ := by
  rw [← LoanQuery.ofParams_page platform params' (index + 1 : Nat)] at answerable
  rw [loanPage_index platform known, BorrowingsController.index_eq platform env env' user same,
    BorrowingsController.index_of_answerable env' user answerable, BorrowingsController.items,
    pageNumber_succ]
  rfl

/-- The pages before `count` are, after one another, exactly the loans that the user sees and
that pass the filters, each once and strictly ordered, and the page after them is empty. Each
page may be served with another order of ties, and for other parameters that ask for the same.
-/
structure LoanPartition (platform : Platform) (s : Store) (user : User) (format : Format)
    (query : LoanQuery) (loans : List Borrowing) (pages : Nat → List BorrowingItem)
    (count : Nat)
    : Prop where
  listed
    : ∀ loan, loan ∈ loans
        ↔ loan ∈ s.borrowings.rows ∧ user.Sees loan ∧ query.Matches platform s loan
  once : loans.Nodup
  ordered : loans.Pairwise query.Precedes
  served
    : ∀ params, LoanQuery.ofParams platform params = query → ∀ env, ∀ index ≤ count,
        loanPage platform s user format params env (index + 1) = ⟨.ok, .borrowings (pages index)⟩
  full : ∀ index < count, pages index ≠ []
  empty : pages count = []
  covered : (List.range count).flatMap pages = loans.map (BorrowingsController.item s)

/-- The pages partition the list, and values that are not recognised are as if absent. -/
def ServesList (platform : Platform) (s : Store) (user : User) (format : Format)
    (params : BorrowingsParams)
    : Prop :=
  (∃ loans pages count,
    LoanPartition platform s user format (LoanQuery.ofParams platform params) loans pages count)
  ∧ ∀ env number,
      loanPage platform s user format params env number
        = loanPage platform s user format (params.recognised platform) env number

/-- A query that the database can run is served as a partition, on every page: the pages are cut
from one list, which has each matching loan once.
-/
theorem exists_loanPartition (platform : Platform) {s : Store} {user : User}
    (known : user ∈ s.users.rows) (format : Format) {params : BorrowingsParams}
    (answerable : (LoanQuery.ofParams platform params).Answerable)
    : ∃ loans pages count, LoanPartition platform s user format
        (LoanQuery.ofParams platform params) loans pages count := by
  let env : Env := { now := 0, salt := "", tie := id }
  let rows := BorrowingsController.rows platform env user params s
  have positive : 0 < perPage := by decide
  obtain ⟨count, full, empty, cover⟩ := exists_pages positive rows
  have once : (BorrowingsController.rows platform env user params s).Nodup := by
    rw [BorrowingsController.rows_eq_filter]
    exact (orderBy_perm _ _ _).nodup_iff.mpr (s.borrowings.nodup_rows.filter _)
  refine ⟨rows, fun index => (page perPage (index + 1) rows).map (BorrowingsController.item s),
    count, {
      listed := fun loan => BorrowingsController.mem_rows_iff
      once := once
      ordered := BorrowingsController.rows_pairwise platform env user params s
      served := ?_
      full := ?_
      empty := congrArg (List.map _) empty
      covered := ?_ }⟩
  · intro params' same other index _
    exact loanPage_eq platform known format other env same answerable index
  · intro index less none
    exact full index less (List.map_eq_nil_iff.mp none)
  · rw [← List.map_flatMap, cover]

/-- The list is served as a partition exactly for the queries that the database can run: a
request that raises serves no list, and the parameters that are not recognised never matter.
-/
theorem servesList_iff (platform : Platform) {s : Store} {user : User}
    (known : user ∈ s.users.rows) (format : Format) (params : BorrowingsParams)
    : ServesList platform s user format params
      ↔ (LoanQuery.ofParams platform params).Answerable := by
  constructor
  · rintro ⟨⟨loans, pages, count, partition⟩, _⟩
    have served := partition.served params rfl { now := 0, salt := "", tie := id } 0
      (Nat.zero_le count)
    rw [loanPage_index platform known] at served
    have answerable := BorrowingsController.answerable_of_index served
    rwa [LoanQuery.ofParams_page] at answerable
  · intro answerable
    refine ⟨exists_loanPartition platform known format answerable, fun env number => ?_⟩
    have same := (BorrowingsParams.ofParams_recognised platform params).symm
    rw [loanPage_index platform known, loanPage_index platform known]
    exact BorrowingsController.index_eq platform env env user same number s

-----------------------------------------------------------------------------------------
-- A platform that reads dates
-----------------------------------------------------------------------------------------

/-- The number that decimal digits write. -/
def readDigits (digits : List Char) : Option Nat :=
  if digits ≠ [] ∧ digits.all Char.isDigit then
    some (digits.foldl (fun number digit => 10 * number + (digit.toNat - '0'.toNat)) 0)
  else
    none

def daysInMonth (year month : Nat) : Nat :=
  if month = 2 then
    if year % 4 = 0 ∧ (year % 100 ≠ 0 ∨ year % 400 = 0) then 29 else 28
  else if month ∈ [4, 6, 9, 11] then
    30
  else
    31

/-- The day of a date of the Gregorian calendar, counted in years that begin in March. -/
def civilDay (year month day : Nat) : Int :=
  let years := if month ≤ 2 then year - 1 else year
  let months := (month + 9) % 12
  ((365 * years + years / 4 + years / 400 + (153 * months + 2) / 5 + day : Nat) : Int)
    - (years / 100 : Nat) - 719469

/-- Reads dates such as `2024-02-29`. -/
def Platform.isoDates : Platform :=
  { Platform.ascii with
    parseDate := fun text =>
      match (text.toList.splitOn '-').map readDigits with
      | [some year, some month, some day] =>
          if 1 ≤ month ∧ month ≤ 12 ∧ 1 ≤ day ∧ day ≤ daysInMonth year month then
            some (civilDay year month day)
          else
            none
      | _ => none }

example : Platform.isoDates.parseDate "1970-01-01" = some 0 := by decide

/-- The first day of the year 999999 is a date, but none that the database can compare, so every
page is answered with an exception.
-/
theorem far_date_raises
    : (∀ env, loanPage .isoDates Store.sampleLending Store.sampleLending.users.rows[1] .json
          { date := some "999999-01-01" } env 1 = raised "ActiveRecord::StatementInvalid")
      ∧ ¬ServesList .isoDates Store.sampleLending Store.sampleLending.users.rows[1] .json
          { date := some "999999-01-01" } := by
  have known : Store.sampleLending.users.rows[1] ∈ Store.sampleLending.users.rows :=
    List.getElem_mem _
  have raises (env : Env)
      : loanPage .isoDates Store.sampleLending Store.sampleLending.users.rows[1] .json
          { date := some "999999-01-01" } env 1 = raised "ActiveRecord::StatementInvalid" := by
    rw [loanPage_index .isoDates known]
    rfl
  refine ⟨raises, ?_⟩
  rintro ⟨⟨loans, pages, count, partition⟩, _⟩
  have served := partition.served _ rfl { now := 0, salt := "", tie := id } 0 (Nat.zero_le count)
  rw [raises] at served
  cases served

/-- A member's thirty loans are on two pages, for values of which only the text is recognised: no
such status, day or direction exists.
-/
theorem servesList_sample
    : let s := Store.sampleLending
      let params : BorrowingsParams :=
        { status := some "lost", q := some " mystring ", date := some "2023-02-29",
          direction := some "up" }
      s.users.rows[1].role = .member
      ∧ ServesList .isoDates s s.users.rows[1] .json params
      ∧ ∀ env, (List.range 3).map (fun index =>
          (loanPage .isoDates s s.users.rows[1] .json params env (index + 1)).loans.length)
            = [25, 5, 0] := by
  intro s params
  have known : s.users.rows[1] ∈ s.users.rows := List.getElem_mem _
  have answerable : (LoanQuery.ofParams .isoDates params).Answerable := by decide +kernel
  refine ⟨rfl, (servesList_iff .isoDates known .json params).mpr answerable, fun env => ?_⟩
  have sizes : (List.range 3).map (fun index => (page perPage (index + 1)
        (BorrowingsController.rows .isoDates { now := 0, salt := "", tie := id } s.users.rows[1]
          params s)).length) = [25, 5, 0] := by
    decide +kernel
  rw [← sizes]
  refine List.map_congr_left (fun index _ => ?_)
  rw [loanPage_eq .isoDates known .json env { now := 0, salt := "", tie := id } rfl answerable]
  simp [Response.loans]

end LibraryManagement
