import LibraryManagement.Lending.Loans

/-! The flag `can_borrow`, computed in SQL, against the rule that `POST /borrowings` enforces.
-/

namespace LibraryManagement

open Relational

/-- The joined grouped count is the number the Ruby validator subtracts; books without
active loans have no group and count zero.
-/
theorem Book.activeCount_lt_iff (s : Store) (book : Book)
    : let active := groupCount Borrowing.bookId (s.borrowings.rows.filter (fun loan =>
        loan.status == .borrowed && loan.returnedAt.isNone))
      ((((active.find? (fun group => group.1 == book.id)).map Prod.snd).getD 0 : Nat) : Int)
          < book.totalCopies
        ↔ 0 < book.availableCopies s := by
  intro active
  rw [groupCount_coalesce, List.countP_filter, availableCopies]
  simp only [Bool.and_assoc]
  omega

/-- The joined distinct book is null exactly when the duplicate validator finds no loan. -/
theorem Book.userActive_isNone_iff (s : Store) (user : User) (book : Book)
    : ((distinct Borrowing.bookId (s.borrowings.rows.filter (fun loan =>
          loan.userId == user.id && loan.status == .borrowed && loan.returnedAt.isNone))).find?
        (fun other => other == book.id)).isNone
      = !s.borrowings.rows.any (fun loan =>
          loan.userId == user.id && loan.bookId == book.id && loan.active) := by
  rw [Bool.eq_iff_iff, distinct_find?_isNone]
  simp only [List.mem_filter, Bool.and_eq_true, beq_iff_eq, Bool.not_eq_true', List.any_eq_false,
    Borrowing.active]
  constructor
  · intro absent loan member ⟨⟨owns, lent⟩, borrowed, out⟩
    exact absent loan ⟨member, ⟨owns, borrowed⟩, out⟩ lent
  · intro absent loan ⟨member, ⟨owns, borrowed⟩, out⟩ lent
    exact absent loan member ⟨⟨owns, lent⟩, borrowed, out⟩

/-- The two joins neither drop nor repeat books, and the flag of a book is the conjunction
of the caller's role with the rule of the validators.
-/
theorem Book.withCanBorrowFor_eq (s : Store) (user : User)
    : withCanBorrowFor s (some user)
      = s.books.rows.map (fun book => (book, user.role == .member && s.mayBorrow user book)) := by
  simp only [withCanBorrowFor, Option.map_some, Option.getD_some, Option.any_some]
  rw [leftJoin_eq_map
      (fun row : Book × Option (Nat × Nat) => distinct_matches_le_one _ _ row.1.id),
    leftJoin_eq_map (fun book : Book => groupCount_matches_le_one _ _ book.id),
    List.map_map, List.map_map]
  refine List.map_congr_left ?_
  intro book _
  have copies := Book.activeCount_lt_iff s book
  have duplicate := Book.userActive_isNone_iff s user book
  simp only [Function.comp_apply, duplicate, copies, Store.mayBorrow, Prod.mk.injEq, true_and]
  rw [Bool.and_assoc, Bool.and_comm (decide _)]

def Call.borrow (env : Env) (format : Format) (userId bookId : Nat) : Call where
  env := env
  session := some userId
  format := format
  request := .borrowings (.create bookId)

/-- A borrowing, whatever else the request carries, is answered with a new row. -/
def Accepted (platform : Platform) (s : Store) (userId bookId : Nat) : Prop :=
  ∀ env format, (perform platform s (.borrow env format userId bookId)).1.status = .created

/-- A known user's borrowing of a known book is accepted exactly when the validators have no
objection.
-/
theorem accepted_iff (platform : Platform) {s : Store} {user : User} {book : Book}
    (known : user ∈ s.users.rows) (found : book ∈ s.books.rows)
    : Accepted platform s user.id book.id ↔ s.mayBorrow user book := by
  have signedIn (env : Env) (format : Format)
      : (Call.borrow env format user.id book.id).currentUser s = some user :=
    s.users.find?_of_mem known
  cases allowed : s.mayBorrow user book with
  | true =>
      refine iff_of_true (fun env format => ?_) rfl
      have lent : (Call.borrow env format user.id book.id).lends s = some (user, book) :=
        Call.lends_eq_some_iff.mpr ⟨signedIn env format, rfl, found, allowed⟩
      rw [perform_lends lent]
  | false =>
      refine iff_of_false (fun accepted => ?_) Bool.false_ne_true
      have answer := accepted { now := 0, salt := "", tie := id } .json
      rw [perform_refused (signedIn _ _) rfl found allowed] at answer
      cases answer

-----------------------------------------------------------------------------------------
-- Where the flag is served
-----------------------------------------------------------------------------------------

theorem Book.mem_withCanBorrowFor {s : Store} {user : User} {row : Book × Bool}
    (member : row ∈ withCanBorrowFor s (some user))
    : row.1 ∈ s.books.rows ∧ row.2 = (user.role == .member && s.mayBorrow user row.1) := by
  rw [withCanBorrowFor_eq] at member
  obtain ⟨book, found, rfl⟩ := List.mem_map.mp member
  exact ⟨found, rfl⟩

theorem Book.mem_topByBorrowings {env : Env} {s : Store} {limit : Nat} {top : Book × Nat}
    (member : top ∈ topByBorrowings env s limit)
    : top.1 ∈ s.books.rows := by
  obtain ⟨book, found, rfl⟩ := List.mem_map.mp (mem_orderBy.mp (List.mem_of_mem_take member))
  exact found

/-- Top books carry the flag of their book: the lookup by id finds an entry, and every entry
under the id is of that book.
-/
theorem DashboardsController.mem_topBooks {env : Env} {user : User} {s : Store} {top : TopBook}
    (member : top ∈ topBooks env user s)
    : ∃ book ∈ s.books.rows, top.id = book.id
        ∧ top.canBorrow = (user.role == .member && s.mayBorrow user book) := by
  obtain ⟨row, ranked, rfl⟩ := List.mem_map.mp member
  have found := Book.mem_topByBorrowings ranked
  refine ⟨row.1, found, rfl, ?_⟩
  dsimp only
  generalize canBorrowMap : List.map _ _ = entries
  have listed : (row.1.id, user.role == .member && s.mayBorrow user row.1) ∈ entries := by
    rw [← canBorrowMap, Book.withCanBorrowFor_eq]
    refine List.mem_map.mpr ⟨(row.1, _), List.mem_filter.mpr ⟨List.mem_map.mpr
      ⟨row.1, found, rfl⟩, ?_⟩, rfl⟩
    exact List.any_eq_true.mpr ⟨row, ranked, beq_self_eq_true _⟩
  cases lookup : entries.find? (fun entry => entry.1 == row.1.id) with
  | none =>
      have absent := List.find?_eq_none.mp lookup _ listed
      simp at absent
  | some entry =>
      have same : entry.1 = row.1.id := by simpa using List.find?_some lookup
      have present := List.mem_of_find?_eq_some lookup
      rw [← canBorrowMap] at present
      obtain ⟨other, kept, rfl⟩ := List.mem_map.mp present
      obtain ⟨there, flag⟩ := Book.mem_withCanBorrowFor (List.mem_filter.mp kept).1
      have unchanged : other.1 = row.1 := s.books.eq_of_key_eq there found same
      rw [← unchanged]
      exact flag

/-- What `GET /books` answers is a page of the rows that the scope selects and the search keeps,
in the order in which the database returns them.
-/
theorem perform_bookPage (platform : Platform) {s : Store} {user : User}
    (known : user ∈ s.users.rows) (env : Env) (q : Option String) (number : Int)
    : ∃ rows : List (Book × Bool),
        rows.Perm ((Book.withCanBorrowFor s (some user)).filter (fun row =>
          row.1.search platform q))
        ∧ (perform platform s
            { env := env, session := some user.id, request := .books (.index q number) }).1
          = ⟨.ok, .books ((page perPage (pageNumber number) rows).map
              BooksController.record)⟩ := by
  refine ⟨_, orderBy_perm (fun _ _ => True) (fun row => env.tie row.1.id) _, ?_⟩
  rw [perform_listBooks platform (Call.currentUser_eq_some known rfl) rfl]
  rfl

/-- For a member, the flag of a book is true exactly when a borrowing of that book would be
accepted next, wherever the flag is served: the scope that computes it lists every book once,
`GET /books` serves the page of its rows, and the dashboard looks its top books up in it.
-/
theorem canBorrow_iff_accepted (platform : Platform) {s : Store} {user : User}
    (known : user ∈ s.users.rows) (isMember : user.role = .member)
    : (Book.withCanBorrowFor s (some user)).map Prod.fst = s.books.rows
      ∧ (∀ row ∈ Book.withCanBorrowFor s (some user),
          row.2 = true ↔ Accepted platform s user.id row.1.id)
      ∧ (∀ env q number, ∃ rows : List (Book × Bool),
          rows.Perm ((Book.withCanBorrowFor s (some user)).filter (fun row =>
            row.1.search platform q))
          ∧ (perform platform s
              { env := env, session := some user.id, request := .books (.index q number) }).1
            = ⟨.ok, .books ((page perPage (pageNumber number) rows).map
                BooksController.record)⟩
          ∧ ∀ record ∈ (page perPage (pageNumber number) rows).map BooksController.record,
              record.canBorrow = true ↔ Accepted platform s user.id record.id)
      ∧ (∀ env format, ∃ data,
          (perform platform s
            { env := env, session := some user.id, format := format,
              request := .dashboard .member }).1
            = ⟨.ok, .memberDashboard data⟩
          ∧ data.topBooks.map (fun top => (top.id, top.borrowingsCount))
            = (Book.topByBorrowings env s 5).map (fun row => (row.1.id, row.2))
          ∧ ∀ top ∈ data.topBooks, top.canBorrow = true ↔ Accepted platform s user.id top.id) := by
  have signedIn : s.users.find? user.id = some user := s.users.find?_of_mem known
  have agrees {id : Nat} {flag : Bool} (served : ∃ book ∈ s.books.rows,
      id = book.id ∧ flag = (user.role == .member && s.mayBorrow user book))
      : flag = true ↔ Accepted platform s user.id id := by
    obtain ⟨book, found, rfl, rfl⟩ := served
    simp [accepted_iff platform known found, isMember]
  have flagged (row : Book × Bool) (member : row ∈ Book.withCanBorrowFor s (some user))
      : row.2 = true ↔ Accepted platform s user.id row.1.id := by
    obtain ⟨found, flag⟩ := Book.mem_withCanBorrowFor member
    exact agrees ⟨row.1, found, rfl, flag⟩
  refine ⟨?_, flagged, ?_, ?_⟩
  · rw [Book.withCanBorrowFor_eq, List.map_map]
    exact List.map_id _
  · intro env q number
    obtain ⟨rows, selected, answered⟩ := perform_bookPage platform known env q number
    refine ⟨rows, selected, answered, fun record listed => ?_⟩
    obtain ⟨row, paged, rfl⟩ := List.mem_map.mp listed
    exact flagged row (List.mem_filter.mp (selected.subset (mem_of_mem_page paged))).1
  · intro env format
    refine ⟨DashboardsController.member env user s, ?_, ?_, ?_⟩
    · simp [perform, Call.currentUser, signedIn, DashboardsController.handle, authenticateUser,
        isMember]
    · simp [DashboardsController.member, DashboardsController.topBooks]
    · exact fun top member => agrees (DashboardsController.mem_topBooks member)

/-- A member with a loan that is active and one that is overdue, and another member with two more.
Only the books of the active loans are not offered.
-/
theorem canBorrow_sample
    : let s := Store.sampleLending
      let user := s.users.rows[1]
      user.role = .member
      ∧ (∀ row ∈ Book.withCanBorrowFor s (some user),
          Accepted .ascii s user.id row.1.id ↔ row.1.id ≠ 7 ∧ row.1.id ≠ 8)
      ∧ (∀ env, ∃ records, records.length = 25
          ∧ (perform .ascii s
              { env := env, session := some user.id, request := .books (.index none 1) }).1
            = ⟨.ok, .books records⟩
          ∧ ∀ record ∈ records, record.canBorrow = true ↔ Accepted .ascii s user.id record.id)
      ∧ ∀ env, ∃ data, data.topBooks.length = 5
          ∧ (perform .ascii s
              { env := env, session := some user.id, request := .dashboard .member }).1
            = ⟨.ok, .memberDashboard data⟩
          ∧ ∀ top ∈ data.topBooks, top.canBorrow = true ↔ Accepted .ascii s user.id top.id := by
  intro s user
  have known : user ∈ s.users.rows := List.getElem_mem _
  obtain ⟨once, flags, listed, ranked⟩ := canBorrow_iff_accepted .ascii known rfl
  refine ⟨rfl, fun row member => ?_, fun env => ?_, fun env => ?_⟩
  · rw [← flags row member]
    have figures : ∀ row ∈ Book.withCanBorrowFor s (some user),
        row.2 = true ↔ row.1.id ≠ 7 ∧ row.1.id ≠ 8 := by
      decide +kernel
    exact figures row member
  · obtain ⟨rows, selected, answered, offers⟩ := listed env none 1
    have count : rows.length = 26 := selected.length_eq.trans (by decide +kernel)
    have first : pageNumber 1 = 0 + 1 := rfl
    refine ⟨_, ?_, answered, offers⟩
    rw [List.length_map, first, length_page, count]
    rfl
  · obtain ⟨data, answered, top, offers⟩ := ranked env .json
    have count := congrArg List.length top
    refine ⟨data, ?_, answered, offers⟩
    rw [List.length_map, List.length_map] at count
    rw [count, Book.topByBorrowings, List.length_take, (orderBy_perm _ _ _).length_eq,
      List.length_map]
    rfl

end LibraryManagement
