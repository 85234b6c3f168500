import LibraryManagement.Catalog.Pages
import LibraryManagement.Lending.LoanList
import LibraryManagement.Relational.Ranking

/-! The two dashboards. Their figures are counted by queries of their own; they agree with the lists
that a user pages through, and their rankings hold the rows of the highest scores.
-/

namespace LibraryManagement

open Relational

-----------------------------------------------------------------------------------------
-- All pages of a list
-----------------------------------------------------------------------------------------

/-- The loans with the status on the pages before `count`, each page with ties of its own. -/
def pagedLoans (platform : Platform) (s : Store) (user : User) (status : String)
    (envs : Nat → Env) (count : Nat)
    : List Borrowing :=
  (List.range count).flatMap (fun index =>
    (loanPage platform s user .json { status := some status } (envs index) (index + 1)).loans)

/-- The ids of the books on the pages before `count`. -/
def pagedBooks (platform : Platform) (s : Store) (user : User) (envs : Nat → Env) (count : Nat)
    : List Nat :=
  (List.range count).flatMap (fun index =>
    (bookPage platform s user none (envs index) (index + 1)).ids)

/-- The next page of loans is empty: there are no more. -/
def LastLoanPage (platform : Platform) (s : Store) (user : User) (status : String)
    (envs : Nat → Env) (count : Nat)
    : Prop :=
  (loanPage platform s user .json { status := some status } (envs count) (count + 1)).loans = []

/-- The next page of books is empty: there are no more. -/
def LastBookPage (platform : Platform) (s : Store) (user : User) (envs : Nat → Env) (count : Nat)
    : Prop :=
  (bookPage platform s user none (envs count) (count + 1)).ids = []

instance (platform : Platform) (s : Store) (user : User) (status : String) (envs : Nat → Env)
    (count : Nat)
    : Decidable (LastLoanPage platform s user status envs count) :=
  inferInstanceAs (Decidable (_ = []))

instance (platform : Platform) (s : Store) (user : User) (envs : Nat → Env) (count : Nat)
    : Decidable (LastBookPage platform s user envs count) :=
  inferInstanceAs (Decidable (_ = []))

/-- Lists of one length have equally many rows on their pages. -/
theorem length_flatMap_page {size count length : Nat} {lists : Nat → List α}
    (lengths : ∀ index, (lists index).length = length)
    : ((List.range count).flatMap (fun index => page size (index + 1) (lists index))).length
      = min (count * size) length := by
  induction count with
  | zero => simp
  | succ count ih =>
      rw [List.range_succ, List.flatMap_append, List.length_append, ih, List.flatMap_singleton,
        length_page, lengths, Nat.succ_mul]
      omega

/-- The pages before an empty one hold all rows. -/
theorem length_le_of_page_eq_nil {size count : Nat} {rows : List α} (positive : 0 < size)
    (empty : page size (count + 1) rows = [])
    : rows.length ≤ count * size := by
  have short := congrArg List.length empty
  rw [length_page, List.length_nil] at short
  omega

section Lists

variable {platform : Platform} {s : Store} {user : User} (known : user ∈ s.users.rows)
  {envs : Nat → Env} {count : Nat}

include known

theorem loanPage_loans (status : String) (env : Env) (index : Nat)
    : (loanPage platform s user .json { status := some status } env (index + 1)).loans
      = page perPage (index + 1)
          (BorrowingsController.rows platform { now := 0, salt := "", tie := id } user
            { status := some status } s) := by
  rw [loanPage_eq platform known .json env { now := 0, salt := "", tie := id } rfl
    (LoanQuery.answerable_of_absent platform rfl rfl)]
  simp [Response.loans, BorrowingsController.item, Function.comp_def]

/-- The pages of the loans with a status are the loans of the user's scope with it, in some order:
they are cut from one list, and the last of them is its end.
-/
theorem pagedLoans_perm (status : Status) {name : String}
    (named : Status.statuses name = some status)
    (last : LastLoanPage platform s user name envs count)
    : (pagedLoans platform s user name envs count).Perm
        (s.borrowings.rows.filter (fun loan =>
          BorrowingsController.scope user loan && loan.status == status)) := by
  rw [LastLoanPage, loanPage_loans known] at last
  have all := length_le_of_page_eq_nil (by decide) last
  have pages : pagedLoans platform s user name envs count
      = BorrowingsController.rows platform { now := 0, salt := "", tie := id } user
          { status := some name } s := by
    simp only [pagedLoans, loanPage_loans known]
    rw [flatMap_page, List.take_of_length_le all]
  rw [pages, BorrowingsController.rows_eq_filter]
  refine (orderBy_perm _ _ _).trans (.of_eq (List.filter_congr (fun loan _ => ?_)))
  have filtered : BorrowingsController.statusFilter (some name) loan = (loan.status == status) := by
    rw [BorrowingsController.statusFilter, bind_presence_statuses, Option.bind_some, named]
  have text : BorrowingsController.textMatches platform none s loan := rfl
  have date : BorrowingsController.dateFilter platform none loan := rfl
  rw [BorrowingsController.passes, filtered, text, date, Bool.and_true, Bool.and_true]

/-- Books return in no order, but on pages of one length. -/
theorem length_pagedBooks (last : LastBookPage platform s user envs count)
    : (pagedBooks platform s user envs count).length = s.books.rows.length := by
  have lengths (index : Nat)
      : (orderBy (fun _ _ => True) (fun row => (envs index).tie row.1.id)
          ((Book.withCanBorrowFor s (some user)).filter (fun row =>
            row.1.search platform none))).length = s.books.rows.length := by
    rw [(orderBy_perm _ _ _).length_eq, Book.withCanBorrowFor_eq, List.filter_eq_self.mpr]
    · exact List.length_map _
    · exact fun _ _ => rfl
  have all := length_le_of_page_eq_nil (by decide)
    (List.map_eq_nil_iff.mp ((bookPage_ids platform known none (envs count) count).symm.trans last))
  rw [lengths] at all
  simp only [pagedBooks, bookPage_ids platform known]
  rw [← List.map_flatMap, List.length_map, length_flatMap_page lengths, Nat.min_eq_right all]

end Lists

-----------------------------------------------------------------------------------------
-- Rankings
-----------------------------------------------------------------------------------------

def Book.borrowingsCount (s : Store) (book : Book) : Nat :=
  s.borrowings.rows.countP (fun loan => loan.bookId == book.id)

def genreCount (s : Store) (genre : String) : Nat :=
  s.books.rows.countP (fun book => book.genre == genre)

namespace DashboardsController

theorem latest_ranks (env : Env) (limit : Nat) {loans : List Borrowing} (distinct : loans.Nodup)
    : Ranks Borrowing.createdAt limit loans (latest env limit loans) :=
  ranks_take_orderBy Borrowing.createdAt (fun loan => env.tie loan.id) limit distinct

theorem topGenres_shows (env : Env) (s : Store)
    : ShowsRanking (genreCount s) 5 (distinct Book.genre s.books.rows)
        (fun genre => (genre, genreCount s genre)) (librarian env s).topGenres := by
  let groups := groupCount Book.genre s.books.rows
  have names : groups.zipIdx.map (fun row => row.1.1) = distinct Book.genre s.books.rows := by
    calc groups.zipIdx.map (fun row => row.1.1)
      _ = (groups.zipIdx.map Prod.fst).map Prod.fst := by rw [List.map_map]; rfl
      _ = groups.map Prod.fst := by rw [List.zipIdx_map_fst]
      _ = distinct Book.genre s.books.rows := by
        simp [groups, groupCount, distinct, Function.comp_def]
  have nodup : (groups.zipIdx.map (fun row => row.1.1)).Nodup := names ▸ List.nodup_dedup _
  have counted : ∀ row ∈ groups.zipIdx, genreCount s row.1.1 = row.1.2 := by
    intro row member
    obtain ⟨genre, _, same⟩ := List.mem_map.mp (List.fst_mem_of_mem_zipIdx member)
    rw [← same]
    rfl
  have ranks := ranks_take_orderBy (fun row : (String × Nat) × Nat => row.1.2)
    (fun row => env.tie row.2) 5 (.of_map _ nodup)
  rw [← names]
  refine (ranks.map counted nodup).shows nodup ?_
  rw [List.map_map]
  refine List.map_congr_left (fun row selected => ?_)
  simp only [Function.comp_apply, counted row (ranks.subset selected)]

theorem topByBorrowings_ranks (env : Env) (s : Store) (limit : Nat)
    : ∃ ranking, Ranks (Book.borrowingsCount s) limit s.books.rows ranking
        ∧ Book.topByBorrowings env s limit
          = ranking.map (fun book => (book, book.borrowingsCount s)) := by
  let counted := s.books.rows.map (fun book => (book, book.borrowingsCount s))
  have books : counted.map Prod.fst = s.books.rows := by
    simp [counted, Function.comp_def]
  have nodup : (counted.map Prod.fst).Nodup := books ▸ s.books.nodup_rows
  have same : ∀ row ∈ counted, row.1.borrowingsCount s = row.2 := by
    intro row member
    obtain ⟨book, _, rfl⟩ := List.mem_map.mp member
    rfl
  have ranks := ranks_take_orderBy (fun row : Book × Nat => row.2)
    (fun row => env.tie row.1.id) limit (.of_map _ nodup)
  refine ⟨_, books ▸ ranks.map same nodup, ?_⟩
  rw [List.map_map, eq_comm]
  refine (List.map_congr_left (fun row selected => ?_)).trans (List.map_id _)
  simp only [Function.comp_apply, same row (ranks.subset selected), id]

def topBook (s : Store) (user : User) (book : Book) : TopBook where
  id := book.id
  title := book.title
  author := book.author
  genre := book.genre
  borrowingsCount := book.borrowingsCount s
  canBorrow := user.role == .member && s.mayBorrow user book

theorem topBooks_shows (env : Env) (user : User) (s : Store)
    : ShowsRanking (Book.borrowingsCount s) 5 s.books.rows (topBook s user)
        (topBooks env user s) := by
  obtain ⟨ranking, ranks, rows⟩ := topByBorrowings_ranks env s 5
  refine ranks.shows s.books.nodup_rows ?_
  have flags := fun top => @mem_topBooks env user s top
  simp only [topBooks, rows, List.map_map] at flags ⊢
  refine List.map_congr_left (fun book selected => ?_)
  obtain ⟨other, found, same, flag⟩ := flags _ (List.mem_map_of_mem selected)
  obtain rfl := s.books.eq_of_key_eq (ranks.subset selected) found same
  simp only [Function.comp_apply] at flag ⊢
  rw [flag]
  rfl

end DashboardsController

-----------------------------------------------------------------------------------------
-- The dashboards
-----------------------------------------------------------------------------------------

/-- `today..(today + 3.days)` -/
def Borrowing.dueWithin (today : Int) (loan : Borrowing) : Bool :=
  today ≤ loan.dueDate && loan.dueDate ≤ today + 3

section Figures

variable {platform : Platform} {s : Store} {user : User} (known : user ∈ s.users.rows)
  {envs : Nat → Env} {count : Nat}

include known

theorem length_pagedLoans (status : Status) {name : String}
    (named : Status.statuses name = some status)
    (last : LastLoanPage platform s user name envs count)
    : (pagedLoans platform s user name envs count).length
      = s.borrowings.rows.countP (fun loan =>
          BorrowingsController.scope user loan && loan.status == status) := by
  rw [(pagedLoans_perm known status named last).length_eq, List.countP_eq_length_filter]

/-- The loans that are due soon are counted among the borrowed ones. -/
theorem countP_dueWithin (last : LastLoanPage platform s user "borrowed" envs count) (today : Int)
    : (pagedLoans platform s user "borrowed" envs count).countP (Borrowing.dueWithin today)
      = s.borrowings.rows.countP (fun loan =>
          BorrowingsController.scope user loan && DashboardsController.dueSoon today loan) := by
  rw [(pagedLoans_perm known .borrowed rfl last).countP_eq, List.countP_filter]
  refine List.countP_congr (fun loan _ => ?_)
  simp only [DashboardsController.dueSoon, Borrowing.dueWithin, Bool.and_eq_true,
    decide_eq_true_iff]
  tauto

end Figures

/-- A loan is not borrowed and overdue at once. -/
theorem currentLoans_perm (loans : List Borrowing) (user : User)
    : ((loans.filter (fun loan => loan.userId == user.id)).filter (fun loan =>
          loan.status == .borrowed || loan.status == .overdue)).Perm
        (loans.filter (fun loan => loan.userId == user.id && loan.status == .borrowed)
          ++ loans.filter (fun loan => loan.userId == user.id && loan.status == .overdue)) := by
  refine (List.filter_append_perm (fun loan : Borrowing => loan.status == .borrowed) _).symm.trans
    (.of_eq ?_)
  simp only [List.filter_filter]
  congr 1
  · refine List.filter_congr (fun loan _ => ?_)
    cases loan.status <;> cases loan.userId == user.id <;> rfl
  · refine List.filter_congr (fun loan _ => ?_)
    cases loan.status <;> cases loan.userId == user.id <;> rfl

/-- Everything on the librarian's dashboard is exact, whatever the order of ties: each figure is
the length of the list that it stands for, over all of its pages, and the rankings hold the
genres with most books and the loans created last.
-/
theorem librarianDashboard_exact (platform : Platform) {s : Store} {user : User}
    (known : user ∈ s.users.rows) (librarian : user.role = .librarian) (env : Env)
    (format : Format)
    : ∃ data,
        (perform platform s
          { env := env, session := some user.id, format := format,
            request := .dashboard .librarian }).1 = ⟨.ok, .librarianDashboard data⟩
        ∧ (∀ envs count, LastBookPage platform s user envs count
          → (pagedBooks platform s user envs count).length = data.totalBooks)
        ∧ (∀ envs count, LastLoanPage platform s user "borrowed" envs count
          → (pagedLoans platform s user "borrowed" envs count).length = data.currentlyBorrowed
            ∧ (pagedLoans platform s user "borrowed" envs count).countP
                (Borrowing.dueWithin env.today) = data.dueToday)
        ∧ (∀ envs count, LastLoanPage platform s user "overdue" envs count
          → (pagedLoans platform s user "overdue" envs count).length = data.overdueBooksCount)
        ∧ ShowsRanking (genreCount s) 5 (distinct Book.genre s.books.rows)
            (fun genre => (genre, genreCount s genre)) data.topGenres
        ∧ ShowsRanking Borrowing.createdAt 5 s.borrowings.rows
            (DashboardsController.withBookAndUser s) data.recentBorrowings := by
  have signedIn : s.users.find? user.id = some user := s.users.find?_of_mem known
  have all (loan : Borrowing) : BorrowingsController.scope user loan = true := by
    simp [BorrowingsController.scope, User.isLibrarian, librarian]
  refine ⟨DashboardsController.librarian env s, ?_, ?_, ?_, ?_, ?_, ?_⟩
  · simp [perform, Call.currentUser, signedIn, DashboardsController.handle, authenticateUser,
      librarian]
  · exact fun envs count last => length_pagedBooks known last
  · intro envs count last
    rw [length_pagedLoans known .borrowed rfl last, countP_dueWithin known last]
    simp only [all, Bool.true_and]
    exact ⟨rfl, rfl⟩
  · intro envs count last
    rw [length_pagedLoans known .overdue rfl last]
    simp only [all, Bool.true_and]
    rfl
  · exact DashboardsController.topGenres_shows env s
  · exact (DashboardsController.latest_ranks env 5 s.borrowings.nodup_rows).shows
      s.borrowings.nodup_rows rfl

/-- On day 72 two of the loans that are out are overdue and the other two due soon, which the
dashboard and the pages of the list agree on.
-/
theorem librarianDashboard_exact_sample
    : let s := Store.sampleLending
      let user := s.users.rows[0]
      let call := Call.onDay 72 (some user.id) (.dashboard .librarian)
      let envs := fun _ : Nat => call.env
      ∃ data, (perform .ascii s call).1 = ⟨.ok, .librarianDashboard data⟩
        ∧ (pagedBooks .ascii s user envs 2).length = data.totalBooks ∧ data.totalBooks = 26
        ∧ (pagedLoans .ascii s user "borrowed" envs 1).length = data.currentlyBorrowed
        ∧ data.currentlyBorrowed = 2
        ∧ (pagedLoans .ascii s user "borrowed" envs 1).countP (Borrowing.dueWithin 72)
          = data.dueToday
        ∧ data.dueToday = 2
        ∧ (pagedLoans .ascii s user "overdue" envs 1).length = data.overdueBooksCount
        ∧ data.overdueBooksCount = 2
        ∧ ShowsRanking (genreCount s) 5 (distinct Book.genre s.books.rows)
            (fun genre => (genre, genreCount s genre)) data.topGenres
        ∧ ShowsRanking Borrowing.createdAt 5 s.borrowings.rows
            (DashboardsController.withBookAndUser s) data.recentBorrowings := by
  intro s user call envs
  have known : user ∈ s.users.rows := List.getElem_mem _
  obtain ⟨data, answered, books, borrowed, overdue, genres, recent⟩ :=
    librarianDashboard_exact .ascii known rfl call.env .json
  have lastBooks : LastBookPage .ascii s user envs 2 := by decide +kernel
  have lastBorrowed : LastLoanPage .ascii s user "borrowed" envs 1 := by decide +kernel
  have lastOverdue : LastLoanPage .ascii s user "overdue" envs 1 := by decide +kernel
  obtain ⟨current, soon⟩ := borrowed envs 1 lastBorrowed
  have total := books envs 2 lastBooks
  have late := overdue envs 1 lastOverdue
  have figures : (pagedBooks .ascii s user envs 2).length = 26
      ∧ (pagedLoans .ascii s user "borrowed" envs 1).length = 2
      ∧ (pagedLoans .ascii s user "borrowed" envs 1).countP (Borrowing.dueWithin 72) = 2
      ∧ (pagedLoans .ascii s user "overdue" envs 1).length = 2 := by
    decide +kernel
  obtain ⟨allBooks, allBorrowed, allSoon, allOverdue⟩ := figures
  exact ⟨data, answered, total, total.symm.trans allBooks, current, current.symm.trans allBorrowed,
    soon, soon.symm.trans allSoon, late, late.symm.trans allOverdue, genres, recent⟩

/-- Everything on the member's dashboard is exact, whatever the order of ties: the loans listed and
the figures are those of the member's own lists, over all of their pages, and the rankings hold
the own loans created last and the books with most borrowings, with the flag for the member.
-/
theorem memberDashboard_exact (platform : Platform) {s : Store} {user : User}
    (known : user ∈ s.users.rows) (isMember : user.role = .member) (env : Env) (format : Format)
    : ∃ data,
        (perform platform s
          { env := env, session := some user.id, format := format,
            request := .dashboard .member }).1 = ⟨.ok, .memberDashboard data⟩
        ∧ (∀ envs count envs' count', LastLoanPage platform s user "borrowed" envs count
          → LastLoanPage platform s user "overdue" envs' count'
          → (data.currentBorrowings.map BorrowingItem.borrowing).Perm
              (pagedLoans platform s user "borrowed" envs count
                ++ pagedLoans platform s user "overdue" envs' count')
            ∧ data.overdueCount = (pagedLoans platform s user "overdue" envs' count').length
            ∧ data.dueSoonCount
              = (pagedLoans platform s user "borrowed" envs count).countP
                  (Borrowing.dueWithin env.today))
        ∧ ShowsRanking Borrowing.createdAt 20
            (s.borrowings.rows.filter (fun loan => loan.userId == user.id))
            (DashboardsController.withBook s) data.history
        ∧ ShowsRanking (Book.borrowingsCount s) 5 s.books.rows
            (DashboardsController.topBook s user) data.topBooks := by
  have signedIn : s.users.find? user.id = some user := s.users.find?_of_mem known
  have own (loan : Borrowing)
      : BorrowingsController.scope user loan = (loan.userId == user.id) := by
    simp [BorrowingsController.scope, User.isLibrarian, isMember]
  refine ⟨DashboardsController.member env user s, ?_, ?_, ?_, ?_⟩
  · simp [perform, Call.currentUser, signedIn, DashboardsController.handle, authenticateUser,
      isMember]
  · intro envs count envs' count' lastBorrowed lastOverdue
    refine ⟨?_, ?_, ?_⟩
    · have borrowed := pagedLoans_perm known .borrowed rfl lastBorrowed
      have overdue := pagedLoans_perm known .overdue rfl lastOverdue
      refine List.Perm.trans ?_ (borrowed.append overdue).symm
      simp only [DashboardsController.member, List.map_map, own]
      have loans : BorrowingItem.borrowing ∘ DashboardsController.withBook s = id := rfl
      rw [loans, List.map_id]
      exact (orderBy_perm _ _ _).trans (currentLoans_perm s.borrowings.rows user)
    · rw [length_pagedLoans known .overdue rfl lastOverdue]
      simp only [own, DashboardsController.member, List.countP_filter, Bool.and_comm]
    · rw [countP_dueWithin known lastBorrowed]
      simp only [own, DashboardsController.member, List.countP_filter, Bool.and_comm]
  · have own : (s.borrowings.rows.filter (fun loan => loan.userId == user.id)).Nodup :=
      s.borrowings.nodup_rows.filter _
    exact (DashboardsController.latest_ranks env 20 own).shows own rfl
  · exact DashboardsController.topBooks_shows env user s

/-- On day 72 a member has one overdue loan and one that is due soon. The dashboard shows both, and
the pages of the member's list do.
-/
theorem memberDashboard_exact_sample
    : let s := Store.sampleLending
      let user := s.users.rows[1]
      let call := Call.onDay 72 (some user.id) (.dashboard .member)
      let envs := fun _ : Nat => call.env
      ∃ data, (perform .ascii s call).1 = ⟨.ok, .memberDashboard data⟩
        ∧ (data.currentBorrowings.map BorrowingItem.borrowing).Perm
            (pagedLoans .ascii s user "borrowed" envs 1
              ++ pagedLoans .ascii s user "overdue" envs 1)
        ∧ data.currentBorrowings.length = 2
        ∧ data.overdueCount = (pagedLoans .ascii s user "overdue" envs 1).length
        ∧ data.overdueCount = 1
        ∧ data.dueSoonCount
          = (pagedLoans .ascii s user "borrowed" envs 1).countP (Borrowing.dueWithin 72)
        ∧ data.dueSoonCount = 1
        ∧ ShowsRanking Borrowing.createdAt 20
            (s.borrowings.rows.filter (fun loan => loan.userId == user.id))
            (DashboardsController.withBook s) data.history
        ∧ ShowsRanking (Book.borrowingsCount s) 5 s.books.rows
            (DashboardsController.topBook s user) data.topBooks := by
  intro s user call envs
  have known : user ∈ s.users.rows := List.getElem_mem _
  obtain ⟨data, answered, lists, history, top⟩ :=
    memberDashboard_exact .ascii known rfl call.env .json
  have lastBorrowed : LastLoanPage .ascii s user "borrowed" envs 1 := by decide +kernel
  have lastOverdue : LastLoanPage .ascii s user "overdue" envs 1 := by decide +kernel
  obtain ⟨current, late, soon⟩ := lists envs 1 envs 1 lastBorrowed lastOverdue
  have figures : (pagedLoans .ascii s user "borrowed" envs 1
        ++ pagedLoans .ascii s user "overdue" envs 1).length = 2
      ∧ (pagedLoans .ascii s user "overdue" envs 1).length = 1
      ∧ (pagedLoans .ascii s user "borrowed" envs 1).countP (Borrowing.dueWithin 72) = 1 := by
    decide +kernel
  obtain ⟨both, oneOverdue, oneSoon⟩ := figures
  have count := current.length_eq.trans both
  rw [List.length_map] at count
  exact ⟨data, answered, current, count, late, late.trans oneOverdue, soon, soon.trans oneSoon,
    history, top⟩

end LibraryManagement
