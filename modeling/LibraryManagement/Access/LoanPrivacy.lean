import LibraryManagement.Lending.LoanList

/-! What a member learns about the loans of others: nothing, neither from the rows of a list
nor from their positions, nor from counts.
-/

namespace LibraryManagement

open Relational

/-- Two stores with the same row of the user, the same loans of the user and the same books
behind these. Everything else may differ.
-/
structure Store.AgreesOn (user : User) (s s' : Store) : Prop where
  here : user ∈ s.users.rows
  there : user ∈ s'.users.rows
  loans : ∀ loan, loan.userId = user.id → (loan ∈ s.borrowings.rows ↔ loan ∈ s'.borrowings.rows)
  books
    : ∀ loan ∈ s.borrowings.rows, loan.userId = user.id → ∀ book, book.id = loan.bookId
        → (book ∈ s.books.rows ↔ book ∈ s'.books.rows)

theorem User.sees_iff_of_member {user : User} {loan : Borrowing} (isMember : user.role = .member)
    : user.Sees loan ↔ loan.userId = user.id := by
  simp [User.Sees, isMember]

section Agreement

variable {user : User} {s s' : Store}

theorem Store.AgreesOn.find_user (agrees : s.AgreesOn user s')
    : s.users.find? user.id = some user ∧ s'.users.find? user.id = some user :=
  ⟨s.users.find?_of_mem agrees.here,
    s'.users.find?_of_mem agrees.there⟩

theorem Store.AgreesOn.find_book (agrees : s.AgreesOn user s') {loan : Borrowing}
    (member : loan ∈ s.borrowings.rows) (owner : loan.userId = user.id)
    : s.books.find? loan.bookId = s'.books.find? loan.bookId :=
  Table.find?_congr (agrees.books loan member owner)

/-- A list of the user's loans that pass a filter, which both stores evaluate alike on these. -/
theorem Store.AgreesOn.filter_eq (agrees : s.AgreesOn user s') {p q : Borrowing → Bool}
    (own : ∀ loan, p loan → loan.userId = user.id) (own' : ∀ loan, q loan → loan.userId = user.id)
    (same : ∀ loan ∈ s.borrowings.rows, loan.userId = user.id → p loan = q loan)
    : s.borrowings.rows.filter p = s'.borrowings.rows.filter q := by
  refine Table.filter_eq_of_mem_iff (fun loan => ?_)
  constructor
  · rintro ⟨member, passes⟩
    have owner := own loan passes
    exact ⟨(agrees.loans loan owner).mp member, same loan member owner ▸ passes⟩
  · rintro ⟨member, passes⟩
    have owner := own' loan passes
    have present := (agrees.loans loan owner).mpr member
    exact ⟨present, (same loan present owner).symm ▸ passes⟩

/-- The text of a loan's search is in its book and in the user's own row. -/
theorem Store.AgreesOn.textMatches_eq (agrees : s.AgreesOn user s') {loan : Borrowing}
    (member : loan ∈ s.borrowings.rows) (owner : loan.userId = user.id) (platform : Platform)
    (param : Option String)
    : BorrowingsController.textMatches platform param s loan
      = BorrowingsController.textMatches platform param s' loan := by
  obtain ⟨here, there⟩ := agrees.find_user
  simp only [BorrowingsController.textMatches, Borrowing.textSearch,
    agrees.find_book member owner, owner, here, there]

/-- The list query returns the same rows in the same order, for all that ties may do: the user's
loans are the same in both stores, and the order is total on them by its last column.
-/
theorem Store.AgreesOn.rows_eq (agrees : s.AgreesOn user s') (isMember : user.role = .member)
    (platform : Platform) (env env' : Env) (params : BorrowingsParams)
    : BorrowingsController.rows platform env user params s
      = BorrowingsController.rows platform env' user params s' := by
  have own (s : Store) (loan : Borrowing) := fun passes =>
    (User.sees_iff_of_member isMember).mp
      ((@BorrowingsController.passes_iff platform user params s loan).mp passes).1
  rw [BorrowingsController.rows_eq_filter, BorrowingsController.rows_eq_filter]
  refine orderBy_eq _ _ (.of_eq (agrees.filter_eq (own s) (own s') ?_)) ?_
  · intro loan member owner
    rw [BorrowingsController.passes, agrees.textMatches_eq member owner]
    rfl
  · intro first hf second hs forth back
    exact s.borrowings.eq_of_key_eq (List.mem_filter.mp hf).1 (List.mem_filter.mp hs).1
      (BorrowingsController.id_eq_of_before forth back)

/-- The answer is the same too, also where the query raises. -/
theorem Store.AgreesOn.index_eq (agrees : s.AgreesOn user s') (isMember : user.role = .member)
    (platform : Platform) (env env' : Env) (params : BorrowingsParams)
    : BorrowingsController.index platform env user params s
      = BorrowingsController.index platform env' user params s' := by
  have listed : BorrowingsController.items platform env user params s
      = BorrowingsController.items platform env' user params s' := by
    rw [BorrowingsController.items, BorrowingsController.items,
      ← agrees.rows_eq isMember platform env env' params]
    refine List.map_congr_left (fun loan paged => ?_)
    obtain ⟨member, seen, _⟩ := BorrowingsController.mem_rows_iff.mp (mem_of_mem_page paged)
    have owner := (User.sees_iff_of_member isMember).mp seen
    obtain ⟨here, there⟩ := agrees.find_user
    simp only [BorrowingsController.item, agrees.find_book member owner, owner, here, there]
  rw [BorrowingsController.index, BorrowingsController.index, listed]

theorem Store.AgreesOn.ownLoans_eq (agrees : s.AgreesOn user s')
    : s.borrowings.rows.filter (fun loan => loan.userId == user.id)
      = s'.borrowings.rows.filter (fun loan => loan.userId == user.id) := by
  refine agrees.filter_eq ?_ ?_ (fun _ _ _ => rfl)
  · exact fun _ => beq_iff_eq.mp
  · exact fun _ => beq_iff_eq.mp

/-- The current loans on the dashboard, in whatever order each database returns them. -/
theorem Store.AgreesOn.currentBorrowings_perm (agrees : s.AgreesOn user s') (env env' : Env)
    : (DashboardsController.member env user s).currentBorrowings.Perm
        (DashboardsController.member env' user s').currentBorrowings := by
  simp only [DashboardsController.member, ← agrees.ownLoans_eq]
  refine ((orderBy_perm _ _ _).map _).trans (.trans (.of_eq ?_) ((orderBy_perm _ _ _).map _).symm)
  refine List.map_congr_left (fun loan current => ?_)
  obtain ⟨member, owner⟩ := List.mem_filter.mp (List.mem_filter.mp current).1
  simp only [DashboardsController.withBook, agrees.find_book member (beq_iff_eq.mp owner)]

/-- Agreement is equality of what the restrictions to the user's data show: the rows of the user's
loans, as lists, and the book of each.
-/
theorem Store.agreesOn_iff
    : s.AgreesOn user s'
      ↔ user ∈ s.users.rows ∧ user ∈ s'.users.rows
        ∧ s.borrowings.rows.filter (fun loan => loan.userId == user.id)
          = s'.borrowings.rows.filter (fun loan => loan.userId == user.id)
        ∧ ∀ loan ∈ s.borrowings.rows, loan.userId = user.id
            → s.books.find? loan.bookId = s'.books.find? loan.bookId := by
  constructor
  · intro agrees
    exact ⟨agrees.here, agrees.there, agrees.ownLoans_eq, fun _ => agrees.find_book⟩
  · rintro ⟨here, there, loans, books⟩
    refine ⟨here, there, ?_, ?_⟩
    · intro loan owner
      have same := congrArg (loan ∈ ·) loans
      simpa [owner] using same
    · intro loan member owner book lent
      have same := congrArg (· = some book) (books loan member owner)
      simpa only [Table.find?_eq_some_iff, key_book, lent, and_true, eq_iff_iff] using same

instance : Decidable (s.AgreesOn user s') := decidable_of_iff _ Store.agreesOn_iff.symm

end Agreement

def User.calls (user : User) (env : Env) (format : Format) (request : Request) : Call where
  env := env
  session := some user.id
  format := format
  request := request

/-- Stores that agree on a member's own data answer the member's list of loans alike, whatever
the parameters are, and on the same date the dashboard too, but for the order of the current
loans, which its query leaves open.
-/
theorem member_sees_own_loans (platform : Platform) {s s' : Store} {user : User}
    (isMember : user.role = .member) (agrees : s.AgreesOn user s') (format : Format)
    (env env' : Env)
    : (∀ params,
        (perform platform s (user.calls env format (.borrowings (.index params)))).1
          = (perform platform s' (user.calls env' format (.borrowings (.index params)))).1)
      ∧ (env.today = env'.today → ∃ shown shown' : MemberDashboard,
          (perform platform s (user.calls env format (.dashboard .member))).1
            = ⟨.ok, .memberDashboard shown⟩
          ∧ (perform platform s' (user.calls env' format (.dashboard .member))).1
            = ⟨.ok, .memberDashboard shown'⟩
          ∧ shown.currentBorrowings.Perm shown'.currentBorrowings
          ∧ shown.overdueCount = shown'.overdueCount
          ∧ shown.dueSoonCount = shown'.dueSoonCount) := by
  obtain ⟨here, there⟩ := agrees.find_user
  constructor
  · intro params
    simp only [perform, User.calls, Call.currentUser, Option.bind_some, here, there,
      BorrowingsController.handle, authenticateUser,
      agrees.index_eq isMember platform env env' params]
  · intro sameDay
    refine ⟨DashboardsController.member env user s, DashboardsController.member env' user s',
      ?_, ?_, agrees.currentBorrowings_perm env env', ?_, ?_⟩
    · simp [perform, User.calls, Call.currentUser, here, DashboardsController.handle,
        authenticateUser, isMember]
    · simp [perform, User.calls, Call.currentUser, there, DashboardsController.handle,
        authenticateUser, isMember]
    · simp only [DashboardsController.member, agrees.ownLoans_eq]
    · simp only [DashboardsController.member, agrees.ownLoans_eq, sameDay]

/-- Another member borrows a new book, or does not. -/
theorem member_sees_own_loans_sample
    : let s := step .ascii Database.sample.store (.onDay 0 (some 2) (.borrowings (.create 1)))
      let added := step .ascii s (.onDay 1 (some 1) (.books (.create (some {
        title := .value "MyString", author := .value "MyString", genre := .value "MyString",
        isbn := .value "MyString2" }))))
      let s' := step .ascii added (.onDay 1 (some 3) (.borrowings (.create 2)))
      s'.borrowings.rows.length = 2
      ∧ ∃ user ∈ s.users.rows, user.id = 2 ∧ ∀ params,
          let call := user.calls { now := 0, salt := "s", tie := id } .json
            (.borrowings (.index params))
          (perform .ascii s call).1 = (perform .ascii s' call).1 := by
  intro s added s'
  let user : User :=
    { id := 2, email := "megan@example.com", encryptedPassword := "s$password123",
      role := .member, createdAt := 0, updatedAt := 0 }
  have agrees : s.AgreesOn user s' := by decide
  exact ⟨by decide, user, agrees.here, rfl,
    (member_sees_own_loans .ascii rfl agrees .json _ _).1⟩

end LibraryManagement
