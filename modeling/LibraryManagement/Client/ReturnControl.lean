import LibraryManagement.Client.BorrowingsPage
import LibraryManagement.Lending.Coherence
import LibraryManagement.Lending.LoanList

/-! Returning loans through the page. The server returns any loan, but the page offers the
control for loans with status borrowed only, and a sweep changes that status.
-/

namespace LibraryManagement

open Relational Transition BorrowingsPage

/-- The unfiltered list after some clicks on the next page. -/
def Screen.turned (platform : Platform) (env : Env) (session : Nat) (s : Store) : Nat → Screen
  | 0 => Screen.mount platform env session none s
  | clicks + 1 => (turned platform env session s clicks).step platform env session .next

/-- The control for the loan is used, a comment may be written, and the return confirmed. -/
def Screen.returnLoan (platform : Platform) (env : Env) (session : Nat) (id : Nat)
    (comment : String) (screen : Screen)
    : Screen :=
  ((screen.step platform env session (.openReturn id)).step platform env session
    (.writeComment comment)).step platform env session .confirmReturn

/-- Every librarian finds the control for the loan on some page of the unfiltered list, and
confirming it returns the loan, with whatever comment.
-/
def Store.HasExit (platform : Platform) (s : Store) (loan : Borrowing) : Prop :=
  ∀ librarian ∈ s.users.rows, librarian.role = .librarian → ∀ env, ∃ clicks,
    let screen := Screen.turned platform env librarian.id s clicks
    screen.page.offers (.openReturn loan.id)
    ∧ ∀ comment, ∃ row ∈
        (screen.returnLoan platform env librarian.id loan.id comment).store.borrowings.rows,
        row.id = loan.id ∧ row.status = .returned ∧ row.returnedAt.isSome

-----------------------------------------------------------------------------------------
-- The list behind the page
-----------------------------------------------------------------------------------------

def unfiltered (page : Nat) : BorrowingsParams := params { page := page }

/-- The unfiltered list of a librarian leaves out no loan, on whatever page it is asked for. -/
theorem mem_rows_unfiltered {platform : Platform} {env : Env} {librarian : User} {s : Store}
    {page : Nat} {loan : Borrowing} (isLibrarian : librarian.role = .librarian)
    : loan ∈ BorrowingsController.rows platform env librarian (unfiltered page) s
      ↔ loan ∈ s.borrowings.rows := by
  have all : BorrowingsController.statusFilter (some "all") loan = true := rfl
  have noText : BorrowingsController.textMatches platform none s loan = true := rfl
  have noDate : BorrowingsController.dateFilter platform none loan = true := rfl
  rw [BorrowingsController.rows_eq_filter, mem_orderBy, List.mem_filter]
  simp [BorrowingsController.passes, unfiltered, params, statusParam, orUndefined, all, noText,
    noDate, BorrowingsController.scope, User.isLibrarian, isLibrarian]

theorem mem_items {platform : Platform} {env : Env} {user : User} {params : BorrowingsParams}
    {s : Store} {it : BorrowingItem}
    (member : it ∈ BorrowingsController.items platform env user params s)
    : it.borrowing ∈ s.borrowings.rows := by
  obtain ⟨loan, paged, rfl⟩ := List.mem_map.mp member
  exact (BorrowingsController.mem_rows_iff.mp (mem_of_mem_page paged)).1

def Unsearched (page : BorrowingsPage) : Prop := page.q = "" ∧ page.date = ""

/-- Loading shows the page of the list that the page's query asks for, since a query without
text and date raises nothing.
-/
theorem Screen.load_eq (platform : Platform) (env : Env) {librarian : User} {screen : Screen}
    (known : librarian ∈ screen.store.users.rows) (unsearched : Unsearched screen.page)
    : screen.load platform env librarian.id
      = { page := { screen.page with
            items :=
              BorrowingsController.items platform env librarian screen.page.params screen.store }
          store := screen.store } := by
  have signedIn : screen.store.users.find? librarian.id = some librarian :=
    screen.store.users.find?_of_mem known
  have noText : screen.page.params.q = none := if_pos unsearched.1
  have noDate : screen.page.params.date = none := if_pos unsearched.2
  have answered := BorrowingsController.index_of_answerable env librarian
    (LoanQuery.answerable_of_absent platform noText noDate) screen.store
  simp [load, request, perform, Call.currentUser, signedIn, BorrowingsController.handle,
    authenticateUser, answered]

/-- A page of the unfiltered list, as the clicks that lead to it leave it. -/
def Screen.listed (platform : Platform) (env : Env) (librarian : User) (s : Store)
    (number : Nat)
    : Screen where
  page := {
    page := number
    items := BorrowingsController.items platform env librarian (unfiltered number) s }
  store := s

/-- The next page loads, since its query differs from that of the page before in the number. -/
theorem Screen.step_next (platform : Platform) (env : Env) {librarian : User} {screen : Screen}
    (known : librarian ∈ screen.store.users.rows) (unsearched : Unsearched screen.page)
    : screen.step platform env librarian.id .next
      = if screen.page.offers .next then
          { page := { screen.page with
              page := screen.page.page + 1
              items := BorrowingsController.items platform env librarian
                { screen.page with page := screen.page.page + 1 : BorrowingsPage }.params
                screen.store }
            store := screen.store }
        else
          screen := by
  have changed : ({ screen.page with page := screen.page.page + 1 } : BorrowingsPage).params
      ≠ screen.page.params := by
    intro same
    have pages := congrArg BorrowingsParams.page same
    simp only [params] at pages
    omega
  cases offered : screen.page.offers .next with
  | false => simp [step, offered]
  | true =>
      simp only [step, offered, rerender, if_neg changed, Bool.not_true, Bool.false_eq_true,
        if_false, if_true]
      exact load_eq platform env known unsearched

/-- Clicks reach every page that comes after full pages only, by induction on them: a full page
offers the next one.
-/
theorem Screen.turned_eq_listed (platform : Platform) (env : Env) {librarian : User} {s : Store}
    (known : librarian ∈ s.users.rows) {clicks : Nat}
    (full : ∀ earlier, earlier < clicks
      → (listed platform env librarian s (earlier + 1)).page.items.length = 25)
    : turned platform env librarian.id s clicks
      = listed platform env librarian s (clicks + 1) := by
  induction clicks with
  | zero => exact load_eq platform env known ⟨rfl, rfl⟩
  | succ clicks ih =>
      have before := ih (fun earlier less => full earlier (Nat.lt_succ_of_lt less))
      have last := full clicks (Nat.lt_succ_self clicks)
      have offered : (listed platform env librarian s (clicks + 1)).page.offers .next = true := by
        simp [offers, pagerShown, last]
      rw [turned, before, step_next platform env known ⟨rfl, rfl⟩, if_pos offered]
      rfl

/-- However often the next page is asked for, the page shows loans of the unchanged store; a click
loads rows or does nothing.
-/
theorem Screen.turned_items (platform : Platform) (env : Env) {librarian : User} {s : Store}
    (known : librarian ∈ s.users.rows) (clicks : Nat)
    : (turned platform env librarian.id s clicks).store = s
      ∧ Unsearched (turned platform env librarian.id s clicks).page
      ∧ ∀ it ∈ (turned platform env librarian.id s clicks).page.items,
          it.borrowing ∈ s.borrowings.rows := by
  induction clicks with
  | zero =>
      have opened : turned platform env librarian.id s 0 = listed platform env librarian s 1 :=
        load_eq platform env known ⟨rfl, rfl⟩
      rw [opened]
      exact ⟨rfl, ⟨rfl, rfl⟩, fun it member => mem_items member⟩
  | succ clicks ih =>
      obtain ⟨same, unsearched, shown⟩ := ih
      rw [turned, step_next platform env (same.symm ▸ known) unsearched]
      split
      · refine ⟨same, unsearched, fun it member => ?_⟩
        exact same ▸ mem_items member
      · exact ⟨same, unsearched, shown⟩

-----------------------------------------------------------------------------------------
-- The return
-----------------------------------------------------------------------------------------

/-- Loading the list leaves the store as it is. -/
theorem Screen.load_store (platform : Platform) (env : Env) (session : Nat) (screen : Screen)
    : (screen.load platform env session).store = screen.store := by
  simp only [load, request, perform, BorrowingsController.handle, authenticateUser]
  split <;> rfl

/-- Where the control is offered, confirming it saves the return of the loan. The dialog is opened,
the comment written and the request sent, one click after another.
-/
theorem Screen.returnLoan_store (platform : Platform) (env : Env) {librarian : User}
    {screen : Screen} {loan : Borrowing} (known : librarian ∈ screen.store.users.rows)
    (isLibrarian : librarian.role = .librarian) (found : loan ∈ screen.store.borrowings.rows)
    (offered : screen.page.offers (.openReturn loan.id)) (comment : String)
    : (screen.returnLoan platform env librarian.id loan.id comment).store
      = loan.saveReturn env.now (orUndefined comment) screen.store := by
  have returns : (request env librarian.id
      (.borrowings (.returnBook loan.id (orUndefined comment)))).returns screen.store
      = some (loan, orUndefined comment) := by
    refine Call.returns_eq_some_iff.mpr ⟨⟨librarian, ?_, isLibrarian⟩, rfl, found⟩
    exact screen.store.users.find?_of_mem known
  let opened : Screen :=
    { screen with page := { screen.page with returningId := some loan.id, returnComment := "" } }
  let written : Screen := { opened with page := { opened.page with returnComment := comment } }
  have atOpen : screen.step platform env librarian.id (.openReturn loan.id) = opened := by
    simp only [step, offered]
    rfl
  have atConfirm : (written.step platform env librarian.id .confirmReturn).store
      = (written.onReturn platform env librarian.id loan.id).store := rfl
  have atReturn : (written.onReturn platform env librarian.id loan.id).store
      = loan.saveReturn env.now (orUndefined comment) screen.store := by
    have answer : perform platform written.store (request env librarian.id
          (.borrowings (.returnBook loan.id (orUndefined written.page.returnComment))))
        = _ := perform_returns returns
    simp only [onReturn, answer, if_true, load_store]
    rfl
  rw [returnLoan, atOpen]
  exact atConfirm.trans atReturn

-----------------------------------------------------------------------------------------
-- Exits
-----------------------------------------------------------------------------------------

/-- The page parameter plays no part in the rows of the list. -/
theorem rows_page (platform : Platform) (env : Env) (user : User) (params : BorrowingsParams)
    (s : Store) (number : Int)
    : BorrowingsController.rows platform env user { params with page := number } s
      = BorrowingsController.rows platform env user params s := rfl

/-- The pages of the unfiltered list are cut from one list of rows, since the number of the page
does not enter the query.
-/
theorem Screen.listed_items (platform : Platform) (env : Env) (librarian : User) (s : Store)
    (earlier : Nat)
    : (listed platform env librarian s (earlier + 1)).page.items
      = (Relational.page perPage (earlier + 1)
          (BorrowingsController.rows platform env librarian (unfiltered 1) s)).map
          (BorrowingsController.item s) := by
  have number : pageNumber ((earlier + 1 : Nat) : Int) = earlier + 1 := by
    rw [pageNumber, if_neg (by omega), Int.toNat_natCast]
  have cut : (listed platform env librarian s (earlier + 1)).page.items
      = (Relational.page perPage (pageNumber ((earlier + 1 : Nat) : Int))
          (BorrowingsController.rows platform env librarian (unfiltered (earlier + 1)) s)).map
          (BorrowingsController.item s) := rfl
  have same := rows_page platform env librarian (unfiltered 1) s ((earlier + 1 : Nat) : Int)
  rw [cut, number, ← same]
  rfl

/-- A borrowed loan has an exit: the pages before its own are full, so clicks reach it. -/
theorem Store.hasExit_of_borrowed (platform : Platform) {s : Store} {loan : Borrowing}
    (found : loan ∈ s.borrowings.rows) (borrowed : loan.status = .borrowed)
    : s.HasExit platform loan := by
  intro librarian known isLibrarian env
  have listed : loan ∈ BorrowingsController.rows platform env librarian (unfiltered 1) s :=
    (mem_rows_unfiltered isLibrarian).mpr found
  obtain ⟨clicks, paged, full⟩ := exists_page (by decide : 0 < perPage) listed
  have reached : Screen.turned platform env librarian.id s clicks
      = Screen.listed platform env librarian s (clicks + 1) := by
    refine Screen.turned_eq_listed platform env known (fun earlier before => ?_)
    rw [Screen.listed_items, List.length_map]
    exact full earlier before
  have offered : (Screen.listed platform env librarian s (clicks + 1)).page.offers
      (.openReturn loan.id) := by
    refine List.any_eq_true.mpr ⟨BorrowingsController.item s loan, ?_, ?_⟩
    · rw [Screen.listed_items]
      exact List.mem_map.mpr ⟨loan, paged, rfl⟩
    · simp [BorrowingsController.item, borrowed]
  refine ⟨clicks, ?_⟩
  rw [reached]
  refine ⟨offered, fun comment => ?_⟩
  rw [Screen.returnLoan_store platform env known isLibrarian found offered comment]
  obtain ⟨status, returnedAt, _⟩ := Borrowing.saveChanges_self env.now (orUndefined comment) loan
  exact ⟨_, Borrowing.mem_saveReturn env.now (orUndefined comment) found,
    Borrowing.saveChanges_id _ _ _ loan, status, by simp [returnedAt]⟩

/-- The page offers no exit for any other loan. -/
theorem Store.HasExit.borrowed {platform : Platform} {s : Store} {loan : Borrowing}
    (exit : s.HasExit platform loan) (found : loan ∈ s.borrowings.rows) {librarian : User}
    (known : librarian ∈ s.users.rows) (isLibrarian : librarian.role = .librarian)
    : loan.status = .borrowed := by
  have env : Env := { now := 0, salt := "", tie := id }
  obtain ⟨clicks, offered, _⟩ := exit librarian known isLibrarian env
  obtain ⟨it, shown, same⟩ := List.any_eq_true.mp offered
  obtain ⟨ids, status⟩ : it.borrowing.id = loan.id ∧ it.borrowing.status = .borrowed := by
    simpa using same
  have present := (Screen.turned_items platform _ known clicks).2.2 it shown
  have here : it.borrowing = loan := s.borrowings.eq_of_key_eq present found ids
  exact here ▸ status

-----------------------------------------------------------------------------------------
-- Runs
-----------------------------------------------------------------------------------------

/-- Every loan that is out can be returned through the page. -/
def Store.AllExits (platform : Platform) (s : Store) : Prop :=
  ∀ loan ∈ s.borrowings.rows, loan.returnedAt = none → s.HasExit platform loan

/-- Where the request is a sweep, it finds no loan past its due date. -/
def SweepsNothing (s : Store) (call : Call) : Prop :=
  call.sweeps s → ∀ loan ∈ s.borrowings.rows,
    ¬OverdueService.overdueBorrowings call.env.today loan

instance (s : Store) (call : Call) : Decidable (SweepsNothing s call) :=
  inferInstanceAs (Decidable (_ → _))

/-- A sweep that finds a loan past its due date leaves that loan without an exit. -/
theorem SweepsNothing.of_allExits {platform : Platform} {s : Store} {call : Call}
    (coherent : s.Coherent) (exits : (step platform s call).AllExits platform)
    : SweepsNothing s call := by
  intro sweeps loan member selected
  rw [step_sweeps sweeps] at exits
  obtain ⟨⟨librarian, signedIn, isLibrarian⟩, _⟩ := Call.sweeps_iff.mp sweeps
  have borrowed := (OverdueService.overdueBorrowings_iff.mp selected).1
  have out := (coherent loan member).returnedAt_eq_none (by simp [borrowed])
  let marked : Borrowing := { loan with status := .overdue }
  have present : marked ∈ (OverdueService.updateAll call.env.today s).borrowings.rows :=
    (Table.mem_update _).mpr ⟨loan, member, if_pos selected⟩
  have status := (exits marked present out).borrowed present
    (Call.mem_of_currentUser signedIn) isLibrarian
  cases status

/-- Without marked loans, a request marks none unless it is a sweep that finds some. -/
theorem SweepsNothing.step_unmarked {s : Store} {call : Call} (nothing : SweepsNothing s call)
    (platform : Platform) (unmarked : ∀ loan ∈ s.borrowings.rows, loan.status ≠ .overdue)
    : ∀ loan ∈ (step platform s call).borrowings.rows, loan.status ≠ .overdue := by
  refine (step_loanEffect platform s call).forall_rows unmarked ?_ ?_ ?_
  · intro user book _ overdue
    cases overdue
  · intro loan comment _ overdue
    rw [(Borrowing.saveChanges_self call.env.now comment loan).1] at overdue
    cases overdue
  · intro loan member sweeps selected
    exact absurd selected (nothing sweeps loan member)

/-- No loan gets stuck, exactly along the runs in which no sweep finds a loan past its due
date.
-/
theorem reachedStores_allExits_iff (platform : Platform) (database : Database)
    (empty : database.store.borrowings.rows = []) (calls : List Call)
    : (∀ reached ∈ reachedStores platform database.store calls, reached.AllExits platform)
      ↔ EachStep (step platform) SweepsNothing database.store calls := by
  have sound := invariant (database.sound_of_empty empty) (step_sound platform) calls
  constructor
  · intro always
    have both : ∀ reached ∈ reachedStores platform database.store calls,
        reached.Sound ∧ reached.AllExits platform :=
      fun reached member => ⟨sound reached member, always reached member⟩
    refine (EachStep.of_forall_states both).imp ?_
    intro s call ⟨before, after⟩
    exact .of_allExits before.1.coherent after.2
  · intro nothing reached member loan present out
    have atFirst : ∀ loan ∈ database.store.borrowings.rows, loan.status ≠ .overdue := by
      simp [empty]
    have throughout := nothing.invariant atFirst
      (fun _ _ nothing unmarked => nothing.step_unmarked platform unmarked)
    have unmarked := throughout reached member loan present
    have unreturned : loan.status ≠ .returned := by
      intro returned
      have closed := ((sound reached member).coherent loan present).mp returned
      simp [out] at closed
    refine Store.hasExit_of_borrowed platform present ?_
    cases status : loan.status with
    | borrowed => rfl
    | overdue => exact absurd status unmarked
    | returned => exact absurd status unreturned

/-- The loan is returned on day 10, before a sweep on day 20. -/
theorem reachedStores_allExits_sample
    : Database.sample.store.borrowings.rows = []
      ∧ ∀ reached ∈ reachedStores .ascii Database.sample.store [
            .onDay 0 (some 2) (.borrowings (.create 1)),
            .onDay 10 (some 1) (.borrowings (.returnBook 1 none)),
            .onDay 20 (some 1) (.dashboard .markOverdue)],
          reached.AllExits .ascii :=
  ⟨rfl, (reachedStores_allExits_iff .ascii Database.sample rfl _).mpr (by decide)⟩

/-- The loan is still out when a sweep on day 20 marks it, and from then on no librarian is offered
its return.
-/
theorem swept_loan_stuck
    : Database.sample.store.borrowings.rows = []
      ∧ ¬∀ reached ∈ reachedStores .ascii Database.sample.store [
            .onDay 0 (some 2) (.borrowings (.create 1)),
            .onDay 20 (some 1) (.dashboard .markOverdue)],
          reached.AllExits .ascii := by
  refine ⟨rfl, ?_⟩
  intro always
  have stuck : ∃ reached ∈ reachedStores .ascii Database.sample.store [
        .onDay 0 (some 2) (.borrowings (.create 1)),
        .onDay 20 (some 1) (.dashboard .markOverdue)],
      ∃ loan ∈ reached.borrowings.rows, loan.returnedAt = none ∧ loan.status ≠ .borrowed
        ∧ ∃ librarian ∈ reached.users.rows, librarian.role = .librarian := by
    decide
  obtain ⟨reached, member, loan, present, out, marked, librarian, known, isLibrarian⟩ := stuck
  exact marked ((always reached member loan present out).borrowed present known isLibrarian)

end LibraryManagement
