import LibraryManagement.Lending.MembersOnly
import LibraryManagement.Lending.Reseeding
import LibraryManagement.Lending.Sweep

/-! The loans that `db:seed_borrowings` leaves, whatever it draws and wherever it stops. They obey
the rules of the loans that requests make, and on a day on which all of the task runs their
statuses are those of a sweep.
-/

namespace LibraryManagement

open Relational Sampling OverdueService

theorem toDate_le {first second : Int} (ordered : first ≤ second) : toDate first ≤ toDate second :=
  Int.ediv_le_ediv (by decide) ordered

theorem le_of_toDate_lt {first second : Int} (ordered : toDate first < toDate second)
    : first ≤ second := by
  by_contra later
  have dates := toDate_le (Int.le_of_lt (Int.not_le.mp later))
  omega

@[simp] theorem toDate_beginningOfDay (date : Int) : toDate (beginningOfDay date) = date :=
  Int.mul_ediv_cancel date (by decide)

namespace SampleLoan

/-- A loan whose columns agree. Its status is the one of a day if the task is steady: the clock
stays on the day, and months ahead are ahead.
-/
structure Drawn (steady : Prop) (today : Int) (users : List User) (books : List Book)
    (loan : SampleLoan) : Prop extends loan.IsFor users books where
  coherent : loan.draft.status = some .returned ↔ loan.draft.returnedAt.isSome
  overdue
    : steady
      → (loan.draft.status = some .overdue
        ↔ loan.draft.returnedAt = none ∧ ∀ dueDate ∈ loan.draft.dueDate, dueDate < today)
  returned
    : steady → ∀ borrowedAt ∈ loan.draft.borrowedAt, ∀ returnedAt ∈ loan.draft.returnedAt,
        borrowedAt ≤ returnedAt

/-- All readings of the clock are on one day, if the task is steady. -/
def Readings (steady : Prop) (today : Int) (source : Source) : Prop :=
  steady → ∀ position, toDate (source.clock position) = today

section Draws

variable {steady : Prop} {today : Int}

/-- A reading of the clock is on the day of the run, where all of them are. -/
theorem current_steady
    : Draws.current.YieldsFrom (Readings steady today) (fun now => steady → toDate now = today) :=
  Draws.yieldsFrom_current (fun _ readings position holds => readings holds position)

/-- An instant some days ago is on a date that many days before today: the draw stays between its
bounds, and the days are subtracted from a reading of the same day.
-/
theorem daysAgo_steady {low high : Nat} (ordered : low ≤ high)
    : (daysAgo low high).YieldsFrom (Readings steady today)
        (fun instant => steady → today - high ≤ toDate instant ∧ toDate instant ≤ today - low) := by
  refine (Draws.yields_between ordered).from.bind (fun days bounds => ?_)
  refine current_steady.bind (fun now reads => Draws.yieldsFrom_pure (fun holds => ?_))
  rw [toDate_daysFromNow, reads holds]
  omega

/-- An instant some days ahead is on a date that many days after today, by the same bounds. -/
theorem daysAhead_steady {low high : Nat} (ordered : low ≤ high)
    : (daysAhead low high).YieldsFrom (Readings steady today)
        (fun instant => steady → today + low ≤ toDate instant ∧ toDate instant ≤ today + high) := by
  refine (Draws.yields_between ordered).from.bind (fun days bounds => ?_)
  refine current_steady.bind (fun now reads => Draws.yieldsFrom_pure (fun holds => ?_))
  rw [toDate_daysFromNow, reads holds]
  omega

variable {users : List User} {books : List Book} {user : User} {book : Book}
  {borrowedAt dueDate : Int} (known : user ∈ users) (found : book ∈ books)

include known found

theorem create_borrowed (due : steady → today ≤ dueDate)
    : (create user book borrowedAt dueDate .borrowed none none).YieldsFrom (Readings steady today)
        (Drawn steady today users books) :=
  (Draws.yields_any _).from.bind (fun _ _ => Draws.yieldsFrom_pure {
    user := ⟨user, known, rfl⟩
    book := ⟨book, found, rfl⟩
    borrowedAt := rfl
    dueDate := rfl
    status := rfl
    coherent := by simp
    overdue := fun holds => by simp [due holds]
    returned := by simp })

theorem create_overdue (due : steady → dueDate < today)
    : (create user book borrowedAt dueDate .overdue none none).YieldsFrom (Readings steady today)
        (Drawn steady today users books) :=
  (Draws.yields_any _).from.bind (fun _ _ => Draws.yieldsFrom_pure {
    user := ⟨user, known, rfl⟩
    book := ⟨book, found, rfl⟩
    borrowedAt := rfl
    dueDate := rfl
    status := rfl
    coherent := by simp
    overdue := fun holds => by simp [due holds]
    returned := by simp })

theorem create_returned {returnedAt : Int} {returnComment : Option String}
    (later : steady → borrowedAt ≤ returnedAt)
    : (create user book borrowedAt dueDate .returned (some returnedAt) returnComment).YieldsFrom
        (Readings steady today) (Drawn steady today users books) :=
  (Draws.yields_any _).from.bind (fun _ _ => Draws.yieldsFrom_pure {
    user := ⟨user, known, rfl⟩
    book := ⟨book, found, rfl⟩
    borrowedAt := rfl
    dueDate := rfl
    status := rfl
    coherent := by simp
    overdue := by simp
    returned := fun holds => by simpa using later holds })

-----------------------------------------------------------------------------------------
-- The scenarios
-----------------------------------------------------------------------------------------

/-- Each of the scenarios builds a loan whose status fits its dates: by cases on the draw that
chooses one, where the bounds of the days that it draws are those of its status.
-/
theorem scenario_drawn
    : (scenario user book).YieldsFrom (Readings steady today) (Drawn steady today users books) := by
  refine (Draws.yields_any _).from.bind (fun kind _ => ?_)
  split
  · refine (Draws.yields_any _).from.bind (fun _ _ => ?_)
    refine (daysAhead_steady (by decide)).bind (fun dueDate ahead => ?_)
    refine create_borrowed known found (fun holds => ?_)
    have bounds := ahead holds
    omega
  · refine (daysAgo_steady (by decide)).bind (fun borrowedAt before => ?_)
    refine (daysAgo_steady (by decide)).bind (fun returnedAt after => ?_)
    refine (Draws.yields_any _).from.bind (fun _ _ => ?_)
    refine create_returned known found (fun holds => le_of_toDate_lt ?_)
    have bounds := before holds
    have bounds' := after holds
    omega
  · refine (daysAgo_steady (by decide)).bind (fun borrowedAt before => ?_)
    refine create_overdue known found (fun holds => ?_)
    have bounds := before holds
    omega
  · refine (daysAgo_steady (by decide)).bind (fun borrowedAt before => ?_)
    refine (daysAgo_steady (by decide)).bind (fun returnedAt after => ?_)
    refine (Draws.yields_any _).from.bind (fun _ _ => ?_)
    refine create_returned known found (fun holds => le_of_toDate_lt ?_)
    have bounds := before holds
    have bounds' := after holds
    omega

/-- Loans of past months were returned, and after they were borrowed: their return is drawn from the
days after the loan.
-/
theorem historical_drawn (monthAgo : Int)
    : (historical monthAgo user book).YieldsFrom (Readings steady today)
        (Drawn steady today users books) := by
  refine (Draws.yields_any _).from.bind (fun days _ => ?_)
  refine current_steady.bind (fun now reads => ?_)
  split
  · next past =>
    refine (Draws.yields_any _).from.bind (fun chance _ => ?_)
    split
    · refine (Draws.yields_any _).from.bind (fun late _ => ?_)
      refine (Draws.yields_any _).from.bind (fun _ _ => ?_)
      refine create_returned known found (fun _ => le_of_toDate_lt ?_)
      rw [toDate_beginningOfDay]
      omega
    · refine create_overdue known found (fun holds => ?_)
      exact reads holds ▸ past
  · next due =>
    refine create_borrowed known found (fun holds => ?_)
    exact reads holds ▸ Int.not_lt.mp due

/-- Loans of coming months are out and due later, since the month lies ahead. -/
theorem future_drawn {monthFromNow : Int} (ahead : steady → today ≤ toDate monthFromNow)
    : (future monthFromNow user book).YieldsFrom (Readings steady today)
        (Drawn steady today users books) := by
  refine (Draws.yields_any _).from.bind (fun _ _ => ?_)
  refine (Draws.yields_between (by decide)).from.bind (fun later _ => ?_)
  refine create_borrowed known found (fun holds => ?_)
  have bound := ahead holds
  rw [toDate_daysFromNow]
  omega

/-- Loans that are almost due are out and due today or later. -/
theorem almostDue_drawn
    : (almostDue user book).YieldsFrom (Readings steady today)
        (Drawn steady today users books) := by
  refine (Draws.yields_any _).from.bind (fun _ _ => ?_)
  refine (daysAhead_steady (by decide)).bind (fun dueDate ahead => ?_)
  refine create_borrowed known found (fun holds => ?_)
  have bounds := ahead holds
  omega

/-- Loans drawn as past due were due on an earlier day, as many days ago as the draw says, and that
is at least one.
-/
theorem pastDue_drawn (borrowedLow borrowedHigh : Nat) {dueLow dueHigh : Nat}
    (past : 0 < dueLow) (ordered : dueLow ≤ dueHigh)
    : (pastDue borrowedLow borrowedHigh dueLow dueHigh user book).YieldsFrom
        (Readings steady today) (Drawn steady today users books) := by
  refine (Draws.yields_any _).from.bind (fun _ _ => ?_)
  refine (daysAgo_steady ordered).bind (fun dueDate before => ?_)
  refine create_overdue known found (fun holds => ?_)
  have bounds := before holds
  omega

end Draws

-----------------------------------------------------------------------------------------
-- The loops
-----------------------------------------------------------------------------------------

section Loops

variable {users : List User} {books : List Book} {sources : Source → Prop}
  {holds : SampleLoan → Prop}

/-- What holds of each drawn loan holds of all loans of the users, by induction on the users and on
the books of each.
-/
theorem ofUsers_yieldsFrom
    (each : ∀ user ∈ users, ∀ book ∈ books, (scenario user book).YieldsFrom sources holds)
    : (ofUsers users books).YieldsFrom sources (fun loans => ∀ loan ∈ loans, holds loan) := by
  refine Draws.yieldsFrom_flatten (fun user known => ?_)
  refine (Draws.yields_any _).from.bind (fun count _ => ?_)
  refine (Draws.yields_sampleMany count books).from.bind (fun sampled within => ?_)
  exact Draws.yieldsFrom_mapM (fun book here => each user known book (within book here))

/-- The same for loans of sampled books: the sample is taken from the books, so what holds of a loan
of each of them holds of all that are drawn.
-/
theorem ofSampled_yieldsFrom (nonempty : books ≠ []) (low high : Nat)
    {loan : User → Book → Draws SampleLoan}
    (each : ∀ user ∈ users, ∀ book ∈ books, (loan user book).YieldsFrom sources holds)
    : (ofSampled users books nonempty low high loan).YieldsFrom sources
        (fun loans => ∀ loan ∈ loans, holds loan) := by
  refine (Draws.yields_any _).from.bind (fun count _ => ?_)
  refine (Draws.yields_sampleMany count users).from.bind (fun sampled within => ?_)
  refine Draws.yieldsFrom_mapM (fun user here => ?_)
  exact (Draws.yields_sample books nonempty).from.bind (each user (within user here))

/-- The same for loops over months: each month reads the clock anew, and what holds of a loan of any
month that follows from such a reading holds of all.
-/
theorem ofMonths_yieldsFrom (nonempty : books ≠ []) (advance : Int → Int → Int)
    {months : List Int} (low high : Nat) {loan : Int → User → Book → Draws SampleLoan}
    {reads : Int → Prop} (now : Draws.current.YieldsFrom sources reads)
    (each
      : ∀ month ∈ months, ∀ now, reads now → ∀ user ∈ users, ∀ book ∈ books,
        (loan (advance now month) user book).YieldsFrom sources holds)
    : (ofMonths users books nonempty advance months low high loan).YieldsFrom sources
        (fun loans => ∀ loan ∈ loans, holds loan) := by
  refine Draws.yieldsFrom_flatten (fun month listed => now.bind (fun instant here => ?_))
  exact ofSampled_yieldsFrom nonempty low high (each month listed instant here)

/-- Whatever the task draws, the columns of its loans agree: each scenario sets status and return
time together, and months ahead lie ahead.
-/
theorem all_drawn {steady : Prop} {today : Int} (nonempty : books ≠ [])
    {advance : Int → Int → Int}
    (ahead : steady → ∀ now month, 0 < month → now ≤ advance now month)
    : (all users books nonempty advance).YieldsFrom (Readings steady today)
        (fun loans => ∀ loan ∈ loans, Drawn steady today users books loan) := by
  have later (now month : Int) (reads : steady → toDate now = today) (positive : 0 < month)
      (holds : steady)
      : today ≤ toDate (advance now month) :=
    reads holds ▸ toDate_le (ahead holds now month positive)
  have monthsAhead : ∀ month ∈ ([1, 2] : List Int), 0 < month := by decide
  refine (ofUsers_yieldsFrom (fun user known book found => scenario_drawn known found)).bind
    (fun each he => ?_)
  refine (ofMonths_yieldsFrom nonempty advance 2 4 current_steady
    (fun month _ now _ user known book found => historical_drawn known found _)).bind
      (fun past hp => ?_)
  refine (ofMonths_yieldsFrom nonempty advance 1 3 current_steady
    (fun month listed now reads user known book found => future_drawn known found
      (later now month reads (monthsAhead month listed)))).bind (fun next hn => ?_)
  refine (ofSampled_yieldsFrom nonempty 3 5
    (fun user known book found => almostDue_drawn known found)).bind (fun almost ha => ?_)
  refine (ofSampled_yieldsFrom nonempty 2 4
    (fun user known book found =>
      pastDue_drawn known found 15 20 (by decide) (by decide))).bind (fun justPast hj => ?_)
  refine (ofSampled_yieldsFrom nonempty 2 3
    (fun user known book found =>
      pastDue_drawn known found 25 35 (by decide) (by decide))).bind (fun longPast hl => ?_)
  refine Draws.yieldsFrom_pure ?_
  simp only [List.forall_mem_append]
  exact ⟨⟨⟨⟨⟨he, hp⟩, hn⟩, ha⟩, hj⟩, hl⟩

end Loops
end SampleLoan

-----------------------------------------------------------------------------------------
-- The loans that are created
-----------------------------------------------------------------------------------------

def Store.BorrowedOnce (s : Store) : Prop := ∀ userId bookId, s.activeLoans userId bookId ≤ 1

/-- A loan of a pair without an active one leaves at most one of each pair: the inserted row is the
only new one.
-/
theorem Store.BorrowedOnce.insert {s : Store} (once : s.BorrowedOnce) (now : Int)
    {draft : Borrowing.Draft} (unheld : s.activeLoans draft.userId draft.bookId = 0)
    : (draft.insert now s).BorrowedOnce := by
  intro userId bookId
  rw [activeLoans, Borrowing.Draft.insert, Table.countP_insert]
  split
  · next counted =>
    obtain ⟨same, _⟩ := Bool.and_eq_true_iff.mp counted
    obtain ⟨owner, item⟩ := Bool.and_eq_true_iff.mp same
    rw [← beq_iff_eq.mp owner, ← beq_iff_eq.mp item]
    exact Nat.le_of_eq (congrArg (fun count => count + 1) unheld)
  · exact once userId bookId

/-- An insert that the validators let through keeps the limits, which they check for its book and
its user.
-/
theorem Store.WithinLimits.insert {s : Store} (within : s.WithinLimits) (now : Int)
    {draft : Borrowing.Draft} (valid : draft.errors s = [])
    : (draft.insert now s).WithinLimits := by
  simp only [Borrowing.Draft.errors, List.append_eq_nil_iff] at valid
  obtain ⟨⟨_, single⟩, spare⟩ := valid
  have unheld := (Borrowing.Draft.preventDuplicate_eq_nil_iff s draft).mp single
  have copies := (Borrowing.Draft.copiesAvailable_eq_nil_iff s draft).mp spare
  refine ⟨fun book member => ?_, BorrowedOnce.insert within.loans now unheld⟩
  rw [activeCopies, Borrowing.Draft.insert, Table.countP_insert]
  split
  · next counted =>
    obtain ⟨same, _⟩ := Bool.and_eq_true_iff.mp counted
    have free := copies book member (beq_iff_eq.mp same).symm
    rw [activeCopies] at free
    omega
  · exact within.copies book member

/-- The loan is overdue exactly when it is out and was due before the day, and was not returned
before it was borrowed.
-/
def Borrowing.TrueOn (day : Int) (loan : Borrowing) : Prop :=
  (loan.status = .overdue ↔ loan.returnedAt = none ∧ loan.dueDate < day)
  ∧ ∀ returnedAt ∈ loan.returnedAt, loan.borrowedAt ≤ returnedAt

instance (day : Int) (loan : Borrowing) : Decidable (loan.TrueOn day) :=
  inferInstanceAs (Decidable (_ ∧ ∀ returnedAt ∈ _, _))

/-- The rules that the loans of a store obey. -/
structure Store.Orderly (s : Store) : Prop extends s.Sound where
  within : s.WithinLimits
  membersOnly : s.MembersOnly

/-- A store between two `create!` calls of the task. -/
structure Store.Sampled (steady : Prop) (today : Int) (s s' : Store) : Prop
    extends s'.Orderly where
  users : s'.users = s.users
  books : s'.books = s.books
  trueOn : steady → ∀ loan ∈ s'.borrowings.rows, loan.TrueOn today

section Create

variable {steady : Prop} {today : Int} {s s' : Store} {users : List User} {books : List Book}
  {loan : SampleLoan}

/-- The row that a drawn loan becomes has a return time exactly where it is returned. -/
theorem SampleLoan.Drawn.row_coherent (drawn : loan.Drawn steady today users books) (id : Nat)
    : (loan.draft.toRow loan.now id).Coherent := by
  obtain ⟨status, given⟩ := Option.isSome_iff_exists.mp drawn.status
  have coherent := drawn.coherent
  rw [given, Option.some.injEq] at coherent
  rw [Borrowing.Coherent, Borrowing.Draft.toRow, given, Option.getD_some]
  exact coherent

/-- On the day of the run the status of the row is the one that its dates say. -/
theorem SampleLoan.Drawn.row_trueOn (drawn : loan.Drawn steady today users books)
    (holds : steady) (id : Nat)
    : (loan.draft.toRow loan.now id).TrueOn today := by
  obtain ⟨status, given⟩ := Option.isSome_iff_exists.mp drawn.status
  obtain ⟨dueDate, due⟩ := Option.isSome_iff_exists.mp drawn.dueDate
  obtain ⟨borrowedAt, lent⟩ := Option.isSome_iff_exists.mp drawn.borrowedAt
  have overdue := drawn.overdue holds
  have returned := drawn.returned holds
  simp only [given, due, lent, Option.mem_def, Option.some.injEq, forall_eq'] at overdue returned
  simp only [Borrowing.TrueOn, Borrowing.Draft.toRow, given, due, lent, Option.getD_some,
    Option.mem_def]
  exact ⟨overdue, returned⟩

/-- What a `create!` keeps: the new loan is a member's, its columns agree, and the validators have
let it through.
-/
theorem Store.Sampled.create (sampled : Sampled steady today s s')
    (members : ∀ user ∈ users, user ∈ s.users.rows ∧ user.role = .member)
    (drawn : loan.Drawn steady today users books) (valid : loan.draft.errors s' = [])
    : Sampled steady today s (loan.draft.insert loan.now s') where
  consistent := sampled.consistent.borrow valid
  coherent := by
    intro row member
    rcases (s'.borrowings.mem_insert).mp member with old | rfl
    · exact sampled.coherent row old
    · exact drawn.row_coherent _
  within := sampled.within.insert loan.now valid
  membersOnly := by
    intro row member
    rcases (s'.borrowings.mem_insert).mp member with old | rfl
    · exact sampled.membersOnly row old
    · obtain ⟨user, known, owns⟩ := drawn.user
      obtain ⟨present, isMember⟩ := members user known
      exact ⟨user, sampled.users.symm ▸ present, owns, isMember⟩
  users := sampled.users
  books := sampled.books
  trueOn := by
    intro holds row member
    rcases (s'.borrowings.mem_insert).mp member with old | rfl
    · exact sampled.trueOn holds row old
    · exact drawn.row_trueOn holds _

/-- The task may stop at any loan. -/
theorem Store.Sampled.createAll {loans : List SampleLoan} (sampled : Sampled steady today s s')
    (members : ∀ user ∈ users, user ∈ s.users.rows ∧ user.role = .member)
    (each : ∀ loan ∈ loans, loan.Drawn steady today users books)
    : Sampled steady today s (LibraryManagement.createAll loans s').store := by
  induction loans generalizing s' with
  | nil => exact sampled
  | cons loan loans ih =>
      obtain ⟨drawn, later⟩ := List.forall_mem_cons.mp each
      rw [LibraryManagement.createAll, Borrowing.Draft.create!,
        SampleLoan.setDefaults_eq drawn.toIsFor]
      cases valid : loan.draft.errors s' with
      | nil => exact ih (sampled.create members drawn valid) later
      | cons error errors => exact sampled

end Create

-----------------------------------------------------------------------------------------
-- The task
-----------------------------------------------------------------------------------------

namespace SeedRun

variable (run : SeedRun) {s : Store}

/-- The task runs on one day, and months ahead are ahead. -/
structure SteadyOn (today : Int) : Prop where
  clock : ∀ position, toDate (run.source.clock position) = today
  ahead : ∀ now month, 0 < month → now ≤ run.advance now month

theorem mem_users {user : User}
    : user ∈ run.users s ↔ user ∈ s.users.rows ∧ user.role = .member := by
  rw [users, mem_orderBy, List.mem_filter, User.isMember, beq_iff_eq]

/-- All loans that the task builds are drawn for a member and a stored book: each of the six loops
draws such loans, and the task appends what they draw.
-/
theorem loans_drawn (today : Int)
    : ∀ loan ∈ run.loans s, loan.Drawn (run.SteadyOn today) today (run.users s) (run.books s) := by
  intro loan drawn
  rw [loans] at drawn
  split at drawn
  · next nonempty =>
      exact SampleLoan.all_drawn nonempty.2 (fun steady => steady.ahead) run.source
        (fun steady => steady.clock) 0 loan drawn
  · exact absurd drawn List.not_mem_nil

theorem not_mem_destroyAll (s : Store) (loan : Borrowing)
    : loan ∉ (Borrowing.destroyAll s).borrowings.rows := by
  rw [destroyAll_rows]
  exact List.not_mem_nil

/-- The task begins with no loans and the users and books of the store, so nothing is sampled yet
and every limit is kept.
-/
theorem destroyAll_sampled (steady : Prop) (today : Int) (consistent : s.Consistent)
    : Store.Sampled steady today s (Borrowing.destroyAll s) where
  consistent := { consistent with
    borrowers := fun loan member => absurd member (not_mem_destroyAll s loan)
    booksOfLoans := fun loan member => absurd member (not_mem_destroyAll s loan) }
  coherent loan member := absurd member (not_mem_destroyAll s loan)
  within := by
    refine ⟨fun book member => ?_, fun userId bookId => ?_⟩
    · rw [Store.activeCopies, destroyAll_rows]
      exact consistent.copies book member
    · rw [Store.activeLoans, destroyAll_rows]
      exact Nat.zero_le 1
  membersOnly loan member := absurd member (not_mem_destroyAll s loan)
  users := rfl
  books := rfl
  trueOn _ loan member := absurd member (not_mem_destroyAll s loan)

/-- Without members or without books the task does nothing. -/
theorem seedBorrowings_eq_or_sampled (today : Int) (consistent : s.Consistent)
    : ((run.users s = [] ∨ run.books s = []) ∧ (run.seedBorrowings s).store = s)
      ∨ Store.Sampled (run.SteadyOn today) today s (run.seedBorrowings s).store := by
  rw [seedBorrowings]
  split
  · next empty =>
    refine Or.inl ⟨?_, rfl⟩
    simpa using empty
  · exact Or.inr ((destroyAll_sampled _ today consistent).createAll (fun _ known =>
      run.mem_users.mp known) (run.loans_drawn today))

/-- Wherever there are members and books, the task leaves loans that obey the rules of the loans
of requests: of members, at most one active for each member and book, no more active than there
are copies, with columns that agree. On a day on which all of the task runs, a sweep finds nothing
to mark. It touches neither users nor books.
-/
theorem seedBorrowings_orderly (today : Int) (consistent : s.Consistent)
    (members : ∃ user ∈ s.users.rows, user.role = .member) (stocked : s.books.rows ≠ [])
    : let seeded := (run.seedBorrowings s).store
      seeded.users = s.users ∧ seeded.books = s.books ∧ seeded.Orderly
      ∧ (run.SteadyOn today
        → (∀ loan ∈ seeded.borrowings.rows, loan.TrueOn today)
          ∧ (markOverdueBooks today seeded).count = 0) := by
  intro seeded
  have sampled : Store.Sampled (run.SteadyOn today) today s seeded := by
    refine (run.seedBorrowings_eq_or_sampled today consistent).resolve_left ?_
    rintro ⟨nobody | nothing, -⟩
    · obtain ⟨user, known, isMember⟩ := members
      have listed : user ∈ run.users s := run.mem_users.mpr ⟨known, isMember⟩
      rw [nobody] at listed
      exact absurd listed List.not_mem_nil
    · obtain ⟨book, member⟩ := List.exists_mem_of_ne_nil _ stocked
      have listed : book ∈ run.books s := mem_orderBy.mpr member
      rw [nothing] at listed
      exact absurd listed List.not_mem_nil
  refine ⟨sampled.users, sampled.books, sampled.toOrderly, fun steady => ?_⟩
  have trueOn := sampled.trueOn steady
  refine ⟨trueOn, ?_⟩
  rw [markOverdueBooks_count, List.countP_eq_zero]
  intro loan member selected
  obtain ⟨borrowed, due⟩ := overdueBorrowings_iff.mp selected
  have out := (sampled.coherent loan member).returnedAt_eq_none (by simp [borrowed])
  have overdue := (trueOn loan member).1.mpr ⟨out, due⟩
  cases borrowed.symm.trans overdue

/-- The sample run with a clock that stands at noon. -/
def sampleSteady : SeedRun :=
  { sample with source := { sample.source with clock := fun _ => microsecondsPerDay / 2 } }

theorem sampleSteady_steadyOn : sampleSteady.SteadyOn 0 where
  clock _ := rfl
  ahead := by
    intro now month positive
    let table : List (Int × Int) :=
      [(-6, -184), (-5, -153), (-4, -122), (-3, -92), (-2, -61), (-1, -31), (1, 31), (2, 59)]
    have forward : ∀ entry ∈ table, 0 < entry.1 → 0 ≤ entry.2 := by decide
    have days : 0 ≤ (table.lookup month).getD 0 := by
      cases found : table.lookup month with
      | none => exact Int.le_refl 0
      | some days =>
          obtain ⟨_, _, split, _⟩ := List.lookup_eq_some_iff.mp found
          exact forward (month, days) (split ▸ by simp) positive
    show now ≤ now + (table.lookup month).getD 0 * microsecondsPerDay
    have span := Int.mul_nonneg days (by decide : 0 ≤ microsecondsPerDay)
    omega

theorem seedBorrowings_orderly_sample
    : (sampleSteady.seedBorrowings Database.sample.store).store.Orderly
      ∧ (markOverdueBooks 0 (sampleSteady.seedBorrowings Database.sample.store).store).count = 0 :=
  have orderly := sampleSteady.seedBorrowings_orderly 0 Database.sample.consistent
    ⟨_, List.mem_cons_of_mem _ List.mem_cons_self, rfl⟩ (List.cons_ne_nil _ _)
  ⟨orderly.2.2.1, (orderly.2.2.2 sampleSteady_steadyOn).2⟩

end SeedRun
end LibraryManagement
