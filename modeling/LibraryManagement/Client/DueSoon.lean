import LibraryManagement.Calendar.Zone
import LibraryManagement.Client.EditBook
import LibraryManagement.Client.ListPages

/-! The rows of `frontend/src/pages/member/Borrowings.tsx` and of
`frontend/src/pages/librarian/Borrowings.tsx`. The browser subtracts the instant it renders at from
midnight UTC of the due date, and rounds up; the dashboards compare dates.
-/

namespace LibraryManagement

open Calendar

/-- What `Date` keeps of an instant, in the browser and in JSON. -/
def milliseconds (instant : Int) : Int := instant / 1000

/-- `new Date()` -/
def Env.clientNow (env : Env) : Int := milliseconds env.now

inductive StatusBadge where
  | dueSoon (days : Int)
  | borrowed
  | returned
  | overdue
  deriving DecidableEq, Repr

/-- The badge is `Due soon`, for any number of days. -/
def StatusBadge.isDueSoon : StatusBadge → Bool
  | .dueSoon _ => true
  | .borrowed | .returned | .overdue => false

/-- The cell of the column Status. A due date has a year of four digits; `new Date` reads that as
midnight in UTC.
-/
def statusBadge (now : Int) (it : BorrowingItem) : StatusBadge :=
  match it.borrowing.status with
  | .borrowed =>
      let dueDate := it.borrowing.dueDate * day
      let daysUntilDue := ceilDiv (dueDate - now) day
      if daysUntilDue ≤ 3 && daysUntilDue ≥ 0 then .dueSoon daysUntilDue else .borrowed
  | .returned => .returned
  | .overdue => .overdue

/-- The cells of a borrowing; only librarians see whose it is and have a button to return it. -/
structure BorrowingRow where
  user : Option String := none
  title : Option String
  author : Option String
  borrowedOn : Int
  dueOn : Int
  status : StatusBadge
  returnable : Bool := false
  deriving DecidableEq, Repr

/-- A row of `pages/member/Borrowings.tsx`, with its dates in the zone of the browser. -/
def MemberBorrowingsPage.row (zone : Zone) (now : Int) (it : BorrowingItem) : BorrowingRow where
  title := it.book.map Book.title
  author := it.book.map Book.author
  borrowedOn := zone.dateOf (milliseconds it.borrowing.borrowedAt)
  dueOn := zone.dateOf (it.borrowing.dueDate * day)
  status := statusBadge now it

/-- JavaScript's `trim` -/
def trim (text : String) : String :=
  let start := text.toList.dropWhile BookForm.isTrimmed
  String.ofList (start.reverse.dropWhile BookForm.isTrimmed).reverse

/-- The name of a borrower, or else the email. -/
def LibrarianBorrowings.user (it : BorrowingItem) : String :=
  match it.user with
  | none => "-"
  | some user =>
      let firstName := user.firstName.getD ""
      let lastName := user.lastName.getD ""
      if firstName != "" || lastName != "" then trim (firstName ++ " " ++ lastName) else user.email

/-- A row of `pages/librarian/Borrowings.tsx`, for a librarian. -/
def LibrarianBorrowings.row (zone : Zone) (now : Int) (it : BorrowingItem) : BorrowingRow where
  user := some (user it)
  title := it.book.map Book.title
  author := it.book.map Book.author
  borrowedOn := zone.dateOf (milliseconds it.borrowing.borrowedAt)
  dueOn := zone.dateOf (it.borrowing.dueDate * day)
  status := statusBadge now it
  returnable := it.borrowing.status == .borrowed

-----------------------------------------------------------------------------------------
-- Both clocks
-----------------------------------------------------------------------------------------

/-- The days until a due date, rounded up, are those from today to it. -/
theorem daysUntilDue_eq (env : Env) (dueDate : Int)
    : ceilDiv (dueDate * day - env.clientNow) day = dueDate - env.today := by
  have same : env.clientNow / day = env.today := by
    rw [Env.clientNow, milliseconds, day, Env.today, toDate, microsecondsPerDay]
    omega
  rw [ceilDiv_sub day_pos, same]

theorem statusBadge_eq_dueSoon_iff (env : Env) (it : BorrowingItem) (days : Int)
    : statusBadge env.clientNow it = .dueSoon days
      ↔ DashboardsController.dueSoon env.today it.borrowing
        ∧ days = it.borrowing.dueDate - env.today := by
  rw [statusBadge, DashboardsController.dueSoon]
  cases it.borrowing.status with
  | borrowed =>
      simp only [daysUntilDue_eq, beq_self_eq_true, Bool.true_and, Bool.and_eq_true,
        decide_eq_true_eq]
      split
      · rw [StatusBadge.dueSoon.injEq]
        omega
      · next outside =>
        simp only [reduceCtorEq, false_iff]
        omega
  | returned | overdue => simp

/-- A list shows a loan as due soon exactly if the dashboards count it. -/
theorem statusBadge_isDueSoon (env : Env) (it : BorrowingItem)
    : (statusBadge env.clientNow it).isDueSoon
      = DashboardsController.dueSoon env.today it.borrowing := by
  cases counted : DashboardsController.dueSoon env.today it.borrowing with
  | true =>
      have soon := (statusBadge_eq_dueSoon_iff env it _).mpr ⟨counted, rfl⟩
      rw [soon]
      rfl
  | false =>
      cases badge : statusBadge env.clientNow it with
      | dueSoon days =>
          have due := ((statusBadge_eq_dueSoon_iff env it days).mp badge).1
          exact absurd due (by simp [counted])
      | borrowed | returned | overdue => rfl

/-- In every zone and at every instant both lists show a loan as due soon, in so many days, exactly
if it is due in so many days, which are none to three; and the dashboards count the loans that
the lists show as due soon.
-/
theorem dueSoon_agrees (zone : Zone) (env : Env) (s : Store) (member : User)
    : (∀ (it : BorrowingItem) (days : Int),
        ((MemberBorrowingsPage.row zone env.clientNow it).status = .dueSoon days
          ↔ DashboardsController.dueSoon env.today it.borrowing
            ∧ days = it.borrowing.dueDate - env.today)
        ∧ ((LibrarianBorrowings.row zone env.clientNow it).status = .dueSoon days
          ↔ DashboardsController.dueSoon env.today it.borrowing
            ∧ days = it.borrowing.dueDate - env.today))
      ∧ (DashboardsController.librarian env s).dueToday
        = s.borrowings.rows.countP (fun loan =>
            (LibrarianBorrowings.row zone env.clientNow
              (BorrowingsController.item s loan)).status.isDueSoon)
      ∧ (DashboardsController.member env member s).dueSoonCount
        = (s.borrowings.rows.filter (fun loan => loan.userId == member.id)).countP (fun loan =>
            (MemberBorrowingsPage.row zone env.clientNow
              (DashboardsController.withBook s loan)).status.isDueSoon) := by
  refine ⟨fun it days => ?_, ?_, ?_⟩
  · exact ⟨statusBadge_eq_dueSoon_iff env it days, statusBadge_eq_dueSoon_iff env it days⟩
  · simp only [LibrarianBorrowings.row, statusBadge_isDueSoon]
    rfl
  · simp only [MemberBorrowingsPage.row, statusBadge_isDueSoon]
    rfl

end LibraryManagement
