import LibraryManagement.Sampling.Draws
import LibraryManagement.Server.Borrowing

/-! `lib/tasks/borrowings.rake` -/

namespace LibraryManagement

open Relational Sampling

/-- A `Borrowing.create!` with the instant at which it runs. -/
structure SampleLoan where
  draft : Borrowing.Draft
  now : Int
  deriving DecidableEq, Repr

namespace SampleLoan

/-- `Borrowing.create!` with all the attributes that the task gives. -/
def create (user : User) (book : Book) (borrowedAt dueDate : Int) (status : Status)
    (returnedAt : Option Int) (returnComment : Option String)
    : Draws SampleLoan := do
  let now ← Draws.current
  return {
    draft := {
      userId := user.id
      bookId := book.id
      borrowedAt := some borrowedAt
      dueDate := some dueDate
      returnedAt := returnedAt
      status := some status
      returnComment := returnComment }
    now := now }

/-- `rand(low..high).days.ago` -/
def daysAgo (low high : Nat) : Draws Int := do
  let days ← Draws.between low high
  let now ← Draws.current
  return daysFromNow (-(days : Int)) now

/-- `rand(low..high).days.from_now` -/
def daysAhead (low high : Nat) : Draws Int := do
  let days ← Draws.between low high
  let now ← Draws.current
  return daysFromNow days now

/-- One of the scenarios of a user's books. -/
def scenario (user : User) (book : Book) : Draws SampleLoan := do
  match ← Draws.between 1 4 with
  | 1 =>
      let borrowedAt ← daysAgo 1 10
      let dueDate ← daysAhead 1 14
      create user book borrowedAt (toDate dueDate) .borrowed none none
  | 2 =>
      let borrowedAt ← daysAgo 15 30
      let returnedAt ← daysAgo 1 5
      let returnComment ← Draws.sample [some "Great book!", some "Interesting read",
        some "Would recommend", some "Good condition", none] (List.cons_ne_nil _ _)
      create user book borrowedAt (toDate borrowedAt + 14) .returned (some returnedAt)
        returnComment
  | 3 =>
      let borrowedAt ← daysAgo 20 40
      create user book borrowedAt (toDate borrowedAt + 14) .overdue none none
  | _ =>
      let borrowedAt ← daysAgo 25 45
      let returnedAt ← daysAgo 1 10
      let returnComment ← Draws.sample [some "Returned late", some "Sorry for the delay",
        some "Lost track of time", some "Busy schedule", none] (List.cons_ne_nil _ _)
      create user book borrowedAt (toDate borrowedAt + 14) .returned (some returnedAt)
        returnComment

variable (users : List User) (books : List Book) (nonempty : books ≠ [])

/-- `users.each do |user| ... end` -/
def ofUsers : Draws (List SampleLoan) := do
  let loans ← users.mapM (fun user => do
    let count ← Draws.between 3 6
    let sampled ← Draws.sampleMany count books
    sampled.mapM (scenario user))
  return loans.flatten

/-- `users.sample(rand(low..high)).each do |user| book = books.sample ... end` -/
def ofSampled (low high : Nat) (loan : User → Book → Draws SampleLoan)
    : Draws (List SampleLoan) := do
  let count ← Draws.between low high
  let sampled ← Draws.sampleMany count users
  sampled.mapM (fun user => do
    let book ← Draws.sample books nonempty
    loan user book)

def historical (monthAgo : Int) (user : User) (book : Book) : Draws SampleLoan := do
  let days ← Draws.between 1 28
  let borrowedAt := daysFromNow days monthAgo
  let dueDate := toDate borrowedAt + 14
  let now ← Draws.current
  if dueDate < toDate now then
    let chance ← Draws.below 10
    if chance < 7 then
      let late ← Draws.between 1 10
      let returnComment ← Draws.sample [some "Historical return", some "Old borrowing", none]
        (List.cons_ne_nil _ _)
      create user book borrowedAt dueDate .returned (some (beginningOfDay (dueDate + late)))
        returnComment
    else
      create user book borrowedAt dueDate .overdue none none
  else
    create user book borrowedAt dueDate .borrowed none none

def future (monthFromNow : Int) (user : User) (book : Book) : Draws SampleLoan := do
  let earlier ← Draws.between 1 14
  let later ← Draws.between 1 7
  create user book (daysFromNow (-(earlier : Int)) monthFromNow)
    (toDate (daysFromNow later monthFromNow)) .borrowed none none

def almostDue (user : User) (book : Book) : Draws SampleLoan := do
  let borrowedAt ← daysAgo 10 12
  let dueDate ← daysAhead 1 3
  create user book borrowedAt (toDate dueDate) .borrowed none none

def pastDue (borrowedLow borrowedHigh dueLow dueHigh : Nat) (user : User) (book : Book)
    : Draws SampleLoan := do
  let borrowedAt ← daysAgo borrowedLow borrowedHigh
  let dueDate ← daysAgo dueLow dueHigh
  create user book borrowedAt (toDate dueDate) .overdue none none

/-- Loans around the same day of other months; `advance` is `Time#advance(months: ...)`. -/
def ofMonths (advance : Int → Int → Int) (months : List Int) (low high : Nat)
    (loan : Int → User → Book → Draws SampleLoan)
    : Draws (List SampleLoan) := do
  let loans ← months.mapM (fun month => do
    let now ← Draws.current
    ofSampled users books nonempty low high (loan (advance now month)))
  return loans.flatten

/-- Every loan that the task would create, in order. No draw depends on what was stored before. -/
def all (advance : Int → Int → Int) : Draws (List SampleLoan) := do
  let each ← ofUsers users books
  let past ← ofMonths users books nonempty advance [-1, -2, -3, -4, -5, -6] 2 4 historical
  let next ← ofMonths users books nonempty advance [1, 2] 1 3 future
  let almost ← ofSampled users books nonempty 3 5 almostDue
  let justPast ← ofSampled users books nonempty 2 4 (pastDue 15 20 1 7)
  let longPast ← ofSampled users books nonempty 2 3 (pastDue 25 35 7 28)
  return each ++ past ++ next ++ almost ++ justPast ++ longPast

end SampleLoan

/-- `borrowing.destroy` of a record that was loaded under this id. -/
def Borrowing.destroy (s : Store) (id : Nat) : Store :=
  { s with borrowings := s.borrowings.delete (fun loan => loan.id == id) }

/-- `Borrowing.destroy_all`, all loaded records one after another. -/
def Borrowing.destroyAll (s : Store) : Store :=
  { s with borrowings := s.borrowings.delete (fun _ => true) }

/-- How the task ends, and the database it leaves. -/
structure SeedOutcome where
  completed : Bool
  store : Store
  deriving DecidableEq

/-- The `create!` calls up to the first that raises. -/
def createAll : List SampleLoan → Store → SeedOutcome
  | [], s => ⟨true, s⟩
  | loan :: loans, s =>
      match loan.draft.create! loan.now s with
      | .stored (_, stored) => createAll loans stored
      | .invalid _ | .raised _ => ⟨false, s⟩

/-- What one run of the task takes from outside. -/
structure SeedRun where
  source : Source
  /-- The order of the unordered queries, as in a request. -/
  tie : Nat → Nat
  /-- `Time#advance(months: ...)` of an instant. -/
  advance : Int → Int → Int

namespace SeedRun

variable (run : SeedRun) (s : Store)

/-- `User.where(role: :member)` -/
def users : List User :=
  orderBy (fun _ _ => True) (fun user => run.tie user.id) (s.users.rows.filter User.isMember)

/-- `Book.all` -/
def books : List Book := orderBy (fun _ _ => True) (fun book => run.tie book.id) s.books.rows

def loans : List SampleLoan :=
  if nonempty : run.users s ≠ [] ∧ run.books s ≠ [] then
    (SampleLoan.all (run.users s) (run.books s) nonempty.2 run.advance).value run.source 0
  else
    []

/-- `db:seed_borrowings` -/
def seedBorrowings : SeedOutcome :=
  if (run.users s).isEmpty || (run.books s).isEmpty then
    -- A `return` in the block of a task raises as well.
    ⟨false, s⟩
  else
    createAll (run.loans s) (Borrowing.destroyAll s)

end SeedRun
end LibraryManagement
