import LibraryManagement.Client.BorrowingsPage
import LibraryManagement.Fetching.Component

/-! The five list pages of `frontend/src/pages`. Their controls change the parameters of a
`GET` request, an effect sends it again whenever they have changed, and the rows of whichever
response arrives are put into the table.
-/

namespace LibraryManagement

open Fetching Transition

-----------------------------------------------------------------------------------------
-- Pages with a search field and a pager
-----------------------------------------------------------------------------------------

/-- The state hooks of the books pages and of `MembersPage` that their lists depend on. -/
structure SearchPage (Row : Type) where
  rows : List Row := []
  q : String := ""
  page : Nat := 1
  deriving DecidableEq, Repr

inductive SearchEvent where
  | search (q : String)
  | prev
  | next
  deriving DecidableEq, Repr

namespace SearchPage

variable {Row : Type}

/-- The pager below the table is rendered. -/
def pagerShown (page : SearchPage Row) : Bool := page.page > 1 || page.rows.length == 25

def act (page : SearchPage Row) : SearchEvent → SearchPage Row
  | .search q => { page with q := q, page := 1 }
  | .prev =>
      if page.pagerShown && page.page != 1 then
        { page with page := max 1 (page.page - 1) }
      else
        page
  | .next =>
      if page.pagerShown && !(page.rows.length < 25) then
        { page with page := page.page + 1 }
      else
        page

theorem act_rows (page : SearchPage Row) (event : SearchEvent)
    : (page.act event).rows = page.rows := by
  cases event with
  | search q => rfl
  | prev | next =>
      simp only [act]
      split <;> rfl

/-- A page with its endpoint and with what a failed request does to its rows. -/
def component (endpoint : Option String → Int → Request) (failed : List Row → List Row)
    : Component (SearchPage Row) SearchEvent Request (List Row) where
  query page := endpoint (some page.q) page.page
  shown := rows
  act := act
  receive
    | some rows, page => { page with rows := rows }
    | none, page => { page with rows := failed page.rows }
  shown_act := act_rows
  shown_receive _ _ := rfl
  query_receive answer _ := by cases answer <;> rfl

end SearchPage

/-- `pages/librarian/Books.tsx` -/
def Books : Component (SearchPage BookRecord) SearchEvent Request (List BookRecord) :=
  SearchPage.component (fun q page => .books (.index q page)) (fun _ => [])

/-- `pages/member/Books.tsx`; a failure is not handled and leaves the table. -/
def MemberBooks : Component (SearchPage BookRecord) SearchEvent Request (List BookRecord) :=
  SearchPage.component (fun q page => .books (.index q page)) id

/-- `pages/librarian/Members.tsx` -/
def MembersPage : Component (SearchPage UserRecord) SearchEvent Request (List UserRecord) :=
  SearchPage.component (fun q page => .members (.index q page)) (fun _ => [])

-----------------------------------------------------------------------------------------
-- Pages of borrowings
-----------------------------------------------------------------------------------------

/-- The events of a borrowings page that change its parameters. -/
inductive BorrowingsChange where
  | search (q : String)
  | pickDate (date : String)
  | clear
  | pickStatus (status : Option Status)
  | sortByBorrowed
  | sortByDue
  | prev
  | next
  deriving DecidableEq, Repr

def BorrowingsChange.toEvent : BorrowingsChange → BorrowingsPage.Event
  | .search q => .search q
  | .pickDate date => .pickDate date
  | .clear => .clear
  | .pickStatus status => .pickStatus status
  | .sortByBorrowed => .sortByBorrowed
  | .sortByDue => .sortByDue
  | .prev => .prev
  | .next => .next

namespace BorrowingsPage

def change (page : BorrowingsPage) : BorrowingsChange → BorrowingsPage
  | .search q => { page with q := q, page := 1 }
  | .pickDate date => { page with date := date, page := 1 }
  | .clear => { page with q := "", date := "", page := 1 }
  | .pickStatus status => { page with status := status, page := 1 }
  | .sortByBorrowed =>
      match page.sort with
      | .borrowedAt =>
          { page with direction := if page.direction = .desc then .asc else .desc, page := 1 }
      | .dueDate => { page with sort := .borrowedAt, direction := .desc, page := 1 }
  | .sortByDue =>
      match page.sort with
      | .dueDate =>
          { page with direction := if page.direction = .asc then .desc else .asc, page := 1 }
      | .borrowedAt => { page with sort := .dueDate, direction := .asc, page := 1 }
  | .prev => { page with page := max 1 (page.page - 1) }
  | .next => { page with page := page.page + 1 }

def act (page : BorrowingsPage) (event : BorrowingsChange) : BorrowingsPage :=
  if page.offers event.toEvent then page.change event else page

theorem change_items (page : BorrowingsPage) (event : BorrowingsChange)
    : (page.change event).items = page.items := by
  cases event with
  | sortByBorrowed | sortByDue =>
      simp only [change]
      split <;> rfl
  | search | pickDate | clear | pickStatus | prev | next => rfl

theorem act_items (page : BorrowingsPage) (event : BorrowingsChange)
    : (page.act event).items = page.items := by
  rw [act]
  split
  · exact page.change_items event
  · rfl

/-- A page of borrowings with what a failed request does to its rows. -/
def component (failed : List BorrowingItem → List BorrowingItem)
    : Component BorrowingsPage BorrowingsChange Request (List BorrowingItem) where
  query page := .borrowings (.index page.params)
  shown := items
  act := act
  receive
    | some rows, page => { page with items := rows }
    | none, page => { page with items := failed page.items }
  shown_act := act_items
  shown_receive _ _ := rfl
  query_receive answer _ := by cases answer <;> rfl

end BorrowingsPage

/-- The list of `pages/librarian/Borrowings.tsx`. -/
def LibrarianBorrowings : Component BorrowingsPage BorrowingsChange Request (List BorrowingItem) :=
  BorrowingsPage.component (fun _ => [])

/-- `pages/member/Borrowings.tsx`: the same controls, without the returns; a failure is not
handled and leaves the table.
-/
def MemberBorrowingsPage : Component BorrowingsPage BorrowingsChange Request (List BorrowingItem) :=
  BorrowingsPage.component id

-----------------------------------------------------------------------------------------
-- All five
-----------------------------------------------------------------------------------------

inductive ListPage where
  | librarianBooks
  | memberBooks
  | librarianBorrowings
  | memberBorrowings
  | members
  deriving DecidableEq, Repr

namespace ListPage

abbrev View : ListPage → Type
  | .librarianBooks | .memberBooks => SearchPage BookRecord
  | .librarianBorrowings | .memberBorrowings => BorrowingsPage
  | .members => SearchPage UserRecord

abbrev Event : ListPage → Type
  | .librarianBooks | .memberBooks | .members => SearchEvent
  | .librarianBorrowings | .memberBorrowings => BorrowingsChange

abbrev Row : ListPage → Type
  | .librarianBooks | .memberBooks => BookRecord
  | .librarianBorrowings | .memberBorrowings => BorrowingItem
  | .members => UserRecord

def component : (page : ListPage) → Component page.View page.Event Request (List page.Row)
  | .librarianBooks => Books
  | .memberBooks => MemberBooks
  | .librarianBorrowings => LibrarianBorrowings
  | .memberBorrowings => MemberBorrowingsPage
  | .members => MembersPage

/-- The page as it is opened; only the borrowings read the status of the URL. -/
def opened : (page : ListPage) → (status : Option String) → page.View
  | .librarianBooks, _ | .memberBooks, _ | .members, _ => {}
  | .librarianBorrowings, status | .memberBorrowings, status =>
      { status := status.bind Status.statuses }

/-- The states of a page that is opened, used and answered; `rows number` are those of the
response to its request of that number.
-/
abbrev run (page : ListPage) (status : Option String) (rows : Nat → List page.Row)
    (actions : List (Action page.Event))
    : List (State page.View Request) :=
  states (page.component.step (fun number => some (rows number)))
    (page.component.mount (page.opened status)) actions

/-- Every delivery that leaves no request outstanding is of an accepted request. -/
def DeliversLast (page : ListPage) (accepted : State page.View Request → Nat → Prop)
    (status : Option String) (rows : Nat → List page.Row) (actions : List (Action page.Event))
    : Prop :=
  EachStep (page.component.step (fun number => some (rows number)))
    (Component.SettlesWith accepted) (page.component.mount (page.opened status)) actions

end ListPage

/-- Without outstanding requests a page shows the response to its latest request exactly along
the runs in which the latest request is the last to be answered; and a response for the
parameters shown exactly along those in which the last to be answered is for these parameters.
-/
theorem listPage_settled_iff (page : ListPage) (status : Option String)
    (rows : Nat → List page.Row) (actions : List (Action page.Event))
    : ((∀ reached ∈ page.run status rows actions,
          page.component.Settled rows Component.Latest reached)
        ↔ page.DeliversLast Component.Latest status rows actions)
      ∧ ((∀ reached ∈ page.run status rows actions,
          page.component.Settled rows page.component.Current reached)
        ↔ page.DeliversLast page.component.Current status rows actions) :=
  ⟨Component.forall_states_settled_iff page.component.latest_stable _ actions,
    Component.forall_states_settled_iff page.component.current_stable _ actions⟩

/-- A book that the unfiltered list contains. -/
def ListPage.sampleRows : Nat → List BookRecord
  | 0 => [{ id := 1, title := "Dune", author := "Frank Herbert", genre := "Science Fiction",
            isbn := "1", totalCopies := 1, canBorrow := false }]
  | _ => []

/-- A search is answered before the list that the page asked for when it was opened. -/
def ListPage.sampleOvertaken : List (Action SearchEvent) :=
  [.act (.search "Emma"), .deliver 1, .deliver 0]

/-- The page then shows the unfiltered list under the search text, although every request has been
answered: neither the latest nor the current query is on the screen.
-/
theorem overtaken_search_stale
    : (∃ reached ∈ ListPage.librarianBooks.run none ListPage.sampleRows ListPage.sampleOvertaken,
        reached.outstanding = [] ∧ reached.view.q = "Emma"
        ∧ reached.view.rows ≠ ListPage.sampleRows 1)
      ∧ (¬∀ reached ∈ ListPage.librarianBooks.run none ListPage.sampleRows
            ListPage.sampleOvertaken,
          Books.Settled ListPage.sampleRows Component.Latest reached)
      ∧ ¬∀ reached ∈ ListPage.librarianBooks.run none ListPage.sampleRows
            ListPage.sampleOvertaken,
          Books.Settled ListPage.sampleRows Books.Current reached := by
  have last : (⟨⟨ListPage.sampleRows 0, "Emma", 1⟩,
        [.books (.index (some "") 1), .books (.index (some "Emma") 1)], [], some 0⟩
        : State (SearchPage BookRecord) Request)
      ∈ ListPage.librarianBooks.run none ListPage.sampleRows ListPage.sampleOvertaken := by
    decide
  refine ⟨⟨_, last, rfl, rfl, by decide⟩, ?_, ?_⟩
  · intro always
    obtain ⟨number, delivered, latest, _⟩ := always _ last rfl
    obtain rfl := Option.some.inj delivered
    exact absurd latest (by decide)
  · intro always
    obtain ⟨number, delivered, current, _⟩ := always _ last rfl
    obtain rfl := Option.some.inj delivered
    exact absurd current (by decide)

end LibraryManagement
