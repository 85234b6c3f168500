import LibraryManagement.Controllers.Routes

/-! `frontend/src/pages/librarian/Borrowings.tsx`: the state of the page, the controls it
offers and what they do. Requests are answered one after another.
-/

namespace LibraryManagement

inductive SortColumn where
  | borrowedAt
  | dueDate
  deriving DecidableEq, Repr

/-- The state hooks of `BorrowingsPage`; no status stands for `"all"`. -/
structure BorrowingsPage where
  items : List BorrowingItem := []
  page : Nat := 1
  sort : SortColumn := .borrowedAt
  direction : Direction := .desc
  status : Option Status := none
  q : String := ""
  date : String := ""
  returningId : Option Nat := none
  returnComment : String := ""
  deriving DecidableEq, Repr

namespace BorrowingsPage

inductive Event where
  | search (q : String)
  | pickDate (date : String)
  | clear
  | pickStatus (status : Option Status)
  | sortByBorrowed
  | sortByDue
  | prev
  | next
  | openReturn (id : Nat)
  | cancel
  | writeComment (text : String)
  | confirmReturn
  deriving DecidableEq, Repr

/-- The pager below the table is rendered. -/
def pagerShown (page : BorrowingsPage) : Bool := page.page > 1 || page.items.length == 25

/-- The control of an event is rendered and enabled. -/
def offers (page : BorrowingsPage) : Event → Bool
  | .search _ | .pickDate _ | .pickStatus _ | .sortByBorrowed | .sortByDue => true
  | .clear => page.q != "" || page.date != ""
  | .prev => page.pagerShown && page.page != 1
  | .next => page.pagerShown && !(page.items.length < 25)
  | .openReturn id =>
      page.items.any (fun it => it.borrowing.id == id && it.borrowing.status == .borrowed)
  | .cancel | .writeComment _ | .confirmReturn => page.returningId.isSome

def sortParam : SortColumn → String
  | .borrowedAt => "borrowed_at"
  | .dueDate => "due_date"

def directionParam : Direction → String
  | .asc => "asc"
  | .desc => "desc"

def statusParam : Option Status → String
  | none => "all"
  | some .borrowed => "borrowed"
  | some .returned => "returned"
  | some .overdue => "overdue"

/-- `value || undefined` -/
def orUndefined (value : String) : Option String := if value = "" then none else some value

/-- The query of `GET /borrowings`. -/
def params (page : BorrowingsPage) : BorrowingsParams where
  page := page.page
  sort := some (sortParam page.sort)
  status := some (statusParam page.status)
  direction := some (directionParam page.direction)
  q := orUndefined page.q
  date := orUndefined page.date

end BorrowingsPage

/-- The page in a browser session, with the store behind it. -/
structure Screen where
  page : BorrowingsPage
  store : Store
  deriving DecidableEq

namespace Screen

open BorrowingsPage

variable (platform : Platform) (env : Env) (session : Nat)

def request (request : Request) : Call where
  env := env
  session := some session
  request := request

/-- `load`: any answer without a list leaves the table empty. -/
def load (screen : Screen) : Screen :=
  let call := request env session (.borrowings (.index screen.page.params))
  let (response, store) := perform platform screen.store call
  let items := match response.body with
    | .borrowings items => items
    | _ => []
  { page := { screen.page with items := items }, store := store }

/-- `useEffect(() => { load(); }, [load])`: the list is loaded again when the query changed. -/
def rerender (screen : Screen) (page : BorrowingsPage) : Screen :=
  if page.params = screen.page.params then
    { screen with page := page }
  else
    load platform env session { screen with page := page }

def mount (status : Option String) (store : Store) : Screen :=
  load platform env session
    { page := { status := status.bind Status.statuses }, store := store }

/-- The confirmed return: the list is loaded again after a success. -/
def onReturn (id : Nat) (screen : Screen) : Screen :=
  let call := request env session
    (.borrowings (.returnBook id (orUndefined screen.page.returnComment)))
  let (response, store) := perform platform screen.store call
  let after := { screen with store := store }
  if response.status = .ok then load platform env session after else after

/-- A control acts when it is offered. -/
def step (screen : Screen) (event : Event) : Screen :=
  let page := screen.page
  if !page.offers event then
    screen
  else
    match event with
    | .search q => rerender platform env session screen { page with q := q, page := 1 }
    | .pickDate date => rerender platform env session screen { page with date := date, page := 1 }
    | .clear =>
        rerender platform env session screen { page with q := "", date := "", page := 1 }
    | .pickStatus status =>
        rerender platform env session screen { page with status := status, page := 1 }
    | .sortByBorrowed =>
        rerender platform env session screen
          (match page.sort with
          | .borrowedAt =>
              { page with
                direction := if page.direction = .desc then .asc else .desc, page := 1 }
          | .dueDate => { page with sort := .borrowedAt, direction := .desc, page := 1 })
    | .sortByDue =>
        rerender platform env session screen
          (match page.sort with
          | .dueDate =>
              { page with
                direction := if page.direction = .asc then .desc else .asc, page := 1 }
          | .borrowedAt => { page with sort := .dueDate, direction := .asc, page := 1 })
    | .prev => rerender platform env session screen { page with page := max 1 (page.page - 1) }
    | .next => rerender platform env session screen { page with page := page.page + 1 }
    | .openReturn id =>
        { screen with page := { page with returningId := some id, returnComment := "" } }
    | .cancel => { screen with page := { page with returningId := none, returnComment := "" } }
    | .writeComment text => { screen with page := { page with returnComment := text } }
    | .confirmReturn =>
        let after := match page.returningId with
          | some id => onReturn platform env session id screen
          | none => screen
        { after with page := { after.page with returningId := none, returnComment := "" } }

end Screen
end LibraryManagement
