import LibraryManagement.Calendar.Zone
import LibraryManagement.Client.DueSoon
import LibraryManagement.Lending.Exhaustion

/-! `frontend/src/components/BorrowButton.tsx`. The return date that it promises is computed when
the button is mounted, on the clock and in the zone of the browser; the one that is recorded is
computed by the request.
-/

namespace LibraryManagement

open Calendar Relational Transition

/-- The state hooks and the memoized date. The message of a success is its date. -/
structure BorrowButton where
  dueDateText : Int
  isOpen : Bool := false
  errorMessage : String := ""
  successMessage : Option Int := none
  available : Bool := true
  deriving DecidableEq, Repr

/-- What happens to a mounted button, and what others do meanwhile. -/
inductive BorrowEvent where
  | open
  /-- `onClose` of the dialog. -/
  | close
  | cancel
  | confirm (env : Env)
  /-- The control `Close` below the message of a success. -/
  | done
  | elsewhere (call : Call)

/-- A button with the database behind it. -/
structure BorrowScreen where
  button : BorrowButton
  store : Store

namespace BorrowButton

/-- `useMemo(() => { ... }, [])` -/
def mount (zone : Zone) (now : Int) : BorrowButton where
  dueDateText := zone.dateOf (zone.addDays 14 now)

def offersConfirm (button : BorrowButton) : Bool := button.isOpen && button.successMessage.isNone

def failure (response : Response) : String :=
  match response.body with
  | .details error details => if details.isEmpty then error else "\n".intercalate details
  | .error error => error
  | _ => "Failed to borrow"

end BorrowButton

namespace BorrowScreen

variable (platform : Platform) (session bookId : Nat)

/-- `api.post("/borrowings", { book_id: bookId })` -/
def request (env : Env) : Call where
  env := env
  session := some session
  request := .borrowings (.create bookId)

def confirmBorrow (env : Env) (screen : BorrowScreen) : BorrowScreen :=
  let (response, store) := perform platform screen.store (request session bookId env)
  if response.succeeded then
    { button := { screen.button with
        errorMessage := ""
        successMessage := some screen.button.dueDateText
        available := false }
      store := store }
  else
    { button := { screen.button with errorMessage := BorrowButton.failure response }
      store := store }

/-- A control acts when it is shown. -/
def step (screen : BorrowScreen) : BorrowEvent → BorrowScreen
  | .open =>
      if screen.button.available then
        { screen with
          button := { screen.button with
            errorMessage := "", successMessage := none, isOpen := true } }
      else
        screen
  | .close =>
      if screen.button.isOpen then
        { screen with
          button := { screen.button with
            isOpen := false, errorMessage := "", successMessage := none } }
      else
        screen
  | .cancel =>
      if screen.button.offersConfirm then
        { screen with button := { screen.button with isOpen := false, errorMessage := "" } }
      else
        screen
  | .confirm env =>
      if screen.button.offersConfirm then
        confirmBorrow platform session bookId env screen
      else
        screen
  | .done =>
      if screen.button.isOpen && screen.button.successMessage.isSome then
        { screen with button := { screen.button with isOpen := false, successMessage := none } }
      else
        screen
  | .elsewhere call => { screen with store := LibraryManagement.step platform screen.store call }

/-- A borrowing that is confirmed and accepted is recorded with the date that is shown. -/
def KeepsPromise (screen : BorrowScreen) : BorrowEvent → Prop
  | .confirm env =>
      screen.button.offersConfirm
      → (perform platform screen.store (request session bookId env)).1.succeeded
      → ∃ loan ∈ (step platform session bookId screen (.confirm env)).store.borrowings.find?
            screen.store.borrowings.nextKey,
          (step platform session bookId screen (.confirm env)).button.successMessage
            = some loan.dueDate
  | .open | .close | .cancel | .done | .elsewhere _ => True

instance (screen : BorrowScreen)
    : DecidablePred (screen.KeepsPromise platform session bookId)
  | .confirm _ => inferInstanceAs (Decidable (_ → _ → ∃ loan ∈ _, _))
  | .open | .close | .cancel | .done | .elsewhere _ => isTrue trivial

/-- A borrowing that is confirmed and let through is requested on the date in UTC that it was in the
browser when the button was mounted. A local time two weeks later that the clocks skip counts for
the date on which it is read.
-/
def MountedSameDay (zone : Zone) (mounted : Int) (screen : BorrowScreen) : BorrowEvent → Prop
  | .confirm env =>
      screen.button.offersConfirm
      → ((request session bookId env).lends screen.store).isSome
      → zone.dateOf mounted + zone.carry (zone.localTime mounted + 14 * day) = env.today
  | .open | .close | .cancel | .done | .elsewhere _ => True

variable {platform session bookId}

/-- The date is never computed again. -/
theorem step_dueDateText (screen : BorrowScreen) (event : BorrowEvent)
    : (step platform session bookId screen event).button.dueDateText
      = screen.button.dueDateText := by
  cases event with
  | «open» | close | cancel | done =>
      simp only [step]
      split <;> rfl
  | confirm env =>
      simp only [step, confirmBorrow]
      split
      · split <;> rfl
      · rfl
  | elsewhere call => rfl

/-- The request succeeds exactly where the validators let it through; without a user behind the
session it is refused before.
-/
theorem succeeded_iff (platform : Platform) (session bookId : Nat) (env : Env) (s : Store)
    : (perform platform s (request session bookId env)).1.succeeded
      ↔ ((request session bookId env).lends s).isSome := by
  cases signedIn : (request session bookId env).currentUser s with
  | none =>
      have unknown : s.users.find? session = none := signedIn
      have refused : perform platform s (request session bookId env)
          = (unauthenticated .json, s) := by
        simp only [perform, request, Call.currentUser, Option.bind_some, unknown,
          BorrowingsController.handle, authenticateUser]
      have unlent : (request session bookId env).lends s = none := by
        simp only [Call.lends, signedIn]
        rfl
      rw [refused, unlent]
      simp [unauthenticated, Response.succeeded]
  | some user =>
      rcases perform_create platform signedIn rfl with
        ⟨book, _, lends, created⟩ | ⟨unlent, _, refused⟩
      · simp [Response.succeeded, created, lends]
      · rw [unlent, Response.succeeded, refused]
        cases s.books.find? bookId <;> simp

/-- A click keeps the promise exactly where it lends nothing or the server has the date that the
browser had at the mounting: both dates are counted from the same day.
-/
theorem keepsPromise_iff (zone : Zone) (mounted : Int) {screen : BorrowScreen}
    (promised : screen.button.dueDateText = (BorrowButton.mount zone mounted).dueDateText)
    (event : BorrowEvent)
    : screen.KeepsPromise platform session bookId event
      ↔ screen.MountedSameDay session bookId zone mounted event := by
  cases event with
  | «open» | close | cancel | done | elsewhere => exact Iff.rfl
  | confirm env =>
      simp only [KeepsPromise, MountedSameDay]
      refine imp_congr_right (fun offered => ?_)
      rw [succeeded_iff]
      refine imp_congr_right (fun lent => ?_)
      obtain ⟨⟨user, book⟩, lends⟩ := Option.isSome_iff_exists.mp lent
      have performed := @perform_lends platform _ _ _ _ lends
      have recorded : ((Borrowing.requested env.now user book).insert env.now
          screen.store).borrowings.find? screen.store.borrowings.nextKey
          = some ((Borrowing.requested env.now user book).toRow env.now
              screen.store.borrowings.nextKey) :=
        Table.find?_of_mem _ ((Table.mem_insert _).mpr (Or.inr rfl))
      have due : ((Borrowing.requested env.now user book).toRow env.now
          screen.store.borrowings.nextKey).dueDate = env.today + 14 :=
        Borrowing.requested_dueDate _ _ _ _ _
      have shown : (BorrowButton.mount zone mounted).dueDateText
          = zone.dateOf mounted + 14 + zone.carry (zone.localTime mounted + 14 * day) :=
        zone.dateOf_addDays 14 mounted
      simp only [step, offered, if_true, confirmBorrow, performed, Response.succeeded, promised,
        shown]
      have stored := recorded
      simp only [request] at stored ⊢
      rw [stored]
      simp only [Option.mem_some, exists_eq_left', Option.some.injEq, due]
      omega

/-- Without changes of the clocks no local time is skipped. -/
theorem mountedSameDay_fixed_iff (ahead mounted : Int) (screen : BorrowScreen) (env : Env)
    : screen.MountedSameDay session bookId (.fixed ahead) mounted (.confirm env)
      ↔ (screen.button.offersConfirm
        → ((request session bookId env).lends screen.store).isSome
        → (Zone.fixed ahead).dateOf mounted = env.today) := by
  rw [MountedSameDay, Zone.fixed_carry, Int.add_zero]

end BorrowScreen

/-- Throughout a run the date that a button promises is the recorded one exactly when every
borrowing that is let through is requested on the date in UTC that it was in the browser when the
button was mounted.
-/
theorem promise_kept_iff (platform : Platform) (session bookId : Nat) (zone : Zone) (mounted : Int)
    (store : Store) (events : List BorrowEvent)
    : EachStep (BorrowScreen.step platform session bookId)
          (BorrowScreen.KeepsPromise platform session bookId)
          { button := .mount zone mounted, store := store } events
      ↔ EachStep (BorrowScreen.step platform session bookId)
          (BorrowScreen.MountedSameDay session bookId zone mounted)
          { button := .mount zone mounted, store := store } events := by
  refine EachStep.congr (fun screen => screen.button.dueDateText
    = (BorrowButton.mount zone mounted).dueDateText) rfl ?_ ?_ events
  · exact fun screen event promised => (screen.step_dueDateText event).trans promised
  · exact fun screen event promised => BorrowScreen.keepsPromise_iff zone mounted promised event

/-- In UTC, a button that is mounted a second before midnight and confirmed a second after it
promises the day before the recorded one.
-/
theorem promised_day_before
    : let env : Env := { now := microsecondsPerDay + 1000000, salt := "s", tie := id }
      ¬EachStep (BorrowScreen.step .ascii 2 1) (BorrowScreen.KeepsPromise .ascii 2 1)
          { button := .mount (.fixed 0) (day - 1000), store := Database.sample.store }
          [.open, .confirm env] := by
  decide

end LibraryManagement
