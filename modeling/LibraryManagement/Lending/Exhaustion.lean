import LibraryManagement.Allocation.FirstCome
import LibraryManagement.Lending.Loans

/-! Members' requests for a book, one after another, until its copies are used up. Nothing is
returned meanwhile, so the copies go to members in the order of their first requests.
-/

namespace LibraryManagement

open Relational Allocation

def storeBefore (platform : Platform) (s : Store) (calls : List Call) (index : Nat) : Store :=
  (calls.take index).foldl (step platform) s

def answer (platform : Platform) (s : Store) (calls : List Call) (index : Nat)
    : Option Response :=
  (calls[index]?).map (fun call => (perform platform (storeBefore platform s calls index) call).1)

/-- A member's `POST /borrowings`, for whatever book. -/
def Call.MemberBorrows (s : Store) (call : Call) : Prop :=
  ∃ user ∈ s.users.rows, user.role = .member ∧ call.session = some user.id
    ∧ ∃ bookId, call.request = .borrowings (.create bookId)

/-- The member who asks for the book by a request of the run. -/
def asks (calls : List Call) (book : Book) (index : Nat) : Option Nat :=
  (calls[index]?).bind (fun call =>
    if call.request = .borrowings (.create book.id) then call.session else none)

/-- The request asks for the book and is answered with a loan. -/
def accepted (platform : Platform) (s : Store) (calls : List Call) (book : Book) (index : Nat)
    : Bool :=
  (asks calls book index).isSome
    && (answer platform s calls index).any (fun response => response.status == .created)

def Store.holds (s : Store) (book : Book) (userId : Nat) : Bool :=
  s.borrowings.rows.any (fun loan =>
    loan.userId == userId && loan.bookId == book.id && loan.active)

theorem storeBefore_succ {platform : Platform} {s : Store} {calls : List Call} {index : Nat}
    {call : Call} (here : calls[index]? = some call)
    : storeBefore platform s calls (index + 1)
      = step platform (storeBefore platform s calls index) call := by
  rw [storeBefore, List.take_add_one, here, List.foldl_append]
  rfl

-----------------------------------------------------------------------------------------
-- One request
-----------------------------------------------------------------------------------------

/-- A borrowing is answered 201 and adds the loan, or 422 and changes nothing, or the book does
not exist.
-/
theorem perform_create (platform : Platform) {s : Store} {call : Call} {user : User}
    {bookId : Nat} (signedIn : call.currentUser s = some user)
    (requested : call.request = .borrowings (.create bookId))
    : (∃ book, book.id = bookId ∧ call.lends s = some (user, book)
        ∧ (perform platform s call).1.status = .created)
      ∨ (call.lends s = none ∧ step platform s call = s
        ∧ (perform platform s call).1.status
          = if (s.books.find? bookId).isSome then .unprocessableEntity else .notFound) := by
  cases found : s.books.find? bookId with
  | none =>
      right
      simp [step, perform, Call.lends, requested, signedIn, BorrowingsController.handle,
        authenticateUser, found, setRecord, notFound]
  | some book =>
      obtain ⟨member, rfl⟩ := (s.books.find?_eq_some_iff).mp found
      cases allowed : s.mayBorrow user book with
      | true =>
          have lent := Call.lends_eq_some_iff.mpr ⟨signedIn, requested, member, allowed⟩
          exact Or.inl ⟨book, rfl, lent, by rw [perform_lends lent]⟩
      | false =>
          have item : s.books.find? book.id = some book := found
          have refused := @perform_refused platform _ _ _ _ signedIn requested member allowed
          refine Or.inr ⟨?_, ?_, ?_⟩
          · simp [Call.lends, requested, signedIn, item, Option.filter, allowed]
          · rw [step, refused]
          · rw [refused]
            rfl

/-- A loan of one book takes a copy of that book and makes its borrower hold it; other books and
other users are not concerned.
-/
theorem step_lends_counts {platform : Platform} {s : Store} {call : Call} {user : User}
    {lent : Book} (lends : call.lends s = some (user, lent)) (book : Book)
    : book.availableCopies (step platform s call)
        = book.availableCopies s - (if lent.id = book.id then 1 else 0)
      ∧ ∀ userId, (step platform s call).holds book userId
        ↔ s.holds book userId ∨ (user.id = userId ∧ lent.id = book.id) := by
  constructor
  · have counts := @countP_lends platform _ _ _ _ lends (fun loan =>
      loan.bookId == book.id && loan.status == .borrowed && loan.returnedAt.isNone)
    simp only [Borrowing.requested_bookId, Borrowing.requested_status,
      Borrowing.requested_returnedAt] at counts
    simp only [Book.availableCopies, counts]
    by_cases same : lent.id = book.id
    · simp [same]
      omega
    · simp [same]
  · intro userId
    rw [step_lends lends]
    simp [Store.holds, Borrowing.Draft.insert, Table.insert, List.any_append, Borrowing.active]

-----------------------------------------------------------------------------------------
-- Runs of requests
-----------------------------------------------------------------------------------------

/-- What the requests before an index have made of the store, as far as the book goes. -/
structure Progress (platform : Platform) (s : Store) (calls : List Call) (book : Book)
    (index : Nat)
    : Prop where
  users : (storeBefore platform s calls index).users = s.users
  books : (storeBefore platform s calls index).books = s.books
  available
    : book.availableCopies (storeBefore platform s calls index)
      = book.availableCopies s - (below (accepted platform s calls book) index).length
  holds
    : ∀ userId, (storeBefore platform s calls index).holds book userId
      ↔ s.holds book userId ∨ ∃ earlier, earlier < index
          ∧ accepted platform s calls book earlier ∧ asks calls book earlier = some userId

section Runs

variable {platform : Platform} {s : Store} {calls : List Call} {book : Book} {index : Nat}
  {call : Call}

/-- A request of the run, with its member, is accepted or changes nothing. It counts as accepted for
the book only where it asks for it.
-/
theorem Progress.request (progress : Progress platform s calls book index)
    (here : calls[index]? = some call) (borrows : call.MemberBorrows s)
    : ∃ user bookId, call.currentUser (storeBefore platform s calls index) = some user
        ∧ call.request = .borrowings (.create bookId)
        ∧ asks calls book index = (if bookId = book.id then some user.id else none)
        ∧ ((∃ lent, lent.id = bookId
              ∧ call.lends (storeBefore platform s calls index) = some (user, lent)
              ∧ accepted platform s calls book index = decide (bookId = book.id))
          ∨ (call.lends (storeBefore platform s calls index) = none
              ∧ accepted platform s calls book index = false
              ∧ storeBefore platform s calls (index + 1) = storeBefore platform s calls index
              ∧ (answer platform s calls index).map Response.status
                = some (if (s.books.find? bookId).isSome then .unprocessableEntity
                    else .notFound))) := by
  obtain ⟨user, known, _, session, bookId, requested⟩ := borrows
  have signedIn : call.currentUser (storeBefore platform s calls index) = some user := by
    rw [Call.currentUser, session, progress.users]
    exact s.users.find?_of_mem known
  have asked : asks calls book index = (if bookId = book.id then some user.id else none) := by
    simp [asks, here, requested, session]
  have answered : answer platform s calls index
      = some (perform platform (storeBefore platform s calls index) call).1 := by
    simp [answer, here]
  refine ⟨user, bookId, signedIn, requested, asked, ?_⟩
  rcases perform_create platform signedIn requested with
    ⟨lent, same, lends, created⟩ | ⟨idle, unchanged, refused⟩
  · refine Or.inl ⟨lent, same, lends, ?_⟩
    by_cases this : bookId = book.id <;> simp [accepted, asked, answered, created, this]
  · refine Or.inr ⟨idle, ?_, (storeBefore_succ here).trans unchanged, ?_⟩
    · simp only [accepted, answered, Option.any_some, refused]
      split <;> simp
    · rw [answered, Option.map_some, refused, progress.books]

/-- The request for the book is accepted exactly when the validators let it through: its member does
not hold the book yet and a copy is left.
-/
theorem Progress.accepted_iff (progress : Progress platform s calls book index)
    (found : book ∈ s.books.rows) (here : calls[index]? = some call)
    (borrows : call.MemberBorrows s)
    : accepted platform s calls book index
      ↔ ∃ userId, asks calls book index = some userId
          ∧ (storeBefore platform s calls index).holds book userId = false
          ∧ 0 < book.availableCopies (storeBefore platform s calls index) := by
  obtain ⟨user, bookId, signedIn, requested, asked, outcome⟩ := progress.request here borrows
  by_cases this : bookId = book.id
  · rw [this] at requested asked
    have present : book ∈ (storeBefore platform s calls index).books.rows := progress.books ▸ found
    have lends : (accepted platform s calls book index
        ↔ (storeBefore platform s calls index).mayBorrow user book) := by
      rcases outcome with ⟨lent, same, lends, accepts⟩ | ⟨idle, refused, _⟩
      · obtain ⟨_, _, member, allowed⟩ := Call.lends_eq_some_iff.mp lends
        obtain rfl := Table.eq_of_key_eq _ member present (same.trans this)
        exact iff_of_true (by simp [accepts, this]) allowed
      · refine iff_of_false (by simp [refused]) ?_
        intro allowed
        have lends := Call.lends_eq_some_iff.mpr ⟨signedIn, requested, present, allowed⟩
        cases idle.symm.trans lends
    rw [lends, asked, if_pos rfl]
    simp [Store.mayBorrow, Store.holds]
  · have refused : accepted platform s calls book index = false := by
      rcases outcome with ⟨_, _, _, accepts⟩ | ⟨_, refused, _⟩
      · simp [accepts, this]
      · exact refused
    simp [refused, asked, this]

/-- One more request: where it lends the book, a copy is gone and its member holds one; otherwise
both counts stay as they are.
-/
theorem Progress.succ (progress : Progress platform s calls book index)
    (here : calls[index]? = some call) (borrows : call.MemberBorrows s)
    : Progress platform s calls book (index + 1) := by
  obtain ⟨user, bookId, signedIn, requested, asked, outcome⟩ := progress.request here borrows
  rcases outcome with ⟨lent, rfl, lends, accepts⟩ | ⟨_, refused, unchanged, _⟩
  · have next := @storeBefore_succ platform s _ _ _ here
    obtain ⟨available, holds⟩ := @step_lends_counts platform _ _ _ _ lends book
    refine ⟨?_, ?_, ?_, ?_⟩
    · rw [next, step_lends lends]
      exact progress.users
    · rw [next, step_lends lends]
      exact progress.books
    · rw [next, available, progress.available, below_succ, accepts]
      by_cases this : lent.id = book.id <;> simp [this]
      omega
    · intro userId
      rw [next, holds, progress.holds, or_assoc]
      refine or_congr_right ?_
      constructor
      · intro served
        rcases served with ⟨earlier, less, before⟩ | ⟨rfl, this⟩
        · exact ⟨earlier, Nat.lt_succ_of_lt less, before⟩
        · exact ⟨index, Nat.lt_succ_self index, by simp [accepts, this], by simp [asked, this]⟩
      · intro served
        obtain ⟨earlier, less, granted, before⟩ := served
        rcases Nat.lt_succ_iff_lt_or_eq.mp less with less | rfl
        · exact Or.inl ⟨earlier, less, granted, before⟩
        · have this : lent.id = book.id := by simpa [accepts] using granted
          rw [asked, if_pos this] at before
          exact Or.inr ⟨Option.some.inj before, this⟩
  · refine ⟨?_, ?_, ?_, ?_⟩
    · rw [unchanged]
      exact progress.users
    · rw [unchanged]
      exact progress.books
    · rw [unchanged, progress.available, below_succ, refused]
      simp
    · intro userId
      rw [unchanged, progress.holds]
      refine or_congr_right ?_
      constructor
      · intro served
        obtain ⟨earlier, less, before⟩ := served
        exact ⟨earlier, Nat.lt_succ_of_lt less, before⟩
      · intro served
        obtain ⟨earlier, less, granted, before⟩ := served
        rcases Nat.lt_succ_iff_lt_or_eq.mp less with less | rfl
        · exact ⟨earlier, less, granted, before⟩
        · simp [refused] at granted

theorem progress (borrows : ∀ call ∈ calls, call.MemberBorrows s) (bound : index ≤ calls.length)
    : Progress platform s calls book index := by
  induction index with
  | zero => exact ⟨rfl, rfl, by simp [storeBefore, below], by simp [storeBefore]⟩
  | succ index ih =>
      have here : calls[index]? = some calls[index] := List.getElem?_eq_getElem bound
      exact (ih (Nat.le_of_lt bound)).succ here (borrows _ (List.getElem_mem bound))

/-- The copies that are available at first go to members first come, first served, by the progress
up to each request.
-/
theorem accepted_firstCome (found : book ∈ s.books.rows)
    (borrows : ∀ call ∈ calls, call.MemberBorrows s)
    : FirstCome (asks calls book) (s.holds book) (book.availableCopies s).toNat
        (accepted platform s calls book) calls.length := by
  intro index less
  have sofar : Progress platform s calls book index := progress borrows (Nat.le_of_lt less)
  have here : calls[index]? = some calls[index] := List.getElem?_eq_getElem less
  rw [sofar.accepted_iff found here (borrows _ (List.getElem_mem less))]
  refine exists_congr (fun userId => and_congr_right (fun _ => ?_))
  have left : 0 < book.availableCopies (storeBefore platform s calls index)
      ↔ (below (accepted platform s calls book) index).length
        < (book.availableCopies s).toNat := by
    rw [sofar.available]
    omega
  rw [left, ← and_assoc]
  refine and_congr_left (fun _ => ?_)
  have holds := sofar.holds userId
  rw [← Bool.not_eq_true, ← Bool.not_eq_true, holds]
  simp

end Runs

/-- Members' requests, one after another, exhaust exactly the copies of a book: accepted are the
first of those that are their member's first request for the book, from members who did not
hold it, as many as copies are available. Any other request for it is answered 422 and changes
nothing, and the available copies decrease by the number accepted.
-/
theorem requests_exhaust_copies (platform : Platform) (s : Store) {book : Book}
    (found : book ∈ s.books.rows) (calls : List Call)
    (borrows : ∀ call ∈ calls, call.MemberBorrows s)
    : let granted := below (accepted platform s calls book) calls.length
      granted
        = (below (eligible (asks calls book) (s.holds book)) calls.length).take
            (max 0 (book.availableCopies s)).toNat
      ∧ (∀ index, (asks calls book index).isSome → index ∉ granted
          → (answer platform s calls index).map Response.status = some .unprocessableEntity
            ∧ storeBefore platform s calls (index + 1) = storeBefore platform s calls index)
      ∧ book.availableCopies (storeBefore platform s calls calls.length)
        = book.availableCopies s - granted.length := by
  refine ⟨?_, ?_, (progress borrows (Nat.le_refl _)).available⟩
  · have capacity : (max 0 (book.availableCopies s)).toNat = (book.availableCopies s).toNat := by
      omega
    rw [capacity]
    exact (accepted_firstCome found borrows).below_eq_take
  · intro index asked refused
    obtain ⟨userId, here⟩ := Option.isSome_iff_exists.mp asked
    obtain ⟨call, present, _⟩ := Option.bind_eq_some_iff.mp here
    obtain ⟨less, same⟩ := List.getElem?_eq_some_iff.mp present
    have sofar : Progress platform s calls book index := progress borrows (Nat.le_of_lt less)
    obtain ⟨user, bookId, _, _, asks, outcome⟩ :=
      sofar.request present (borrows call (same ▸ List.getElem_mem less))
    have this : bookId = book.id := by
      by_contra different
      rw [asks, if_neg different] at here
      cases here
    have rejected : accepted platform s calls book index = false := by
      simpa [mem_below, less] using refused
    rcases outcome with ⟨_, _, _, accepts⟩ | ⟨_, _, unchanged, status⟩
    · simp [accepts, this] at rejected
    · have exists' : (s.books.find? bookId).isSome :=
        (s.books.find?_isSome_iff).mpr ⟨book, found, this.symm⟩
      exact ⟨by rw [status, if_pos exists'], unchanged⟩

/-- The second member's and the repeated request are refused; another book does not exist. -/
def Call.sampleRequests : List Call := [
  .onDay 0 (some 2) (.borrowings (.create 1)),
  .onDay 0 (some 3) (.borrowings (.create 2)),
  .onDay 1 (some 3) (.borrowings (.create 1)),
  .onDay 2 (some 2) (.borrowings (.create 1))]

theorem requests_exhaust_copies_sample
    : ∃ book ∈ Database.sample.store.books.rows,
        below (accepted .ascii Database.sample.store Call.sampleRequests book) 4 = [0]
        ∧ below (eligible (asks Call.sampleRequests book) (Database.sample.store.holds book)) 4
          = [0, 2]
        ∧ book.availableCopies
            (storeBefore .ascii Database.sample.store Call.sampleRequests 4) = 0 := by
  let book : Book :=
    { id := 1, title := "MyString", author := "MyString", genre := "MyString", isbn := "MyString",
      totalCopies := 1, createdAt := 0, updatedAt := 0 }
  have found : book ∈ Database.sample.store.books.rows := by decide
  have borrower (day : Int) (id bookId : Nat)
      (known : ∃ user ∈ Database.sample.store.users.rows, user.role = .member ∧ user.id = id)
      : (Call.onDay day (some id) (.borrowings (.create bookId))).MemberBorrows
          Database.sample.store := by
    obtain ⟨user, member, role, rfl⟩ := known
    exact ⟨user, member, role, rfl, bookId, rfl⟩
  have borrows : ∀ call ∈ Call.sampleRequests, call.MemberBorrows Database.sample.store := by
    intro call member
    simp only [Call.sampleRequests, List.mem_cons, List.not_mem_nil, or_false] at member
    rcases member with rfl | rfl | rfl | rfl <;> exact borrower _ _ _ (by decide)
  obtain ⟨granted, _, available⟩ :=
    requests_exhaust_copies .ascii Database.sample.store found Call.sampleRequests borrows
  refine ⟨book, found, by decide, by decide, available.trans ?_⟩
  decide

end LibraryManagement
