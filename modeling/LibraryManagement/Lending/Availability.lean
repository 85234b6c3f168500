import LibraryManagement.Lending.Revisions
import LibraryManagement.Lending.Seeding

/-! `available_copies` over runs of requests and seedings. A borrowing looks at the number of
copies that are left, a new number of copies does not look at the borrowings.
-/

namespace LibraryManagement

open Relational Transition

/-- The borrowings that `available_copies` subtracts. -/
def Store.lentCopies (s : Store) (book : Book) : Nat :=
  s.borrowings.rows.countP (fun loan =>
    loan.bookId == book.id && loan.status == .borrowed && loan.returnedAt.isNone)

/-- `available_copies >= 0` for every book. -/
def Store.NonnegativeCopies (s : Store) : Prop := ∀ book ∈ s.books.rows, 0 ≤ book.availableCopies s

instance (s : Store) : Decidable s.NonnegativeCopies :=
  inferInstanceAs (Decidable (∀ book ∈ s.books.rows, _))

/-- A request to the API, or a run of the rake task, each save under its own clock. -/
inductive Operation where
  | request (call : Call)
  | seedBestsellers (envs : Nat → Env)

def operate (platform : Platform) (s : Store) : Operation → Store
  | .request call => step platform s call
  | .seedBestsellers envs => seedBestsellers platform envs s

def Store.empty : Store := ⟨.empty, .empty, .empty⟩

/-- The numbers of copies that the operation sets cover the active borrowings. -/
def CoversActive (platform : Platform) (s : Store) : Operation → Prop
  | .request call =>
      ∀ revised ∈ call.revises platform s, (s.lentCopies revised.1 : Int) ≤ revised.2.2
  | .seedBestsellers _ =>
      ∀ book ∈ s.books.rows, isBestsellerIsbn book.isbn → s.lentCopies book ≤ 10

theorem Store.empty_consistent : Store.empty.Consistent := by
  constructor <;> intro row member <;> cases member

theorem operate_consistent (platform : Platform) (s : Store) (operation : Operation)
    (consistent : s.Consistent)
    : (operate platform s operation).Consistent := by
  cases operation with
  | request call => exact step_consistent platform s call consistent
  | seedBestsellers envs => exact (seedBestsellers_reseeded platform envs consistent).1

theorem Book.availableCopies_eq (s : Store) (book : Book)
    : book.availableCopies s = book.totalCopies - s.lentCopies book := rfl

theorem Store.lentCopies_congr {s : Store} {book other : Book} (same : book.id = other.id)
    : s.lentCopies book = s.lentCopies other := by
  simp only [lentCopies, same]

/-- A book that is not stored has no borrowings. -/
theorem Store.Consistent.lentCopies_eq_zero {s : Store} (consistent : s.Consistent) {book : Book}
    (unknown : ∀ old ∈ s.books.rows, old.id ≠ book.id)
    : s.lentCopies book = 0 := by
  refine List.countP_eq_zero.mpr ?_
  intro loan present counted
  obtain ⟨old, there, lent⟩ := consistent.booksOfLoans loan present
  simp only [Bool.and_eq_true, beq_iff_eq] at counted
  exact unknown old there (lent.trans counted.1.1)

/-- Only a borrowing adds an active loan. -/
theorem step_lentCopies_le (platform : Platform) {s : Store} {call : Call}
    (idle : call.lends s = none) (book : Book)
    : (step platform s call).lentCopies book ≤ s.lentCopies book := by
  refine (step_loanEffect platform s call).countP_le idle ?_ ?_
  · intro loan counted
    exact (Bool.and_eq_true_iff.mp counted).2
  · simp

/-- The validators let a borrowing through only where it leaves no book overdrawn: its own book had
a copy to spare, and no other is concerned.
-/
theorem Store.NonnegativeCopies.step_lends {platform : Platform} {s : Store} {call : Call}
    {user : User} {book : Book} (nonnegative : s.NonnegativeCopies)
    (lent : call.lends s = some (user, book))
    : (step platform s call).NonnegativeCopies := by
  obtain ⟨_, _, found, allowed⟩ := Call.lends_eq_some_iff.mp lent
  have spare : 0 < book.availableCopies s := by
    simpa using (Bool.and_eq_true_iff.mp allowed).2
  have books : (step platform s call).books = s.books := by
    rw [LibraryManagement.step_lends lent]
    rfl
  intro other member
  rw [books] at member
  have counts : (step platform s call).lentCopies other
      = s.lentCopies other + if book.id = other.id then 1 else 0 := by
    unfold lentCopies
    rw [countP_lends lent]
    simp
  have enough := nonnegative other member
  rw [Book.availableCopies_eq] at spare enough ⊢
  rw [counts]
  split
  · next same =>
    obtain rfl := s.books.eq_of_key_eq found member same
    omega
  · simpa using enough

/-- A request that neither lends nor revises a book leaves none overdrawn, since loans only become
fewer; a new book has none yet.
-/
theorem Store.NonnegativeCopies.step_idle {platform : Platform} {s : Store} {call : Call}
    (nonnegative : s.NonnegativeCopies) (consistent : s.Consistent)
    (idle : call.lends s = none) (revises : call.revises platform s = none)
    : (step platform s call).NonnegativeCopies := by
  intro book member
  have bound := step_lentCopies_le platform idle book
  have old (stored : book ∈ s.books.rows) : 0 ≤ book.availableCopies (step platform s call) := by
    have enough := nonnegative book stored
    rw [Book.availableCopies_eq] at enough ⊢
    omega
  have effect := step_bookEffect platform call s
  have owned := (step_consistent platform s call consistent).copies book member
  generalize (step platform s call).books = books at member effect
  cases effect with
  | kept => exact old member
  | deleted selected => exact old ((s.books.mem_delete).mp member).1
  | revised revised => cases revises.symm.trans revised
  | @created new =>
      rcases (s.books.mem_insert).mp member with stored | rfl
      · exact old stored
      · have fresh : s.lentCopies (new.build s.books.nextKey) = 0 := by
          refine consistent.lentCopies_eq_zero ?_
          intro other there same
          exact s.books.key_ne_nextKey there (same.trans (new.keyed s.books.nextKey))
        rw [Book.availableCopies_eq]
        omega

/-- A revision leaves no book overdrawn exactly when its number of copies covers the active
borrowings of its book.
-/
theorem Store.NonnegativeCopies.step_revises_iff {platform : Platform} {s : Store} {call : Call}
    {book : Book} {draft : Book.Draft} {value : Int} (nonnegative : s.NonnegativeCopies)
    (revised : call.revises platform s = some (book, draft, value))
    : (step platform s call).NonnegativeCopies ↔ (s.lentCopies book : Int) ≤ value := by
  obtain ⟨_, _, found, _⟩ := Call.revises_eq_some_iff.mp revised
  rw [step_revises revised]
  have written : (draft.applyTo call.env value book).availableCopies
      (s.reviseBook call.env book draft value) = value - s.lentCopies book := by
    rw [Book.availableCopies_eq, (draft.applyTo_columns call.env value book).2]
    exact congrArg (fun count : Nat => value - (count : Int))
      (s.lentCopies_congr (draft.applyTo_id call.env value book))
  constructor
  · intro after
    have enough := after (draft.applyTo call.env value book)
      ((s.books.mem_update).mpr ⟨book, found, by simp⟩)
    rw [written] at enough
    omega
  · intro covered row member
    obtain ⟨old, present, rfl⟩ := (s.books.mem_update).mp member
    by_cases chosen : old.id = book.id
    · obtain rfl := s.books.eq_of_key_eq present found chosen
      simp only [beq_self_eq_true, if_true]
      rw [written]
      omega
    · rw [if_neg (by simpa using chosen)]
      exact nonnegative old present

/-- Ten copies of the listed books leave none overdrawn exactly when they cover its active
borrowings.
-/
theorem Store.NonnegativeCopies.reseeded_iff {listed : String → Prop} {s s' : Store}
    (nonnegative : s.NonnegativeCopies) (consistent : s.Consistent) (after : s'.Consistent)
    (reseeded : s.Reseeded listed s')
    : s'.NonnegativeCopies ↔ ∀ book ∈ s.books.rows, listed book.isbn → s.lentCopies book ≤ 10 := by
  have loans (book : Book) : s'.lentCopies book = s.lentCopies book := by
    unfold lentCopies
    rw [reseeded.borrowings]
  constructor
  · intro kept old member listed
    obtain ⟨book, present, sameId, _, ten, _⟩ := reseeded.kept old member
    have enough := kept book present
    rw [Book.availableCopies_eq, loans, lentCopies_congr sameId, ten listed] at enough
    omega
  · intro covered book member
    rw [Book.availableCopies_eq, loans]
    by_cases known : ∃ old ∈ s.books.rows, old.id = book.id
    · obtain ⟨old, there, same⟩ := known
      obtain ⟨row, present, sameId, _, ten, untouched⟩ := reseeded.kept old there
      obtain rfl : row = book :=
        s'.books.eq_of_key_eq present member (sameId.trans same)
      rw [lentCopies_congr same.symm]
      by_cases chosen : listed old.isbn
      · have bound := covered old there chosen
        rw [ten chosen]
        omega
      · rw [untouched chosen]
        exact nonnegative old there
    · have fresh : s.lentCopies book = 0 :=
        consistent.lentCopies_eq_zero (fun old there same => known ⟨old, there, same⟩)
      have owned := after.copies book member
      omega

/-- The task leaves no book overdrawn exactly when ten copies cover the active borrowings of
every listed book.
-/
theorem Store.NonnegativeCopies.seed_iff {s : Store} (nonnegative : s.NonnegativeCopies)
    (consistent : s.Consistent) (envs : Nat → Env)
    : (seedBestsellers platform envs s).NonnegativeCopies
      ↔ CoversActive platform s (.seedBestsellers envs) := by
  obtain ⟨after, reseeded⟩ := seedBestsellers_reseeded platform envs consistent
  exact nonnegative.reseeded_iff consistent after reseeded

/-- From the empty store `available_copies` stays nonnegative exactly along the runs whose
revisions and seedings set numbers of copies that cover the active borrowings.
-/
theorem operations_nonnegativeCopies_iff (platform : Platform) (operations : List Operation)
    : (∀ reached ∈ states (operate platform) Store.empty operations, reached.NonnegativeCopies)
      ↔ EachStep (operate platform) (CoversActive platform) Store.empty operations := by
  have atFirst : Store.empty.NonnegativeCopies := nofun
  refine forall_states_iff Store.Consistent Store.empty_consistent atFirst
    (operate_consistent platform) ?_ operations
  intro s operation consistent nonnegative
  cases operation with
  | seedBestsellers envs => exact nonnegative.seed_iff consistent envs
  | request call =>
      cases revises : call.revises platform s with
      | some revised =>
          obtain ⟨book, draft, value⟩ := revised
          simpa [operate, CoversActive, revises] using nonnegative.step_revises_iff revises
      | none =>
          have kept : (step platform s call).NonnegativeCopies := by
            cases lends : call.lends s with
            | some lent => exact nonnegative.step_lends lends
            | none => exact nonnegative.step_idle consistent lends revises
          simpa [operate, CoversActive, revises] using kept

/-- A member borrows the only copy of a book, then the librarian sets its number of copies to
zero.
-/
def Operation.sampleRevision : List Operation := [
  .request (.onDay 0 none (.devise (.createRegistration "librarian@example.com" "password123"
    "password123"))),
  .request (.onDay 0 (some 1) (.books (.create (some {
    title := .value "Emma", author := .value "Jane Austen", genre := .value "Classic",
    isbn := .value "1", totalCopies := some (.int 1) })))),
  .request (.onDay 0 (some 1) (.members (.create (some {
    email := .value "megan@example.com", password := .value "password123" })))),
  .request (.onDay 1 (some 2) (.borrowings (.create 1))),
  .request (.onDay 2 (some 1) (.books (.update 1 (some { totalCopies := some (.int 0) }))))]

theorem revision_overdraws
    : ¬∀ reached ∈ states (operate .ascii) Store.empty Operation.sampleRevision,
        reached.NonnegativeCopies := by
  decide

end LibraryManagement
