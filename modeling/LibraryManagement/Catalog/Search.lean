import LibraryManagement.Lending.LoanList

/-! The three text searches. The user's text is put between percent signs as it is, so that it is
looked for literally unless it has characters of the pattern language.
-/

namespace LibraryManagement

open Relational

/-- No case variant of `%` is one of the other two wildcards. -/
def Platform.KeepsWildcardsApart (platform : Platform) : Prop :=
  platform.fold '%' ≠ platform.fold '_' ∧ platform.fold '%' ≠ platform.fold '\\'

/-- The columns that `Book.search` looks into. -/
def Book.searched (book : Book) : List String := [book.title, book.author, book.genre]

/-- The columns that `User.search_by_name_or_email` looks into. -/
def User.searched (user : User) : List String :=
  user.email :: (user.firstName.toList ++ user.lastName.toList)

/-- One of the columns contains the stripped query, without regard to case. -/
def ContainedIn (platform : Platform) (query : String) (columns : List String) : Prop :=
  ∃ column ∈ columns, Contains platform.fold (strip query).toList column.toList

instance (platform : Platform) (query : String) (columns : List String)
    : Decidable (ContainedIn platform query columns) :=
  inferInstanceAs (Decidable (∃ column ∈ columns, _))

/-- The stripped query has no wildcards. -/
def Plain (query : String) : Prop := ∀ char ∈ (strip query).toList, isWildcard char = false

instance (query : String) : Decidable (Plain query) :=
  List.decidableBAll (fun char => isWildcard char = false) (strip query).toList

-----------------------------------------------------------------------------------------
-- What the searches match
-----------------------------------------------------------------------------------------

section Matches

variable {platform : Platform} {query : String}

theorem Book.search_iff (given : blank query = false) {book : Book}
    : book.search platform (some query)
      ↔ ∃ column ∈ book.searched,
          like platform.fold ('%' :: (strip query).toList ++ ['%']) column.toList := by
  have present : presence (some query) = some query := (presence_eq_some_iff given).mpr rfl
  simp only [search, present, searched]
  simp [or_assoc]

theorem MembersController.searchByNameOrEmail_iff (given : blank query = false) {user : User}
    : searchByNameOrEmail platform query user
      ↔ ∃ column ∈ user.searched,
          like platform.fold ('%' :: (strip query).toList ++ ['%']) column.toList := by
  simp only [searchByNameOrEmail, given, User.searched]
  simp [Option.any_eq_true, or_and_right, exists_or, or_assoc]

/-- A search over columns is literal on all rows exactly for plain queries, provided that there
can be a row all of whose columns are any one text.
-/
theorem forall_contained_iff (apart : platform.KeepsWildcardsApart) {Row : Type}
    (stored : Row → Prop) (columns : Row → List String) {matching : Row → Bool}
    (matches_iff
      : ∀ row, matching row
          ↔ ∃ column ∈ columns row,
              like platform.fold ('%' :: (strip query).toList ++ ['%']) column.toList)
    (fillable
      : ∀ text, ∃ row, stored row ∧ text ∈ columns row ∧ ∀ column ∈ columns row, column = text)
    : (∀ row, stored row → (matching row ↔ ContainedIn platform query (columns row)))
      ↔ Plain query := by
  rw [Plain, ← like_within_forall_iff apart.1 apart.2]
  constructor
  · intro literal text
    obtain ⟨row, present, listed, only⟩ := fillable (String.ofList text)
    have single (p : String → Prop) : (∃ column ∈ columns row, p column) ↔ p (String.ofList text) :=
      ⟨fun ⟨column, member, holds⟩ => only column member ▸ holds, fun holds => ⟨_, listed, holds⟩⟩
    have found := (matches_iff row).symm.trans (literal row present)
    rw [ContainedIn, single, single] at found
    simpa using found
  · intro literal row _
    rw [matches_iff]
    exact exists_congr (fun column => and_congr_right (fun _ => literal column.toList))

end Matches

-----------------------------------------------------------------------------------------
-- Literal searches
-----------------------------------------------------------------------------------------

/-- A user, a book and a loan all of whose searched columns have the text. -/
def Store.filled (text : String) : Store where
  users :=
    { rows := [{ id := 1, email := text, encryptedPassword := "", role := .member,
                 createdAt := 0, updatedAt := 0 }]
      nextKey := 2
      increasing := List.pairwise_singleton _ _
      bounded := List.forall_mem_singleton.mpr (Nat.lt_succ_self 1) }
  books :=
    { rows := [{ id := 1, title := text, author := text, genre := text, isbn := text,
                 totalCopies := 1, createdAt := 0, updatedAt := 0 }]
      nextKey := 2
      increasing := List.pairwise_singleton _ _
      bounded := List.forall_mem_singleton.mpr (Nat.lt_succ_self 1) }
  borrowings :=
    { rows := [{ id := 1, userId := 1, bookId := 1, borrowedAt := 0, dueDate := 14,
                 status := .borrowed, createdAt := 0, updatedAt := 0 }]
      nextKey := 2
      increasing := List.pairwise_singleton _ _
      bounded := List.forall_mem_singleton.mpr (Nat.lt_succ_self 1) }

theorem Store.filled_loan (text : String)
    : ∀ loan ∈ (filled text).borrowings.rows,
        loan.searched (filled text) = [text, text, text] := by
  simp [filled, Borrowing.searched, Table.find?]

/-- Each of the searches finds, in every store, exactly the rows one of whose columns contains the
stripped query, if and only if the stripped query has no wildcards.
-/
theorem searches_literal_iff (platform : Platform) (apart : platform.KeepsWildcardsApart)
    {query : String} (given : blank query = false)
    : ((∀ s : Store, ∀ book ∈ s.books.rows,
          book.search platform (some query) ↔ ContainedIn platform query book.searched)
        ↔ Plain query)
      ∧ ((∀ s : Store, ∀ loan ∈ s.borrowings.rows,
          loan.textSearch platform query s ↔ ContainedIn platform query (loan.searched s))
        ↔ Plain query)
      ∧ ((∀ s : Store, ∀ user ∈ s.users.rows,
          MembersController.searchByNameOrEmail platform query user
            ↔ ContainedIn platform query user.searched)
        ↔ Plain query) := by
  refine ⟨?_, ?_, ?_⟩
  · have literal := forall_contained_iff apart
      (fun row : Store × Book => row.2 ∈ row.1.books.rows) (fun row => row.2.searched)
      (fun _ => Book.search_iff given) ?_
    · simpa only [Prod.forall] using literal
    · intro text
      exact ⟨(.filled text, _), List.mem_singleton_self _, by simp [Book.searched]⟩
  · have literal := forall_contained_iff apart
      (fun row : Store × Borrowing => row.2 ∈ row.1.borrowings.rows)
      (fun row => row.2.searched row.1) (fun _ => Borrowing.textSearch_iff given) ?_
    · simpa only [Prod.forall] using literal
    · intro text
      have here := Store.filled_loan text _ (List.mem_singleton_self _)
      exact ⟨(.filled text, _), List.mem_singleton_self _, by simp [here]⟩
  · have literal := forall_contained_iff apart
      (fun row : Store × User => row.2 ∈ row.1.users.rows) (fun row => row.2.searched)
      (fun _ => MembersController.searchByNameOrEmail_iff given) ?_
    · simpa only [Prod.forall] using literal
    · intro text
      exact ⟨(.filled text, _), List.mem_singleton_self _, by simp [User.searched]⟩

/-- `my` is looked for literally, in the store of the sample as in any other. -/
theorem searches_literal_sample
    : (∀ s : Store, ∀ book ∈ s.books.rows,
        book.search .ascii (some " my ") ↔ ContainedIn .ascii " my " book.searched)
      ∧ (∀ s : Store, ∀ loan ∈ s.borrowings.rows,
        loan.textSearch .ascii " my " s ↔ ContainedIn .ascii " my " (loan.searched s))
      ∧ (∀ s : Store, ∀ user ∈ s.users.rows,
        MembersController.searchByNameOrEmail .ascii " my " user
          ↔ ContainedIn .ascii " my " user.searched)
      ∧ ∀ book ∈ Database.sample.store.books.rows, book.search .ascii (some " my ") := by
  have apart : Platform.ascii.KeepsWildcardsApart := ⟨by decide, by decide⟩
  have given : blank " my " = false := by decide
  have plain : Plain " my " := by decide
  obtain ⟨books, loans, users⟩ := searches_literal_iff .ascii apart given
  exact ⟨books.mpr plain, loans.mpr plain, users.mpr plain, by decide⟩

/-- The underscore finds the book, the loan and the users of the sample, none of whose columns
contains one.
-/
theorem underscore_finds_all
    : let s := step .ascii Database.sample.store (.onDay 0 (some 2) (.borrowings (.create 1)))
      (¬∀ book ∈ s.books.rows, book.search .ascii (some "_") ↔ ContainedIn .ascii "_" book.searched)
      ∧ (¬∀ loan ∈ s.borrowings.rows,
          loan.textSearch .ascii "_" s ↔ ContainedIn .ascii "_" (loan.searched s))
      ∧ ¬∀ user ∈ s.users.rows,
          MembersController.searchByNameOrEmail .ascii "_" user
            ↔ ContainedIn .ascii "_" user.searched := by
  decide

end LibraryManagement
