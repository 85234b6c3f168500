import LibraryManagement.Lending.Consistency
import LibraryManagement.Server.Bestsellers

/-! What `db:seed_bestsellers` does to the books. No save of the task raises, so it goes
through its whole list and leaves every listed book with ten copies.
-/

namespace LibraryManagement

open Relational

/-- The `isbn` is one of those that the task looks up. -/
def isBestsellerIsbn (isbn : String) : Bool :=
  bestsellers.zipIdx.any (fun entry => isbn == bestsellerIsbn entry.2)

/-- Only books are written, and of those with a listed `isbn` only what the task assigns. -/
structure Store.Reseeded (listed : String → Prop) (s s' : Store) : Prop where
  users : s'.users = s.users
  borrowings : s'.borrowings = s.borrowings
  kept
    : ∀ old ∈ s.books.rows, ∃ book ∈ s'.books.rows, book.id = old.id ∧ book.isbn = old.isbn
        ∧ (listed old.isbn → book.totalCopies = 10)
        ∧ (¬listed old.isbn → book.totalCopies = old.totalCopies)

theorem Store.Reseeded.refl (s : Store) : Reseeded (fun _ => False) s s where
  users := rfl
  borrowings := rfl
  kept old member := ⟨old, member, rfl, rfl, False.elim, fun _ => rfl⟩

theorem Store.Reseeded.trans {first second : String → Prop} {s s' s'' : Store}
    (hf : Reseeded first s s') (hs : Reseeded second s' s'')
    : Reseeded (fun isbn => first isbn ∨ second isbn) s s'' where
  users := hs.users.trans hf.users
  borrowings := hs.borrowings.trans hf.borrowings
  kept := by
    intro old member
    obtain ⟨middle, there, sameId, sameIsbn, listed, unlisted⟩ := hf.kept old member
    obtain ⟨book, present, id, isbn, again, untouched⟩ := hs.kept middle there
    refine ⟨book, present, id.trans sameId, isbn.trans sameIsbn, ?_, ?_⟩
    · intro either
      by_cases last : second middle.isbn
      · exact again last
      · rcases either with early | late
        · exact (untouched last).trans (listed early)
        · exact absurd (sameIsbn ▸ late) last
    · intro neither
      have later : ¬second middle.isbn := fun late => neither (Or.inr (sameIsbn ▸ late))
      exact (untouched later).trans (unlisted (fun early => neither (Or.inl early)))

-----------------------------------------------------------------------------------------
-- One save
-----------------------------------------------------------------------------------------

/-- A text that passes for present, and that every column of a book takes. -/
structure Writable (text : String) : Prop where
  full : blank text = false
  plain : hasNull text = false
  short : text.length ≤ 500

instance (text : String) : Decidable (Writable text) :=
  decidable_of_iff (blank text = false ∧ hasNull text = false ∧ text.length ≤ 500)
    ⟨fun ⟨full, plain, short⟩ => ⟨full, plain, short⟩,
      fun writable => ⟨writable.full, writable.plain, writable.short⟩⟩

/-- The columns take what the task assigns. -/
structure Bestseller.Full (book : Bestseller) : Prop where
  title : Writable book.title
  author : Writable book.author
  genre : Writable book.genre

instance (book : Bestseller) : Decidable book.Full :=
  decidable_of_iff (Writable book.title ∧ Writable book.author ∧ Writable book.genre)
    ⟨fun ⟨title, author, genre⟩ => ⟨title, author, genre⟩,
      fun full => ⟨full.title, full.author, full.genre⟩⟩

theorem bestsellers_full : ∀ book ∈ bestsellers, book.Full := by decide +kernel

theorem bestsellerIsbn_writable
    : ∀ entry ∈ bestsellers.zipIdx, Writable (bestsellerIsbn entry.2) := by
  decide +kernel

/-- Short texts without null characters fit every platform's indexes. -/
theorem Bestseller.assign_textsFit (platform : Platform) (persisted : Option Book)
    {record : Book.Draft} {book : Bestseller} {isbn : String} (full : book.Full)
    (given : record.isbn = some isbn) (writable : Writable isbn)
    : (book.assign record).TextsFit platform persisted := by
  intro text written
  have listed := (Book.Draft.writtenTexts_sublist persisted (book.assign record)).mem written
  have fits : Writable text := by
    simp only [assign, given, Option.getD_some, List.mem_cons, List.not_mem_nil, or_false] at listed
    obtain rfl | rfl | rfl | rfl := listed
    · exact full.title
    · exact full.author
    · exact full.genre
    · exact writable
  exact ⟨fits.plain, platform.indexable_short text fits.short⟩

/-- A full record with ten copies is valid where no other row has its `isbn`. -/
theorem Bestseller.assign_valid {s : Store} {persisted : Option Book} {record : Book.Draft}
    {book : Bestseller} {isbn : String} (full : book.Full)
    (given : record.isbn = some isbn) (fullIsbn : Writable isbn)
    (free : ∀ other ∈ s.books.rows, other.isbn = isbn
      → ∃ self, persisted = some self ∧ self.id = other.id)
    : (book.assign record).errors s persisted = [] := by
  have untaken : Book.Draft.isbnTaken s persisted (some isbn) = false := by
    refine List.any_eq_false.mpr ?_
    intro other member taken
    simp only [Bool.and_eq_true, beq_iff_eq, Option.some.injEq] at taken
    obtain ⟨self, rfl, same⟩ := free other member taken.1
    simp [same] at taken
  simp [Book.Draft.errors, assign, Book.Draft.presenceErrors, blank?, full.title.full,
    full.author.full, full.genre.full, given, fullIsbn.full, untaken, Book.Draft.totalCopiesErrors]

/-- A row whose `isbn` no old row has. -/
theorem Store.Reseeded.insertBook {s : Store} {isbn : String} (new : Table.NewRow Book)
    (fresh : ∀ other ∈ s.books.rows, other.isbn ≠ isbn)
    : s.Reseeded (fun other => other = isbn) { s with books := s.books.insert new } where
  users := rfl
  borrowings := rfl
  kept old member :=
    ⟨old, (s.books.mem_insert).mpr (Or.inl member), rfl, rfl,
      fun same => absurd same (fresh old member), fun _ => rfl⟩

/-- Ten copies for the one row that has the `isbn`; all others stay as they are. -/
theorem Store.Reseeded.updateBook {s : Store} {record : Book} (env : Env) {draft : Book.Draft}
    (here : record ∈ s.books.rows) (given : draft.isbn = some record.isbn)
    (only : ∀ other ∈ s.books.rows, other.isbn = record.isbn → record = other)
    : s.Reseeded (fun other => other = record.isbn)
        { s with
          books := s.books.update (fun row => row.id == record.id)
            ⟨draft.applyTo env 10, draft.applyTo_id env 10⟩ } where
  users := rfl
  borrowings := rfl
  kept := by
    intro old member
    refine ⟨_, (s.books.mem_update).mpr ⟨old, member, rfl⟩, ?_⟩
    by_cases chosen : old.id = record.id
    · obtain rfl := s.books.eq_of_key_eq member here chosen
      obtain ⟨isbn, ten⟩ := draft.applyTo_columns env 10 old
      rw [given, Option.getD_some] at isbn
      simp [isbn, ten]
    · have unlisted : old.isbn ≠ record.isbn := fun same =>
        chosen (congrArg Book.id (only old member same).symm)
      simp [chosen, unlisted]

/-- A save succeeds and gives its book ten copies: the texts of the list are valid, and its `isbn`
is free or that of the row that is found.
-/
theorem Bestseller.save_reseeded (platform : Platform) (env : Env) {book : Bestseller}
    {isbn : String} {s : Store} (consistent : s.Consistent) (full : book.Full)
    (fullIsbn : Writable isbn)
    : ∃ saved, book.save platform env isbn s = some saved ∧ saved.Consistent
        ∧ s.Reseeded (fun other => other = isbn) saved := by
  rw [save]
  cases found : s.books.rows.find? (fun row => row.isbn == isbn) with
  | none =>
      have fresh : ∀ other ∈ s.books.rows, other.isbn ≠ isbn := by
        intro other member
        simpa using List.find?_eq_none.mp found other member
      have valid : (book.assign { Book.new with isbn := some isbn }).errors s none = [] :=
        assign_valid full rfl fullIsbn
          (fun other member same => absurd same (fresh other member))
      have number : (book.assign { Book.new with isbn := some isbn }).totalCopies = .int 10 := rfl
      have prepared := Book.Draft.prepare_eq_stored_iff.mpr
        ⟨valid, number, by decide, assign_textsFit platform none full rfl fullIsbn⟩
      have kept := @Store.Consistent.createBook s consistent env _ _ valid number
      refine ⟨_, ?_, kept, .insertBook _ fresh⟩
      simp only [Book.Draft.create, prepared]
  | some record =>
      have here : record ∈ s.books.rows := List.mem_of_find?_eq_some found
      obtain rfl : record.isbn = isbn := by simpa using List.find?_some found
      have only : ∀ other ∈ s.books.rows, other.isbn = record.isbn → record = other := by
        intro other member same
        exact s.books.eq_of_key_eq here member
          (consistent.isbns record here other member same.symm)
      dsimp only
      split
      · next unchanged =>
        have ten : record.totalCopies = 10 := by
          simpa [assign, Book.load] using (congrArg Book.Draft.totalCopies unchanged).symm
        refine ⟨s, rfl, consistent, rfl, rfl, ?_⟩
        intro old member
        exact ⟨old, member, rfl, rfl, fun same => only old member same ▸ ten, fun _ => rfl⟩
      · next changed =>
        have valid : (book.assign record.load).errors s (some record) = [] :=
          assign_valid full rfl fullIsbn (fun other member same =>
            ⟨record, rfl, congrArg Book.id (only other member same)⟩)
        have number : (book.assign record.load).totalCopies = .int 10 := rfl
        have prepared := Book.Draft.prepare_eq_stored_iff.mpr
          ⟨valid, number, by decide, assign_textsFit platform (some record) full rfl fullIsbn⟩
        have kept := @Store.Consistent.updateBook s consistent env _ _ _ valid number
        refine ⟨_, ?_, kept, .updateBook env here rfl only⟩
        simp only [Book.Draft.update, prepared]

-----------------------------------------------------------------------------------------
-- The whole task
-----------------------------------------------------------------------------------------

theorem seedBooks_reseeded (platform : Platform) (envs : Nat → Env)
    {entries : List (Bestseller × Nat)} {s : Store} (consistent : s.Consistent)
    (full : ∀ entry ∈ entries, entry.1.Full ∧ Writable (bestsellerIsbn entry.2))
    : (seedBooks platform envs entries s).Consistent
      ∧ s.Reseeded (fun isbn => ∃ entry ∈ entries, isbn = bestsellerIsbn entry.2)
          (seedBooks platform envs entries s) := by
  induction entries generalizing s with
  | nil =>
      refine ⟨consistent, ?_⟩
      simpa [seedBooks] using Store.Reseeded.refl s
  | cons entry rest ih =>
      obtain ⟨book, index⟩ := entry
      obtain ⟨fullBook, fullIsbn⟩ := full (book, index) List.mem_cons_self
      obtain ⟨saved, succeeds, kept, first⟩ :=
        book.save_reseeded platform (envs index) consistent fullBook fullIsbn
      obtain ⟨after, later⟩ := ih kept (fun entry member =>
        full entry (List.mem_cons_of_mem _ member))
      simp only [seedBooks, succeeds]
      refine ⟨after, ?_⟩
      simpa using first.trans later

/-- The task keeps the constraints and sets exactly the listed books to ten copies. -/
theorem seedBestsellers_reseeded (platform : Platform) (envs : Nat → Env) {s : Store}
    (consistent : s.Consistent)
    : (seedBestsellers platform envs s).Consistent
      ∧ s.Reseeded (fun isbn => isBestsellerIsbn isbn) (seedBestsellers platform envs s) := by
  have full : ∀ entry ∈ bestsellers.zipIdx,
      entry.1.Full ∧ Writable (bestsellerIsbn entry.2) := by
    intro entry member
    exact ⟨bestsellers_full entry.1 (List.fst_mem_of_mem_zipIdx member),
      bestsellerIsbn_writable entry member⟩
  have run := seedBooks_reseeded platform envs consistent full
  simpa only [isBestsellerIsbn, seedBestsellers, List.any_eq_true, beq_iff_eq] using run

end LibraryManagement
