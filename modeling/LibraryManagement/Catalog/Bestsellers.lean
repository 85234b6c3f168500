import LibraryManagement.Lending.Seeding
import LibraryManagement.Transition.Settling

/-! `db:seed_bestsellers` as a task that can be repeated. Each of its saves sees to one listed book,
which is found by an `isbn` that belongs to its position in the list.
-/

namespace LibraryManagement

open Relational Transition

/-- The position is read off the digits. -/
theorem bestsellerIsbn_injective {first second : Nat}
    (same : bestsellerIsbn first = bestsellerIsbn second)
    : first = second := by
  have read (index : Nat)
      : Nat.ofDigitChars 10 ((bestsellerIsbn index).toList.drop 3) 0 = index + 1 := by
    simp [bestsellerIsbn, Nat.ofDigitChars_append]
  have numbers := (read first).symm.trans ((congrArg _ (congrArg _ (congrArg _ same))).trans
    (read second))
  omega

/-- The listed book is stored as the task leaves it. -/
def Stocked (entry : Bestseller × Nat) (s : Store) : Prop :=
  ∃ record ∈ s.books.rows, record.isbn = bestsellerIsbn entry.2 ∧ record.title = entry.1.title
    ∧ record.author = entry.1.author ∧ record.genre = entry.1.genre ∧ record.totalCopies = 10

instance (entry : Bestseller × Nat) (s : Store) : Decidable (Stocked entry s) :=
  inferInstanceAs (Decidable (∃ record ∈ _, _))

/-- All but the books with a listed `isbn` is as before. -/
structure Store.SameOutside (listed : String → Prop) (s s' : Store) : Prop where
  users : s'.users = s.users
  borrowings : s'.borrowings = s.borrowings
  books : ∀ book, ¬listed book.isbn → (book ∈ s'.books.rows ↔ book ∈ s.books.rows)
  kept : ∀ old ∈ s.books.rows, ∃ book ∈ s'.books.rows,
    book.id = old.id ∧ book.isbn = old.isbn ∧ book.createdAt = old.createdAt

namespace Store.SameOutside

variable {listed : String → Prop} {s s' s'' : Store}

theorem refl (listed : String → Prop) (s : Store) : SameOutside listed s s where
  users := rfl
  borrowings := rfl
  books _ _ := Iff.rfl
  kept old member := ⟨old, member, rfl, rfl, rfl⟩

theorem trans (first : SameOutside listed s s') (second : SameOutside listed s' s'')
    : SameOutside listed s s'' where
  users := second.users.trans first.users
  borrowings := second.borrowings.trans first.borrowings
  books book unlisted := (second.books book unlisted).trans (first.books book unlisted)
  kept := by
    intro old member
    obtain ⟨middle, there, id, isbn, created⟩ := first.kept old member
    obtain ⟨book, here, id', isbn', created'⟩ := second.kept middle there
    exact ⟨book, here, id'.trans id, isbn'.trans isbn, created'.trans created⟩

theorem imp {wider : String → Prop} (same : SameOutside listed s s')
    (implies : ∀ isbn, listed isbn → wider isbn)
    : SameOutside wider s s' where
  users := same.users
  borrowings := same.borrowings
  books book unlisted := same.books book (fun here => unlisted (implies _ here))
  kept := same.kept

theorem insertBook (s : Store) {new : Table.NewRow Book} {isbn : String}
    (given : (new.build s.books.nextKey).isbn = isbn)
    : SameOutside (fun other => other = isbn) s { s with books := s.books.insert new } where
  users := rfl
  borrowings := rfl
  books := by
    intro book unlisted
    refine (s.books.mem_insert).trans (or_iff_left ?_)
    rintro rfl
    exact unlisted given
  kept old member := ⟨old, (s.books.mem_insert).mpr (Or.inl member), rfl, rfl, rfl⟩

/-- A revision of one book that keeps its `isbn` and the time of its creation is seen at that `isbn`
only; whoever holds the id of the book is that book.
-/
theorem updateBook {s : Store} {record : Book} (here : record ∈ s.books.rows)
    {change : Table.Change Book} (isbn : (change.apply record).isbn = record.isbn)
    (created : (change.apply record).createdAt = record.createdAt)
    : SameOutside (fun isbn => isbn = record.isbn) s
        { s with books := s.books.update (fun row => row.id == record.id) change } where
  users := rfl
  borrowings := rfl
  books := by
    intro book unlisted
    rw [s.books.mem_update]
    constructor
    · rintro ⟨old, member, rfl⟩
      by_cases chosen : old.id = record.id
      · obtain rfl := s.books.eq_of_key_eq member here chosen
        exact absurd (by simpa using isbn) unlisted
      · simpa [chosen] using member
    · intro member
      refine ⟨book, member, ?_⟩
      have apart : book.id ≠ record.id := fun chosen =>
        unlisted (congrArg Book.isbn (s.books.eq_of_key_eq member here chosen))
      simp [apart]
  kept := by
    intro old member
    refine ⟨_, (s.books.mem_update).mpr ⟨old, member, rfl⟩, ?_⟩
    refine ⟨@Table.key_of_update Book _ (fun row => row.id == record.id) change old, ?_⟩
    by_cases chosen : old.id = record.id
    · obtain rfl := s.books.eq_of_key_eq member here chosen
      simpa using ⟨isbn, created⟩
    · simp [chosen]

end Store.SameOutside

-----------------------------------------------------------------------------------------
-- One save
-----------------------------------------------------------------------------------------

theorem Book.Draft.applyTo_eq (env : Env) (draft : Book.Draft) (totalCopies : Int) (book : Book)
    : let row := draft.applyTo env totalCopies book
      row.isbn = draft.isbn.getD "" ∧ row.title = draft.title.getD ""
        ∧ row.author = draft.author.getD "" ∧ row.genre = draft.genre.getD ""
        ∧ row.totalCopies = totalCopies ∧ row.createdAt = book.createdAt := by
  simp only [applyTo]
  split
  · next same =>
    have columns := congrArg (fun row : Book =>
      (row.isbn, row.title, row.author, row.genre, row.totalCopies)) same
    simp only [Prod.mk.injEq] at columns
    obtain ⟨isbn, title, author, genre, copies⟩ := columns
    exact ⟨isbn.symm, title.symm, author.symm, genre.symm, copies.symm, rfl⟩
  · exact ⟨rfl, rfl, rfl, rfl, rfl, rfl⟩

section Save

variable {platform : Platform} {env : Env} {book : Bestseller} {index : Nat} {s saved : Store}

/-- A save that succeeds stores its book and writes no row with another `isbn`, whether it creates
the book, finds it as it should be, or updates it.
-/
theorem Bestseller.save_stocks
    (succeeds : book.save platform env (bestsellerIsbn index) s = some saved)
    : Stocked (book, index) saved
      ∧ s.SameOutside (fun isbn => isbn = bestsellerIsbn index) saved := by
  rw [save] at succeeds
  cases found : s.books.rows.find? (fun row => row.isbn == bestsellerIsbn index) with
  | none =>
      simp only [found] at succeeds
      split at succeeds
      · next record stored done =>
        obtain rfl := Option.some.inj succeeds
        obtain ⟨value, _, number, rfl⟩ := Book.Draft.create_stored done
        obtain rfl : 10 = value := NumberInput.int.inj number
        refine ⟨⟨_, (s.books.mem_insert).mpr (Or.inr rfl), rfl, rfl, rfl, rfl, rfl⟩, ?_⟩
        exact Store.SameOutside.insertBook s rfl
      · cases succeeds
      · cases succeeds
  | some record =>
      have here : record ∈ s.books.rows := List.mem_of_find?_eq_some found
      have isbn : record.isbn = bestsellerIsbn index := by simpa using List.find?_some found
      simp only [found] at succeeds
      split at succeeds
      · next unchanged =>
        obtain rfl := Option.some.inj succeeds
        simp only [assign, Book.load, Book.Draft.mk.injEq, Option.some.injEq,
          NumberInput.int.injEq] at unchanged
        obtain ⟨title, author, genre, _, copies⟩ := unchanged
        exact ⟨⟨record, here, isbn, title.symm, author.symm, genre.symm, copies.symm⟩,
          .refl _ s⟩
      · split at succeeds
        · next row stored done =>
          obtain rfl := Option.some.inj succeeds
          obtain ⟨value, _, number, rfl⟩ := Book.Draft.update_stored done
          obtain rfl : 10 = value := NumberInput.int.inj number
          obtain ⟨isbn', title, author, genre, copies, created⟩ :=
            (book.assign record.load).applyTo_eq env 10 record
          rw [← isbn]
          refine ⟨⟨_, (s.books.mem_update).mpr ⟨record, here, rfl⟩, ?_⟩,
            .updateBook here isbn' created⟩
          simpa using ⟨isbn'.trans isbn, title, author, genre, copies⟩
        · cases succeeds
        · cases succeeds

/-- Nothing to save where the book is stored as it should be: its `isbn` is in one row, which is
found, and assigning the book changes nothing there.
-/
theorem Stocked.save_eq_self (stocked : Stocked (book, index) s) (consistent : s.Consistent)
    : book.save platform env (bestsellerIsbn index) s = some s := by
  obtain ⟨record, member, isbn, title, author, genre, copies⟩ := stocked
  rw [Bestseller.save]
  cases found : s.books.rows.find? (fun row => row.isbn == bestsellerIsbn index) with
  | none => exact absurd (beq_iff_eq.mpr isbn) (List.find?_eq_none.mp found record member)
  | some other =>
      have same : other.isbn = bestsellerIsbn index := by simpa using List.find?_some found
      obtain rfl : other = record :=
        s.books.eq_of_key_eq (List.mem_of_find?_eq_some found) member
          (consistent.isbns other (List.mem_of_find?_eq_some found) record member
            (same.trans isbn.symm))
      have unchanged : book.assign other.load = other.load := by
        simp [Bestseller.assign, Book.load, title, author, genre, copies]
      exact if_pos unchanged

end Save

-----------------------------------------------------------------------------------------
-- The whole task
-----------------------------------------------------------------------------------------

theorem seedBooks_eq_carryOut (platform : Platform) (envs : Nat → Env)
    (entries : List (Bestseller × Nat)) (s : Store)
    : seedBooks platform envs entries s
      = carryOut (fun entry => entry.1.save platform (envs entry.2) (bestsellerIsbn entry.2))
          entries s := by
  induction entries generalizing s with
  | nil => rfl
  | cons entry rest ih =>
      obtain ⟨book, index⟩ := entry
      simp only [seedBooks, carryOut]
      cases book.save platform (envs index) (bestsellerIsbn index) s with
      | none => rfl
      | some saved => exact ih saved

/-- A book of the list keeps its stock when another one is saved. -/
theorem Stocked.sameOutside {entry : Bestseller × Nat} {isbn : String} {s saved : Store}
    (stocked : Stocked entry s) (apart : bestsellerIsbn entry.2 ≠ isbn)
    (same : s.SameOutside (fun other => other = isbn) saved)
    : Stocked entry saved := by
  obtain ⟨record, member, given, columns⟩ := stocked
  have unlisted : record.isbn ≠ isbn := fun here => apart (given.symm.trans here)
  exact ⟨record, (same.books record unlisted).mpr member, given, columns⟩

/-- The save of an entry meets its book from every consistent store and rests where it is met. It
leaves the books of the other entries alone, since their `isbn`s differ.
-/
theorem bestsellers_settles (platform : Platform) (envs : Nat → Env)
    : Settles (fun entry => entry.1.save platform (envs entry.2) (bestsellerIsbn entry.2))
        Store.Consistent Stocked bestsellers.zipIdx where
  meets := by
    intro entry listed s consistent
    have full := bestsellers_full entry.1 (List.fst_mem_of_mem_zipIdx listed)
    obtain ⟨saved, succeeds, kept, _⟩ := entry.1.save_reseeded platform (envs entry.2) consistent
      full (bestsellerIsbn_writable entry listed)
    obtain ⟨stocked, same⟩ := Bestseller.save_stocks succeeds
    refine ⟨saved, succeeds, kept, stocked, fun other known before => ?_⟩
    by_cases position : other.2 = entry.2
    · have book := List.mk_mem_zipIdx_iff_getElem?.mp known
      have book' := List.mk_mem_zipIdx_iff_getElem?.mp listed
      rw [position, book', Option.some.injEq] at book
      obtain rfl : entry = other := Prod.ext book position.symm
      exact stocked
    · exact before.sameOutside (fun isbn => position (bestsellerIsbn_injective isbn)) same
  rests := fun _ _ _ consistent stocked => stocked.save_eq_self consistent

/-- The books with a listed `isbn` are one for each position: both sides have the same `isbn`s, each
once.
-/
theorem Store.Consistent.countP_listed {s : Store} (consistent : s.Consistent)
    (all : ∀ entry ∈ bestsellers.zipIdx, Stocked entry s)
    : s.books.rows.countP (fun book => isBestsellerIsbn book.isbn) = 100 := by
  let listed := s.books.rows.filter (fun book => isBestsellerIsbn book.isbn)
  let isbns := bestsellers.zipIdx.map (fun entry => bestsellerIsbn entry.2)
  have once : (listed.map Book.isbn).Nodup := by
    refine (s.books.nodup_rows.filter _).map_on (fun first hf second hs same => ?_)
    exact s.books.eq_of_key_eq (List.mem_of_mem_filter hf) (List.mem_of_mem_filter hs)
      (consistent.isbns first (List.mem_of_mem_filter hf) second (List.mem_of_mem_filter hs) same)
  have distinct : isbns.Nodup := by
    have positions : isbns = (List.range' 0 bestsellers.length).map bestsellerIsbn := by
      rw [← List.zipIdx_map_snd 0 bestsellers, List.map_map]
      rfl
    rw [positions]
    exact List.Nodup.map (fun _ _ => bestsellerIsbn_injective) List.nodup_range'
  have members (isbn : String) : isbn ∈ listed.map Book.isbn ↔ isbn ∈ isbns := by
    constructor
    · intro present
      obtain ⟨book, member, rfl⟩ := List.mem_map.mp present
      obtain ⟨entry, known, same⟩ := List.any_eq_true.mp (List.mem_filter.mp member).2
      exact List.mem_map.mpr ⟨entry, known, (beq_iff_eq.mp same).symm⟩
    · intro present
      obtain ⟨entry, known, rfl⟩ := List.mem_map.mp present
      obtain ⟨record, member, isbn, _⟩ := all entry known
      refine List.mem_map.mpr ⟨record, List.mem_filter.mpr ⟨member, ?_⟩, isbn⟩
      exact List.any_eq_true.mpr ⟨entry, known, beq_iff_eq.mpr isbn⟩
  have count := ((List.perm_ext_iff_of_nodup once distinct).mpr members).length_eq
  rw [List.length_map, List.length_map, List.length_zipIdx] at count
  rw [List.countP_eq_length_filter]
  exact count

/-- No save of the task raises, wherever in its list it is: the entries before leave the store
consistent, and a consistent store takes every entry.
-/
theorem seedBooks_saves (platform : Platform) (envs : Nat → Env) {s : Store}
    (consistent : s.Consistent) {done rest : List (Bestseller × Nat)} {entry : Bestseller × Nat}
    (listed : bestsellers.zipIdx = done ++ entry :: rest)
    : (entry.1.save platform (envs entry.2) (bestsellerIsbn entry.2)
        (seedBooks platform envs done s)).isSome := by
  have full (entry : Bestseller × Nat) (member : entry ∈ bestsellers.zipIdx)
      : entry.1.Full ∧ Writable (bestsellerIsbn entry.2) :=
    ⟨bestsellers_full entry.1 (List.fst_mem_of_mem_zipIdx member),
      bestsellerIsbn_writable entry member⟩
  have here : entry ∈ bestsellers.zipIdx := by simp [listed]
  have before : ∀ earlier ∈ done, earlier ∈ bestsellers.zipIdx := by
    intro earlier member
    simp [listed, member]
  obtain ⟨kept, _⟩ := seedBooks_reseeded platform envs consistent
    (fun earlier member => full earlier (before earlier member))
  obtain ⟨saved, succeeds, _⟩ := entry.1.save_reseeded platform (envs entry.2) kept
    (full entry here).1 (full entry here).2
  rw [succeeds]
  rfl

/-- The task leaves each listed book stored once as it is listed, and all else as it was, since
no save raises. It changes nothing exactly where that is so already, hence never when it is
repeated.
-/
theorem seedBestsellers_settles (platform : Platform) (envs again : Nat → Env) {s : Store}
    (consistent : s.Consistent)
    : let stocked := seedBestsellers platform envs s
      (∀ done entry rest, bestsellers.zipIdx = done ++ entry :: rest
        → (entry.1.save platform (envs entry.2) (bestsellerIsbn entry.2)
            (seedBooks platform envs done s)).isSome)
      ∧ (∀ entry ∈ bestsellers.zipIdx, Stocked entry stocked)
      ∧ stocked.books.rows.countP (fun book => isBestsellerIsbn book.isbn) = 100
      ∧ s.SameOutside (fun isbn => isBestsellerIsbn isbn) stocked
      ∧ (stocked = s ↔ ∀ entry ∈ bestsellers.zipIdx, Stocked entry s)
      ∧ seedBestsellers platform again stocked = stocked := by
  intro stocked
  have settles := bestsellers_settles platform envs
  have task : stocked = carryOut _ bestsellers.zipIdx s :=
    seedBooks_eq_carryOut platform envs _ s
  obtain ⟨kept, all⟩ := settles.carryOut_all consistent
  rw [← task] at kept all
  refine ⟨fun _ _ _ listed => seedBooks_saves platform envs consistent listed, all,
    kept.countP_listed all, ?_, ?_, ?_⟩
  · rw [task]
    refine carryOut_relates (.refl _) (fun _ _ _ => .trans) ?_ s
    intro entry known s saved succeeds
    refine (Bestseller.save_stocks succeeds).2.imp (fun isbn same => ?_)
    exact List.any_eq_true.mpr ⟨entry, known, beq_iff_eq.mpr same⟩
  · rw [task]
    exact settles.carryOut_eq_self_iff consistent
  · rw [task]
    exact (seedBooks_eq_carryOut platform again _ _).trans
      (settles.carryOut_again (bestsellers_settles platform again) consistent)

/-- Saves one after another from the beginning of a day. -/
def Env.sampleSaves (day : Int) (index : Nat) : Env := ⟨beginningOfDay day + index, "s", id⟩

/-- With one other book, and again a day later. -/
theorem seedBestsellers_settles_sample
    : (seedBestsellers .ascii (.sampleSaves 0) Database.sample.store).books.rows.countP
          (fun book => isBestsellerIsbn book.isbn) = 100
      ∧ seedBestsellers .ascii (.sampleSaves 1)
          (seedBestsellers .ascii (.sampleSaves 0) Database.sample.store)
        = seedBestsellers .ascii (.sampleSaves 0) Database.sample.store := by
  obtain ⟨_, _, listed, _, _, rests⟩ :=
    seedBestsellers_settles .ascii (.sampleSaves 0) (.sampleSaves 1) Database.sample.consistent
  exact ⟨listed, rests⟩

end LibraryManagement
