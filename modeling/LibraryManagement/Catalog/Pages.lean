import LibraryManagement.Lending.CanBorrow
import LibraryManagement.Relational.Paging

/-! The pages of `GET /books` and `GET /members`, each of them a query of its own. The books are
not ordered at all, the members by `created_at` alone.
-/

namespace LibraryManagement

open Relational

def Response.ids (response : Response) : List Nat :=
  match response.body with
  | .books records => records.map BookRecord.id
  | .users records => records.map UserRecord.id
  | _ => []

/-- `GET /books` -/
def bookPage (platform : Platform) (s : Store) (user : User) (q : Option String) (env : Env)
    (number : Nat)
    : Response :=
  (perform platform s
    { env := env, session := some user.id, request := .books (.index q number) }).1

/-- `GET /members` -/
def memberPage (platform : Platform) (s : Store) (user : User) (q : Option String) (env : Env)
    (number : Nat)
    : Response :=
  (perform platform s
    { env := env, session := some user.id, request := .members (.index q number) }).1

namespace MembersController

def listed (platform : Platform) (q : Option String) (user : User) : Bool :=
  let q := strip (q.getD "")
  user.isMember && (if blank q then true else searchByNameOrEmail platform q user)

/-- `order(created_at: :desc)` -/
def newestFirst (first second : User) : Prop := second.createdAt ≤ first.createdAt

theorem newestFirst_iff {first second : User}
    : newestFirst first second ↔ second.createdAt ≤ first.createdAt := Iff.rfl

instance : DecidableRel newestFirst := fun first second =>
  inferInstanceAs (Decidable (second.createdAt ≤ first.createdAt))

instance : Std.Total newestFirst where
  total first second := le_total second.createdAt first.createdAt

instance : IsTrans User newestFirst where
  trans _ _ _ earlier later := le_trans later earlier

/-- The matching members that were created together with `member` are on one page: the page on
which the first of them stands, behind those created later, is that of the last of them.
-/
def OnOnePage (platform : Platform) (q : Option String) (s : Store) (member : User) : Prop :=
  s.users.rows.countP (fun other =>
      listed platform q other && decide (member.createdAt < other.createdAt)) / perPage
    = (s.users.rows.countP (fun other =>
      listed platform q other && decide (member.createdAt ≤ other.createdAt)) - 1) / perPage

instance (platform : Platform) (q : Option String) (s : Store) (member : User)
    : Decidable (OnOnePage platform q s member) :=
  inferInstanceAs (Decidable (_ = _))

end MembersController

-----------------------------------------------------------------------------------------
-- A list endpoint that cuts its pages from some order of its rows
-----------------------------------------------------------------------------------------

/-- The rows of a query whose every page is fetched under ties of its own: each is on exactly one
page if and only if its first and last position are on the same page.
-/
theorem forall_envs_iff {α : Type} {before : α → α → Prop} [DecidableRel before]
    [Std.Total before] [IsTrans α before] {rows : List α} {id : α → Nat}
    (distinct : (rows.map id).Nodup) {ids : Env → Nat → List Nat}
    (served
      : ∀ env index, ids env index
          = (page perPage (index + 1) (orderBy before (fun row => env.tie (id row)) rows)).map id)
    : (∀ envs : Nat → Env, ∀ row ∈ rows, ∃! index, id row ∈ ids (envs index) index)
      ↔ ∀ row ∈ rows,
          firstPosition before rows row / perPage = lastPosition before rows row / perPage := by
  have positive : 0 < perPage := by decide
  have shown {row : α} (member : row ∈ rows) (env : Env) (index : Nat)
      : id row ∈ ids env index
        ↔ row ∈ page perPage (index + 1) (orderBy before (fun row => env.tie (id row)) rows) := by
    rw [served]
    constructor
    · intro listed
      obtain ⟨other, paged, same⟩ := List.mem_map.mp listed
      have present := mem_orderBy.mp (mem_of_mem_page paged)
      rwa [← List.inj_on_of_nodup_map distinct present member same]
    · exact List.mem_map_of_mem
  constructor
  · intro always row member
    refine (existsUnique_page_iff positive id distinct member).mp (fun ties => ?_)
    have once := always (fun index => { now := 0, salt := "", tie := ties index }) row member
    simpa only [shown member] using once
  · intro together envs row member
    have once := (existsUnique_page_iff positive id distinct member).mpr
      (together row member) (fun index => (envs index).tie)
    simpa only [shown member] using once

section Endpoints

variable (platform : Platform) {s : Store} {user : User}

theorem bookPage_ids (known : user ∈ s.users.rows) (q : Option String) (env : Env) (index : Nat)
    : (bookPage platform s user q env (index + 1)).ids
      = (page perPage (index + 1) (orderBy (fun _ _ => True) (fun row => env.tie row.1.id)
          ((Book.withCanBorrowFor s (some user)).filter (fun row => row.1.search platform q)))).map
            (fun row => row.1.id) := by
  rw [bookPage, perform_listBooks platform (Call.currentUser_eq_some known rfl) rfl]
  simp only [BooksController.index, respondTo, BooksController.list, pageNumber_succ]
  simp [Response.ids, BooksController.record, Function.comp_def]

theorem memberPage_ids (known : user ∈ s.users.rows) (librarian : user.role = .librarian)
    (q : Option String) (env : Env) (index : Nat)
    : (memberPage platform s user q env (index + 1)).ids
      = (page perPage (index + 1)
          (orderBy MembersController.newestFirst (fun member => env.tie member.id)
            (s.users.rows.filter (MembersController.listed platform q)))).map User.id := by
  rw [memberPage, perform_listMembers platform (Call.currentUser_eq_some known rfl) librarian rfl]
  simp only [Response.ids, MembersController.index, pageNumber_succ, List.map_map]
  rfl

/-- Books are on exactly one page as long as there is only one: no order is asked for, so a book can
be first and last among those that are found.
-/
theorem bookPages_iff (known : user ∈ s.users.rows) (q : Option String)
    : (∀ envs : Nat → Env, ∀ book ∈ s.books.rows, book.search platform q
        → ∃! index, book.id ∈ (bookPage platform s user q (envs index) (index + 1)).ids)
      ↔ s.books.rows.countP (fun book => book.search platform q) ≤ perPage := by
  have scope : (Book.withCanBorrowFor s (some user)).filter (fun row => row.1.search platform q)
      = (s.books.rows.filter (fun book => book.search platform q)).map
          (fun book => (book, user.role == .member && s.mayBorrow user book)) := by
    rw [Book.withCanBorrowFor_eq, List.filter_map]
    rfl
  have served := bookPage_ids platform known q
  rw [scope] at served
  have distinct : (((s.books.rows.filter (fun book => book.search platform q)).map
      (fun book => (book, user.role == .member && s.mayBorrow user book))).map
        (fun row => row.1.id)).Nodup := by
    rw [List.map_map]
    exact s.books.nodup_keys.sublist (List.filter_sublist.map _)
  have : Std.Total (fun _ _ : Book × Bool => True) := ⟨fun _ _ => Or.inl trivial⟩
  have : IsTrans (Book × Bool) (fun _ _ => True) := ⟨fun _ _ _ _ _ => trivial⟩
  have onOnePage := forall_envs_iff distinct served
  simp only [firstPosition_tied, lastPosition_tied, List.length_map,
    ← List.countP_eq_length_filter, List.forall_mem_map, List.mem_filter, and_imp] at onOnePage
  rw [onOnePage]
  generalize counted : s.books.rows.countP (fun book => book.search platform q) = count
  rw [perPage]
  constructor
  · intro together
    rcases Nat.eq_zero_or_pos count with none | some
    · omega
    · obtain ⟨book, member, found⟩ := List.countP_pos_iff.mp (counted ▸ some)
      have last := together book member found
      omega
  · intro few book _ _
    omega

/-- Members are on exactly one page where no page ends between members created together: those
created later come before, and those created at the same time in any order.
-/
theorem memberPages_iff (known : user ∈ s.users.rows) (librarian : user.role = .librarian)
    (q : Option String)
    : (∀ envs : Nat → Env, ∀ member ∈ s.users.rows, MembersController.listed platform q member
        → ∃! index, member.id ∈ (memberPage platform s user q (envs index) (index + 1)).ids)
      ↔ ∀ member ∈ s.users.rows, MembersController.listed platform q member
        → MembersController.OnOnePage platform q s member := by
  have distinct : ((s.users.rows.filter (MembersController.listed platform q)).map User.id).Nodup :=
    s.users.nodup_keys.sublist (List.filter_sublist.map _)
  have first (member : User)
      : firstPosition MembersController.newestFirst
          (s.users.rows.filter (MembersController.listed platform q)) member
        = s.users.rows.countP (fun other => MembersController.listed platform q other
            && decide (member.createdAt < other.createdAt)) := by
    rw [firstPosition, List.countP_filter]
    refine List.countP_congr (fun other _ => ?_)
    simp [MembersController.newestFirst_iff, and_comm]
  have last (member : User)
      : lastPosition MembersController.newestFirst
          (s.users.rows.filter (MembersController.listed platform q)) member
        = s.users.rows.countP (fun other => MembersController.listed platform q other
            && decide (member.createdAt ≤ other.createdAt)) - 1 := by
    rw [lastPosition, List.countP_filter]
    refine congrArg (fun count => count - 1) (List.countP_congr (fun other _ => ?_))
    simp [MembersController.newestFirst_iff, and_comm]
  have onOnePage := forall_envs_iff distinct
    (fun env index => memberPage_ids platform known librarian q env index)
  simpa only [List.mem_filter, and_imp, first, last, MembersController.OnOnePage] using onOnePage

end Endpoints

/-- Every matching book is on exactly one page, in whatever order each request finds the books,
exactly when there is one page of them at most; and every matching member, in whatever order each
request finds those created together, exactly when no page ends between such members.
-/
theorem catalogPages_iff (platform : Platform) {s : Store} {reader librarian : User}
    (signedIn : reader ∈ s.users.rows) (known : librarian ∈ s.users.rows)
    (isLibrarian : librarian.role = .librarian) (q : Option String)
    : ((∀ envs : Nat → Env, ∀ book ∈ s.books.rows, book.search platform q
          → ∃! index, book.id ∈ (bookPage platform s reader q (envs index) (index + 1)).ids)
        ↔ s.books.rows.countP (fun book => book.search platform q) ≤ perPage)
      ∧ ((∀ envs : Nat → Env, ∀ member ∈ s.users.rows, MembersController.listed platform q member
          → ∃! index, member.id ∈ (memberPage platform s librarian q (envs index) (index + 1)).ids)
        ↔ ∀ member ∈ s.users.rows, MembersController.listed platform q member
          → MembersController.OnOnePage platform q s member) :=
  ⟨bookPages_iff platform signedIn q, memberPages_iff platform known isLibrarian q⟩

/-- In the sample all books, and both members that were created together, are on the first page. -/
theorem catalogPages_sample
    : let s := Database.sample.store
      let librarian := s.users.rows[0]
      (∀ envs : Nat → Env, ∀ book ∈ s.books.rows, book.search .ascii none
        → ∃! index, book.id ∈ (bookPage .ascii s librarian none (envs index) (index + 1)).ids)
      ∧ ∀ envs : Nat → Env, ∀ member ∈ s.users.rows, MembersController.listed .ascii none member
        → ∃! index,
            member.id ∈ (memberPage .ascii s librarian none (envs index) (index + 1)).ids := by
  intro s librarian
  have known : librarian ∈ s.users.rows := List.getElem_mem _
  obtain ⟨books, members⟩ := catalogPages_iff .ascii known known rfl none
  exact ⟨books.mpr (by decide), members.mpr (by decide)⟩

/-- The database returns the books by id for the first page, and backwards from then on. -/
def Env.sampleTurned (index : Nat) : Env where
  now := 0
  salt := ""
  tie id := if index = 0 then id else 26 - id

/-- The first book is then on both pages and the last one on neither. -/
theorem turned_order_repeats
    : ¬∀ book ∈ Store.sampleCatalog.books.rows, book.search .ascii none
        → ∃! index, book.id
          ∈ (bookPage .ascii Store.sampleCatalog Database.sample.store.users.rows[0] none
              (Env.sampleTurned index) (index + 1)).ids := by
  intro always
  obtain ⟨index, _, only⟩ := always Store.sampleCatalog.books.rows[0] (List.getElem_mem _) rfl
  have once : 0 = index := only 0 (by decide)
  have again : 1 = index := only 1 (by decide)
  exact absurd (once.trans again.symm) (by decide)

end LibraryManagement
