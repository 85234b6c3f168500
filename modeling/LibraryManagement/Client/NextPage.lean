import LibraryManagement.Catalog.Pages
import LibraryManagement.Client.EditBook
import LibraryManagement.Client.RowsPage

/-! The pagers of `pages/librarian/Books.tsx` and of `pages/librarian/Members.tsx`, which count the
rows that the page shows: what an own create, edit or delete leaves of the way to the next page.
-/

namespace LibraryManagement

open Relational Transition

-----------------------------------------------------------------------------------------
-- Pages of a query
-----------------------------------------------------------------------------------------

/-- A page of a query has each row once, rows of the table only, and as many as are left: its rows
are those of the table that fulfil the condition, in some order.
-/
theorem listed_page {Record α : Type} [Keyed Record] (table : Table Record)
    (condition : Record → Bool) (before : α → α → Prop) [DecidableRel before] (tie : α → Nat)
    (record : α → Record) {rows : List α}
    (selected : rows.map record = table.rows.filter condition) (index : Nat)
    : ((page perPage (index + 1) (orderBy before tie rows)).map (fun row => key (record row))).Nodup
      ∧ (∀ row ∈ page perPage (index + 1) (orderBy before tie rows),
          record row ∈ table.rows ∧ condition (record row))
      ∧ (page perPage (index + 1) (orderBy before tie rows)).length
        = min perPage (table.rows.countP condition - index * perPage) := by
  have ordered := orderBy_perm before tie rows
  refine ⟨?_, ?_, ?_⟩
  · have distinct : (rows.map (fun row => key (record row))).Nodup := by
      have keys : rows.map (fun row => key (record row))
          = (table.rows.filter condition).map key := by rw [← selected, List.map_map]; rfl
      exact keys ▸ table.nodup_keys.sublist (List.filter_sublist.map key)
    have all := (ordered.map (fun row => key (record row))).nodup_iff.mpr distinct
    exact all.sublist (((List.take_sublist _ _).trans (List.drop_sublist _ _)).map _)
  · intro row member
    have here : record row ∈ rows.map record :=
      List.mem_map_of_mem (mem_orderBy.mp (mem_of_mem_page member))
    exact List.mem_filter.mp (selected ▸ here)
  · have count : rows.length = table.rows.countP condition := by
      rw [List.countP_eq_length_filter, ← selected, List.length_map]
    rw [length_page, ordered.length_eq, count]

-----------------------------------------------------------------------------------------
-- The books
-----------------------------------------------------------------------------------------

namespace RowsPage

/-- `pages/librarian/Books.tsx` -/
def books : RowsPage BookRecord BookForm where
  id := BookRecord.id
  list q page := .books (.index (some q) page)
  listed
    | .books records => some records
    | _ => none
  create form :=
    if form.passesValidation then some (.books (.create (some form.params))) else none
  update id form :=
    if form.passesValidation then some (.books (.update id (some form.params))) else none
  destroy id := .books (.destroy id)
  saved
    | .book book => some book.record
    | _ => none
  replace _ updated rows := rows.map (fun row => if row.id == updated.id then updated else row)

end RowsPage

namespace RowsTable

/-- The books, with the records that the forms become. -/
def books : RowsTable Book BookForm where
  table := Store.books
  scope _ := true
  listed platform q book := book.search platform (some q)
  inserts platform env s form :=
    let draft := form.params.assign Book.new
    (draft.validCopies platform s none).map (fun value => ⟨draft.toRow env value, fun _ => rfl⟩)
  revises platform env s book form :=
    let draft := form.params.assign book.load
    (draft.validCopies platform s (some book)).map (fun value =>
      ⟨draft.applyTo env value, draft.applyTo_id env value⟩)

end RowsTable

section Books

variable {platform : Platform} {env : Env} {s : Store} {draft : Book.Draft}

/-- A valid draft whose number and texts are taken is saved under the next id. -/
theorem Book.Draft.create_valid {value : Int}
    (valid : draft.validCopies platform s none = some value)
    : draft.create platform env s
      = .stored (draft.toRow env value s.books.nextKey,
          { s with books := s.books.insert ⟨draft.toRow env value, fun _ => rfl⟩ }) := by
  rw [create, prepare_eq_of_validCopies valid]

/-- Any other is not saved. -/
theorem Book.Draft.create_unfit (unfit : draft.validCopies platform s none = none)
    (saved : Book × Store)
    : draft.create platform env s ≠ .stored saved := by
  intro created
  rw [create] at created
  split at created
  · next prepared =>
    rw [validCopies_of_prepare prepared] at unfit
    cases unfit
  · cases created
  · cases created

end Books

/-- How the endpoints of the books serve a librarian. One part for each request of the page: a page
of the list, what a save stores and answers, and a deletion.
-/
theorem RowsTable.books_serves (platform : Platform) (session : Nat)
    : Serves .books .books platform session where
  list := by
    intro s signedIn env q index
    obtain ⟨user, found, librarian⟩ := signedIn
    have here := RowsPage.currentUser_request session found env
    have selected : ((Book.withCanBorrowFor s (some user)).filter
        (fun row => row.1.search platform (some q))).map Prod.fst
        = s.books.rows.filter (fun book => book.search platform (some q)) := by
      rw [Book.withCanBorrowFor_eq, List.filter_map, List.map_map]
      exact List.map_id _
    obtain ⟨distinct, members, length⟩ := listed_page s.books _ (fun _ _ => True)
      (fun row => env.tie row.1.id) Prod.fst selected index
    have answered : perform platform s
        (RowsPage.request session env (RowsPage.books.list q (index + 1)))
        = (⟨.ok, .books (BooksController.list platform env user (some q) (index + 1 : Nat) s)⟩,
            s) :=
      perform_listBooks platform (here _) rfl
    refine ⟨_, _, answered, rfl, ?_, ?_, ?_⟩
    · rw [BooksController.list, pageNumber_succ, List.map_map]
      exact distinct
    · intro record listed
      rw [BooksController.list, pageNumber_succ] at listed
      obtain ⟨row, member, rfl⟩ := List.mem_map.mp listed
      exact ⟨row.1, (members row member).1, rfl, rfl⟩
    · rw [BooksController.list, pageNumber_succ, List.length_map]
      exact length
  create := by
    intro s signedIn env form post posted
    obtain ⟨user, found, librarian⟩ := signedIn
    have here := RowsPage.currentUser_request session found env
    obtain ⟨_, given⟩ := Option.ite_none_right_eq_some.mp posted
    obtain rfl := Option.some.inj given
    have answered : perform platform s
        (RowsPage.request session env (.books (.create (some form.params))))
        = BooksController.create platform env (some form.params) s :=
      perform_createBook platform (here _) librarian rfl
    rw [answered]
    constructor
    · intro unfit
      simp only [BooksController.create]
      cases saved : (form.params.assign Book.new).create platform env s with
      | stored row =>
          exact absurd saved (Book.Draft.create_unfit (Option.map_eq_none_iff.mp unfit) row)
      | invalid | raised => exact ⟨_, rfl, rfl⟩
    · intro new inserted
      obtain ⟨value, valid, rfl⟩ := Option.map_eq_some_iff.mp inserted
      simp only [BooksController.create, Book.Draft.create_valid valid]
      exact ⟨_, _, _, rfl, rfl, rfl, rfl, rfl, user, found, librarian⟩
  update := by
    intro s signedIn book present _ env form put posted
    obtain ⟨user, found, librarian⟩ := signedIn
    have here := RowsPage.currentUser_request session found env
    obtain ⟨_, given⟩ := Option.ite_none_right_eq_some.mp posted
    obtain rfl := Option.some.inj given
    have item : s.books.find? book.id = some book := s.books.find?_of_mem present
    have answered : perform platform s
        (RowsPage.request session env (.books (.update (key book) (some form.params))))
        = BooksController.update platform env book (some form.params) s := by
      rw [perform_updateBook platform (here _) librarian rfl, key_book, item]
      simp only [setRecord, RowsPage.request]
    rw [answered]
    constructor
    · intro unfit
      simp only [BooksController.update]
      cases saved : (form.params.assign book.load).update platform env s book with
      | stored row =>
          exact absurd saved (Book.Draft.update_unfit (Option.map_eq_none_iff.mp unfit) row.1 row.2)
      | invalid | raised => exact ⟨_, rfl, rfl⟩
    · intro change revised
      obtain ⟨value, valid, rfl⟩ := Option.map_eq_some_iff.mp revised
      simp only [BooksController.update, Book.Draft.update_valid valid]
      exact ⟨_, _, _, rfl, rfl, Book.Draft.applyTo_id env _ value book, rfl, rfl, user, found,
        librarian⟩
  destroy := by
    intro s signedIn book present _ env
    obtain ⟨user, found, librarian⟩ := signedIn
    have here := RowsPage.currentUser_request session found env
    have item : s.books.find? book.id = some book := s.books.find?_of_mem present
    refine ⟨⟨.noContent, .empty⟩, s.destroyBook book.id, ?_, rfl, rfl, user, found, librarian⟩
    have answered := perform_destroyBook platform (here (.books (.destroy book.id))) librarian rfl
    rw [item] at answered
    exact answered
  replace := by
    intro updated id shown same
    simp only [RowsPage.books, List.map_map]
    refine List.map_congr_left (fun row _ => ?_)
    simp only [Function.comp_apply]
    split
    · next here => exact (beq_iff_eq.mp here).symm
    · rfl

-----------------------------------------------------------------------------------------
-- The members
-----------------------------------------------------------------------------------------

/-- The fields of the dialogs New Member and Edit Member; a name that the row does not have is null
until it is typed, and only the first dialog has a password.
-/
structure MemberForm where
  email : String
  firstName : Option String := some ""
  lastName : Option String := some ""
  password : String := ""
  deriving DecidableEq, Repr

namespace MemberForm

/-- A text as JSON gives it. -/
def param : Option String → Param String
  | none => .null
  | some given => .value given

/-- `trim` leaves something of the text. -/
def given (text : String) : Bool := !text.toList.all BookForm.isTrimmed

/-- `errs` stays empty. -/
def passesCreate (form : MemberForm) : Bool := given form.email && given form.password

/-- `next` stays empty. -/
def passesUpdate (form : MemberForm) : Bool := given form.email

/-- `{ member: form }` -/
def createParams (form : MemberForm) : UserParams where
  email := .value form.email
  password := .value form.password
  firstName := param form.firstName
  lastName := param form.lastName

/-- `{ email, first_name, last_name }` -/
def updateParams (form : MemberForm) : UserParams where
  email := .value form.email
  firstName := param form.firstName
  lastName := param form.lastName

/-- The record that `MembersController#create` validates. -/
def created (platform : Platform) (env : Env) (form : MemberForm) : User.Draft :=
  { form.createParams.assign platform env User.new with role := some .member }

/-- The record that `MembersController#update` validates. -/
def updated (platform : Platform) (env : Env) (member : User) (form : MemberForm) : User.Draft :=
  form.updateParams.assign platform env member.load

end MemberForm

namespace RowsPage

/-- `pages/librarian/Members.tsx` -/
def members : RowsPage UserRecord MemberForm where
  id := UserRecord.id
  list q page := .members (.index (some q) page)
  listed
    | .users records => some records
    | _ => none
  create form :=
    if form.passesCreate then some (.members (.create (some form.createParams))) else none
  update id form :=
    if form.passesUpdate then some (.members (.update id (some form.updateParams))) else none
  destroy id := .members (.destroy id)
  saved
    | .user user => user
    | _ => none
  replace id updated rows := rows.map (fun row => if row.id == id then updated else row)

end RowsPage

namespace RowsTable

/-- The members, with the records that the forms become. -/
def members : RowsTable User MemberForm where
  table := Store.users
  scope := User.isMember
  listed platform q user := MembersController.listed platform (some q) user
  inserts platform env s form :=
    let draft := (form.created platform env).beforeValidation platform
    if draft.Savable platform s none then
      some ⟨draft.toRow env .member, fun _ => rfl⟩
    else
      none
  revises platform env s member form :=
    let draft := (form.updated platform env member).beforeValidation platform
    if draft.Savable platform s (some member) then
      some ⟨draft.applyTo env, draft.applyTo_id env⟩
    else
      none

end RowsTable

section Members

variable {platform : Platform} {env : Env} {s : Store} {draft : User.Draft}

/-- `POST /members` with the form's parameters saves the record that the form becomes. -/
theorem MembersController.create_form (platform : Platform) (env : Env) (form : MemberForm)
    (s : Store)
    : create platform env (some form.createParams) s
      = match (form.created platform env).create platform env s with
        | .stored (user, stored) => (⟨.created, .user (some (memberJson user))⟩, stored)
        | .invalid errors => (⟨.unprocessableEntity, .errors errors⟩, s)
        | .raised exception => (raised exception, s) := by
  generalize saved : (form.created platform env).create platform env s = outcome
  unfold MemberForm.created at saved
  cases outcome <;> simp only [create, saved]

/-- So does `PUT /members/:id`. -/
theorem MembersController.update_form (platform : Platform) (env : Env) (member : User)
    (form : MemberForm) (s : Store)
    : update platform env member (some form.updateParams) s
      = match (form.updated platform env member).update platform env s member with
        | .stored (member, stored) => (⟨.ok, .user (some (memberJson member))⟩, stored)
        | .invalid errors => (⟨.unprocessableEntity, .errors errors⟩, s)
        | .raised exception => (raised exception, s) := by
  generalize saved : (form.updated platform env member).update platform env s member = outcome
  unfold MemberForm.updated at saved
  cases outcome <;> simp only [update, saved]

/-- A librarian whose row is kept stays signed in. -/
theorem RowsTable.SignedIn.of_kept {session : Nat} {s' : Store} (signedIn : SignedIn session s)
    (kept : ∀ user ∈ s.users.rows, user.role = .librarian → user ∈ s'.users.rows)
    : SignedIn session s' := by
  obtain ⟨user, found, librarian⟩ := signedIn
  obtain ⟨present, id⟩ := (s.users.find?_eq_some_iff).mp found
  exact ⟨user, (s'.users.find?_eq_some_iff).mpr ⟨kept user present librarian, id⟩, librarian⟩

/-- A librarian is not the member with an id. -/
theorem id_ne_of_librarian {member user : User} (present : member ∈ s.users.rows)
    (isMember : member.isMember) (known : user ∈ s.users.rows) (librarian : user.role = .librarian)
    : user.id ≠ member.id := by
  intro same
  obtain rfl := s.users.eq_of_key_eq known present same
  simp [User.isMember, librarian] at isMember

end Members

/-- The list of members has members only. -/
theorem MembersController.listed_isMember {platform : Platform} {q : Option String} {user : User}
    (fits : listed platform q user)
    : user.isMember := by
  simp only [listed, Bool.and_eq_true] at fits
  exact fits.1

/-- `GET /members` serves a page of the matching members. -/
theorem MembersController.index_succ (platform : Platform) (env : Env) (q : Option String)
    (index : Nat) (s : Store)
    : MembersController.index platform env q (index + 1 : Nat) s
      = (page perPage (index + 1)
          (orderBy newestFirst (fun member => env.tie member.id)
            (s.users.rows.filter (listed platform q)))).map memberJson := by
  rw [MembersController.index, pageNumber_succ]
  rfl

theorem MembersController.setMember_eq_some {s : Store} {member : User}
    (present : member ∈ s.users.rows) (isMember : member.isMember)
    : setMember s member.id = some member := by
  have found : s.users.find? member.id = some member := s.users.find?_of_mem present
  simp [setMember, found, Option.filter, isMember]

/-- How the endpoints of the members serve a librarian. Other than with books, the caller is a row
of the same table, which stays since it is no member.
-/
theorem RowsTable.members_serves (platform : Platform) (session : Nat)
    : Serves .members .members platform session where
  list := by
    intro s signedIn env q index
    obtain ⟨user, found, librarian⟩ := signedIn
    have here := RowsPage.currentUser_request session found env
    obtain ⟨distinct, listed, length⟩ := listed_page s.users
      (MembersController.listed platform (some q)) MembersController.newestFirst
      (fun member => env.tie member.id) id (List.map_id _) index
    have served := MembersController.index_succ platform env (some q) index s
    have answered : perform platform s
        (RowsPage.request session env (RowsPage.members.list q (index + 1)))
        = (⟨.ok, .users (MembersController.index platform env (some q) (index + 1 : Nat) s)⟩, s) :=
      perform_listMembers platform (here _) librarian rfl
    refine ⟨_, _, answered, rfl, ?_, ?_, ?_⟩
    · rw [served, List.map_map]
      exact distinct
    · rw [served]
      intro record here
      obtain ⟨member, paged, rfl⟩ := List.mem_map.mp here
      obtain ⟨present, fits⟩ := listed member paged
      exact ⟨member, present, MembersController.listed_isMember fits, rfl⟩
    · rw [served, List.length_map]
      exact length
  create := by
    intro s signedIn env form post posted
    obtain ⟨user, found, librarian⟩ := signedIn
    have here := RowsPage.currentUser_request session found env
    simp only [RowsPage.members, Option.ite_none_right_eq_some] at posted
    obtain ⟨_, given⟩ := posted
    obtain rfl := Option.some.inj given
    have answered : perform platform s
        (RowsPage.request session env (.members (.create (some form.createParams))))
        = MembersController.create platform env (some form.createParams) s :=
      perform_createMember platform (here _) librarian rfl
    rw [answered]
    constructor
    · intro unfit
      rw [MembersController.create_form]
      cases saved : (form.created platform env).create platform env s with
      | stored row =>
          have savable := (User.Draft.create_eq_stored_iff.mp saved).1
          simp only [RowsTable.members, savable, if_true, reduceCtorEq] at unfit
      | invalid | raised => exact ⟨_, rfl, rfl⟩
    · intro new inserted
      simp only [RowsTable.members, Option.ite_none_right_eq_some, Option.some.injEq] at inserted
      obtain ⟨savable, rfl⟩ := inserted
      rw [MembersController.create_form,
        User.Draft.create_eq_stored_iff.mpr ⟨savable, .member, rfl, rfl⟩]
      refine ⟨_, _, _, rfl, rfl, rfl, rfl, rfl, ?_⟩
      refine RowsTable.SignedIn.of_kept ⟨user, found, librarian⟩ (fun other known _ => ?_)
      exact (Table.mem_insert _).mpr (Or.inl known)
  update := by
    intro s signedIn member present scope env form put posted
    obtain ⟨user, found, librarian⟩ := signedIn
    have here := RowsPage.currentUser_request session found env
    simp only [RowsPage.members, Option.ite_none_right_eq_some] at posted
    obtain ⟨_, given⟩ := posted
    obtain rfl := Option.some.inj given
    have item := MembersController.setMember_eq_some present scope
    have answered : perform platform s
        (RowsPage.request session env (.members (.update (key member) (some form.updateParams))))
        = MembersController.update platform env member (some form.updateParams) s := by
      rw [perform_updateMember platform (here _) librarian rfl, key_user, item]
      simp only [setRecord, RowsPage.request]
    rw [answered]
    constructor
    · intro unfit
      rw [MembersController.update_form]
      cases saved : (form.updated platform env member).update platform env s member with
      | stored row =>
          have savable := (User.Draft.update_eq_stored_iff.mp saved).1
          simp only [RowsTable.members, savable, if_true, reduceCtorEq] at unfit
      | invalid | raised => exact ⟨_, rfl, rfl⟩
    · intro change revised
      simp only [RowsTable.members, Option.ite_none_right_eq_some, Option.some.injEq] at revised
      obtain ⟨savable, rfl⟩ := revised
      rw [MembersController.update_form, User.Draft.update_eq_stored_iff.mpr ⟨savable, rfl⟩]
      refine ⟨_, _, _, rfl, rfl, User.Draft.applyTo_id env _ member, rfl, ?_, ?_⟩
      · simp only [RowsTable.members, User.isMember, User.Draft.applyTo_role]
        exact scope
      · refine RowsTable.SignedIn.of_kept ⟨user, found, librarian⟩ ?_
        intro other known isLibrarian
        refine (Table.mem_update _).mpr ⟨other, known, if_neg ?_⟩
        simpa using id_ne_of_librarian present scope known isLibrarian
  destroy := by
    intro s signedIn member present scope env
    obtain ⟨user, found, librarian⟩ := signedIn
    have here := RowsPage.currentUser_request session found env
    have item := MembersController.setMember_eq_some present scope
    refine ⟨⟨.noContent, .empty⟩, s.destroyUser member.id, ?_, rfl, rfl, ?_⟩
    · have answered := perform_destroyMember platform (here (.members (.destroy member.id)))
        librarian rfl
      rw [item] at answered
      exact answered
    · refine RowsTable.SignedIn.of_kept ⟨user, found, librarian⟩ (fun other known isLibrarian => ?_)
      refine (Table.mem_delete _).mpr ⟨known, ?_⟩
      simpa using id_ne_of_librarian present scope known isLibrarian
  replace := by
    intro updated id shown same
    simp only [RowsPage.members, List.map_map]
    refine List.map_congr_left (fun row _ => ?_)
    simp only [Function.comp_apply]
    split
    · next here => exact same.trans (beq_iff_eq.mp here).symm
    · rfl

-----------------------------------------------------------------------------------------
-- Both
-----------------------------------------------------------------------------------------

/-- On both pages the next page stays reachable throughout a run exactly when each accepted write
of the run is one that the pager allows: on the first page, a create only while no later page has
rows, a delete only if none has rows afterwards; on a later page, a delete that leaves rows for
the pages after it only from a list of more than 25; and the first row for a next page, created
or edited, only with 25 rows in the list then, on a later page at least 25.
-/
theorem nextPage_reachable_iff (platform : Platform) {store : Store} {librarian : User}
    (known : librarian ∈ store.users.rows) (isLibrarian : librarian.role = .librarian) (env : Env)
    (onBooks : List (RowAction BookForm)) (onMembers : List (RowAction MemberForm))
    : ((∀ reached ∈ states (RowsPage.books.step platform librarian.id)
              (RowsPage.books.mount platform librarian.id env store) onBooks,
            RowsTable.books.NextReachable platform reached)
          ↔ EachStep (RowsPage.books.step platform librarian.id)
              (RowsTable.books.KeepsNext .books platform)
              (RowsPage.books.mount platform librarian.id env store) onBooks)
      ∧ ((∀ reached ∈ states (RowsPage.members.step platform librarian.id)
              (RowsPage.members.mount platform librarian.id env store) onMembers,
            RowsTable.members.NextReachable platform reached)
          ↔ EachStep (RowsPage.members.step platform librarian.id)
              (RowsTable.members.KeepsNext .members platform)
              (RowsPage.members.mount platform librarian.id env store) onMembers) := by
  have signedIn : RowsTable.SignedIn librarian.id store :=
    ⟨librarian, store.users.find?_of_mem known, isLibrarian⟩
  have books := RowsTable.books_serves platform librarian.id
  have members := RowsTable.members_serves platform librarian.id
  exact ⟨books.forall_nextReachable_iff signedIn env onBooks,
    members.forall_nextReachable_iff signedIn env onMembers⟩

/-- A book that the catalogues of the samples do not have. -/
def BookForm.sample : BookForm where
  title := "Emma"
  author := "Jane Austen"
  genre := "Novel"
  isbn := "9780141439587"
  totalCopies := .int 1

/-- Twenty-six books and twenty-seven members: both lists have a second page. -/
def Store.samplePages : Store where
  users :=
    { rows := (List.range 28).map (fun number => {
        id := number + 1, email := toString number ++ "@example.com",
        encryptedPassword := "s$password123",
        role := if number = 0 then .librarian else .member, createdAt := 0, updatedAt := 0 })
      nextKey := 29
      increasing := by decide
      bounded := by decide }
  books := sampleCatalog.books
  borrowings := .empty

/-- An edit on the second page, and on the first one a delete that leaves no second page. -/
def RowAction.sampleBooks : List (RowAction BookForm) :=
  let env := (Call.onDay 0 none .health).env
  [.turn env .next, .update env 26 .sample, .turn env .prev, .destroy env 1]

/-- A delete on the second page that leaves a row there, and an edit on the first one. -/
def RowAction.sampleMembers : List (RowAction MemberForm) :=
  let env := (Call.onDay 0 none .health).env
  [.turn env .next, .destroy env 28, .turn env .prev,
    .update env 2 { email := "other@example.com" }]

/-- Both lists have rows for a second page, which is turned to and back. -/
theorem nextPage_reachable_sample
    : let store := Store.samplePages
      let librarian := store.users.rows[0]
      let env := (Call.onDay 0 none .health).env
      perPage < RowsTable.books.matching .ascii store ""
      ∧ perPage < RowsTable.members.matching .ascii store ""
      ∧ (∀ reached ∈ states (RowsPage.books.step .ascii librarian.id)
            (RowsPage.books.mount .ascii librarian.id env store) RowAction.sampleBooks,
          RowsTable.books.NextReachable .ascii reached)
      ∧ ∀ reached ∈ states (RowsPage.members.step .ascii librarian.id)
          (RowsPage.members.mount .ascii librarian.id env store) RowAction.sampleMembers,
        RowsTable.members.NextReachable .ascii reached := by
  intro store librarian env
  have known : librarian ∈ store.users.rows := List.getElem_mem _
  obtain ⟨onBooks, onMembers⟩ := nextPage_reachable_iff .ascii known rfl env
    RowAction.sampleBooks RowAction.sampleMembers
  exact ⟨by decide, by decide, onBooks.mpr (by decide), onMembers.mpr (by decide)⟩

/-- With twenty-six books a librarian creates another on the first page: the list then has
twenty-six rows, and the pager is gone.
-/
theorem created_book_hides_pager
    : let env := (Call.onDay 0 none .health).env
      ¬∀ reached ∈ states (RowsPage.books.step .ascii 1)
          (RowsPage.books.mount .ascii 1 env Store.sampleCatalog) [.create env .sample],
        RowsTable.books.NextReachable .ascii reached := by
  decide

end LibraryManagement
