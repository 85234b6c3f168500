import LibraryManagement.Client.AuthContext
import LibraryManagement.Lending.CanBorrow
import LibraryManagement.Lending.Revisions

/-! The dialog Edit Book of `frontend/src/pages/librarian/Books.tsx`, with two librarians who use
it on the same book. The form starts from the row in the librarian's own list, however old, and
a save sends all of its fields.
-/

namespace LibraryManagement

open Relational Transition

/-- The fields of the form; the number of copies is what `Number(e.target.value)` gave. -/
structure BookForm where
  title : String
  author : String
  genre : String
  isbn : String
  totalCopies : NumberInput
  deriving DecidableEq, Repr

/-- `setForm(book)` -/
def BookRecord.form (record : BookRecord) : BookForm where
  title := record.title
  author := record.author
  genre := record.genre
  isbn := record.isbn
  totalCopies := .int record.totalCopies

/-- What a form shows of a stored row. -/
def Book.form (book : Book) : BookForm where
  title := book.title
  author := book.author
  genre := book.genre
  isbn := book.isbn
  totalCopies := .int book.totalCopies

/-- The row that `onChange(res.data)` puts into the list. -/
def Book.record (book : Book) : BookRecord where
  id := book.id
  title := book.title
  author := book.author
  genre := book.genre
  isbn := book.isbn
  totalCopies := book.totalCopies
  canBorrow := false

namespace BookForm

/-- The characters that JavaScript's `trim` removes. -/
def isTrimmed (char : Char) : Bool :=
  char.toNat == 0xFEFF || (isSpace char && char.toNat != 0x85)

/-- `nextErrors` stays empty. -/
def passesValidation (form : BookForm) : Bool :=
  let given := fun text : String => !text.toList.all isTrimmed
  given form.title && given form.author && given form.genre && given form.isbn
  && match form.totalCopies with
    | .null | .notNumeric => false
    | .decimal negative => !negative
    | .int value => !(value < 0)

/-- `api.put(..., { book: form })` names every permitted attribute. -/
def params (form : BookForm) : BookParams where
  title := .value form.title
  author := .value form.author
  genre := .value form.genre
  isbn := .value form.isbn
  totalCopies := some form.totalCopies

end BookForm

/-- The fields that a librarian changes, with their new values. -/
structure BookEdit where
  title : Option String := none
  author : Option String := none
  genre : Option String := none
  isbn : Option String := none
  totalCopies : Option NumberInput := none
  deriving DecidableEq, Repr

namespace BookEdit

/-- The changes are typed into the form. -/
def applyTo (edit : BookEdit) (form : BookForm) : BookForm where
  title := edit.title.getD form.title
  author := edit.author.getD form.author
  genre := edit.genre.getD form.genre
  isbn := edit.isbn.getD form.isbn
  totalCopies := edit.totalCopies.getD form.totalCopies

/-- The form has the new values of all changed fields. -/
def Carries (edit : BookEdit) (form : BookForm) : Prop := edit.applyTo form = form

instance (edit : BookEdit) (form : BookForm) : Decidable (edit.Carries form) :=
  inferInstanceAs (Decidable (_ = _))

structure Disjoint (first second : BookEdit) : Prop where
  title : first.title = none ∨ second.title = none
  author : first.author = none ∨ second.author = none
  genre : first.genre = none ∨ second.genre = none
  isbn : first.isbn = none ∨ second.isbn = none
  totalCopies : first.totalCopies = none ∨ second.totalCopies = none

theorem Disjoint.symm {first second : BookEdit} (disjoint : first.Disjoint second)
    : second.Disjoint first where
  title := disjoint.title.symm
  author := disjoint.author.symm
  genre := disjoint.genre.symm
  isbn := disjoint.isbn.symm
  totalCopies := disjoint.totalCopies.symm

/-- A form carries an edit exactly where each field that the edit changes has its value. -/
theorem carries_iff (edit : BookEdit) (form : BookForm)
    : edit.Carries form
      ↔ edit.title.getD form.title = form.title ∧ edit.author.getD form.author = form.author
        ∧ edit.genre.getD form.genre = form.genre ∧ edit.isbn.getD form.isbn = form.isbn
        ∧ edit.totalCopies.getD form.totalCopies = form.totalCopies := by
  cases form
  simp [Carries, applyTo]

/-- The form has a librarian's own changes. -/
theorem carries_applyTo (edit : BookEdit) (form : BookForm) : edit.Carries (edit.applyTo form) := by
  have again {α : Type} (given : Option α) (value : α)
      : given.getD (given.getD value) = given.getD value := by
    cases given <;> rfl
  simp only [carries_iff, applyTo, again, and_self]

/-- Changes of other fields neither make nor break what a form has. -/
theorem Disjoint.carries_applyTo_iff {own other : BookEdit} (disjoint : own.Disjoint other)
    (form : BookForm)
    : other.Carries (own.applyTo form) ↔ other.Carries form := by
  have untouched {α : Type} {own other : Option α} (apart : own = none ∨ other = none) (value : α)
      : other.getD (own.getD value) = own.getD value ↔ other.getD value = value := by
    rcases apart with rfl | rfl
    · exact Iff.rfl
    · exact iff_of_true rfl rfl
  simp only [carries_iff, applyTo, untouched disjoint.title, untouched disjoint.author,
    untouched disjoint.genre, untouched disjoint.isbn, untouched disjoint.totalCopies]

end BookEdit

-----------------------------------------------------------------------------------------
-- Two librarians
-----------------------------------------------------------------------------------------

inductive Librarian where
  | first
  | second
  deriving DecidableEq, Repr

def Librarian.other : Librarian → Librarian
  | .first => .second
  | .second => .first

@[simp] theorem Librarian.other_other (who : Librarian) : who.other.other = who := by
  cases who <;> rfl

instance (p : Librarian → Prop) [DecidablePred p] : Decidable (∀ who, p who) :=
  decidable_of_iff (p .first ∧ p .second)
    ⟨fun both who => by cases who <;> simp [both], fun all => ⟨all _, all _⟩⟩

theorem Librarian.eq_or_eq_other (who someone : Librarian)
    : someone = who ∨ someone = who.other := by
  cases who <;> cases someone <;> simp [other]

structure Edits where
  edit : Librarian → BookEdit
  disjoint : (edit .first).Disjoint (edit .second)

/-- The edits of the two librarians change different fields, whichever is asked. -/
theorem Edits.disjoint_other (edits : Edits) (who : Librarian)
    : (edits.edit who).Disjoint (edits.edit who.other) := by
  cases who with
  | first => exact edits.disjoint
  | second => exact edits.disjoint.symm

/-- The books page of one librarian: its list, the lists under way, the row on which the dialog
was opened, and the same of a save that is under way.
-/
structure BooksEditor where
  books : List BookRecord := []
  answered : List (List BookRecord) := []
  dialog : Option BookForm := none
  sent : Option BookForm := none
  saved : Bool := false
  deriving DecidableEq, Repr

structure EditSystem where
  store : Store
  editor : Librarian → BooksEditor := fun _ => {}

inductive EditAction where
  /-- The server computes a list. -/
  | list (who : Librarian) (env : Env) (q : String) (page : Int)
  /-- The page receives a list. -/
  | receive (who : Librarian) (index : Nat)
  /-- The dialog is opened and the changes are made. -/
  | open (who : Librarian)
  | cancel (who : Librarian)
  /-- `onSave` sends the form. -/
  | save (who : Librarian)
  /-- The server processes a save. -/
  | process (who : Librarian) (env : Env)

namespace EditSystem

def set (system : EditSystem) (who : Librarian) (editor : BooksEditor) : EditSystem :=
  { system with editor := fun other => if other = who then editor else system.editor other }

@[simp] theorem set_editor (system : EditSystem) (who : Librarian) (editor : BooksEditor)
    : (system.set who editor).editor who = editor := by simp [set]

@[simp] theorem set_editor_other (system : EditSystem) (who : Librarian) (editor : BooksEditor)
    : (system.set who editor).editor who.other = system.editor who.other := by
  cases who <;> rfl

variable (platform : Platform) (session : Librarian → Nat) (edits : Edits) (id : Nat)

def request (who : Librarian) (env : Env) (request : Request) : Call where
  env := env
  session := some (session who)
  request := request

def put (who : Librarian) (env : Env) (row : BookForm) : Call :=
  request session who env (.books (.update id (some ((edits.edit who).applyTo row).params)))

/-- The dialog belongs to its row and goes with it. -/
def receiveList (editor : BooksEditor) (index : Nat) (books : List BookRecord) : BooksEditor :=
  { editor with
    books := books
    answered := editor.answered.eraseIdx index
    dialog := if books.any (fun record => record.id == id) then editor.dialog else none }

/-- A save is answered: with the saved row, or with errors that leave the dialog open. -/
def receiveSave (editor : BooksEditor) (response : Response) : BooksEditor :=
  match response.body, response.succeeded with
  | .book saved, true =>
      { editor with
        books := editor.books.map (fun record =>
          if record.id == saved.id then saved.record else record)
        dialog := none
        sent := none
        saved := true }
  | _, _ => { editor with sent := none }

def step (system : EditSystem) : EditAction → EditSystem
  | .list who env q page =>
      let call := request session who env (.books (.index (some q) page))
      let (response, store) := perform platform system.store call
      let books := match response.body with
        | .books books => books
        | _ => []
      let editor := system.editor who
      { system with store := store }.set who { editor with answered := editor.answered ++ [books] }
  | .receive who index =>
      match (system.editor who).answered[index]? with
      | some books => system.set who (receiveList id (system.editor who) index books)
      | none => system
  | .open who =>
      match (system.editor who).books.find? (fun record => record.id == id) with
      | some record => system.set who { system.editor who with dialog := some record.form }
      | none => system
  | .cancel who => system.set who { system.editor who with dialog := none }
  | .save who =>
      let editor := system.editor who
      match editor.dialog with
      | some row =>
          if editor.sent.isNone && !editor.saved && ((edits.edit who).applyTo row).passesValidation
          then system.set who { editor with sent := some row }
          else system
      | none => system
  | .process who env =>
      match (system.editor who).sent with
      | some row =>
          let (response, store) := perform platform system.store (put session edits id who env row)
          { system with store := store }.set who (receiveSave (system.editor who) response)
      | none => system

/-- The stored book has the new values of a librarian's changed fields. -/
def HasEdit (system : EditSystem) (who : Librarian) : Prop :=
  ∃ book ∈ system.store.books.find? id, (edits.edit who).Carries book.form

instance (system : EditSystem) (who : Librarian) : Decidable (system.HasEdit edits id who) :=
  inferInstanceAs (Decidable (∃ book ∈ system.store.books.find? id, _))

/-- If both saves were accepted, the stored book has the changes of both. -/
def KeepsBoth (system : EditSystem) : Prop :=
  ∀ who, (system.editor who).saved → (system.editor who.other).saved
    → system.HasEdit edits id who

instance (system : EditSystem) : Decidable (system.KeepsBoth edits id) :=
  inferInstanceAs (Decidable (∀ who, (system.editor who).saved
    → (system.editor who.other).saved → system.HasEdit edits id who))

/-- A save that is accepted after the other's comes from a dialog that was opened on a row with
the other's changes.
-/
def SavesOnTop (system : EditSystem) : EditAction → Prop
  | .list .. | .receive .. | .open _ | .cancel _ | .save _ => True
  | .process who env =>
      ∀ row ∈ (system.editor who).sent,
        ((put session edits id who env row).revises platform system.store).isSome
        → (system.editor who.other).saved → (edits.edit who.other).Carries row

-----------------------------------------------------------------------------------------
-- What the server stores
-----------------------------------------------------------------------------------------

variable {platform session edits id}

/-- A saved row has what its draft had. -/
theorem form_applyTo (env : Env) {form : BookForm} (book : Book) {value : Int}
    (number : form.totalCopies = .int value)
    : ((form.params.assign book.load).applyTo env value book).form = form := by
  obtain ⟨title, author, genre, isbn, copies⟩ := form
  obtain rfl : copies = .int value := number
  rw [Book.Draft.applyTo]
  dsimp only
  split
  · next same =>
    exact congrArg Book.form same.symm
  · rfl

/-- An accepted save is answered with the book and leaves the form that was sent, since a form
assigns every column it shows.
-/
theorem find?_revised (platform : Platform) {call : Call} {s : Store} {form : BookForm}
    (requested : call.request = .books (.update id (some form.params)))
    (revised : (call.revises platform s).isSome)
    : (∃ book, (perform platform s call).1 = ⟨.ok, .book book⟩)
      ∧ ∃ book, (perform platform s call).2.books.find? id = some book ∧ book.form = form := by
  obtain ⟨⟨book, draft, value⟩, revises⟩ := Option.isSome_iff_exists.mp revised
  obtain ⟨_, ⟨params, given, rfl⟩, found, valid⟩ := Call.revises_eq_some_iff.mp revises
  obtain ⟨rfl, same⟩ : id = book.id ∧ form.params = params := by
    simpa using requested.symm.trans given
  subst same
  rw [perform_revises revises]
  refine ⟨⟨_, rfl⟩, (form.params.assign book.load).applyTo call.env value book, ?_, ?_⟩
  · refine (Table.find?_eq_some_iff _).mpr ⟨?_, Book.Draft.applyTo_id _ _ _ _⟩
    exact (s.books.mem_update).mpr ⟨book, found, by simp⟩
  · obtain ⟨_, number, _⟩ := Book.Draft.validCopies_eq_some_iff.mp valid
    exact form_applyTo call.env book number

/-- The list is only read. -/
theorem perform_list (s : Store) (call : Call) (q : Option String) (page : Int)
    (requested : call.request = .books (.index q page))
    : (perform platform s call).2 = s := by
  simp only [perform, requested, BooksController.handle]
  cases call.currentUser s <;> rfl

-----------------------------------------------------------------------------------------
-- Runs
-----------------------------------------------------------------------------------------

/-- What a step of the browsers alone changes does not concern the saves. -/
theorem KeepsBoth.congr {system system' : EditSystem} (keeps : system.KeepsBoth edits id)
    (store : system'.store = system.store)
    (saved : ∀ who, (system'.editor who).saved = (system.editor who).saved)
    : system'.KeepsBoth edits id := by
  intro who own other
  rw [saved] at own other
  obtain ⟨book, found, carries⟩ := keeps who own other
  exact ⟨book, store ▸ found, carries⟩

/-- A save that is not answered with the book counts as not saved. -/
theorem receiveSave_rejected (editor : BooksEditor) {response : Response}
    (rejected : ∀ book, response.body ≠ .book book)
    : (receiveSave editor response).saved = editor.saved := by
  rw [receiveSave]
  split
  · next saved given _ => exact absurd given (rejected saved)
  · rfl

/-- What one browser does to its editor leaves the other's saves alone. -/
theorem set_saved (system : EditSystem) {who : Librarian} {editor : BooksEditor}
    (same : editor.saved = (system.editor who).saved) (other : Librarian)
    : ((system.set who editor).editor other).saved = (system.editor other).saved := by
  rw [set]
  dsimp only
  split
  · next here => rw [same, here]
  · rfl

/-- A processed save keeps both librarians' changes exactly when it is made on top of the
other's, in case that was accepted.
-/
theorem KeepsBoth.process_iff {system : EditSystem} (keeps : system.KeepsBoth edits id)
    (platform : Platform) (session : Librarian → Nat) (who : Librarian) (env : Env)
    : (system.step platform session edits id (.process who env)).KeepsBoth edits id
      ↔ SavesOnTop platform session edits id system (.process who env) := by
  simp only [step, SavesOnTop]
  cases sent : (system.editor who).sent with
  | none => simpa using keeps
  | some row =>
      simp only [Option.mem_some, forall_eq']
      have requested : (put session edits id who env row).request
          = .books (.update id (some ((edits.edit who).applyTo row).params)) := rfl
      cases revises : (put session edits id who env row).revises platform system.store with
      | none =>
          obtain ⟨rejected, unstored⟩ := perform_unrevised platform requested revises
          refine iff_of_true (keeps.congr unstored (set_saved _ ?_)) nofun
          exact receiveSave_rejected _ rejected
      | some revised =>
          obtain ⟨⟨saved, answered⟩, book, found, same⟩ :=
            find?_revised platform requested (by rw [revises]; rfl)
          have accepted : (receiveSave (system.editor who) (perform platform system.store
              (put session edits id who env row)).1).saved = true := by
            rw [answered]
            rfl
          simp only [Option.isSome_some, true_implies]
          constructor
          · intro after otherSaved
            obtain ⟨stored, here, carries⟩ := after who.other (by simpa using otherSaved)
              (by simpa using accepted)
            obtain rfl : book = stored := Option.some.inj (found.symm.trans here)
            rw [same] at carries
            exact ((edits.disjoint_other who).carries_applyTo_iff row).mp carries
          · intro onTop someone own _
            refine ⟨book, found, ?_⟩
            rw [same]
            rcases who.eq_or_eq_other someone with rfl | rfl
            · exact (edits.edit _).carries_applyTo row
            · refine ((edits.disjoint_other who).carries_applyTo_iff row).mpr (onTop ?_)
              simpa using own

/-- One action keeps the saved changes of both exactly where it is no save from a form that lacks
the other's: by cases on the action, only a save that is processed writes to the book, and what it
writes is its form.
-/
theorem KeepsBoth.step_iff {system : EditSystem} (keeps : system.KeepsBoth edits id)
    (platform : Platform) (session : Librarian → Nat) (action : EditAction)
    : (system.step platform session edits id action).KeepsBoth edits id
      ↔ SavesOnTop platform session edits id system action := by
  cases action with
  | process who env => exact keeps.process_iff platform session who env
  | list who env q page =>
      refine iff_of_true (keeps.congr ?_ (set_saved _ rfl)) trivial
      let call := request session who env (.books (.index (some q) page))
      exact perform_list system.store call (some q) page rfl
  | receive who index =>
      refine iff_of_true ?_ trivial
      simp only [step]
      split
      · exact keeps.congr rfl (set_saved _ rfl)
      · exact keeps
  | «open» who =>
      refine iff_of_true ?_ trivial
      simp only [step]
      split
      · exact keeps.congr rfl (set_saved _ rfl)
      · exact keeps
  | cancel who => exact iff_of_true (keeps.congr rfl (set_saved _ rfl)) trivial
  | save who =>
      refine iff_of_true ?_ trivial
      simp only [step]
      split
      · split
        · exact keeps.congr rfl (set_saved _ rfl)
        · exact keeps
      · exact keeps

end EditSystem

/-- Two accepted saves leave the changes of both librarians in the stored book, exactly along
the runs in which the save accepted second comes from a dialog that was opened on a row with
the changes of the first.
-/
theorem edits_keepBoth_iff (platform : Platform) (session : Librarian → Nat) (edits : Edits)
    (id : Nat) (store : Store) (actions : List EditAction)
    : (∀ reached ∈ states (EditSystem.step platform session edits id) { store := store } actions,
          reached.KeepsBoth edits id)
      ↔ EachStep (EditSystem.step platform session edits id)
          (EditSystem.SavesOnTop platform session edits id) { store := store } actions := by
  refine forall_states_iff (fun _ => True) trivial ?_ (fun _ _ _ => trivial) ?_ actions
  · exact fun who own _ => absurd own Bool.false_ne_true
  · exact fun system action _ keeps => keeps.step_iff platform session action

/-- The sample with a second librarian, user 4. -/
def Store.sampleLibrarians : Store :=
  LibraryManagement.step .ascii Database.sample.store
    (.onDay 0 none (.devise (.createRegistration "second@example.com" "password123"
      "password123")))

def Librarian.sampleSession : Librarian → Nat
  | .first => 1
  | .second => 4

/-- One changes the title, the other the author. -/
def Edits.sample : Edits where
  edit
    | .first => { title := some "Persuasion" }
    | .second => { author := some "Austen" }
  disjoint := by constructor <;> simp

/-- Both open the dialog before either of them saves. -/
def EditAction.sampleOverlap : List EditAction :=
  let env := (Call.onDay 0 none .health).env
  [.list .first env "" 1, .receive .first 0, .open .first,
    .list .second env "" 1, .receive .second 0, .open .second,
    .save .first, .process .first env, .save .second, .process .second env]

/-- Both saves are accepted, and the book has its old title again. -/
theorem overlapping_edits_lost
    : let run := states (EditSystem.step .ascii Librarian.sampleSession Edits.sample 1)
        { store := Store.sampleLibrarians } EditAction.sampleOverlap
      (∃ reached ∈ run, (reached.editor .first).saved ∧ (reached.editor .second).saved
        ∧ reached.store.books.find? 1 = (Store.sampleLibrarians.books.find? 1).map (fun book =>
            { book with author := "Austen", updatedAt := (Call.onDay 0 none .health).env.now }))
      ∧ ¬∀ reached ∈ run, reached.KeepsBoth Edits.sample 1 := by
  decide

end LibraryManagement
