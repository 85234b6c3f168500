import LibraryManagement.Controllers.Routes
import LibraryManagement.Fetching.Debounced

/-! The quick search of `pages/librarian/Dashboard.tsx` and `pages/member/Dashboard.tsx`, which have
it from the same effect: `GET /books` for a text that has stood for 300 milliseconds.
-/

namespace LibraryManagement

open Fetching Transition

/-- `setTimeout(..., 300)` where `q` is truthy, `setQuickResults([])` where it is not. -/
def quickSearch : Debouncer String (List BookRecord) where
  delay := 300
  idle q := q == ""
  cleared := []

/-- The states of a dashboard's search field; `rows number` are those of the response to its
request of that number, if it succeeds.
-/
abbrev quickSearchRun (rows : ℕ → Option (List BookRecord))
    (actions : List (Debouncer.Action String))
    : List (Debouncer.State String (List BookRecord)) :=
  states (quickSearch.step rows) (quickSearch.mount "") actions

/-- `api.get('/books', { params: { q } })` gets the rows from the library in this state. -/
def BooksController.Serves (platform : Platform) (user : User) (s : Store) (env : Env) (q : String)
    (rows : List BookRecord)
    : Prop :=
  user ∈ s.users.rows
  ∧ (perform platform s
      { env := env, session := some user.id, request := .books (.index (some q) 0) }).1
    = ⟨.ok, .books rows⟩

/-- A quiet field whose rows are those for the text sent last shows rows for its own text, from the
library as the last request found it: the text has stood since that request.
-/
theorem quickSearch_serves {platform : Platform} {user : User} {stores : ℕ → Store} {envs : ℕ → Env}
    {rows : ℕ → Option (List BookRecord)} {state : Debouncer.State String (List BookRecord)}
    (paced : quickSearch.Paced state)
    (served
      : ∀ number issue, state.issued[number]? = some issue
        → ∀ data ∈ rows number,
          BooksController.Serves platform user (stores number) (envs number) issue.query data)
    (quiet : quickSearch.Quiet state) (settled : quickSearch.Settled rows state)
    : ∃ number, state.issued.length = number + 1
        ∧ BooksController.Serves platform user (stores number) (envs number) state.query
            state.shown := by
  obtain ⟨issue, last, same, _⟩ := paced.last quiet.2.1 quiet.1
  obtain ⟨number, _, latest, answered⟩ := settled quiet
  rw [List.getLast?_eq_getElem?, latest, Nat.add_sub_cancel] at last
  exact ⟨number, latest, same ▸ served number issue last state.shown answered⟩

/-- Whatever is typed, however late the timer fires and in whatever order the answers arrive: only
nonempty texts are sent, each after it has stood for 300 milliseconds, and no more of them than
that allows. A field with a text, without a pending timer and without a request under way shows
the response to its latest request exactly along the runs in which that request is the last to
be answered; and then the rows are those that the server had for the text when that request
reached it. By the pacing of the timer, which every event keeps.
-/
theorem quickSearch_paced_settled_iff (rows : ℕ → Option (List BookRecord))
    (actions : List (Debouncer.Action String))
    : (∀ reached ∈ quickSearchRun rows actions,
        quickSearch.Paced reached ∧ reached.issued.length * 300 ≤ reached.now)
      ∧ ((∀ reached ∈ quickSearchRun rows actions, quickSearch.Settled rows reached)
        ↔ EachStep (quickSearch.step rows) (quickSearch.SettlesWith rows) (quickSearch.mount "")
            actions)
      ∧ ∀ reached ∈ quickSearchRun rows actions,
          ∀ platform user (stores : ℕ → Store) (envs : ℕ → Env),
          (∀ number issue, reached.issued[number]? = some issue
            → ∀ data ∈ rows number,
              BooksController.Serves platform user (stores number) (envs number) issue.query data)
          → quickSearch.Quiet reached → quickSearch.Settled rows reached
          → ∃ number, reached.issued.length = number + 1
              ∧ BooksController.Serves platform user (stores number) (envs number) reached.query
                  reached.shown := by
  have idle : quickSearch.idle "" := rfl
  have paced := Debouncer.forall_states_paced idle rows actions
  refine ⟨?_, Debouncer.forall_states_settled_iff idle rows actions, ?_⟩
  · intro reached member
    exact ⟨paced reached member, (paced reached member).length_mul_le⟩
  · intro reached member platform user stores envs served quiet settled
    exact quickSearch_serves (paced reached member) served quiet settled

/-- The answer for a text that has been overwritten arrives last. -/
example
    : ¬∀ reached ∈ quickSearchRun (fun _ => some []) [.input "Du", .wait 300, .fire,
          .input "Emma", .wait 300, .fire, .deliver 1, .deliver 0],
        quickSearch.Quiet reached → Debouncer.ShowsLast reached := by
  decide

end LibraryManagement
