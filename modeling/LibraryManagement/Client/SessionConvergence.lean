import LibraryManagement.Client.AuthContext
import LibraryManagement.Lending.Consistency

/-! Whether the client's user becomes that of the server's session. Every response about a user
is right when it is computed; what counts is which of them is received last.
-/

namespace LibraryManagement

open Relational Transition

namespace SessionSystem

/-- Without outstanding requests the context has the user of the session and is not loading. -/
def Converged (system : SessionSystem) : Prop :=
  system.Quiescent → system.auth.user = system.serverUser ∧ system.auth.loading = false

instance (system : SessionSystem) : Decidable system.Converged :=
  inferInstanceAs (Decidable (system.Quiescent → _))

/-- A delivery that leaves nothing outstanding tells of the same user as the response that the
server computed last; a failed one tells of none and leaves the user that was received before.
-/
def InstallsLatest (system : SessionSystem) : SessionAction → Prop
  | .press _ | .csrf _ | .process .. => True
  | .receive index =>
      ∀ answer ∈ system.answered[index]?,
        (system.settle index answer).Quiescent
        → answer.carried.getD system.auth.user = system.latest

instance (system : SessionSystem) : ∀ action, Decidable (InstallsLatest system action)
  | .press _ | .csrf _ | .process .. => .isTrue trivial
  | .receive index =>
      inferInstanceAs (Decidable (∀ answer ∈ system.answered[index]?,
        (system.settle index answer).Quiescent
        → answer.carried.getD system.auth.user = system.latest))

/-- The session is about to be asked for. -/
def Asking (system : SessionSystem) : Prop :=
  .initialLoad ∈ system.preparing ∨ .initialLoad ∈ system.sent ∨ .refresh ∈ system.sent
  ∨ ∃ answer ∈ system.answered, answer.refreshes

def underWay (system : SessionSystem) : List AuthOperation :=
  system.preparing ++ system.sent ++ system.answered.map Answer.operation

end SessionSystem

-----------------------------------------------------------------------------------------
-- What the server computes
-----------------------------------------------------------------------------------------

section Serve

variable {platform : Platform} {system : SessionSystem} {index : Nat}
  {operation : AuthOperation} {env : Env}

def SessionSystem.answer (platform : Platform) (system : SessionSystem)
    (operation : AuthOperation) (env : Env)
    : Answer where
  operation := operation
  response :=
    (perform platform system.store
      { env := env, session := system.session, request := operation.request }).1

theorem SessionsController.create_user {email password : Option String} {s : Store}
    (succeeds : (create platform email password s).succeeded)
    : ∃ row ∈ s.users.rows, (create platform email password s).user = some (userJson row) := by
  unfold create at succeeds ⊢
  cases found : findForAuthentication platform email s with
  | none => simp [found, Response.succeeded] at succeeds
  | some row =>
      simp only [found] at succeeds ⊢
      split at succeeds
      · next valid =>
        rw [if_pos valid]
        exact ⟨row, List.mem_of_find?_eq_some found, rfl⟩
      · contradiction

/-- A response about a user is right when it is computed, operation by operation; signing in tells
of the row that it has found.
-/
theorem SessionSystem.serve_carried {user : Option UserRecord}
    (carried : (system.answer platform operation env).carried = some user)
    : (system.serve platform index operation env).serverUser = user := by
  cases operation with
  | initialLoad | refresh => exact Option.some.inj carried
  | saveProfile firstName lastName email => simp [answer] at carried
  | logout =>
      obtain rfl : none = user := Option.some.inj carried
      cases signedIn : system.session.bind system.store.users.find? with
      | none =>
          simp [serve, serverUser, perform, Call.currentUser, AuthOperation.request,
            SessionsController.handle, authenticateUser, signedIn, AuthOperation.signs,
            Response.succeeded, unauthenticated]
      | some caller =>
          simp [serve, serverUser, perform, Call.currentUser, AuthOperation.request,
            SessionsController.handle, authenticateUser, signedIn, AuthOperation.signs,
            Response.succeeded]
  | login email password =>
      rw [answer, Answer.carried_login] at carried
      obtain ⟨succeeds, same⟩ := Option.ite_none_right_eq_some.mp carried
      obtain rfl := Option.some.inj same
      obtain ⟨row, member, told⟩ := SessionsController.create_user succeeds
      have here : system.store.users.find? row.id = some row :=
        system.store.users.find?_of_mem member
      simp only [serve, serverUser, perform, AuthOperation.request, SessionsController.handle,
        AuthOperation.signs] at succeeds ⊢
      simp [succeeds, told, here, userJson, nameJson]

/-- A rejected profile is not stored. -/
theorem AccountsController.update_rejected {currentUser : User} {params : Option UserParams}
    {s : Store} (rejected : (update platform env currentUser params s).1.succeeded = false)
    : (update platform env currentUser params s).2 = s := by
  cases params with
  | none => rfl
  | some params =>
      simp only [update] at rejected ⊢
      split
      · next saved =>
        rw [saved] at rejected
        contradiction
      · rfl
      · rfl

/-- A response that tells of no user and leads to no refresh leaves the session's as it is: a
refused sign-in or a refused save of the profile.
-/
theorem SessionSystem.serve_silent
    (silent : (system.answer platform operation env).carried = none)
    (final : (system.answer platform operation env).refreshes = false)
    : (system.serve platform index operation env).serverUser = system.serverUser := by
  cases operation with
  | initialLoad | refresh => rfl
  | logout => simp [Answer.carried, answer, AuthOperation.dispatches] at silent
  | login email password =>
      rw [answer, Answer.carried_login] at silent
      have fails
          : (SessionsController.create platform (some email) (some password)
              system.store).succeeded = false := by
        refine Bool.eq_false_iff.mpr (fun succeeds => ?_)
        simp [perform, AuthOperation.request, SessionsController.handle, succeeds] at silent
      simp [serve, serverUser, perform, AuthOperation.request, SessionsController.handle,
        AuthOperation.signs, fails]
  | saveProfile firstName lastName email =>
      rw [answer, Answer.refreshes_saveProfile] at final
      simp only [serve, serverUser, perform, AuthOperation.request, AccountsController.handle,
        authenticateUser, AuthOperation.signs] at final ⊢
      split at final
      · simp
      · next caller signedIn =>
        rw [AccountsController.update_rejected final]

/-- `GET /session/current` tells of the user of the session. -/
theorem SessionSystem.answer_tells (tells : operation = .initialLoad ∨ operation = .refresh)
    : (system.answer platform operation env).carried = some system.serverUser := by
  rcases tells with rfl | rfl <;> rfl

end Serve

-----------------------------------------------------------------------------------------
-- What a step keeps
-----------------------------------------------------------------------------------------

theorem mem_eraseIdx_of_ne {items : List α} {index : Nat} {erased item : α}
    (here : items[index]? = some erased) (member : item ∈ items) (other : item ≠ erased)
    : item ∈ items.eraseIdx index := by
  obtain ⟨position, found⟩ := List.mem_iff_getElem?.mp member
  refine List.mem_eraseIdx_iff_getElem?.mpr ⟨position, ?_, found⟩
  rintro rfl
  exact other (Option.some.inj (found.symm.trans here))

namespace SessionSystem

/-- The server's user is the one told of last unless the session is about to be asked for,
and the context is loading only while an operation that ends it is under way.
-/
structure Sound (system : SessionSystem) : Prop where
  latest : system.Asking ∨ system.latest = system.serverUser
  loading : system.auth.loading = true → ∃ operation ∈ system.underWay, operation.ends

theorem sound_mounted (store : Store) (session : Option Nat)
    : Sound { store := store, session := session } where
  latest := Or.inl (Or.inl (List.mem_singleton_self _))
  loading _ := ⟨.initialLoad, by simp [underWay], rfl⟩

variable {system : SessionSystem} {platform : Platform}

theorem Sound.start (sound : system.Sound) (operation : AuthOperation)
    : (system.start operation).Sound where
  latest := by
    refine sound.latest.imp ?_ id
    intro asking
    rcases asking with preparing | others
    · exact Or.inl (List.mem_append_left _ preparing)
    · exact Or.inr others
  loading := by
    intro loading
    cases ends : operation.ends with
    | true => exact ⟨operation, by simp [underWay, SessionSystem.start], ends⟩
    | false =>
        cases operation with
        | initialLoad | login email password | logout | refresh => contradiction
        | saveProfile firstName lastName email =>
            obtain ⟨other, member, ends⟩ := sound.loading loading
            refine ⟨other, ?_, ends⟩
            simp only [underWay, List.mem_append, SessionSystem.start] at member ⊢
            tauto

theorem Sound.csrf (sound : system.Sound) {index : Nat} {operation : AuthOperation}
    (here : system.preparing[index]? = some operation)
    : Sound { system with
        preparing := system.preparing.eraseIdx index
        sent := system.sent ++ [operation] } where
  latest := by
    refine sound.latest.imp ?_ id
    intro asking
    rcases asking with preparing | sent | sent | answered
    · by_cases same : .initialLoad = operation
      · exact Or.inr (Or.inl (same ▸ List.mem_append_right _ (List.mem_singleton_self _)))
      · exact Or.inl (mem_eraseIdx_of_ne here preparing same)
    · exact Or.inr (Or.inl (List.mem_append_left _ sent))
    · exact Or.inr (Or.inr (Or.inl (List.mem_append_left _ sent)))
    · exact Or.inr (Or.inr (Or.inr answered))
  loading := by
    intro loading
    obtain ⟨other, member, ends⟩ := sound.loading loading
    refine ⟨other, ?_, ends⟩
    simp only [underWay, List.mem_append] at member ⊢
    rcases member with (preparing | sent) | answered
    · by_cases same : other = operation
      · simp [same]
      · exact Or.inl (Or.inl (mem_eraseIdx_of_ne here preparing same))
    · exact Or.inl (Or.inr (Or.inl sent))
    · exact Or.inr answered

theorem Sound.serve (sound : system.Sound) {index : Nat} {operation : AuthOperation} (env : Env)
    (here : system.sent[index]? = some operation)
    : (system.serve platform index operation env).Sound where
  latest := by
    cases told : (system.answer platform operation env).carried with
    | some user =>
        refine Or.inr ((?_ : _ = user).trans (serve_carried told).symm)
        exact congrArg (fun told => Option.getD told system.latest) told
    | none =>
        cases final : (system.answer platform operation env).refreshes with
        | true =>
            refine Or.inl (Or.inr (Or.inr (Or.inr
              ⟨system.answer platform operation env, ?_, final⟩)))
            exact List.mem_append_right _ (List.mem_singleton_self _)
        | false =>
            have other : ¬(operation = .initialLoad ∨ operation = .refresh) := by
              intro tells
              rw [answer_tells tells] at told
              contradiction
            rcases sound.latest with
              (preparing | sent | sent | ⟨answer, answered, refreshes⟩) | same
            · exact Or.inl (Or.inl preparing)
            · exact Or.inl (Or.inr (Or.inl (mem_eraseIdx_of_ne here sent
                (fun same => other (Or.inl same.symm)))))
            · exact Or.inl (Or.inr (Or.inr (Or.inl (mem_eraseIdx_of_ne here sent
                (fun same => other (Or.inr same.symm))))))
            · exact Or.inl (Or.inr (Or.inr (Or.inr
                ⟨answer, List.mem_append_left _ answered, refreshes⟩)))
            · refine Or.inr ((?_ : _ = system.latest).trans
                (same.trans (serve_silent told final).symm))
              exact congrArg (fun told => Option.getD told system.latest) told
  loading := by
    intro loading
    obtain ⟨other, member, ends⟩ := sound.loading loading
    refine ⟨other, ?_, ends⟩
    simp only [underWay, List.mem_append, SessionSystem.serve, List.map_append] at member ⊢
    rcases member with (preparing | sent) | answered
    · exact Or.inl (Or.inl preparing)
    · by_cases same : other = operation
      · simp [same]
      · exact Or.inl (Or.inr (mem_eraseIdx_of_ne here sent same))
    · exact Or.inr (Or.inl answered)

/-- The user that the context has after a response. -/
theorem settle_user (system : SessionSystem) (index : Nat) (answer : Answer)
    : (system.settle index answer).auth.user = answer.carried.getD system.auth.user := by
  rw [settle, Answer.carried]
  cases answer.operation.dispatches answer.response with
  | none => rfl
  | some action => cases action <;> rfl

theorem Sound.settle (sound : system.Sound) {index : Nat} {answer : Answer}
    (here : system.answered[index]? = some answer)
    : (system.settle index answer).Sound where
  latest := by
    cases final : answer.refreshes with
    | true =>
        refine Or.inl (Or.inr (Or.inr (Or.inl ?_)))
        simp [SessionSystem.settle, final]
    | false =>
        have kept : (system.settle index answer).sent = system.sent := by
          simp [SessionSystem.settle, final]
        refine sound.latest.imp ?_ id
        unfold Asking
        rw [kept]
        intro asking
        rcases asking with preparing | sent | sent | ⟨other, answered, refreshes⟩
        · exact Or.inl preparing
        · exact Or.inr (Or.inl sent)
        · exact Or.inr (Or.inr (Or.inl sent))
        · refine Or.inr (Or.inr (Or.inr ⟨other, mem_eraseIdx_of_ne here answered ?_, refreshes⟩))
          rintro rfl
          rw [final] at refreshes
          contradiction
  loading := by
    intro loading
    cases dispatched : answer.operation.dispatches answer.response with
    | some action =>
        cases action with
        | loaded user => simp [SessionSystem.settle, dispatched, reducer] at loading
        | error message => simp [SessionSystem.settle, dispatched, reducer] at loading
        | loading =>
            refine ⟨.refresh, ?_, rfl⟩
            simp [underWay, SessionSystem.settle, Answer.refreshes, dispatched]
    | none =>
        have silent : answer.operation.ends = false := by
          cases operation : answer.operation with
          | saveProfile firstName lastName email => rfl
          | initialLoad | login email password | logout | refresh =>
              simp [operation, AuthOperation.dispatches] at dispatched
        have before : system.auth.loading = true := by
          simpa [SessionSystem.settle, dispatched] using loading
        obtain ⟨other, member, ends⟩ := sound.loading before
        refine ⟨other, ?_, ends⟩
        have final : answer.refreshes = false := by simp [Answer.refreshes, dispatched]
        simp only [underWay, List.mem_append, SessionSystem.settle, final] at member ⊢
        refine member.imp id (fun answered => ?_)
        obtain ⟨kept, present, rfl⟩ := List.mem_map.mp answered
        refine List.mem_map.mpr ⟨kept, mem_eraseIdx_of_ne here present ?_, rfl⟩
        rintro rfl
        rw [silent] at ends
        contradiction

theorem Sound.step (sound : system.Sound) (platform : Platform) (action : SessionAction)
    : (system.step platform action).Sound := by
  cases action with
  | press operation =>
      simp only [SessionSystem.step]
      split
      · exact sound.start operation
      · exact sound
  | csrf index =>
      simp only [SessionSystem.step]
      split
      · next here => exact sound.csrf here
      · exact sound
  | process index env =>
      simp only [SessionSystem.step]
      split
      · next here => exact sound.serve env here
      · exact sound
  | receive index =>
      simp only [SessionSystem.step]
      split
      · next here => exact sound.settle here
      · exact sound

-----------------------------------------------------------------------------------------
-- Runs
-----------------------------------------------------------------------------------------

/-- Where nothing is outstanding, the server's user is the one told of last and the context
is not loading.
-/
theorem Sound.quiescent (sound : system.Sound) (quiescent : system.Quiescent)
    : system.latest = system.serverUser ∧ system.auth.loading = false := by
  obtain ⟨preparing, sent, answered⟩ := quiescent
  constructor
  · refine sound.latest.resolve_left ?_
    simp [Asking, preparing, sent, answered]
  · refine Bool.eq_false_iff.mpr (fun loading => ?_)
    obtain ⟨operation, member, _⟩ := sound.loading loading
    simp [underWay, preparing, sent, answered] at member

/-- A step leaves the two sides in agreement exactly when it installs the latest response: any other
step leaves something under way, so agreement is not asked for.
-/
theorem Converged.step_iff (converged : system.Converged) (platform : Platform)
    (sound : system.Sound) (action : SessionAction)
    : (system.step platform action).Converged ↔ InstallsLatest system action := by
  cases action with
  | press operation =>
      refine iff_of_true ?_ trivial
      simp only [SessionSystem.step]
      split
      · intro quiescent
        obtain ⟨preparing, _⟩ := quiescent
        simp [SessionSystem.start] at preparing
      · exact converged
  | csrf index =>
      refine iff_of_true ?_ trivial
      simp only [SessionSystem.step]
      split
      · intro quiescent
        obtain ⟨_, sent, _⟩ := quiescent
        simp at sent
      · exact converged
  | process index env =>
      refine iff_of_true ?_ trivial
      simp only [SessionSystem.step]
      split
      · intro quiescent
        obtain ⟨_, _, answered⟩ := quiescent
        simp [SessionSystem.serve] at answered
      · exact converged
  | receive index =>
      simp only [SessionSystem.step, InstallsLatest]
      cases here : system.answered[index]? with
      | none => simpa using converged
      | some answer =>
          simp only [Option.mem_some, forall_eq']
          refine forall_congr' (fun quiescent => ?_)
          obtain ⟨latest, loading⟩ := (sound.settle here).quiescent quiescent
          have kept : (system.settle index answer).latest = system.latest := rfl
          rw [settle_user, ← latest, kept]
          simp [loading]

end SessionSystem

/-- Whenever no request is outstanding the context agrees with the server, exactly along the
runs in which no delivery that leaves none outstanding installs an outdated response.
-/
theorem session_converges_iff (platform : Platform) (store : Store) (session : Option Nat)
    (actions : List SessionAction)
    : (∀ reached ∈ states (SessionSystem.step platform) { store := store, session := session }
          actions, reached.Converged)
      ↔ EachStep (SessionSystem.step platform) SessionSystem.InstallsLatest
          { store := store, session := session } actions := by
  have atFirst : SessionSystem.Converged { store := store, session := session } := by
    intro quiescent
    obtain ⟨preparing, _⟩ := quiescent
    contradiction
  refine forall_states_iff SessionSystem.Sound (SessionSystem.sound_mounted store session)
    atFirst ?_ ?_ actions
  · exact fun system action sound => sound.step platform action
  · exact fun system action sound converged => converged.step_iff platform sound action

def SessionAction.sampleProcess (index : Nat) : SessionAction :=
  .process index (Call.onDay 0 none .health).env

/-- The member saves the profile and presses Logout before the save is answered. The refresh
that follows the save is processed before the logout and received after it.
-/
def SessionAction.sampleLogout : List SessionAction := [
  .csrf 0, sampleProcess 0, .receive 0,
  .press (.saveProfile "Megan" "Reed" "megan@example.com"), .csrf 0, sampleProcess 0,
  .press .logout, .receive 0, .csrf 0,
  sampleProcess 0, sampleProcess 0, .receive 1, .receive 0]

/-- The client then shows the member although the server's session has ended. -/
theorem logout_overtaken
    : (∃ reached ∈ states (SessionSystem.step .ascii)
          { store := Database.sample.store, session := some 2 } SessionAction.sampleLogout,
        reached.Quiescent ∧ reached.session = none
          ∧ reached.auth.user.map UserRecord.email = some "megan@example.com")
      ∧ ¬∀ reached ∈ states (SessionSystem.step .ascii)
          { store := Database.sample.store, session := some 2 } SessionAction.sampleLogout,
          reached.Converged := by
  decide

end LibraryManagement
