import LibraryManagement.Access.Addresses
import LibraryManagement.Controllers.Callbacks

/-! What a session stands for along runs of incoming requests. Ids of users are never used
twice, so a session names one account for good; and it carries the salt of a digest, so it
stands for that account until the password changes.
-/

namespace LibraryManagement

open Relational Transition

/-- Devise writes the digest that the row has, or one under the salt that the request draws. -/
def Platform.DigestsAnew (platform : Platform) : Prop :=
  ∀ request env currentUser s id columns,
    platform.deviseWrite request env currentUser s = some (id, columns)
    → ∀ user ∈ s.users.rows, user.id = id
      → platform.Redigested env.salt user.encryptedPassword columns.encryptedPassword

/-- The salt that the request draws is not the one the session carries. -/
def Incoming.SaltsAnew (platform : Platform) (session : Session) (incoming : Incoming) : Prop :=
  ∀ given, authenticatableSalt (platform.digest incoming.env.salt given) ≠ session.salt

/-- The session stands for nobody throughout a run, and in each of its states every request that
carries it is answered like the same request without a session.
-/
def Session.Ended (platform : Platform) (s : Store) (run : List Incoming) (session : Session)
    : Prop :=
  ∀ later ∈ arrivals platform s run,
    session.user later = none
    ∧ ∀ incoming : Incoming,
        receive platform later { incoming with session := some session }
        = receive platform later { incoming with session := none }

-----------------------------------------------------------------------------------------
-- The account
-----------------------------------------------------------------------------------------

/-- Accounts keep their roles throughout a run. -/
theorem reachedStores_keepsRoles (platform : Platform) (s : Store) (calls : List Call)
    : ∀ later ∈ reachedStores platform s calls,
        Table.Follows (fun before after : User => after.role = before.role) s.users
          later.users := by
  have reflexive (user : User) : user.role = user.role := rfl
  refine invariant (.refl reflexive _) ?_ calls
  intro middle call before
  exact before.trans (step_keepsRoles platform middle call)
    (fun _ _ _ former latter => latter.trans former)

/-- A session stands for its account or for nobody: the row that it finds later descends from the
one that had its id.
-/
theorem Session.account {platform : Platform} {s later : Store} {run : List Incoming}
    {session : Session} (issued : session.userId < s.users.nextKey)
    (reached : later ∈ arrivals platform s run) {after : User}
    (signedIn : session.user later = some after)
    : ∃ before ∈ s.users.rows, before.id = session.userId ∧ after.id = session.userId
        ∧ after.role = before.role := by
  obtain ⟨calls, member⟩ := exists_reachedStores reached
  have follows := reachedStores_keepsRoles platform s calls later member
  obtain ⟨present, id, _⟩ := Session.user_eq_some_iff.mp signedIn
  obtain ⟨before, there, same, role⟩ :=
    follows.rows after present (id.trans_lt issued)
  exact ⟨before, there, same.trans id, id, role⟩

-----------------------------------------------------------------------------------------
-- The salt
-----------------------------------------------------------------------------------------

/-- A request is answered by the user its session stands for, and by nothing else of it: one that
stands for nobody is as good as none.
-/
theorem receive_of_nobody (platform : Platform) {s : Store} {session : Session}
    (nobody : session.user s = none) (incoming : Incoming)
    : receive platform s { incoming with session := some session }
      = receive platform s { incoming with session := none } := by
  have same : Incoming.currentUser { incoming with session := some session } s
      = Incoming.currentUser { incoming with session := none } s := nobody
  have call : Incoming.call { incoming with session := some session } s
      = Incoming.call { incoming with session := none } s := by
    rw [Incoming.call, Incoming.call, same]
  have first : Incoming.answeredFirst { incoming with session := some session } s
      = Incoming.answeredFirst { incoming with session := none } s := by
    rw [Incoming.answeredFirst, Incoming.answeredFirst, same]
  have token : Incoming.verified { incoming with session := some session }
      = Incoming.verified { incoming with session := none } := rfl
  rw [receive, receive, token, first, call]

section Salts

variable {platform : Platform} (digests : platform.DigestsAnew)

include digests

/-- A request leaves the digest of a row alone, or replaces it by one under the salt it draws, by
its effect on the users; of what Devise writes this is assumed.
-/
theorem step_redigests (s : Store) (call : Call)
    : Table.Follows (fun before after : User =>
        platform.Redigested call.env.salt before.encryptedPassword after.encryptedPassword)
        s.users (step platform s call).users := by
  have kept (user : User)
      : platform.Redigested call.env.salt user.encryptedPassword user.encryptedPassword :=
    Or.inl rfl
  have effect := step_userEffect platform s call
  generalize step platform s call = s' at effect
  cases effect with
  | kept same => exact same ▸ .refl kept _
  | created saved =>
      obtain ⟨_, _, _, rfl⟩ := User.Draft.create_stored saved
      exact Table.follows_insert kept s.users _
  | @updated draft user _ _ known digest saved =>
      obtain ⟨_, rfl⟩ := User.Draft.update_stored saved
      refine Table.follows_update kept _ (fun row member selected => ?_)
      obtain rfl : row = user := s.users.eq_of_key_eq member known (beq_iff_eq.mp selected)
      exact (User.Draft.applyTo_encryptedPassword _ _ row).symm ▸ digest
  | forgotten user => exact Table.follows_update kept s.users (fun row _ _ => kept row)
  | @written request currentUser id columns written =>
      rw [Store.writeDeviseColumns]
      split
      · exact .refl kept _
      · refine Table.follows_update kept _ (fun row member selected => ?_)
        exact digests request call.env currentUser s id columns written row member
          (beq_iff_eq.mp selected)
  | destroyed id => exact Table.follows_delete kept s.users _

theorem arrive_redigests (s : Store) (incoming : Incoming)
    : Table.Follows (fun before after : User =>
        platform.Redigested incoming.env.salt before.encryptedPassword after.encryptedPassword)
        s.users (arrive platform s incoming).users := by
  obtain ⟨event, means⟩ := exists_means platform s incoming
  rw [arrive_of_means means]
  cases event with
  | none =>
      have kept (user : User)
          : platform.Redigested incoming.env.salt user.encryptedPassword user.encryptedPassword :=
        Or.inl rfl
      exact .refl kept s.users
  | some call =>
      obtain ⟨rfl, _⟩ := means
      exact step_redigests digests s (incoming.call s)

variable {s : Store} {session : Session} (issued : session.userId < s.users.nextKey)

include issued

/-- A digest that is not the old one has another salt than the session. -/
theorem Session.user_arrive {incoming : Incoming} (anew : incoming.SaltsAnew platform session)
    {after : User} (signedIn : session.user (arrive platform s incoming) = some after)
    : ∃ before, session.user s = some before
        ∧ after.encryptedPassword = before.encryptedPassword := by
  obtain ⟨present, id, salt⟩ := Session.user_eq_some_iff.mp signedIn
  obtain ⟨before, there, same, redigested⟩ :=
    (arrive_redigests digests s incoming).rows after present (id.trans_lt issued)
  rcases redigested with kept | ⟨given, drawn⟩
  · exact ⟨before, Session.user_eq_some_iff.mpr ⟨there, same.trans id, kept ▸ salt⟩, kept⟩
  · exact absurd (drawn ▸ salt) (anew given)

/-- An ended session stays ended, by induction on the requests: each leaves the digest alone or
changes the salt to one that the session does not carry.
-/
theorem Session.ended {run : List Incoming}
    (anew : ∀ incoming ∈ run, incoming.SaltsAnew platform session) (nobody : session.user s = none)
    : session.Ended platform s run := by
  have guarded : EachStep (arrive platform) (fun _ incoming => incoming.SaltsAnew platform session)
      s run :=
    .of_forall_mem anew s
  let stands : Store → Prop := fun later =>
    session.userId < later.users.nextKey ∧ session.user later = none
  have always : ∀ later ∈ arrivals platform s run, stands later := by
    refine guarded.invariant ⟨issued, nobody⟩ ?_
    rintro middle incoming fresh ⟨known, absent⟩
    refine ⟨Nat.lt_of_lt_of_le known (arrive_redigests digests middle incoming).keys, ?_⟩
    cases signedIn : session.user (arrive platform middle incoming) with
    | none => rfl
    | some after =>
        obtain ⟨before, found, _⟩ := Session.user_arrive digests known fresh signedIn
        cases absent.symm.trans found
  exact fun later reached =>
    ⟨(always later reached).2, receive_of_nobody platform (always later reached).2⟩

/-- A digest that changes takes the session with it. -/
theorem Session.ended_of_rekeyed {change : Incoming} {run : List Incoming}
    (anew : ∀ incoming ∈ change :: run, incoming.SaltsAnew platform session)
    (rekeyed
      : ∀ before ∈ session.user s, ∀ after ∈ session.user (arrive platform s change),
          after.encryptedPassword ≠ before.encryptedPassword)
    : session.Ended platform (arrive platform s change) run := by
  obtain ⟨first, later⟩ := List.forall_mem_cons.mp anew
  have known := Nat.lt_of_lt_of_le issued (arrive_redigests digests s change).keys
  refine Session.ended digests known later ?_
  cases signedIn : session.user (arrive platform s change) with
  | none => rfl
  | some after =>
      obtain ⟨before, found, kept⟩ := Session.user_arrive digests issued first signedIn
      exact absurd kept (rekeyed before found after signedIn)

end Salts

-----------------------------------------------------------------------------------------
-- The own password
-----------------------------------------------------------------------------------------

section OwnPassword

variable (platform : Platform) {s : Store} {session : Session} {user : User}
  {change : Incoming} {current password confirmation : Param String}

/-- `PATCH /account/password`, in a verified request of the session -/
structure Incoming.ChangesPassword (session : Session)
    (current password confirmation : Param String) (change : Incoming) : Prop where
  carries : change.session = some session
  requested : change.request = .account (.password current password confirmation)
  verified : change.tokenValid

theorem receive_changePassword (signedIn : session.user s = some user)
    (changes : change.ChangesPassword session current password confirmation)
    : receive platform s change
      = perform platform s
          (.changePassword change.env change.format user current password confirmation) := by
  have found : change.currentUser s = some user := by
    rw [Incoming.currentUser, changes.carries, Option.bind_some, signedIn]
  have call : change.call s
      = .changePassword change.env change.format user current password confirmation := by
    rw [Incoming.call, found, changes.requested]
    rfl
  rw [receive, Incoming.verified, changes.verified, Bool.or_true, Bool.true_or, if_pos rfl, call]

/-- The digest that the own password change leaves is a new one exactly where the change is
accepted with a password in it.
-/
theorem user_changePassword (signedIn : session.user s = some user)
    (changes : change.ChangesPassword session current password confirmation)
    (anew : change.SaltsAnew platform session)
    : session.user (arrive platform s change) = none
      ↔ (receive platform s change).1 = ⟨.ok, .ok⟩ ∧ password.read.isSome := by
  obtain ⟨known, id, salt⟩ := Session.user_eq_some_iff.mp signedIn
  rw [arrive, receive_changePassword platform signedIn changes,
    perform_changePassword platform known]
  split
  · by_cases savable : ((user.changed platform change.env password confirmation).beforeValidation
        platform).Savable platform s (some user)
    · obtain ⟨row, s', saved, found⟩ := User.Draft.update_found known change.env savable
      simp only [saved, true_and]
      rw [Session.user, ← id, found, Option.filter_some, User.Draft.applyTo_encryptedPassword]
      obtain ⟨_, _, ⟨absent, _⟩ | ⟨given, read, accepted, _⟩⟩ :=
        (User.changed_savable_iff platform s user change.env password confirmation).mp savable
      · have kept : ((user.changed platform change.env password confirmation).beforeValidation
            platform).encryptedPassword = user.encryptedPassword := by
          simp [User.changed, User.Draft.beforeValidation, User.Draft.setPassword, absent,
            presence, User.load]
        simp [kept, salt, absent]
      · rw [User.changed_encryptedPassword change.env read accepted]
        simp [anew given, read]
    · cases saved : (user.changed platform change.env password confirmation).update platform
          change.env s user with
      | stored row => exact absurd (User.Draft.update_eq_stored_iff.mp saved).1 savable
      | invalid errors => simp [signedIn, recordInvalid]
      | raised exception => simp [signedIn, raised]
  · simp [signedIn]

end OwnPassword

-----------------------------------------------------------------------------------------
-- Whole runs
-----------------------------------------------------------------------------------------

/-- How an issued session ends, given that salts are drawn anew. -/
structure Session.Ends (platform : Platform) (s : Store) (session : Session) : Prop where
  /-- Once it stands for nobody, it does for good. -/
  stays
    : ∀ run : List Incoming, (∀ incoming ∈ run, incoming.SaltsAnew platform session)
      → session.user s = none → session.Ended platform s run
  /-- It ends with a request that leaves its account another digest. -/
  rekeyed
    : ∀ change run, (∀ incoming ∈ change :: run, incoming.SaltsAnew platform session)
      → (∃ before ∈ s.users.find? session.userId,
          ∃ after ∈ (arrive platform s change).users.find? session.userId,
            after.encryptedPassword ≠ before.encryptedPassword)
      → session.Ended platform (arrive platform s change) run
  /-- The own password change ends it exactly where that is accepted with a password in it. -/
  changed
    : ∀ change run, (∀ incoming ∈ change :: run, incoming.SaltsAnew platform session)
      → ∀ current password confirmation user, session.user s = some user
      → change.ChangesPassword session current password confirmation
      → (session.Ended platform (arrive platform s change) run
        ↔ (receive platform s change).1 = ⟨.ok, .ok⟩ ∧ password.read.isSome)

/-- In every run of incoming requests a session that was issued stands for one account with one
role, or for nobody, and then for good: it ends with the account and with the password. Devise is
taken to draw a salt for each digest it makes. By the ids of accounts, which are never used twice,
and by the salts of their digests, each of which a request keeps or replaces by its own.
-/
theorem sessions_over_runs (platform : Platform) (s : Store) {session : Session}
    (issued : session.userId < s.users.nextKey)
    : (∀ run, ∀ later ∈ arrivals platform s run, ∀ after ∈ session.user later,
        ∃ before ∈ s.users.rows, before.id = session.userId ∧ after.id = session.userId
          ∧ after.role = before.role)
      ∧ (platform.DigestsAnew → session.Ends platform s) := by
  refine ⟨?_, fun digests => ⟨?_, ?_, ?_⟩⟩
  · exact fun run later reached after signedIn => Session.account issued reached signedIn
  · exact fun run anew nobody => Session.ended digests issued anew nobody
  · rintro change run anew ⟨before, found, after, found', rekeyed⟩
    refine Session.ended_of_rekeyed digests issued anew ?_
    intro old signedIn new signedIn'
    rw [Option.mem_def, Session.user, Option.filter_eq_some_iff] at signedIn signedIn'
    obtain rfl := Option.some.inj (found.symm.trans signedIn.1)
    obtain rfl := Option.some.inj (found'.symm.trans signedIn'.1)
    exact rekeyed
  · intro change run anew current password confirmation user signedIn changes
    obtain ⟨first, later⟩ := List.forall_mem_cons.mp anew
    rw [← user_changePassword platform signedIn changes first]
    constructor
    · exact fun ended => (ended _ (start_mem_states _ _)).1
    · have known := Nat.lt_of_lt_of_le issued (arrive_redigests digests s change).keys
      exact Session.ended digests known later

/-- A member's session and requests that draw another salt: the member borrows, or changes the
password first, which ends the session, and the same request is refused.
-/
theorem sessions_over_runs_sample
    : let s := Database.sample.store
      let session : Session := ⟨2, "s$password123"⟩
      let borrow : Incoming := .onDay 0 "t" (some session) (.borrowings (.create 1))
      let change : Incoming := .onDay 0 "t" (some session) (.account
        (.password (.value "password123") (.value "password456") (.value "password456")))
      (receive .ascii s borrow).1.status = .created
      ∧ (receive .ascii s change).1 = ⟨.ok, .ok⟩
      ∧ session.Ended .ascii (arrive .ascii s change) [borrow]
      ∧ (receive .ascii (arrive .ascii s change) borrow).1 = unauthenticated .json := by
  intro s session borrow change
  have anew : ∀ incoming ∈ [change, borrow], incoming.SaltsAnew .ascii session := by
    have other (given : String) : authenticatableSalt ("t" ++ "$" ++ given) ≠ session.salt := by
      intro same
      simpa [authenticatableSalt, session] using congrArg String.toList same
    exact List.forall_mem_cons.mpr ⟨other, List.forall_mem_cons.mpr ⟨other, List.forall_mem_nil _⟩⟩
  have digests : Platform.ascii.DigestsAnew := by
    intro _ _ _ _ _ _ written
    cases written
  have answered : (receive .ascii s change).1 = ⟨.ok, .ok⟩ := by decide
  have signedIn : session.user s = some s.users.rows[1] := by decide
  have ended := (((sessions_over_runs .ascii s (by decide)).2 digests).changed change [borrow] anew
    _ _ _ _ signedIn ⟨rfl, rfl, rfl⟩).mpr ⟨answered, rfl⟩
  exact ⟨by decide, answered, ended, by decide⟩

end LibraryManagement
