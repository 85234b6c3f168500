import LibraryManagement.Access.DemoUsers
import LibraryManagement.Catalog.Bestsellers
import LibraryManagement.Lending.SampleLoans

/-! Requests and rake tasks together. A task is not one transaction: it saves record by record, so
requests may come in between, and other tasks.
-/

namespace LibraryManagement

open Relational Transition OverdueService

/-- A request, or a transaction of a task. -/
inductive Job where
  | request (call : Call)
  | findOrCreate (env : Env) (user : DemoUser)
  | saveBestseller (env : Env) (entry : Bestseller × Nat) (listed : entry ∈ bestsellers.zipIdx)
  | destroyLoan (id : Nat)
  | createLoan (loan : SampleLoan) (drawn : ∃ run s, loan ∈ SeedRun.loans run s)
  | markOverdue (today : Int)

def SampleLoan.save (loan : SampleLoan) (s : Store) : Option Store :=
  match loan.draft.create! loan.now s with
  | .stored (_, stored) => some stored
  | .invalid _ | .raised _ => none

def Job.run (platform : Platform) (s : Store) : Job → Store
  | .request call => step platform s call
  | .findOrCreate env user => (user.findOrCreate platform env s).getD s
  | .saveBestseller env entry _ => (entry.1.save platform env (bestsellerIsbn entry.2) s).getD s
  | .destroyLoan id => Borrowing.destroy s id
  | .createLoan loan _ => (loan.save s).getD s
  | .markOverdue today => (markOverdueBooks today s).store

-----------------------------------------------------------------------------------------
-- Tasks
-----------------------------------------------------------------------------------------

/-- The tasks of `db/seeds.rb` and `lib/tasks`. -/
inductive RakeTask where
  | seed (envs : DemoUser → Env)
  | seedBestsellers (envs : Nat → Env)
  | seedBorrowings (run : SeedRun)
  | markOverdue (now : Int)

namespace RakeTask

def perform (platform : Platform) (s : Store) : RakeTask → Store
  | .seed envs => seedUsers platform envs s
  | .seedBestsellers envs => LibraryManagement.seedBestsellers platform envs s
  | .seedBorrowings run => (run.seedBorrowings s).store
  | .markOverdue now => (markOverdueBooks (toDate now) s).store

/-- The transactions that the task sets out to do. -/
def jobs (s : Store) : RakeTask → List Job
  | .seed envs => demoUsers.map (fun user => .findOrCreate (envs user) user)
  | .seedBestsellers envs =>
      bestsellers.zipIdx.attach.map (fun entry =>
        .saveBestseller (envs entry.1.2) entry.1 entry.2)
  | .seedBorrowings run =>
      s.borrowings.rows.map (fun loan => .destroyLoan loan.id)
        ++ (run.loans s).attach.map (fun loan => .createLoan loan.1 ⟨run, s, loan.2⟩)
  | .markOverdue now => [.markOverdue (toDate now)]

end RakeTask

theorem createAll_eq_carryOut (loans : List SampleLoan) (s : Store)
    : (createAll loans s).store = carryOut SampleLoan.save loans s := by
  induction loans generalizing s with
  | nil => rfl
  | cons loan loans ih =>
      simp only [createAll, carryOut, SampleLoan.save]
      cases loan.draft.create! loan.now s with
      | stored saved => exact ih saved.2
      | invalid errors => rfl
      | raised exception => rfl

section Perform

variable {τ ρ : Type} (platform : Platform) (step : τ → Store → Option Store)

/-- Steps that fail stand for jobs that do nothing. -/
theorem exists_jobs_of_carryOut (job : ρ → Job) (target : ρ → τ) (parts : List ρ) (s : Store)
    (same : ∀ part s, (step (target part) s).getD s = (job part).run platform s)
    : ∃ done, done <+: parts.map job
        ∧ carryOut step (parts.map target) s = done.foldl (Job.run platform) s := by
  obtain ⟨done, first, here⟩ :=
    exists_carryOut_eq_foldl (fun part => step (target part)) parts s
  refine ⟨done.map job, first.map job, ?_⟩
  rw [carryOut_map, here, List.foldl_map]
  exact congrArg (fun next => done.foldl next s)
    (funext fun s => funext fun part => same part s)

theorem exists_jobs_of_attach (targets : List τ) (job : { target // target ∈ targets } → Job)
    (s : Store) (same : ∀ target s, (step target.1 s).getD s = (job target).run platform s)
    : ∃ done, done <+: targets.attach.map job
        ∧ carryOut step targets s = done.foldl (Job.run platform) s := by
  obtain ⟨done, first, here⟩ := exists_jobs_of_carryOut platform step job Subtype.val
    targets.attach s same
  rw [List.attach_map_subtype_val] at here
  exact ⟨done, first, here⟩

end Perform

/-- `destroy_all` is the destruction of each loan that it loaded, one after another, as long as
nothing comes in between.
-/
theorem foldl_destroyLoan (platform : Platform) (s : Store)
    : (s.borrowings.rows.map (fun loan => Job.destroyLoan loan.id)).foldl (Job.run platform) s
      = Borrowing.destroyAll s := by
  have one (ids : List Nat) (s : Store)
      : ids.foldl Borrowing.destroy s
        = { s with
            borrowings :=
              ids.foldl (fun loans id => loans.delete (fun loan => key loan == id))
                s.borrowings } := by
    induction ids generalizing s with
    | nil => rfl
    | cons id ids ih => exact ih (Borrowing.destroy s id)
  have all : s.borrowings.delete (fun row => (s.borrowings.rows.map key).contains (key row))
      = s.borrowings.delete (fun _ => true) := by
    refine s.borrowings.delete_congr (fun row member => ?_)
    rw [List.contains_eq_mem, decide_eq_true_iff]
    exact List.mem_map_of_mem member
  have runs : (s.borrowings.rows.map (fun loan => Job.destroyLoan loan.id)).foldl
        (Job.run platform) s
      = (s.borrowings.rows.map key).foldl Borrowing.destroy s := by
    rw [List.foldl_map, List.foldl_map]
    rfl
  rw [runs, one, Table.foldl_delete_key, all, Borrowing.destroyAll]

/-- A task is its transactions one after another, up to the first that raises, by the kind of task.
-/
theorem RakeTask.perform_eq_jobs (platform : Platform) (task : RakeTask) (s : Store)
    : ∃ done, done <+: task.jobs s
        ∧ task.perform platform s = done.foldl (Job.run platform) s := by
  cases task with
  | seed envs =>
      obtain ⟨done, first, here⟩ := exists_jobs_of_carryOut platform
        (fun user => user.findOrCreate platform (envs user))
        (fun user => .findOrCreate (envs user) user) id demoUsers s (fun _ _ => rfl)
      rw [List.map_id] at here
      exact ⟨done, first, here⟩
  | seedBestsellers envs =>
      rw [perform, LibraryManagement.seedBestsellers, seedBooks_eq_carryOut]
      exact exists_jobs_of_attach platform
        (fun entry => entry.1.save platform (envs entry.2) (bestsellerIsbn entry.2))
        bestsellers.zipIdx
        (fun entry => .saveBestseller (envs entry.1.2) entry.1 entry.2) s (fun _ _ => rfl)
  | seedBorrowings run =>
      rw [perform, SeedRun.seedBorrowings]
      split
      · exact ⟨[], List.nil_prefix, rfl⟩
      · rw [createAll_eq_carryOut]
        obtain ⟨done, first, here⟩ := exists_jobs_of_attach platform SampleLoan.save (run.loans s)
          (fun loan => .createLoan loan.1 ⟨run, s, loan.2⟩) (Borrowing.destroyAll s)
          (fun _ _ => rfl)
        refine ⟨s.borrowings.rows.map (fun loan => .destroyLoan loan.id) ++ done,
          (List.prefix_append_right_inj _).mpr first, ?_⟩
        rw [List.foldl_append, foldl_destroyLoan]
        exact here
  | markOverdue now => exact ⟨[.markOverdue (toDate now)], List.prefix_rfl, rfl⟩

-----------------------------------------------------------------------------------------
-- Single jobs
-----------------------------------------------------------------------------------------

/-- The two limits of the validators, the one of copies as `available_copies` shows it. -/
theorem Store.withinLimits_iff {s : Store}
    : s.WithinLimits ↔ s.NonnegativeCopies ∧ s.BorrowedOnce := by
  have available (book : Book) : 0 ≤ book.availableCopies s
      ↔ (s.activeCopies book : Int) ≤ book.totalCopies := by
    have same : s.lentCopies book = s.activeCopies book := by
      simp only [lentCopies, activeCopies, Borrowing.active, Bool.and_assoc]
    rw [Book.availableCopies_eq, same]
    omega
  constructor
  · intro within
    exact ⟨fun book member => (available book).mpr (within.copies book member), within.loans⟩
  · rintro ⟨nonnegative, once⟩
    exact ⟨fun book member => (available book).mp (nonnegative book member), once⟩

section Once

variable {platform : Platform} {s : Store}

/-- The validators of a request see to it that its user has no active borrowing of the book; other
requests make no loan active.
-/
theorem Store.BorrowedOnce.step (once : s.BorrowedOnce) (call : Call)
    : (step platform s call).BorrowedOnce := by
  intro userId bookId
  cases lends : call.lends s with
  | none =>
      refine Nat.le_trans ?_ (once userId bookId)
      refine (step_loanEffect platform s call).countP_le lends ?_ ?_
      · intro loan counted
        exact (Bool.and_eq_true_iff.mp (Bool.and_eq_true_iff.mp counted).2).2
      · simp [Borrowing.active]
  | some lent =>
      obtain ⟨user, book⟩ := lent
      obtain ⟨_, _, _, allowed⟩ := Call.lends_eq_some_iff.mp lends
      have unheld : s.activeLoans user.id book.id = 0 := by
        have absent := (Bool.and_eq_true_iff.mp allowed).1
        simpa [activeLoans, List.countP_eq_zero] using absent
      rw [step_lends lends]
      exact once.insert call.env.now unheld userId bookId

theorem Store.BorrowedOnce.of_borrowings {s' : Store} (once : s.BorrowedOnce)
    (same : s'.borrowings = s.borrowings)
    : s'.BorrowedOnce := by
  intro userId bookId
  rw [activeLoans, same]
  exact once userId bookId

theorem Store.BorrowedOnce.markOverdue (once : s.BorrowedOnce) (today : Int)
    : (markOverdueBooks today s).store.BorrowedOnce := by
  rw [markOverdueBooks_store]
  intro userId bookId
  refine Nat.le_trans ?_ (once userId bookId)
  exact Borrowing.countP_active_le s (overdueBorrowings today)
    (fun owner item => owner == userId && item == bookId) (fun _ => ⟨rfl, rfl⟩)
    (fun _ active => by cases active)

end Once

section Run

variable {platform : Platform} {s : Store}

/-- What a transaction of `db:seed` leaves alone. -/
theorem Job.run_findOrCreate (platform : Platform) (consistent : s.Consistent) (env : Env)
    (user : DemoUser)
    : let after := Job.run platform s (.findOrCreate env user)
      after.Consistent ∧ after.books = s.books ∧ after.borrowings = s.borrowings := by
  intro after
  cases found : user.findOrCreate platform env s with
  | none =>
      have same : after = s := by simp only [after, run, found, Option.getD_none]
      rw [same]
      exact ⟨consistent, rfl, rfl⟩
  | some saved =>
      have same : after = saved := by simp only [after, run, found, Option.getD_some]
      rw [same]
      exact DemoUser.findOrCreate_consistent consistent found

theorem Job.run_saveBestseller (platform : Platform) (consistent : s.Consistent) (env : Env)
    {entry : Bestseller × Nat} (listed : entry ∈ bestsellers.zipIdx)
    : let after := Job.run platform s (.saveBestseller env entry listed)
      after.Consistent ∧ s.Reseeded (fun isbn => isbn = bestsellerIsbn entry.2) after := by
  intro after
  have full := bestsellers_full entry.1 (List.fst_mem_of_mem_zipIdx listed)
  obtain ⟨saved, succeeds, kept, reseeded⟩ := entry.1.save_reseeded platform env consistent full
    (bestsellerIsbn_writable entry listed)
  have same : after = saved := by simp only [after, run, succeeds, Option.getD_some]
  rw [same]
  exact ⟨kept, reseeded⟩

/-- The validators decide whether a drawn loan is created. -/
theorem Job.run_createLoan {loan : SampleLoan} (drawn : ∃ run s, loan ∈ SeedRun.loans run s)
    : Job.run platform s (.createLoan loan drawn)
      = if loan.draft.errors s = [] then loan.draft.insert loan.now s else s := by
  obtain ⟨run, s', member⟩ := drawn
  have given := SampleLoan.setDefaults_eq (run.loans_isFor s' loan member)
  simp only [Job.run, SampleLoan.save, Borrowing.Draft.create!, given]
  cases valid : loan.draft.errors s with
  | nil => rfl
  | cons error errors => rfl

/-- Every job keeps the constraints and the columns of a loan in agreement, by its kind: loans come
in with both columns set together, and the sweep marks borrowed ones only.
-/
theorem Job.run_sound (job : Job) (sound : s.Sound) : (job.run platform s).Sound := by
  cases job with
  | request call => exact step_sound platform s call sound
  | findOrCreate env user =>
      obtain ⟨kept, _, same⟩ := run_findOrCreate platform sound.consistent env user
      exact ⟨kept, by rw [Store.Coherent, same]; exact sound.coherent⟩
  | saveBestseller env entry listed =>
      obtain ⟨kept, reseeded⟩ := run_saveBestseller platform sound.consistent env listed
      exact ⟨kept, by rw [Store.Coherent, reseeded.borrowings]; exact sound.coherent⟩
  | destroyLoan id =>
      exact ⟨sound.consistent.deleteLoans _,
        fun row member => sound.coherent row ((s.borrowings.mem_delete).mp member).1⟩
  | createLoan loan drawn =>
      rw [run_createLoan]
      split
      · next valid =>
        refine ⟨sound.consistent.borrow valid, fun row member => ?_⟩
        rcases (s.borrowings.mem_insert).mp member with old | rfl
        · exact sound.coherent row old
        · obtain ⟨run, s', member⟩ := drawn
          exact (run.loans_drawn 0 loan member).row_coherent _
      · exact sound
  | markOverdue today =>
      rw [run, markOverdueBooks_store]
      refine ⟨sound.consistent.updateLoans (fun _ _ _ => rfl) (fun _ _ _ => rfl), ?_⟩
      intro row member
      obtain ⟨old, there, rfl⟩ := (s.borrowings.mem_update).mp member
      split
      · next selected =>
        exact (sound.coherent old there).markOverdue (overdueBorrowings_iff.mp selected).1
      · exact sound.coherent old there

theorem Job.run_once (job : Job) (consistent : s.Consistent) (once : s.BorrowedOnce)
    : (job.run platform s).BorrowedOnce := by
  cases job with
  | request call => exact once.step call
  | findOrCreate env user =>
      exact once.of_borrowings (run_findOrCreate platform consistent env user).2.2
  | saveBestseller env entry listed =>
      exact once.of_borrowings (run_saveBestseller platform consistent env listed).2.borrowings
  | destroyLoan id =>
      exact fun userId bookId =>
        Nat.le_trans (s.borrowings.countP_delete_le _ _) (once userId bookId)
  | createLoan loan drawn =>
      rw [run_createLoan]
      split
      · next valid =>
        simp only [Borrowing.Draft.errors, List.append_eq_nil_iff] at valid
        exact once.insert loan.now
          ((Borrowing.Draft.preventDuplicate_eq_nil_iff s loan.draft).mp valid.1.2)
      · exact once
  | markOverdue today => exact once.markOverdue today

/-- The numbers of copies that the job sets cover the active borrowings. -/
def Job.Covers (platform : Platform) (s : Store) : Job → Prop
  | .request call =>
      ∀ revised ∈ call.revises platform s, (s.lentCopies revised.1 : Int) ≤ revised.2.2
  | .saveBestseller _ entry _ =>
      ∀ book ∈ s.books.rows, book.isbn = bestsellerIsbn entry.2 → s.lentCopies book ≤ 10
  | .findOrCreate _ _ | .destroyLoan _ | .createLoan _ _ | .markOverdue _ => True

theorem Job.run_nonnegativeCopies_iff (job : Job) (sound : s.Sound) (once : s.BorrowedOnce)
    (nonnegative : s.NonnegativeCopies)
    : (job.run platform s).NonnegativeCopies ↔ job.Covers platform s := by
  have within : s.WithinLimits := Store.withinLimits_iff.mpr ⟨nonnegative, once⟩
  cases job with
  | request call =>
      cases revises : call.revises platform s with
      | some revised =>
          obtain ⟨book, draft, value⟩ := revised
          simpa [run, Covers, revises] using nonnegative.step_revises_iff revises
      | none =>
          have kept : (step platform s call).NonnegativeCopies := by
            cases lends : call.lends s with
            | some lent => exact nonnegative.step_lends lends
            | none => exact nonnegative.step_idle sound.consistent lends revises
          simpa [run, Covers, revises] using kept
  | findOrCreate env user =>
      obtain ⟨_, books, borrowings⟩ := run_findOrCreate platform sound.consistent env user
      refine iff_of_true (fun book member => ?_) trivial
      rw [books] at member
      rw [Book.availableCopies_eq, Store.lentCopies, borrowings]
      exact nonnegative book member
  | saveBestseller env entry listed =>
      obtain ⟨kept, reseeded⟩ := run_saveBestseller platform sound.consistent env listed
      have covered := nonnegative.reseeded_iff sound.consistent kept reseeded
      exact covered
  | destroyLoan id =>
      refine iff_of_true (fun book member => ?_) trivial
      have before := nonnegative book member
      have fewer : (Job.run platform s (.destroyLoan id)).lentCopies book ≤ s.lentCopies book :=
        s.borrowings.countP_delete_le _ _
      rw [Book.availableCopies_eq] at before ⊢
      omega
  | createLoan loan drawn =>
      refine iff_of_true ?_ trivial
      rw [run_createLoan]
      split
      · next valid => exact (Store.withinLimits_iff.mp (within.insert loan.now valid)).1
      · exact nonnegative
  | markOverdue today =>
      refine iff_of_true ?_ trivial
      rw [run, markOverdueBooks_store]
      have swept : (updateAll today s).WithinLimits :=
        within.updateLoans (fun _ => ⟨rfl, rfl⟩) (fun _ active => by cases active)
      exact (Store.withinLimits_iff.mp swept).1

end Run

-----------------------------------------------------------------------------------------
-- Runs
-----------------------------------------------------------------------------------------

theorem Store.empty_sound : Store.empty.Sound where
  consistent := Store.empty_consistent
  coherent := List.forall_mem_nil _

end LibraryManagement
