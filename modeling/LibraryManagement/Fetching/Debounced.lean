import LibraryManagement.Fetching.Component
import Mathlib.Data.List.Induction

/-! Fields whose query is sent once it has stood for a while. A change of the field calls off the
pending query and clears or reschedules it; queries that were sent are not called back, the timer
may fire late, and answers arrive in any order.
-/

namespace Fetching

open Transition

/-- How long a query has to stand, which queries are not sent, and what is shown for those. -/
structure Debouncer (Query : Type u) (Data : Type v) where
  delay : ℕ
  idle : Query → Bool
  cleared : Data

namespace Debouncer

structure Timer (Query : Type u) where
  query : Query
  due : ℕ
  deriving DecidableEq, Repr

/-- A query that was sent, with the time since which the field held it. -/
structure Issue (Query : Type u) where
  query : Query
  since : ℕ
  sent : ℕ
  deriving DecidableEq, Repr

/-- The field with the time of its last change, what is shown, the pending timer, the queries sent
so far, those among them that are not answered yet, and the one whose answer is shown.
-/
structure State (Query : Type u) (Data : Type v) where
  query : Query
  since : ℕ := 0
  shown : Data
  timer : Option (Timer Query) := none
  now : ℕ := 0
  issued : List (Issue Query) := []
  outstanding : List ℕ := []
  delivered : Option ℕ := none
  deriving DecidableEq, Repr

inductive Action (Query : Type u) where
  | input (query : Query)
  | wait (elapsed : ℕ)
  | fire
  | deliver (number : ℕ)
  deriving DecidableEq, Repr

variable {Query : Type u} {Data : Type v} (debouncer : Debouncer Query Data)

/-- The field as it is mounted, with a query that is not sent. -/
def mount (query : Query) : State Query Data where
  query := query
  shown := debouncer.cleared

/-- One event; a query that fails gets no answer and leaves what is shown. -/
def step [DecidableEq Query] (answers : ℕ → Option Data) (state : State Query Data)
    : Action Query → State Query Data
  | .input query =>
      if query = state.query then
        state
      else if debouncer.idle query then
        { state with
          query := query
          since := state.now
          timer := none
          shown := debouncer.cleared
          delivered := none }
      else
        { state with
          query := query
          since := state.now
          timer := some ⟨query, state.now + debouncer.delay⟩ }
  | .wait elapsed => { state with now := state.now + elapsed }
  | .fire =>
      match state.timer with
      | none => state
      | some timer =>
          if timer.due ≤ state.now then
            { state with
              timer := none
              issued := state.issued ++ [⟨timer.query, state.since, state.now⟩]
              outstanding := state.outstanding ++ [state.issued.length] }
          else
            state
  | .deliver number =>
      if number ∈ state.outstanding then
        match answers number with
        | none => { state with outstanding := state.outstanding.erase number }
        | some data =>
            { state with
              shown := data
              outstanding := state.outstanding.erase number
              delivered := some number }
      else
        state

-----------------------------------------------------------------------------------------
-- What is sent, and when
-----------------------------------------------------------------------------------------

/-- Each query was sent after it had stood for the delay, and before the field changed for the
next one. The query of the field is pending or was sent last, unless it is not sent at all.
-/
structure Paced (state : State Query Data) : Prop where
  since : state.since ≤ state.now
  timer
    : ∀ timer ∈ state.timer, timer.query = state.query ∧ timer.due = state.since + debouncer.delay
        ∧ debouncer.idle state.query = false ∧ ∀ issue ∈ state.issued, issue.sent ≤ state.since
  issued
    : ∀ issue ∈ state.issued, debouncer.idle issue.query = false
        ∧ issue.since + debouncer.delay ≤ issue.sent ∧ issue.sent ≤ state.now
  ordered : state.issued.Pairwise (fun earlier later => earlier.sent ≤ later.since)
  last
    : state.timer = none → debouncer.idle state.query = false
      → ∃ issue, state.issued.getLast? = some issue ∧ issue.query = state.query
          ∧ issue.since = state.since

variable {debouncer}

theorem paced_mount {query : Query} (idle : debouncer.idle query)
    : debouncer.Paced (debouncer.mount query) where
  since := Nat.le_refl _
  timer _ none := absurd none (Option.not_mem_none _)
  issued := List.forall_mem_nil _
  ordered := .nil
  last _ other := absurd (idle.symm.trans other) (Bool.false_ne_true ∘ Eq.symm)

theorem Paced.step [DecidableEq Query] {answers : ℕ → Option Data} {state : State Query Data}
    (paced : debouncer.Paced state) (action : Action Query)
    : debouncer.Paced (debouncer.step answers state action) := by
  cases action with
  | input query =>
      simp only [Debouncer.step]
      split
      · exact paced
      · split
        · next idle =>
          exact {
            since := Nat.le_refl _
            timer := fun _ absent => absurd absent (Option.not_mem_none _)
            issued := paced.issued
            ordered := paced.ordered
            last := fun _ other => absurd (idle.symm.trans other) (Bool.false_ne_true ∘ Eq.symm) }
        · next active =>
          refine { paced with since := Nat.le_refl _, timer := ?_, last := ?_ }
          · intro timer pending
            obtain rfl := Option.some.inj pending
            exact ⟨rfl, rfl, Bool.eq_false_iff.mpr active,
              fun issue member => (paced.issued issue member).2.2⟩
          · exact fun absent => absurd absent (Option.some_ne_none _)
  | wait elapsed =>
      exact { paced with
        since := Nat.le_add_right_of_le paced.since
        issued := fun issue member =>
          have sent := paced.issued issue member
          ⟨sent.1, sent.2.1, Nat.le_add_right_of_le sent.2.2⟩ }
  | fire =>
      simp only [Debouncer.step]
      cases pending : state.timer with
      | none => exact paced
      | some timer =>
          obtain ⟨same, due, active, before⟩ := paced.timer timer pending
          dsimp only
          split
          · next passed =>
            exact {
              since := paced.since
              timer := fun _ absent => absurd absent (Option.not_mem_none _)
              issued := by
                refine List.forall_mem_append.mpr ⟨paced.issued, List.forall_mem_singleton.mpr ?_⟩
                exact ⟨same ▸ active, due ▸ passed, Nat.le_refl _⟩
              ordered := by
                refine List.pairwise_append.mpr ⟨paced.ordered, List.pairwise_singleton _ _, ?_⟩
                intro earlier member issue only
                obtain rfl := List.mem_singleton.mp only
                exact before earlier member
              last := fun _ _ => ⟨_, List.getLast?_concat, same, rfl⟩ }
          · exact paced
  | deliver number =>
      simp only [Debouncer.step]
      split
      · split <;> exact { paced with }
      · exact paced

/-- Queries that each stood for the delay, one after another, take their time: by induction from the
last one, which began to stand after the others were sent.
-/
theorem length_mul_le {delay now : ℕ} {issued : List (Issue Query)}
    (stood : ∀ issue ∈ issued, issue.since + delay ≤ issue.sent)
    (ordered : issued.Pairwise (fun earlier later => earlier.sent ≤ later.since))
    (past : ∀ issue ∈ issued, issue.sent ≤ now)
    : issued.length * delay ≤ now := by
  induction issued using List.reverseRecOn generalizing now with
  | nil => simp
  | append_singleton earlier last ih =>
      rw [List.forall_mem_append, List.forall_mem_singleton] at stood past
      obtain ⟨earlierOrdered, _, apart⟩ := List.pairwise_append.mp ordered
      have before : earlier.length * delay ≤ last.since :=
        ih stood.1 earlierOrdered (fun issue member => apart issue member last (by simp))
      have spent : (earlier ++ [last]).length * delay = earlier.length * delay + delay := by
        rw [List.length_append, List.length_singleton, Nat.succ_mul]
      have sent := stood.2
      have recent := past.2
      omega

/-- No more queries are sent than the delay fits into the time. -/
theorem Paced.length_mul_le {state : State Query Data} (paced : debouncer.Paced state)
    : state.issued.length * debouncer.delay ≤ state.now :=
  Debouncer.length_mul_le (fun issue member => (paced.issued issue member).2.1) paced.ordered
    (fun issue member => (paced.issued issue member).2.2)

-----------------------------------------------------------------------------------------
-- What is shown
-----------------------------------------------------------------------------------------

/-- What is shown is the answer to the query sent last. -/
def ShowsLast (state : State Query Data) : Prop :=
  ∃ number ∈ state.delivered, state.issued.length = number + 1

instance (state : State Query Data) : Decidable (ShowsLast state) :=
  decidable_of_iff (state.delivered.any (fun number => state.issued.length == number + 1)) (by
    simp [ShowsLast, Option.any_eq_true])

variable (debouncer)

/-- The field holds a query that is sent, and nothing is pending or under way. -/
def Quiet (state : State Query Data) : Prop :=
  debouncer.idle state.query = false ∧ state.timer = none ∧ state.outstanding = []

instance (state : State Query Data) : Decidable (debouncer.Quiet state) :=
  inferInstanceAs (Decidable (_ ∧ _ ∧ _))

/-- A quiet field shows the answer to the query sent last. -/
def Settled (answers : ℕ → Option Data) (state : State Query Data) : Prop :=
  debouncer.Quiet state
  → ∃ number ∈ state.delivered, state.issued.length = number + 1
      ∧ answers number = some state.shown

/-- The answer after which the field is quiet is that to the query sent last; or it fails, and
what is shown is that already.
-/
def SettlesWith (answers : ℕ → Option Data) (state : State Query Data) : Action Query → Prop
  | .deliver number =>
      debouncer.idle state.query = false → state.timer = none → state.outstanding = [number]
      → if (answers number).isSome then state.issued.length = number + 1 else ShowsLast state
  | _ => True

variable {debouncer}

/-- What is shown as an answer is the answer. -/
def Genuine (answers : ℕ → Option Data) (state : State Query Data) : Prop :=
  ∀ number ∈ state.delivered, answers number = some state.shown

theorem Genuine.settled_iff {answers : ℕ → Option Data} {state : State Query Data}
    (genuine : Genuine answers state)
    : debouncer.Settled answers state ↔ (debouncer.Quiet state → ShowsLast state) := by
  refine imp_congr_right (fun _ => exists_congr (fun number => and_congr_right (fun member => ?_)))
  exact and_iff_left (genuine number member)

section Step

variable [DecidableEq Query] {answers : ℕ → Option Data} {state : State Query Data}

theorem Genuine.step (genuine : Genuine answers state) (action : Action Query)
    : Genuine answers (debouncer.step answers state action) := by
  cases action with
  | input query =>
      simp only [Debouncer.step]
      split
      · exact genuine
      · split
        · exact fun _ absent => absurd absent (Option.not_mem_none _)
        · exact genuine
  | wait elapsed => exact genuine
  | fire =>
      simp only [Debouncer.step]
      split
      · exact genuine
      · split <;> exact genuine
  | deliver number =>
      simp only [Debouncer.step]
      split
      · split
        · exact genuine
        · next data answered => exact fun other same => Option.some.inj same ▸ answered
      · exact genuine

/-- A settled field stays settled by one step exactly when the step settles it with the answer
to the query sent last.
-/
theorem Settled.step_iff (genuine : Genuine answers state)
    (settled : debouncer.Settled answers state) (action : Action Query)
    : debouncer.Settled answers (debouncer.step answers state action)
      ↔ debouncer.SettlesWith answers state action := by
  rw [(genuine.step action).settled_iff]
  rw [genuine.settled_iff] at settled
  cases action with
  | input query =>
      refine iff_of_true ?_ trivial
      simp only [Debouncer.step]
      split
      · exact settled
      · split
        · next idle => exact fun quiet => absurd (idle.symm.trans quiet.1) (by simp)
        · exact fun quiet => absurd quiet.2.1 (Option.some_ne_none _)
  | wait elapsed => exact iff_of_true settled trivial
  | fire =>
      refine iff_of_true ?_ trivial
      simp only [Debouncer.step]
      split
      · exact settled
      · split
        · exact fun quiet => absurd quiet.2.2 (by simp)
        · exact settled
  | deliver number =>
      simp only [Debouncer.step]
      split
      · next member =>
        have settles : state.outstanding.erase number = [] ↔ state.outstanding = [number] :=
          Component.erase_eq_nil_iff member
        cases answered : answers number with
        | none =>
            simp only [Quiet, ShowsLast, SettlesWith, settles, answered, Option.isSome_none,
              Bool.false_eq_true, if_false, and_imp]
        | some data =>
            simp only [Quiet, ShowsLast, SettlesWith, settles, answered, Option.isSome_some,
              if_true, and_imp, Option.mem_some, exists_eq_left']
      · next absent =>
        refine iff_of_true settled (fun _ _ only => ?_)
        exact absurd (only ▸ List.mem_singleton_self number) absent

end Step

/-- Whenever the field is quiet it shows the answer to the query sent last, exactly along the runs
each of whose settling deliveries is of that query.
-/
theorem forall_states_settled_iff [DecidableEq Query] {query : Query}
    (idle : debouncer.idle query) (answers : ℕ → Option Data) (actions : List (Action Query))
    : (∀ reached ∈ states (debouncer.step answers) (debouncer.mount query) actions,
          debouncer.Settled answers reached)
      ↔ EachStep (debouncer.step answers) (debouncer.SettlesWith answers)
          (debouncer.mount query) actions := by
  refine forall_states_iff (Genuine answers) ?_ ?_ ?_ ?_ actions
  · exact fun _ absent => absurd absent (Option.not_mem_none _)
  · exact fun quiet => absurd (idle.symm.trans quiet.1) (by simp)
  · exact fun _ action genuine => genuine.step action
  · exact fun _ action genuine settled => settled.step_iff genuine action

/-- In every state of a run the queries are paced. -/
theorem forall_states_paced [DecidableEq Query] {query : Query} (idle : debouncer.idle query)
    (answers : ℕ → Option Data) (actions : List (Action Query))
    : ∀ reached ∈ states (debouncer.step answers) (debouncer.mount query) actions,
        debouncer.Paced reached :=
  Transition.invariant (paced_mount idle) (fun _ action paced => paced.step action) actions

end Debouncer
end Fetching
