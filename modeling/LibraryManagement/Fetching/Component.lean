import LibraryManagement.Transition.Runs
import Mathlib.Data.List.Basic

/-! Components that show the answer to a query of theirs. A query is sent whenever the one of
the view has changed; queries under way are not called back, and answers arrive in any order.
-/

namespace Fetching

open Transition

/-- What a component shows and asks for. `receive` gets no data where the query failed. -/
structure Component (View : Type u) (Event : Type v) (Query : Type w) (Data : Type x) where
  query : View → Query
  shown : View → Data
  act : View → Event → View
  receive : Option Data → View → View
  shown_act : ∀ view event, shown (act view event) = shown view
  shown_receive : ∀ data view, shown (receive (some data) view) = data
  query_receive : ∀ answer view, query (receive answer view) = query view

/-- The view, the queries sent so far, those among them that are not answered yet (by their
position), and the one whose answer was received last.
-/
structure State (View : Type u) (Query : Type w) where
  view : View
  issued : List Query := []
  outstanding : List Nat := []
  delivered : Option Nat := none
  deriving DecidableEq, Repr

inductive Action (Event : Type v) where
  | act (event : Event)
  | deliver (number : Nat)
  deriving DecidableEq, Repr

namespace Component

variable {View : Type u} {Event : Type v} {Query : Type w} {Data : Type x}
variable (component : Component View Event Query Data)

def issue (state : State View Query) : State View Query :=
  { state with
    issued := state.issued ++ [component.query state.view]
    outstanding := state.outstanding ++ [state.issued.length] }

def mount (view : View) : State View Query := component.issue { view := view }

/-- One event of the user, or the arrival of one answer. -/
def step [DecidableEq Query] (answers : Nat → Option Data) (state : State View Query)
    : Action Event → State View Query
  | .act event =>
      let view := component.act state.view event
      if component.query view = component.query state.view then
        { state with view := view }
      else
        component.issue { state with view := view }
  | .deliver number =>
      if number ∈ state.outstanding then
        { state with
          view := component.receive (answers number) state.view
          outstanding := state.outstanding.erase number
          delivered := some number }
      else
        state

/-- The query was sent for the view as it is now. -/
def Current (state : State View Query) (number : Nat) : Prop :=
  state.issued[number]? = some (component.query state.view)

instance [DecidableEq Query] (state : State View Query) (number : Nat)
    : Decidable (component.Current state number) :=
  inferInstanceAs (Decidable (_ = _))

/-- No query was sent after it. -/
def Latest (state : State View Query) (number : Nat) : Prop := state.issued.length = number + 1

instance (state : State View Query) (number : Nat) : Decidable (Latest state number) :=
  inferInstanceAs (Decidable (_ = _))

/-- Once everything is answered, the component shows the answer to an accepted query. -/
def Settled (answers : Nat → Data) (accepted : State View Query → Nat → Prop)
    (state : State View Query)
    : Prop :=
  state.outstanding = []
  → ∃ number, state.delivered = some number ∧ accepted state number
      ∧ component.shown state.view = answers number

/-- The answer after which nothing is under way is that to an accepted query. -/
def SettlesWith (accepted : State View Query → Nat → Prop) (state : State View Query)
    : Action Event → Prop
  | .act _ => True
  | .deliver number => state.outstanding = [number] → accepted state number

instance (accepted : State View Query → Nat → Prop)
    [∀ state number, Decidable (accepted state number)] (state : State View Query)
    : ∀ action : Action Event, Decidable (SettlesWith accepted state action)
  | .act _ => .isTrue trivial
  | .deliver number => inferInstanceAs (Decidable (state.outstanding = [number] → _))

/-- Acceptance looks at the queries sent and at the query of the view only. -/
def Stable (accepted : State View Query → Nat → Prop) : Prop :=
  ∀ state state' : State View Query, state'.issued = state.issued
    → component.query state'.view = component.query state.view
    → ∀ number, accepted state' number ↔ accepted state number

theorem current_stable : component.Stable component.Current := by
  intro state state' issued query number
  unfold Current
  rw [issued, query]

theorem latest_stable : component.Stable Latest := by
  intro state state' issued _ number
  unfold Latest
  rw [issued]

theorem issue_outstanding_ne_nil (state : State View Query)
    : (component.issue state).outstanding ≠ [] := by
  simp [issue]

theorem erase_eq_nil_iff {numbers : List Nat} {number : Nat} (member : number ∈ numbers)
    : numbers.erase number = [] ↔ numbers = [number] := by
  constructor
  · intro gone
    have perm := List.perm_cons_erase member
    rw [gone] at perm
    exact List.perm_singleton.mp perm
  · rintro rfl
    simp

variable {component} [DecidableEq Query] {answers : Nat → Data}
  {accepted : State View Query → Nat → Prop}

/-- A settled component stays settled by one step exactly when the step settles it with an
accepted query.
-/
theorem Settled.step_iff (stable : component.Stable accepted) {state : State View Query}
    (settled : component.Settled answers accepted state) (action : Action Event)
    : component.Settled answers accepted
        (component.step (fun number => some (answers number)) state action)
      ↔ SettlesWith accepted state action := by
  cases action with
  | act event =>
      refine iff_of_true ?_ trivial
      simp only [step]
      split
      · next same =>
        intro empty
        obtain ⟨number, delivered, ok, shows'⟩ := settled empty
        have kept := stable state { state with view := component.act state.view event } rfl same
        exact ⟨number, delivered, (kept number).mpr ok,
          (component.shown_act state.view event).trans shows'⟩
      · exact fun empty => absurd empty (component.issue_outstanding_ne_nil _)
  | deliver number =>
      simp only [step]
      split
      · next member =>
        have received := component.query_receive (some (answers number)) state.view
        have kept := stable state
          { state with
            view := component.receive (some (answers number)) state.view
            outstanding := state.outstanding.erase number
            delivered := some number } rfl received number
        rw [Settled, SettlesWith, erase_eq_nil_iff member]
        refine forall_congr' (fun _ => ?_)
        simp [kept, component.shown_receive]
      · next absent =>
        refine iff_of_true settled ?_
        intro only
        exact absurd (only ▸ List.mem_singleton_self number) absent

/-- Whenever everything is answered the component shows the answer to an accepted query,
exactly along the runs each of whose settling deliveries is of an accepted query.
-/
theorem forall_states_settled_iff (stable : component.Stable accepted) (view : View)
    (actions : List (Action Event))
    : (∀ reached ∈ states (component.step (fun number => some (answers number)))
          (component.mount view) actions,
        component.Settled answers accepted reached)
      ↔ EachStep (component.step (fun number => some (answers number)))
          (SettlesWith accepted) (component.mount view) actions := by
  refine forall_states_iff (fun _ => True) trivial ?_ (fun _ _ _ => trivial) ?_ actions
  · exact fun empty => absurd empty (component.issue_outstanding_ne_nil _)
  · exact fun state action _ settled => settled.step_iff stable action

end Component
end Fetching
