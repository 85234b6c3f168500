import LibraryManagement.Transition.Runs
import Mathlib.Data.List.ReduceOption

/-! Refinement between two deterministic systems by an abstraction function. An action of the
concrete system is an event of the abstract one or invisible there.
-/

namespace Transition

variable {σ : Type u} {τ : Type v} {α : Type w} {β : Type x}

def visible (astep : τ → β → τ) (state : τ) (event : Option β) : τ :=
  event.elim state (astep state)

@[simp] theorem visible_none (astep : τ → β → τ) (state : τ)
    : visible astep state none = state := rfl

@[simp] theorem visible_some (astep : τ → β → τ) (state : τ) (event : β)
    : visible astep state (some event) = astep state event := rfl

/-- Invisible events do not show in the states of a run. -/
theorem mem_states_reduceOption {astep : τ → β → τ} {start reached : τ}
    {events : List (Option β)} (member : reached ∈ states (visible astep) start events)
    : reached ∈ states astep start events.reduceOption := by
  induction events generalizing start with
  | nil => exact member
  | cons event later ih =>
      rcases mem_states_cons.mp member with rfl | after
      · exact start_mem_states _ _
      · cases event with
        | none => exact ih after
        | some event => exact mem_states_cons.mpr (Or.inr (ih after))

/-- The events label the actions of a run, one for each action. -/
def Labels (step : σ → α → σ) (label : σ → α → Option β → Prop)
    : σ → List α → List (Option β) → Prop
  | _, [], [] => True
  | state, action :: rest, event :: later =>
      label state action event ∧ Labels step label (step state action) rest later
  | _, [], _ :: _ => False
  | _, _ :: _, [] => False

/-- The run is, state by state, a run of the abstract system through the given events, each of
which labels its action and is allowed where it happens.
-/
structure Refines (step : σ → α → σ) (astep : τ → β → τ) (abs : σ → τ)
    (label : σ → α → Option β → Prop) (allowed : τ → β → Prop) (start : σ) (actions : List α)
    (events : List (Option β)) : Prop where
  labels : Labels step label start actions events
  states : (states step start actions).map abs = states (visible astep) (abs start) events
  allowed
    : EachStep (visible astep) (fun state event => ∀ given ∈ event, allowed state given)
        (abs start) events

structure RefinesStep (step : σ → α → σ) (astep : τ → β → τ) (abs : σ → τ)
    (label : σ → α → Option β → Prop) (allowed : τ → β → Prop) (state : σ) (action : α)
    (event : Option β) : Prop where
  labels : label state action event
  commutes : abs (step state action) = visible astep (abs state) event
  allowed : ∀ given ∈ event, allowed (abs state) given

variable {step : σ → α → σ} {astep : τ → β → τ} {abs : σ → τ}
  {label : σ → α → Option β → Prop} {allowed : τ → β → Prop}

/-- A step that the abstract system does not see. -/
theorem RefinesStep.of_none {state : σ} {action : α} (labels : label state action none)
    (same : abs (step state action) = abs state)
    : RefinesStep step astep abs label allowed state action none :=
  ⟨labels, same, fun _ absent => absurd absent (Option.not_mem_none _)⟩

theorem RefinesStep.of_some {state : σ} {action : α} {event : β}
    (labels : label state action (some event))
    (commutes : abs (step state action) = astep (abs state) event)
    (permitted : allowed (abs state) event)
    : RefinesStep step astep abs label allowed state action (some event) :=
  ⟨labels, commutes, fun _ given => Option.some.inj given ▸ permitted⟩

theorem refines_nil {start : σ} {events : List (Option β)}
    : Refines step astep abs label allowed start [] events ↔ events = [] := by
  constructor
  · intro run
    cases events with
    | nil => rfl
    | cons event later => exact run.labels.elim
  · rintro rfl
    exact ⟨trivial, by simp [Transition.states], trivial⟩

/-- A run refines step by step: its first step does, and what is left refines from where the
abstract step leads.
-/
theorem refines_cons {start : σ} {action : α} {rest : List α} {events : List (Option β)}
    : Refines step astep abs label allowed start (action :: rest) events
      ↔ ∃ event later, events = event :: later
        ∧ RefinesStep step astep abs label allowed start action event
        ∧ Refines step astep abs label allowed (step start action) rest later := by
  constructor
  · intro run
    cases events with
    | nil => exact run.labels.elim
    | cons event later =>
        have states := run.states
        simp only [Transition.states, List.scanl_cons, List.map_cons, List.cons.injEq] at states
        obtain ⟨_, remaining⟩ := states
        have commutes : abs (step start action) = visible astep (abs start) event := by
          have heads := congrArg List.head? remaining
          simpa using heads
        refine ⟨event, later, rfl, ⟨run.labels.1, commutes, run.allowed.1⟩, run.labels.2, ?_, ?_⟩
        · rw [commutes]
          exact remaining
        · rw [commutes]
          exact run.allowed.2
  · rintro ⟨event, later, rfl, here, run⟩
    refine ⟨⟨here.labels, run.labels⟩, ?_, here.allowed, ?_⟩
    · simp only [Transition.states, List.scanl_cons, List.map_cons, ← here.commutes]
      exact congrArg _ run.states
    · rw [← here.commutes]
      exact run.allowed

/-- Where every guarded step has an event along an invariant, so has every guarded run. -/
theorem EachStep.exists_refines {guard : σ → α → Prop} {start : σ} {actions : List α}
    (guarded : EachStep step guard start actions) (inv : σ → Prop) (initial : inv start)
    (preserved : ∀ state action, guard state action → inv state → inv (step state action))
    (simulates : ∀ state action, guard state action → inv state
      → ∃ event, RefinesStep step astep abs label allowed state action event)
    : ∃ events, Refines step astep abs label allowed start actions events := by
  induction actions generalizing start with
  | nil => exact ⟨[], refines_nil.mpr rfl⟩
  | cons action rest ih =>
      obtain ⟨event, here⟩ := simulates start action guarded.1 initial
      obtain ⟨later, run⟩ := ih guarded.2 (preserved start action guarded.1 initial)
      exact ⟨event :: later, refines_cons.mpr ⟨event, later, rfl, here, run⟩⟩

/-- Exactness rule. Where, along an invariant that all steps keep, a step has an event
precisely when its action meets `guard`, a run refines precisely when all its steps meet it.
-/
theorem exists_refines_iff {guard : σ → α → Prop} {inv : σ → Prop} {start : σ}
    (initial : inv start) (preserved : ∀ state action, inv state → inv (step state action))
    (exact' : ∀ state action, inv state
      → ((∃ event, RefinesStep step astep abs label allowed state action event)
        ↔ guard state action))
    (actions : List α)
    : (∃ events, Refines step astep abs label allowed start actions events)
      ↔ EachStep step guard start actions := by
  constructor
  · rintro ⟨events, run⟩
    induction actions generalizing start events with
    | nil => trivial
    | cons action rest ih =>
        obtain ⟨event, later, _, here, remaining⟩ := refines_cons.mp run
        exact ⟨(exact' start action initial).mp ⟨event, here⟩,
          ih (preserved start action initial) later remaining⟩
  · intro guarded
    refine guarded.exists_refines inv initial ?_ ?_
    · exact fun state action _ => preserved state action
    · exact fun state action meets kept => (exact' state action kept).mpr meets

end Transition
