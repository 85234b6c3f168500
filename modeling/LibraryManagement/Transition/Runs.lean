import Mathlib.Logic.Basic

/-! Finite runs of a deterministic transition system, the states they pass through and
the conditions their steps meet. `step` is total: an action that does nothing in a state
leaves it as it is.
-/

namespace Transition

variable {σ : Type u} {α : Type v} (step : σ → α → σ)

/-- The states a run passes through, its start included. -/
abbrev states (start : σ) (actions : List α) : List σ := actions.scanl step start

/-- Every action of the run meets `guard` in the state in which it is taken. -/
def EachStep (guard : σ → α → Prop) : σ → List α → Prop
  | _, [] => True
  | state, action :: rest => guard state action ∧ EachStep guard (step state action) rest

instance EachStep.decidable (guard : σ → α → Prop) [∀ state action, Decidable (guard state action)]
    : ∀ state actions, Decidable (EachStep step guard state actions)
  | _, [] => .isTrue trivial
  | state, action :: rest =>
      have := EachStep.decidable guard (step state action) rest
      inferInstanceAs (Decidable (_ ∧ _))

variable {step}

theorem mem_states_cons {start reached : σ} {action : α} {rest : List α}
    : reached ∈ states step start (action :: rest)
      ↔ reached = start ∨ reached ∈ states step (step start action) rest := by
  simp [states, List.scanl_cons]

theorem start_mem_states (start : σ) (actions : List α) : start ∈ states step start actions := by
  cases actions <;> simp [states]

/-- The last state of a run. -/
theorem foldl_mem_states (start : σ) (actions : List α)
    : actions.foldl step start ∈ states step start actions := by
  induction actions generalizing start with
  | nil => exact start_mem_states start []
  | cons action rest ih => exact mem_states_cons.mpr (Or.inr (ih (step start action)))

theorem EachStep.of_forall {guard : σ → α → Prop} (always : ∀ state action, guard state action)
    (start : σ) (actions : List α)
    : EachStep step guard start actions := by
  induction actions generalizing start with
  | nil => trivial
  | cons action rest ih => exact ⟨always start action, ih _⟩

/-- A condition on the actions alone. -/
theorem EachStep.of_forall_mem {allowed : α → Prop} {actions : List α}
    (all : ∀ action ∈ actions, allowed action) (start : σ)
    : EachStep step (fun _ action => allowed action) start actions := by
  induction actions generalizing start with
  | nil => trivial
  | cons action rest ih =>
      refine ⟨all action List.mem_cons_self, ih ?_ _⟩
      exact fun other member => all other (List.mem_cons_of_mem action member)

/-- What holds at the start and is preserved by every step whose action meets `guard`
holds in every state of a run all of whose steps meet it.
-/
theorem EachStep.invariant {guard : σ → α → Prop} {holds : σ → Prop} {start : σ}
    {actions : List α} (guarded : EachStep step guard start actions) (initial : holds start)
    (preserved : ∀ state action, guard state action → holds state → holds (step state action))
    : ∀ reached ∈ states step start actions, holds reached := by
  induction actions generalizing start with
  | nil =>
      intro reached member
      have same : reached = start := by simpa [states] using member
      exact same ▸ initial
  | cons action rest ih =>
      intro reached member
      rcases mem_states_cons.mp member with rfl | later
      · exact initial
      · exact ih guarded.2 (preserved start action guarded.1 initial) reached later

/-- The unguarded induction rule. -/
theorem invariant {holds : σ → Prop} {start : σ} (initial : holds start)
    (preserved : ∀ state action, holds state → holds (step state action)) (actions : List α)
    : ∀ reached ∈ states step start actions, holds reached := by
  have unguarded : EachStep step (fun _ _ => True) start actions :=
    .of_forall (fun _ _ => trivial) start actions
  exact unguarded.invariant initial (fun state action _ => preserved state action)

/-- A property of all states of a run holds before and after each of its steps. -/
theorem EachStep.of_forall_states {holds : σ → Prop} {start : σ} {actions : List α}
    (always : ∀ reached ∈ states step start actions, holds reached)
    : EachStep step (fun state action => holds state ∧ holds (step state action))
        start actions := by
  induction actions generalizing start with
  | nil => trivial
  | cons action rest ih =>
      have later : ∀ reached ∈ states step (step start action) rest, holds reached :=
        fun reached member => always reached (mem_states_cons.mpr (Or.inr member))
      exact ⟨⟨always start (mem_states_cons.mpr (Or.inl rfl)), later _ (start_mem_states _ _)⟩,
        ih later⟩

/-- Exactness rule. Where, along an auxiliary invariant and under the assumption on the
steps, a step keeps `holds` precisely when its action meets `guard`, a run keeps `holds`
throughout precisely when all of its steps meet `guard`.
-/
theorem EachStep.forall_states_iff {assumed guard : σ → α → Prop} {inv holds : σ → Prop}
    {start : σ} {actions : List α} (steps : EachStep step assumed start actions)
    (invStart : inv start) (initial : holds start)
    (preserved : ∀ state action, assumed state action → inv state → inv (step state action))
    (exact' : ∀ state action, assumed state action → inv state → holds state
      → (holds (step state action) ↔ guard state action))
    : (∀ reached ∈ states step start actions, holds reached)
      ↔ EachStep step guard start actions := by
  induction actions generalizing start with
  | nil => simpa [states, EachStep] using initial
  | cons action rest ih =>
      have here := exact' start action steps.1 invStart initial
      have next := preserved start action steps.1 invStart
      constructor
      · intro always
        have kept : holds (step start action) :=
          always _ (mem_states_cons.mpr (Or.inr (start_mem_states _ _)))
        refine ⟨here.mp kept, (ih steps.2 next kept).mp ?_⟩
        intro reached later
        exact always reached (mem_states_cons.mpr (Or.inr later))
      · rintro ⟨now, later⟩ reached member
        rcases mem_states_cons.mp member with rfl | after
        · exact initial
        · exact (ih steps.2 next (here.mpr now)).mpr later reached after

/-- The exactness rule for runs without an assumption on their steps. -/
theorem forall_states_iff {guard : σ → α → Prop} {holds : σ → Prop} (inv : σ → Prop) {start : σ}
    (invStart : inv start) (initial : holds start)
    (preserved : ∀ state action, inv state → inv (step state action))
    (exact' : ∀ state action, inv state → holds state
      → (holds (step state action) ↔ guard state action))
    (actions : List α)
    : (∀ reached ∈ states step start actions, holds reached)
      ↔ EachStep step guard start actions := by
  have unassumed : EachStep step (fun _ _ => True) start actions :=
    .of_forall (fun _ _ => trivial) start actions
  exact unassumed.forall_states_iff invStart initial
    (fun state action _ => preserved state action) (fun state action _ => exact' state action)

/-- Conditions that agree on the steps along an invariant agree on runs. -/
theorem EachStep.congr {guard other : σ → α → Prop} (inv : σ → Prop) {start : σ}
    (invStart : inv start) (preserved : ∀ state action, inv state → inv (step state action))
    (same : ∀ state action, inv state → (guard state action ↔ other state action))
    (actions : List α)
    : EachStep step guard start actions ↔ EachStep step other start actions := by
  induction actions generalizing start with
  | nil => exact Iff.rfl
  | cons action rest ih =>
      exact and_congr (same start action invStart) (ih (preserved start action invStart))

/-- A transitive relation that every guarded step respects relates any two states of a run
in their order.
-/
theorem EachStep.pairwise {guard : σ → α → Prop} {related : σ → σ → Prop} {start : σ}
    {actions : List α} (guarded : EachStep step guard start actions)
    (trans : ∀ first second third, related first second → related second third
      → related first third)
    (respected : ∀ state action, guard state action → related state (step state action))
    : (states step start actions).Pairwise related := by
  induction actions generalizing start with
  | nil => simp [states]
  | cons action rest ih =>
      simp only [states, List.scanl_cons]
      refine List.pairwise_cons.mpr ⟨?_, ih guarded.2⟩
      refine guarded.2.invariant (respected start action guarded.1) ?_
      intro state other allowed before
      exact trans start state _ before (respected state other allowed)

/-- Adjacent states of a run are related if any two are. -/
theorem EachStep.of_pairwise {related : σ → σ → Prop} {start : σ} {actions : List α}
    (pairwise : (states step start actions).Pairwise related)
    : EachStep step (fun state action => related state (step state action)) start actions := by
  induction actions generalizing start with
  | nil => trivial
  | cons action rest ih =>
      simp only [states, List.scanl_cons] at pairwise
      obtain ⟨first, later⟩ := List.pairwise_cons.mp pairwise
      exact ⟨first _ (start_mem_states _ _), ih later⟩

theorem EachStep.imp {guard weaker : σ → α → Prop} {start : σ} {actions : List α}
    (guarded : EachStep step guard start actions)
    (implies : ∀ state action, guard state action → weaker state action)
    : EachStep step weaker start actions := by
  induction actions generalizing start with
  | nil => trivial
  | cons action rest ih => exact ⟨implies start action guarded.1, ih guarded.2⟩

theorem EachStep.and {guard other : σ → α → Prop} {start : σ} {actions : List α}
    (guarded : EachStep step guard start actions) (also : EachStep step other start actions)
    : EachStep step (fun state action => guard state action ∧ other state action) start
        actions := by
  induction actions generalizing start with
  | nil => trivial
  | cons action rest ih => exact ⟨⟨guarded.1, also.1⟩, ih guarded.2 also.2⟩

/-- Exactness rule for relations. Where an assumed step respects a transitive relation
precisely when its action meets `guard`, the states of a run are related in their order
precisely when all of its steps meet it.
-/
theorem EachStep.pairwise_iff {assumed guard : σ → α → Prop} {related : σ → σ → Prop}
    {start : σ} {actions : List α} (steps : EachStep step assumed start actions)
    (trans : ∀ first second third, related first second → related second third
      → related first third)
    (exact' : ∀ state action, assumed state action
      → (related state (step state action) ↔ guard state action))
    : (states step start actions).Pairwise related ↔ EachStep step guard start actions := by
  have pointwise : EachStep step (fun state action => related state (step state action))
        start actions
      ↔ EachStep step guard start actions := by
    induction actions generalizing start with
    | nil => exact Iff.rfl
    | cons action rest ih => exact and_congr (exact' start action steps.1) (ih steps.2)
  rw [← pointwise]
  constructor
  · exact .of_pairwise
  · intro related
    exact related.pairwise trans (fun _ _ respects => respects)

end Transition
