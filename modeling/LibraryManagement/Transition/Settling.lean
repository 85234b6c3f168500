import Mathlib.Init

/-! Tasks that bring a system into a wanted state. Each of their steps sees to one target, and a
step that fails ends the task.
-/

namespace Transition

variable {σ : Type u} {τ : Type v}

/-- The steps of a task one after another. What was done before a failure stays. -/
def carryOut (step : τ → σ → Option σ) : List τ → σ → σ
  | [], state => state
  | target :: rest, state =>
      match step target state with
      | some next => carryOut step rest next
      | none => state

variable {step : τ → σ → Option σ}

theorem carryOut_cons {target : τ} {rest : List τ} {state next : σ}
    (done : step target state = some next)
    : carryOut step (target :: rest) state = carryOut step rest next := by
  simp only [carryOut, done]

theorem carryOut_map {ρ : Type w} (target : ρ → τ) (parts : List ρ) (state : σ)
    : carryOut step (parts.map target) state
      = carryOut (fun part => step (target part)) parts state := by
  induction parts generalizing state with
  | nil => rfl
  | cons part rest ih =>
      rw [List.map_cons]
      cases done : step (target part) state with
      | none => simp only [carryOut, done]
      | some next =>
          simp only [carryOut, done]
          exact ih next

/-- The task is its steps up to the first that fails. -/
theorem exists_carryOut_eq_foldl (step : τ → σ → Option σ) (targets : List τ) (state : σ)
    : ∃ done, done <+: targets
        ∧ carryOut step targets state
          = done.foldl (fun state target => (step target state).getD state) state := by
  induction targets generalizing state with
  | nil => exact ⟨[], List.prefix_rfl, rfl⟩
  | cons target rest ih =>
      cases done : step target state with
      | none => exact ⟨[], List.nil_prefix, by simp only [carryOut, done, List.foldl_nil]⟩
      | some next =>
          obtain ⟨more, first, same⟩ := ih next
          refine ⟨target :: more, (List.prefix_cons_inj target).mpr first, ?_⟩
          rw [carryOut_cons done, same, List.foldl_cons, done, Option.getD_some]

/-- What relates a state to what each step makes of it relates it to what the task makes of it, by
induction over the targets; a step that fails is the last.
-/
theorem carryOut_relates {related : σ → σ → Prop} (refl : ∀ state, related state state)
    (trans : ∀ first second third, related first second → related second third
      → related first third)
    {targets : List τ}
    (each : ∀ target ∈ targets, ∀ state, ∀ next ∈ step target state, related state next)
    (state : σ)
    : related state (carryOut step targets state) := by
  induction targets generalizing state with
  | nil => exact refl state
  | cons target rest ih =>
      cases done : step target state with
      | none =>
          simp only [carryOut, done]
          exact refl state
      | some next =>
          rw [carryOut_cons done]
          have first := each target List.mem_cons_self state next done
          refine trans state next _ first (ih (fun other later => ?_) next)
          exact each other (List.mem_cons_of_mem target later)

/-- Along an invariant, no step fails, each meets its target and undoes no other, and one whose
target is met does nothing.
-/
structure Settles (step : τ → σ → Option σ) (inv : σ → Prop) (met : τ → σ → Prop)
    (targets : List τ) : Prop where
  meets : ∀ target ∈ targets, ∀ state, inv state
    → ∃ next, step target state = some next ∧ inv next ∧ met target next
      ∧ ∀ other ∈ targets, met other state → met other next
  rests : ∀ target ∈ targets, ∀ state, inv state → met target state
    → step target state = some state

namespace Settles

variable {inv : σ → Prop} {met : τ → σ → Prop} {targets : List τ}

/-- A part of the task meets its targets and undoes none. -/
theorem carryOut_meets (settles : Settles step inv met targets) {part : List τ}
    (within : part ⊆ targets) {state : σ} (initial : inv state)
    : inv (carryOut step part state)
      ∧ (∀ target ∈ part, met target (carryOut step part state))
      ∧ ∀ target ∈ targets, met target state → met target (carryOut step part state) := by
  induction part generalizing state with
  | nil => exact ⟨initial, List.forall_mem_nil _, fun _ _ before => before⟩
  | cons target rest ih =>
      obtain ⟨here, later⟩ := List.cons_subset.mp within
      obtain ⟨next, done, kept, meets, undoes⟩ := settles.meets target here state initial
      obtain ⟨after, all, keeps⟩ := ih later kept
      rw [carryOut_cons done]
      refine ⟨after, List.forall_mem_cons.mpr ⟨keeps target here meets, all⟩, ?_⟩
      exact fun other known before => keeps other known (undoes other known before)

/-- The task meets all of its targets. -/
theorem carryOut_all (settles : Settles step inv met targets) {state : σ} (initial : inv state)
    : inv (carryOut step targets state)
      ∧ ∀ target ∈ targets, met target (carryOut step targets state) := by
  obtain ⟨after, all, _⟩ := settles.carryOut_meets (List.Subset.refl targets) initial
  exact ⟨after, all⟩

theorem carryOut_rests (settles : Settles step inv met targets) {part : List τ}
    (within : part ⊆ targets) {state : σ} (initial : inv state)
    (all : ∀ target ∈ part, met target state)
    : carryOut step part state = state := by
  induction part with
  | nil => rfl
  | cons target rest ih =>
      obtain ⟨here, later⟩ := List.cons_subset.mp within
      obtain ⟨first, others⟩ := List.forall_mem_cons.mp all
      rw [carryOut_cons (settles.rests target here state initial first)]
      exact ih later others

/-- The task changes nothing exactly where all of its targets are met. -/
theorem carryOut_eq_self_iff (settles : Settles step inv met targets) {state : σ}
    (initial : inv state)
    : carryOut step targets state = state ↔ ∀ target ∈ targets, met target state := by
  constructor
  · intro same
    have all := (settles.carryOut_all initial).2
    rwa [same] at all
  · exact settles.carryOut_rests (List.Subset.refl targets) initial

/-- After the task, another one with the same targets has nothing to do. -/
theorem carryOut_again {again : τ → σ → Option σ} (settles : Settles step inv met targets)
    (other : Settles again inv met targets) {state : σ} (initial : inv state)
    : carryOut again targets (carryOut step targets state) = carryOut step targets state := by
  obtain ⟨after, all⟩ := settles.carryOut_all initial
  exact (other.carryOut_eq_self_iff after).mpr all

end Settles
end Transition
