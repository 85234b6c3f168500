import Mathlib.Init

/-! Resources that are read and written as a whole, like the two ends of a lens. A write may be
refused, and what it is given may come out in another form.
-/

namespace Viewing

/-- `now` is what a write reads from its surroundings. -/
structure Resource (σ : Type u) (τ : Type v) (ν : Type w) where
  read : σ → Option ν
  write : (now : τ) → ν → σ → Option σ

namespace Resource

variable {σ : Type u} {τ : Type v} {ν : Type w}

/-- Along an invariant, what was read can be written and changes nothing, and what was written is
read, as it was settled.
-/
structure Lawful (resource : Resource σ τ ν) (inv : σ → Prop) (settle : ν → ν) : Prop where
  keeps : ∀ now value state, inv state → ∀ next ∈ resource.write now value state, inv next
  write_read
    : ∀ now value state, inv state → resource.read state = some value
      → resource.write now value state = some state
  read_write
    : ∀ now value state, inv state → ∀ next ∈ resource.write now value state,
        resource.read next = some (settle value)

namespace Lawful

variable {resource : Resource σ τ ν} {inv : σ → Prop} {settle : ν → ν}

/-- What is read is settled. -/
theorem settle_read (lawful : resource.Lawful inv settle) (now : τ) {value : ν} {state : σ}
    (holds : inv state) (read : resource.read state = some value)
    : settle value = value := by
  have written := lawful.write_read now value state holds read
  have again := lawful.read_write now value state holds state written
  exact Option.some.inj (again.symm.trans read)

/-- Writing the settled value once more changes nothing. -/
theorem write_again (lawful : resource.Lawful inv settle) (now later : τ) {value : ν}
    {state next : σ} (holds : inv state) (written : resource.write now value state = some next)
    : resource.write later (settle value) next = some next := by
  have kept := lawful.keeps now value state holds next written
  exact lawful.write_read later _ next kept (lawful.read_write now value state holds next written)

/-- Settling twice is settling once, for values that are accepted. -/
theorem settle_settle (lawful : resource.Lawful inv settle) (now : τ) {value : ν}
    {state next : σ} (holds : inv state) (written : resource.write now value state = some next)
    : settle (settle value) = settle value := by
  have kept := lawful.keeps now value state holds next written
  exact lawful.settle_read now kept (lawful.read_write now value state holds next written)

end Lawful
end Resource
end Viewing
