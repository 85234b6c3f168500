import Mathlib.Data.List.Basic

/-! Units of one resource, handed out one by one in the order of the requests, never two to the
same agent. Requests are numbered; a number without an agent is a step that asks for something
else.
-/

namespace Allocation

variable {κ : Type u} [DecidableEq κ]

/-- The request is the first one of its agent, who held no unit at the start. -/
def eligible (asks : Nat → Option κ) (held : κ → Bool) (index : Nat) : Bool :=
  (asks index).any (fun agent =>
    !held agent && (List.range index).all (fun earlier => asks earlier != some agent))

/-- The numbers below a bound that satisfy a condition. -/
def below (p : Nat → Bool) (bound : Nat) : List Nat := (List.range bound).filter p

theorem mem_below {p : Nat → Bool} {bound index : Nat}
    : index ∈ below p bound ↔ index < bound ∧ p index := by
  simp [below]

theorem below_succ (p : Nat → Bool) (bound : Nat)
    : below p (bound + 1) = below p bound ++ if p bound then [bound] else [] := by
  rw [below, List.range_succ, List.filter_append]
  cases chosen : p bound <;> simp [below, chosen]

/-- A request is granted when its agent has no unit, neither from the start nor from a grant,
and a unit is left.
-/
def FirstCome (asks : Nat → Option κ) (held : κ → Bool) (capacity : Nat)
    (granted : Nat → Bool) (bound : Nat)
    : Prop :=
  ∀ index, index < bound → (granted index
    ↔ ∃ agent, asks index = some agent ∧ held agent = false
        ∧ (∀ earlier, earlier < index → granted earlier → asks earlier ≠ some agent)
        ∧ (below granted index).length < capacity)

variable {asks : Nat → Option κ} {held : κ → Bool} {capacity bound : Nat} {granted : Nat → Bool}

theorem eligible_iff {index : Nat}
    : eligible asks held index
      ↔ ∃ agent, asks index = some agent ∧ held agent = false
          ∧ ∀ earlier, earlier < index → asks earlier ≠ some agent := by
  simp [eligible, Option.any_eq_true]

/-- An agent who has asked before has made an eligible request, or held a unit at the start. -/
theorem exists_eligible {index : Nat} {agent : κ} (free : held agent = false)
    (asked : asks index = some agent)
    : ∃ first, first ≤ index ∧ asks first = some agent ∧ eligible asks held first := by
  induction index using Nat.strongRecOn with
  | ind index ih =>
      by_cases fresh : ∀ earlier, earlier < index → asks earlier ≠ some agent
      · exact ⟨index, Nat.le_refl _, asked, eligible_iff.mpr ⟨agent, asked, free, fresh⟩⟩
      · push Not at fresh
        obtain ⟨earlier, less, before⟩ := fresh
        obtain ⟨first, bound, same, found⟩ := ih earlier less before
        exact ⟨first, Nat.le_trans bound (Nat.le_of_lt less), same, found⟩

/-- Where the grants so far are the first of the eligible requests, the next request is granted
exactly when it is eligible and fewer than the capacity were eligible before it. A refused
request does not make a later one of its agent succeed: it was refused for want of units.
-/
theorem FirstCome.granted_iff (rule : FirstCome asks held capacity granted bound) {index : Nat}
    (less : index < bound)
    (sofar : below granted index = (below (eligible asks held) index).take capacity)
    : granted index
      ↔ eligible asks held index ∧ (below (eligible asks held) index).length < capacity := by
  have count := congrArg List.length sofar
  rw [List.length_take] at count
  rw [rule index less, eligible_iff]
  constructor
  · intro eligible
    obtain ⟨agent, asked, free, unserved, left⟩ := eligible
    have few : (below (eligible asks held) index).length < capacity := by omega
    refine ⟨⟨agent, asked, free, ?_⟩, few⟩
    intro earlier before same
    obtain ⟨first, bound, first', found⟩ := exists_eligible free same
    have served : first ∈ below granted index := by
      rw [sofar, List.take_of_length_le (Nat.le_of_lt few)]
      exact mem_below.mpr ⟨Nat.lt_of_le_of_lt bound before, found⟩
    obtain ⟨previous, grant⟩ := mem_below.mp served
    exact unserved first previous grant first'
  · intro first
    obtain ⟨⟨agent, asked, free, fresh⟩, few⟩ := first
    exact ⟨agent, asked, free, fun earlier before _ => fresh earlier before, by omega⟩

/-- The granted requests are the first of the eligible ones, as many as there are units: by
induction over the requests, each granted where it is eligible and a unit is left.
-/
theorem FirstCome.below_eq_take (rule : FirstCome asks held capacity granted bound)
    : below granted bound = (below (eligible asks held) bound).take capacity := by
  have prefixes : ∀ index, index ≤ bound
      → below granted index = (below (eligible asks held) index).take capacity := by
    intro index
    induction index with
    | zero => simp [below]
    | succ index ih =>
        intro less
        have sofar := ih (Nat.le_of_lt less)
        have next := rule.granted_iff less sofar
        rw [below_succ, below_succ, List.take_append, sofar]
        congr 1
        by_cases chosen : eligible asks held index
        · by_cases few : (below (eligible asks held) index).length < capacity
          · have grant := next.mpr ⟨chosen, few⟩
            have room : 1 ≤ capacity - (below (eligible asks held) index).length := by omega
            simp [grant, chosen, List.take_of_length_le, room]
          · have refused : granted index = false := by
              simpa [few] using next
            have full : capacity - (below (eligible asks held) index).length = 0 := by omega
            simp [refused, full]
        · have refused : granted index = false := by
            simpa [chosen] using next
          simp [refused, chosen]
  exact prefixes bound (Nat.le_refl _)

end Allocation
