import LibraryManagement.Relational.History

/-! A foreign key between two tables. The database checks it in the statement that inserts a child
or deletes a parent, whatever its client read before.
-/

namespace Relational
namespace Table

variable {Parent : Type u} {Child : Type v} [Keyed Parent] [Keyed Child]

def childKeys (children : Table Child) (reference : Child → Nat) (k : Nat) : List Nat :=
  (children.rows.filter (fun child => reference child == k)).map key

/-- `DELETE` of the children with the given keys, and then of the parent under `k`; none where a
child is left.
-/
def deleteWith (parents : Table Parent) (children : Table Child) (reference : Child → Nat) (k : Nat)
    (loaded : List Nat)
    : Option (Table Parent × Table Child) :=
  let left := children.delete (fun child => loaded.contains (key child))
  if left.rows.any (fun child => reference child == k) then
    none
  else
    some (parents.delete (fun row => key row == k), left)

/-- Keys that were loaded as those of the children of `k`, perhaps from an earlier version of the
table.
-/
structure LoadedUnder (children : Table Child) (reference : Child → Nat) (k : Nat)
    (loaded : List Nat) : Prop where
  used : ∀ number ∈ loaded, number < children.nextKey
  refer : ∀ child ∈ children.rows, key child ∈ loaded → reference child = k

variable {parents : Table Parent} {children : Table Child} {reference : Child → Nat} {k : Nat}
  {loaded : List Nat}

@[simp] theorem mem_childKeys {number : Nat}
    : number ∈ children.childKeys reference k
      ↔ ∃ child ∈ children.rows, reference child = k ∧ key child = number := by
  simp [childKeys, and_assoc]

theorem loadedUnder_childKeys (children : Table Child) (reference : Child → Nat) (k : Nat)
    : children.LoadedUnder reference k (children.childKeys reference k) where
  used := by
    intro number member
    obtain ⟨child, present, _, rfl⟩ := mem_childKeys.mp member
    exact children.bounded child present
  refer := by
    intro child present member
    obtain ⟨other, there, refers, same⟩ := mem_childKeys.mp member
    exact children.eq_of_key_eq there present same ▸ refers

/-- Where children keep their parents, loaded keys stay those of children of `k`. -/
theorem LoadedUnder.follows {related : Child → Child → Prop} {later : Table Child}
    (under : children.LoadedUnder reference k loaded) (follows : Follows related children later)
    (kept : ∀ before after, related before after → reference after = reference before)
    : later.LoadedUnder reference k loaded where
  used number member := Nat.lt_of_lt_of_le (under.used number member) follows.keys
  refer := by
    intro after present member
    obtain ⟨before, there, same, aged⟩ := follows.rows after present (under.used _ member)
    exact (kept before after aged).trans (under.refer before there (same ▸ member))

/-- The parent goes with all of its children, exactly where all of them had been loaded: then the
loaded ones and its children are the same rows.
-/
theorem LoadedUnder.deleteWith_eq_some_iff (under : children.LoadedUnder reference k loaded)
    {result : Table Parent × Table Child}
    : parents.deleteWith children reference k loaded = some result
      ↔ (∀ child ∈ children.rows, reference child = k → key child ∈ loaded)
        ∧ result = (parents.delete (fun row => key row == k),
            children.delete (fun child => reference child == k)) := by
  simp only [deleteWith, Option.ite_none_left_eq_some, Option.some.injEq, List.any_eq_true,
    beq_iff_eq, not_exists, not_and]
  have complete : (∀ child ∈ (children.delete (fun child => loaded.contains (key child))).rows,
        ¬reference child = k)
      ↔ ∀ child ∈ children.rows, reference child = k → key child ∈ loaded := by
    refine forall_congr' (fun child => ?_)
    rw [mem_delete]
    simp only [List.contains_eq_mem, decide_eq_false_iff_not]
    tauto
  rw [complete]
  refine and_congr_right (fun all => ?_)
  have same : children.delete (fun child => loaded.contains (key child))
      = children.delete (fun child => reference child == k) := by
    refine children.delete_congr (fun child member => ?_)
    rw [List.contains_eq_mem, Bool.eq_iff_iff, decide_eq_true_iff, beq_iff_eq]
    exact ⟨under.refer child member, all child member⟩
  rw [same]
  exact eq_comm

/-- A delete is refused exactly for a child that is not among the loaded ones, the only way to fail.
-/
theorem LoadedUnder.deleteWith_eq_none_iff (under : children.LoadedUnder reference k loaded)
    : parents.deleteWith children reference k loaded = none
      ↔ ∃ child ∈ children.rows, reference child = k ∧ key child ∉ loaded := by
  constructor
  · intro refused
    by_contra noneLeft
    have all : ∀ child ∈ children.rows, reference child = k → key child ∈ loaded := by
      intro child member refers
      by_contra missing
      exact noneLeft ⟨child, member, refers, missing⟩
    cases refused.symm.trans (under.deleteWith_eq_some_iff.mpr ⟨all, rfl⟩)
  · rintro ⟨child, member, refers, missing⟩
    cases outcome : parents.deleteWith children reference k loaded with
    | none => rfl
    | some result =>
        exact absurd ((under.deleteWith_eq_some_iff.mp outcome).1 child member refers) missing

end Table
end Relational
