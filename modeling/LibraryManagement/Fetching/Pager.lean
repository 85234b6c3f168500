import Mathlib.Order.Lattice
import Mathlib.Order.Nat

/-! The pager of a list that shows one page of the matching rows of a server. The page counts the
rows it shows, not those of the server, and applies its own creates, edits and deletes to the
rows shown.
-/

namespace Fetching

/-- The number of the page, the rows it shows, and the rows that match on the server. -/
structure Pager where
  size : Nat
  number : Nat
  shown : Nat
  matching : Nat
  deriving DecidableEq, Repr

namespace Pager

def offersNext (pager : Pager) : Bool :=
  (1 < pager.number || pager.shown == pager.size) && !(pager.shown < pager.size)

/-- Rows of later pages can be reached. -/
def Reachable (pager : Pager) : Prop :=
  pager.size * pager.number < pager.matching → pager.offersNext

def Loaded (pager : Pager) : Prop :=
  pager.shown = min pager.size (pager.matching - (pager.number - 1) * pager.size)

def prepend (pager : Pager) (matching : Bool) : Pager :=
  { pager with shown := pager.shown + 1, matching := pager.matching + matching.toNat }

def replace (pager : Pager) (before after : Bool) : Pager :=
  { pager with matching := pager.matching - before.toNat + after.toNat }

def remove (pager : Pager) (matching : Bool) : Pager :=
  { pager with shown := pager.shown - 1, matching := pager.matching - matching.toNat }

/-- The number of rows that, among those of this page and before, leaves none for a later page. -/
def IsFull (pager : Pager) : Prop := pager.matching = pager.size * pager.number

/-- On the first page no more rows match than it holds; and the row that begins the next page
finds one row less than a page in the list, on later pages at least as many.
-/
def AllowsPrepend (pager : Pager) (matching : Bool) : Prop :=
  (pager.number = 1 → pager.matching ≤ pager.size)
  ∧ (pager.IsFull → matching
    → pager.size ≤ pager.shown + 1 ∧ (pager.number = 1 → pager.shown + 1 = pager.size))

/-- The row that begins the next page finds a page of rows in the list, on later pages at least
as many.
-/
def AllowsReplace (pager : Pager) (before after : Bool) : Prop :=
  pager.IsFull → !before → after
    → pager.size ≤ pager.shown ∧ (pager.number = 1 → pager.shown = pager.size)

/-- No row is left for a later page, unless more rows are shown than a later page holds. -/
def AllowsRemove (pager : Pager) (matching : Bool) : Prop :=
  pager.size * pager.number < pager.matching - matching.toNat
    → pager.number ≠ 1 ∧ pager.size < pager.shown

section Decidable

variable (pager : Pager) (matching before after : Bool)

instance : Decidable pager.Reachable := inferInstanceAs (Decidable (_ → _))

instance : Decidable pager.IsFull := inferInstanceAs (Decidable (_ = _))

instance : Decidable (pager.AllowsPrepend matching) := inferInstanceAs (Decidable (_ ∧ _))

instance : Decidable (pager.AllowsReplace before after) := inferInstanceAs (Decidable (_ → _))

instance : Decidable (pager.AllowsRemove matching) := inferInstanceAs (Decidable (_ → _))

end Decidable

theorem offersNext_iff (pager : Pager)
    : pager.offersNext
      ↔ pager.size ≤ pager.shown ∧ (pager.number ≤ 1 → pager.shown = pager.size) := by
  simp only [offersNext, Bool.and_eq_true, Bool.or_eq_true, decide_eq_true_eq, beq_iff_eq,
    Bool.not_eq_true', decide_eq_false_iff_not]
  omega

theorem reachable_iff (pager : Pager)
    : pager.Reachable
      ↔ (pager.size * pager.number < pager.matching
        → pager.size ≤ pager.shown ∧ (pager.number ≤ 1 → pager.shown = pager.size)) := by
  rw [Reachable, offersNext_iff]

variable {pager : Pager}

/-- A page that was just loaded leads on. -/
theorem Loaded.reachable (loaded : pager.Loaded) (first : 1 ≤ pager.number) : pager.Reachable := by
  rw [reachable_iff]
  intro more
  have here : pager.size ≤ pager.size * pager.number := Nat.le_mul_of_pos_right pager.size first
  have shown : pager.shown = pager.size := by
    refine loaded.trans (Nat.min_eq_left ?_)
    rw [Nat.sub_one_mul, Nat.mul_comm]
    omega
  exact ⟨shown.ge, fun _ => shown⟩

variable (first : 1 ≤ pager.number) (reachable : pager.Reachable)

include first reachable

theorem reachable_prepend_iff (matching : Bool)
    : (pager.prepend matching).Reachable ↔ pager.AllowsPrepend matching := by
  rw [reachable_iff] at reachable ⊢
  have whole : pager.number = 1 → pager.size * pager.number = pager.size :=
    fun one => one ▸ Nat.mul_one pager.size
  simp only [prepend, AllowsPrepend, IsFull]
  generalize pager.size * pager.number = full at reachable whole ⊢
  cases matching with
  | false =>
      simp only [Bool.toNat_false, Bool.false_eq_true, false_imp_iff, imp_true_iff, and_true]
      omega
  | true =>
      simp only [Bool.toNat_true, true_imp_iff]
      omega

theorem reachable_replace_iff {before after : Bool} (some : before → 0 < pager.matching)
    : (pager.replace before after).Reachable ↔ pager.AllowsReplace before after := by
  rw [reachable_iff] at reachable ⊢
  simp only [replace, AllowsReplace, IsFull]
  generalize pager.size * pager.number = full at reachable ⊢
  cases before <;> cases after <;> simp at some ⊢ <;> omega

theorem reachable_remove_iff (positive : 0 < pager.size) {matching : Bool}
    (some : matching → 0 < pager.matching)
    : (pager.remove matching).Reachable ↔ pager.AllowsRemove matching := by
  rw [reachable_iff] at reachable ⊢
  have whole : pager.number = 1 → pager.size * pager.number = pager.size :=
    fun one => one ▸ Nat.mul_one pager.size
  simp only [remove, AllowsRemove]
  generalize pager.size * pager.number = full at reachable whole ⊢
  cases matching <;> simp at some ⊢ <;> omega

end Pager
end Fetching
