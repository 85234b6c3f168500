import LibraryManagement.Transition.Simulation
import Mathlib.Data.Set.Card

/-! A circulation desk, the purpose of a lending system apart from any database: patrons take
copies of items home, are late with them and bring them back. Loans carry numbers that are
never used twice, and neither patrons nor items return once they are gone.
-/

namespace Circulation

open Transition

/-- A copy is out, then perhaps late, and in the end back. -/
inductive Phase where
  | out
  | late
  | back
  deriving DecidableEq

def Phase.rank : Phase → ℕ
  | .out => 0
  | .late => 1
  | .back => 2

theorem Phase.rank_le_back (phase : Phase) : phase.rank ≤ Phase.back.rank := by
  cases phase <;> decide

structure Loan (Patron : Type u) (Item : Type v) where
  patron : Patron
  item : Item
  due : Int
  phase : Phase

/-- The same loan, perhaps in a later phase. -/
structure Loan.Ages {Patron : Type u} {Item : Type v} (before after : Loan Patron Item)
    : Prop where
  patron : after.patron = before.patron
  item : after.item = before.item
  due : after.due = before.due
  phase : before.phase.rank ≤ after.phase.rank

theorem Loan.Ages.refl {Patron : Type u} {Item : Type v} (loan : Loan Patron Item)
    : loan.Ages loan :=
  ⟨rfl, rfl, rfl, Nat.le_refl _⟩

/-- Loans age transitively: phases only advance. -/
theorem Loan.Ages.trans {Patron : Type u} {Item : Type v} {first second third : Loan Patron Item}
    (earlier : first.Ages second) (later : second.Ages third)
    : first.Ages third where
  patron := later.patron.trans earlier.patron
  item := later.item.trans earlier.item
  due := later.due.trans earlier.due
  phase := Nat.le_trans earlier.phase later.phase

/-- Patrons, the number of copies of each catalogued item, and loans by number. -/
@[ext] structure Desk (Patron : Type u) (Item : Type v) where
  patrons : Set Patron
  former : Set Patron
  copies : Item → Option ℕ
  withdrawn : Set Item
  loans : ℕ → Option (Loan Patron Item)
  next : ℕ
  numbered : ∀ number, next ≤ number → loans number = none

inductive Event (Patron : Type u) (Item : Type v) where
  | lend (patron : Patron) (item : Item) (due : Int)
  | giveBack (number : ℕ)
  | expire (today : Int)
  | acquire (item : Item) (owned : ℕ)
  | restock (item : Item) (owned : ℕ)
  | discard (item : Item)
  | enrol (patron : Patron)
  | leave (patron : Patron)

namespace Desk

variable {Patron : Type u} {Item : Type v}

def outOf (desk : Desk Patron Item) (item : Item) : Set ℕ :=
  { number | ∃ loan, desk.loans number = some loan ∧ loan.item = item ∧ loan.phase = .out }

def items (desk : Desk Patron Item) : Set Item := { item | (desk.copies item).isSome }

/-- The rules of the desk. A late copy neither counts as out nor keeps its patron from taking
another one.
-/
def Allows (desk : Desk Patron Item) : Event Patron Item → Prop
  | .lend patron item _ =>
      patron ∈ desk.patrons
      ∧ (∃ owned, desk.copies item = some owned ∧ (desk.outOf item).ncard < owned)
      ∧ ∀ number ∈ desk.outOf item, ∀ loan, desk.loans number = some loan → loan.patron ≠ patron
  | .giveBack number => (desk.loans number).isSome
  | .expire _ => True
  | .acquire item _ => desk.copies item = none ∧ item ∉ desk.withdrawn
  | .restock item _ => (desk.copies item).isSome
  | .discard item => (desk.copies item).isSome
  | .enrol patron => patron ∉ desk.patrons ∧ patron ∉ desk.former
  | .leave patron => patron ∈ desk.patrons

def lend (desk : Desk Patron Item) (patron : Patron) (item : Item) (due : Int)
    : Desk Patron Item :=
  { desk with
    loans := fun number =>
      if number = desk.next then some ⟨patron, item, due, .out⟩ else desk.loans number
    next := desk.next + 1
    numbered := by
      intro number unused
      rw [if_neg (by omega)]
      exact desk.numbered number (by omega) }

/-- Every loan is rewritten or dropped. -/
def revise (desk : Desk Patron Item) (change : ℕ → Loan Patron Item → Option (Loan Patron Item))
    : Desk Patron Item :=
  { desk with
    loans := fun number => (desk.loans number).bind (change number)
    numbered := fun number unused => by rw [desk.numbered number unused, Option.bind_none] }

def receive (number other : ℕ) (loan : Loan Patron Item) : Option (Loan Patron Item) :=
  some (if other = number then { loan with phase := .back } else loan)

/-- Copies that are out past their due day are late. -/
def expireLoan (today : Int) (_ : ℕ) (loan : Loan Patron Item) : Option (Loan Patron Item) :=
  some (if loan.phase = .out ∧ loan.due < today then { loan with phase := .late } else loan)

-----------------------------------------------------------------------------------------
-- The desk over time
-----------------------------------------------------------------------------------------

/-- Loans only age, and one that is missing later has lost its patron or its item for good. -/
structure Continues (earlier later : Desk Patron Item) : Prop where
  next : earlier.next ≤ later.next
  former : earlier.former ⊆ later.former
  withdrawn : earlier.withdrawn ⊆ later.withdrawn
  unused : ∀ number < earlier.next, earlier.loans number = none → later.loans number = none
  loans
    : ∀ number before, earlier.loans number = some before
      → (∃ after, later.loans number = some after ∧ before.Ages after)
        ∨ later.loans number = none
          ∧ (before.patron ∈ later.former ∨ before.item ∈ later.withdrawn)

/-- Loans are numbered in the order in which they are made. -/
theorem lt_next {desk : Desk Patron Item} {number : ℕ} {loan : Loan Patron Item}
    (present : desk.loans number = some loan)
    : number < desk.next := by
  by_contra unused
  cases present.symm.trans (desk.numbered number (Nat.le_of_not_lt unused))

theorem Continues.refl (desk : Desk Patron Item) : desk.Continues desk where
  next := Nat.le_refl _
  former := subset_rfl
  withdrawn := subset_rfl
  unused _ _ none := none
  loans _ before present := Or.inl ⟨before, present, .refl before⟩

/-- So is continuing a desk: a loan that is gone in between does not come back, since its patron or
item is gone for good.
-/
theorem Continues.trans {first second third : Desk Patron Item}
    (earlier : first.Continues second) (later : second.Continues third)
    : first.Continues third where
  next := Nat.le_trans earlier.next later.next
  former := earlier.former.trans later.former
  withdrawn := earlier.withdrawn.trans later.withdrawn
  unused number used none :=
    later.unused number (Nat.lt_of_lt_of_le used earlier.next) (earlier.unused number used none)
  loans := by
    intro number before present
    rcases earlier.loans number before present with ⟨middle, there, aged⟩ | ⟨none, gone⟩
    · rcases later.loans number middle there with ⟨after, still, again⟩ | ⟨none, gone⟩
      · exact Or.inl ⟨after, still, aged.trans again⟩
      · rw [aged.patron, aged.item] at gone
        exact Or.inr ⟨none, gone⟩
    · have still := later.unused number (Nat.lt_of_lt_of_le (lt_next present) earlier.next) none
      refine Or.inr ⟨still, ?_⟩
      exact gone.imp (fun left => later.former left) (fun left => later.withdrawn left)

-----------------------------------------------------------------------------------------
-- Events
-----------------------------------------------------------------------------------------

variable [DecidableEq Patron] [DecidableEq Item]

def dropItem (item : Item) (_ : ℕ) (loan : Loan Patron Item) : Option (Loan Patron Item) :=
  if loan.item = item then none else some loan

def dropPatron (patron : Patron) (_ : ℕ) (loan : Loan Patron Item)
    : Option (Loan Patron Item) :=
  if loan.patron = patron then none else some loan

def apply (desk : Desk Patron Item) : Event Patron Item → Desk Patron Item
  | .lend patron item due => desk.lend patron item due
  | .giveBack number => desk.revise (receive number)
  | .expire today => desk.revise (expireLoan today)
  | .acquire item owned | .restock item owned =>
      { desk with copies := Function.update desk.copies item (some owned) }
  | .discard item =>
      { desk.revise (dropItem item) with
        copies := Function.update desk.copies item none
        withdrawn := insert item desk.withdrawn }
  | .enrol patron => { desk with patrons := insert patron desk.patrons }
  | .leave patron =>
      { desk.revise (dropPatron patron) with
        patrons := desk.patrons \ {patron}
        former := insert patron desk.former }

-----------------------------------------------------------------------------------------
-- Loans after an event
-----------------------------------------------------------------------------------------

/-- A loan after an event is the new one or an older one that has aged, if at all. One case for each
event.
-/
theorem mem_apply {desk : Desk Patron Item} {event : Event Patron Item} {number : ℕ}
    {after : Loan Patron Item} (present : (desk.apply event).loans number = some after)
    : (∃ patron item due, event = .lend patron item due ∧ number = desk.next
        ∧ after = ⟨patron, item, due, .out⟩)
      ∨ ∃ before, desk.loans number = some before ∧ before.Ages after := by
  cases event with
  | lend patron item due =>
      simp only [apply, lend] at present
      split at present
      · next fresh => exact Or.inl ⟨patron, item, due, rfl, fresh, (Option.some.inj present).symm⟩
      · exact Or.inr ⟨after, present, .refl after⟩
  | giveBack other =>
      obtain ⟨before, old, given⟩ := Option.bind_eq_some_iff.mp present
      obtain rfl := Option.some.inj given
      refine Or.inr ⟨before, old, ?_⟩
      split
      · exact ⟨rfl, rfl, rfl, before.phase.rank_le_back⟩
      · exact .refl before
  | expire today =>
      obtain ⟨before, old, given⟩ := Option.bind_eq_some_iff.mp present
      obtain rfl := Option.some.inj given
      refine Or.inr ⟨before, old, ?_⟩
      split
      · next passed => exact ⟨rfl, rfl, rfl, passed.1 ▸ Nat.zero_le _⟩
      · exact .refl before
  | acquire | restock | enrol => exact Or.inr ⟨after, present, .refl after⟩
  | discard item =>
      obtain ⟨before, old, given⟩ := Option.bind_eq_some_iff.mp present
      obtain ⟨_, same⟩ := Option.ite_none_left_eq_some.mp given
      obtain rfl := Option.some.inj same
      exact Or.inr ⟨before, old, .refl before⟩
  | leave patron =>
      obtain ⟨before, old, given⟩ := Option.bind_eq_some_iff.mp present
      obtain ⟨_, same⟩ := Option.ite_none_left_eq_some.mp given
      obtain rfl := Option.some.inj same
      exact Or.inr ⟨before, old, .refl before⟩

/-- A loan stays unless its item is discarded or its patron leaves; the other events keep it under
its number.
-/
theorem apply_kept {desk : Desk Patron Item} {event : Event Patron Item} {number : ℕ}
    {before : Loan Patron Item} (present : desk.loans number = some before)
    (lost : (desk.apply event).loans number = none)
    : event = .discard before.item ∨ event = .leave before.patron := by
  cases event with
  | lend patron item due =>
      simp only [apply, lend] at lost
      split at lost
      · cases lost
      · cases present.symm.trans lost
  | giveBack | expire => simp [apply, revise, present, receive, expireLoan] at lost
  | acquire | restock | enrol => cases present.symm.trans lost
  | discard item =>
      left
      by_contra other
      have kept : before.item ≠ item := fun same => other (same ▸ rfl)
      simp [apply, revise, present, dropItem, kept] at lost
  | leave patron =>
      right
      by_contra other
      have kept : before.patron ≠ patron := fun same => other (same ▸ rfl)
      simp [apply, revise, present, dropPatron, kept] at lost

/-- No two events hand out the number that a loan with given particulars gets. -/
theorem lend_unique {desk : Desk Patron Item} {event : Event Patron Item} {patron : Patron}
    {item : Item} {due : Int} (same : desk.apply event = desk.lend patron item due)
    : event = .lend patron item due := by
  have next : (desk.apply event).next = desk.next + 1 := congrArg Desk.next same
  have loan := congrFun (congrArg Desk.loans same) desk.next
  cases event with
  | lend other copy day =>
      simp only [apply, lend, if_true, Option.some.injEq, Loan.mk.injEq] at loan
      obtain ⟨rfl, rfl, rfl, _⟩ := loan
      rfl
  | giveBack | expire | acquire | restock | discard | enrol | leave =>
      exact absurd next (Nat.ne_of_lt (Nat.lt_succ_self _))

/-- A number without a loan has nothing to give back. -/
theorem giveBack_missing {desk : Desk Patron Item} {number : ℕ}
    (missing : desk.loans number = none)
    : desk.apply (.giveBack number) = desk := by
  refine Desk.ext rfl rfl rfl rfl ?_ rfl
  funext other
  by_cases same : other = number
  · simp [apply, revise, same, missing]
  · cases present : desk.loans other <;> simp [apply, revise, receive, same, present]

/-- Every event continues the desk, by cases on the event: each makes loans older, adds one under
the next number, or drops those of a patron or an item that it takes away.
-/
theorem continues_apply (desk : Desk Patron Item) (event : Event Patron Item)
    : desk.Continues (desk.apply event) where
  next := by cases event <;> first | exact Nat.le_refl _ | exact Nat.le_succ _
  former := by cases event <;> first | exact subset_rfl | exact Set.subset_insert _ _
  withdrawn := by cases event <;> first | exact subset_rfl | exact Set.subset_insert _ _
  unused := by
    intro number used none
    cases after : (desk.apply event).loans number with
    | none => rfl
    | some loan =>
        rcases mem_apply after with ⟨_, _, _, _, fresh, _⟩ | ⟨before, present, _⟩
        · exact absurd (fresh ▸ used) (Nat.lt_irrefl _)
        · cases none.symm.trans present
  loans := by
    intro number before present
    cases after : (desk.apply event).loans number with
    | some loan =>
        rcases mem_apply after with ⟨_, _, _, _, fresh, _⟩ | ⟨other, old, aged⟩
        · exact absurd (fresh ▸ lt_next present) (Nat.lt_irrefl _)
        · obtain rfl := Option.some.inj (present.symm.trans old)
          exact Or.inl ⟨loan, rfl, aged⟩
    | none =>
        refine Or.inr ⟨rfl, ?_⟩
        rcases apply_kept present after with rfl | rfl
        · exact Or.inr (Set.mem_insert _ _)
        · exact Or.inl (Set.mem_insert _ _)

/-- So does an action that may be none. -/
theorem continues_visible {earlier later : Desk Patron Item} {event : Option (Event Patron Item)}
    (commutes : later = visible apply earlier event)
    : earlier.Continues later := by
  rw [commutes]
  cases event with
  | none => exact .refl _
  | some event => exact earlier.continues_apply event

/-- Nobody who was ever a patron is forgotten. -/
theorem patrons_apply (desk : Desk Patron Item) (event : Event Patron Item)
    : desk.patrons ∪ desk.former ⊆ (desk.apply event).patrons ∪ (desk.apply event).former := by
  cases event with
  | lend | giveBack | expire | acquire | restock | discard => exact subset_rfl
  | enrol patron => exact Set.union_subset_union (Set.subset_insert _ _) subset_rfl
  | leave patron =>
      rintro other (known | gone)
      · by_cases same : other = patron
        · exact Or.inr (Or.inl same)
        · exact Or.inl ⟨known, same⟩
      · exact Or.inr (Or.inr gone)

/-- No event loses an item: those that it takes away are withdrawn, and the others stay known. -/
theorem items_apply (desk : Desk Patron Item) (event : Event Patron Item)
    : desk.items ∪ desk.withdrawn ⊆ (desk.apply event).items ∪ (desk.apply event).withdrawn := by
  have updated (copies : Item → Option ℕ) (item other : Item) (owned : ℕ)
      (known : (copies other).isSome)
      : (Function.update copies item (some owned) other).isSome := by
    rw [Function.update_apply]
    split
    · rfl
    · exact known
  cases event with
  | lend | giveBack | expire | enrol | leave => exact subset_rfl
  | acquire item owned | restock item owned =>
      exact Set.union_subset_union (fun other => updated desk.copies item other owned) subset_rfl
  | discard item =>
      rintro other (known | gone)
      · by_cases same : other = item
        · exact Or.inr (Or.inl same)
        · left
          simp only [items, apply, Set.mem_ofPred_eq, Function.update_apply, if_neg same] at known ⊢
          exact known
      · exact Or.inr (Or.inr gone)

end Desk
end Circulation
