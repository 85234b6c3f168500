import LibraryManagement.Transition.Simulation
import Mathlib.Data.Set.Basic
import Mathlib.Logic.Function.Basic

/-! A register of accounts, the purpose of signing in apart from any database: an account is
opened with its name and one of its phrases. No two accounts have one name, so a name and a
phrase open one account at most.
-/

namespace Registry

open Transition

structure Account (Name : Type u) (Phrase : Type v) where
  name : Name
  phrases : Set Phrase

variable {Id : Type w} {Name : Type u} {Phrase : Type v}

@[ext] structure Register (Id : Type w) (Name : Type u) (Phrase : Type v) where
  accounts : Id → Option (Account Name Phrase)
  single
    : ∀ first second one other, accounts first = some one → accounts second = some other
      → one.name = other.name → first = second

inductive Event (Id : Type w) (Name : Type u) (Phrase : Type v) where
  | enrol (id : Id) (account : Account Name Phrase)
  | revise (id : Id) (account : Account Name Phrase)
  | close (id : Id)

def Event.id : Event Id Name Phrase → Id
  | .enrol id _ | .revise id _ | .close id => id

/-- The event is about an account that is there already. -/
def Event.Rewrites (id : Id) : Event Id Name Phrase → Prop
  | .enrol _ _ => False
  | .revise revised _ => revised = id
  | .close closed => closed = id

namespace Register

def Free (register : Register Id Name Phrase) (id : Id) (name : Name) : Prop :=
  ∀ other account, register.accounts other = some account → account.name = name → other = id

def Allows (register : Register Id Name Phrase) : Event Id Name Phrase → Prop
  | .enrol id account => register.accounts id = none ∧ register.Free id account.name
  | .revise id account => (register.accounts id).isSome ∧ register.Free id account.name
  | .close id => (register.accounts id).isSome

def Opens (register : Register Id Name Phrase) (name : Name) (phrase : Phrase) (id : Id) : Prop :=
  ∃ account, register.accounts id = some account ∧ account.name = name ∧ phrase ∈ account.phrases

section Apply

variable [DecidableEq Id]

/-- The account under a free name. -/
def put (register : Register Id Name Phrase) (id : Id) (account : Account Name Phrase)
    (free : register.Free id account.name)
    : Register Id Name Phrase where
  accounts := Function.update register.accounts id (some account)
  single := by
    intro first second one other here there same
    by_cases isFirst : first = id <;> by_cases isSecond : second = id
    · exact isFirst.trans isSecond.symm
    · subst isFirst
      rw [Function.update_self, Option.some.injEq] at here
      rw [Function.update_of_ne isSecond] at there
      exact (free second other there (here ▸ same.symm)).symm
    · subst isSecond
      rw [Function.update_self, Option.some.injEq] at there
      rw [Function.update_of_ne isFirst] at here
      exact free first one here (there ▸ same)
    · rw [Function.update_of_ne isFirst] at here
      rw [Function.update_of_ne isSecond] at there
      exact register.single first second one other here there same

def remove (register : Register Id Name Phrase) (id : Id) : Register Id Name Phrase where
  accounts := Function.update register.accounts id none
  single := by
    intro first second one other here there same
    have kept {entry : Id} {account : Account Name Phrase}
        (found : Function.update register.accounts id none entry = some account)
        : register.accounts entry = some account := by
      by_cases gone : entry = id
      · rw [gone, Function.update_self] at found
        cases found
      · rwa [Function.update_of_ne gone] at found
    exact register.single first second one other (kept here) (kept there) same

open Classical in
/-- An account whose name is taken is not written. -/
noncomputable def apply (register : Register Id Name Phrase)
    : Event Id Name Phrase → Register Id Name Phrase
  | .enrol id account | .revise id account =>
      if free : register.Free id account.name then register.put id account free else register
  | .close id => register.remove id

theorem apply_enrol {register : Register Id Name Phrase} {id : Id}
    {account : Account Name Phrase} (allowed : register.Allows (.enrol id account))
    : (register.apply (.enrol id account)).accounts
      = Function.update register.accounts id (some account) := by
  rw [apply, dif_pos allowed.2, put]

theorem apply_revise {register : Register Id Name Phrase} {id : Id}
    {account : Account Name Phrase} (allowed : register.Allows (.revise id account))
    : (register.apply (.revise id account)).accounts
      = Function.update register.accounts id (some account) := by
  rw [apply, dif_pos allowed.2, put]

/-- An event leaves the other accounts alone. -/
theorem apply_of_ne (register : Register Id Name Phrase) {event : Event Id Name Phrase} {id : Id}
    (other : event.id ≠ id)
    : (register.apply event).accounts id = register.accounts id := by
  cases event with
  | enrol changed account | revise changed account =>
      rw [apply]
      split
      · exact Function.update_of_ne other.symm _ _
      · rfl
  | close closed => exact Function.update_of_ne other.symm _ _

/-- An account stands until it is revised or closed. -/
theorem apply_stands {register : Register Id Name Phrase} {event : Event Id Name Phrase} {id : Id}
    {account : Account Name Phrase} (allowed : register.Allows event)
    (untouched : ¬event.Rewrites id) (here : register.accounts id = some account)
    : (register.apply event).accounts id = some account := by
  rw [apply_of_ne, here]
  rintro rfl
  cases event with
  | enrol enrolled other => cases here.symm.trans allowed.1
  | revise revised other | close closed => exact untouched rfl

end Apply

end Register
end Registry
