import LibraryManagement.Relational.Table

/-! The tables of `db/schema.rb`, with the enums the models declare on them. -/

namespace LibraryManagement

open Relational

inductive Role where
  | librarian
  | member
  deriving DecidableEq, Repr

/-- `enum :role, { librarian: 0, member: 1 }` -/
def Role.ofColumn : Nat → Option Role
  | 0 => some .librarian
  | 1 => some .member
  | _ => none

/-- `t.integer "role", default: 0, null: false` -/
def usersRoleDefault : Nat := 0

inductive Status where
  | borrowed
  | returned
  | overdue
  deriving DecidableEq, Repr

/-- `enum :status, { borrowed: 0, returned: 1, overdue: 2 }` -/
def Status.ofColumn : Nat → Option Status
  | 0 => some .borrowed
  | 1 => some .returned
  | 2 => some .overdue
  | _ => none

/-- The keys of `Borrowing.statuses`. -/
def Status.statuses : String → Option Status
  | "borrowed" => some .borrowed
  | "returned" => some .returned
  | "overdue" => some .overdue
  | _ => none

/-- `t.integer "status", default: 0, null: false` -/
def borrowingsStatusDefault : Nat := 0

/-- `t.integer "total_copies", default: 1, null: false` -/
def booksTotalCopiesDefault : Int := 1

structure User where
  id : Nat
  email : String
  encryptedPassword : String
  resetPasswordToken : Option String := none
  resetPasswordSentAt : Option Int := none
  rememberCreatedAt : Option Int := none
  firstName : Option String := none
  lastName : Option String := none
  role : Role
  createdAt : Int
  updatedAt : Int
  deriving DecidableEq, Repr

structure Book where
  id : Nat
  title : String
  author : String
  genre : String
  isbn : String
  totalCopies : Int
  createdAt : Int
  updatedAt : Int
  deriving DecidableEq, Repr

structure Borrowing where
  id : Nat
  userId : Nat
  bookId : Nat
  borrowedAt : Int
  dueDate : Int
  returnedAt : Option Int := none
  status : Status
  createdAt : Int
  updatedAt : Int
  returnComment : Option String := none
  deriving DecidableEq, Repr

instance : Keyed User := ⟨User.id⟩
instance : Keyed Book := ⟨Book.id⟩
instance : Keyed Borrowing := ⟨Borrowing.id⟩

@[simp] theorem key_user (user : User) : key user = user.id := rfl
@[simp] theorem key_book (book : Book) : key book = book.id := rfl
@[simp] theorem key_borrowing (loan : Borrowing) : key loan = loan.id := rfl

/-- The contents of the database. -/
structure Store where
  users : Table User
  books : Table Book
  borrowings : Table Borrowing
  deriving DecidableEq

-----------------------------------------------------------------------------------------
-- Outcomes of ActiveRecord writes
-----------------------------------------------------------------------------------------

/-- One entry of `record.errors`; the attribute name `base` stands for the whole record. -/
structure ModelError where
  attr : String
  message : String
  deriving DecidableEq, Repr

/-- What `save` comes to: a stored value, failed validations, or an exception that the
database or a column type raised.
-/
inductive Saved (α : Type u) where
  | stored (value : α)
  | invalid (errors : List ModelError)
  | raised (exception : String)
  deriving DecidableEq, Repr

end LibraryManagement
