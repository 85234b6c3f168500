import Mathlib.Data.List.DropRight

/-! The string helpers of Ruby and ActiveSupport that the application uses. -/

namespace LibraryManagement

/-- The POSIX bracket `[[:space:]]` over Unicode, which `blank?` tests. -/
def isSpace (char : Char) : Bool :=
  let code := char.toNat
  (9 ≤ code && code ≤ 13) || code == 0x20 || code == 0x85 || code == 0xA0 || code == 0x1680
    || (0x2000 ≤ code && code ≤ 0x200A) || code == 0x2028 || code == 0x2029
    || code == 0x202F || code == 0x205F || code == 0x3000

/-- The characters `String#strip` removes: ASCII whitespace and the null character. -/
def isStripped (char : Char) : Bool :=
  let code := char.toNat
  (9 ≤ code && code ≤ 13) || code == 0x20 || code == 0

/-- `String#blank?` -/
def blank (text : String) : Bool := text.toList.all isSpace

/-- `nil.blank?` is true. -/
def blank? (text : Option String) : Bool := text.all blank

/-- `Object#presence` -/
def presence (text : Option String) : Option String := text.filter (fun text => !blank text)

/-- `String#strip` -/
def strip (text : String) : String :=
  String.ofList
    ((text.toList.dropWhile isStripped).reverse.dropWhile isStripped).reverse

/-- Stripped text has nothing to strip. -/
theorem strip_strip (text : String) : strip (strip text) = strip text := by
  have trimmed : strip text
      = String.ofList ((text.toList.dropWhile isStripped).rdropWhile isStripped) := rfl
  generalize text.toList = chars at trimmed
  have front : ((chars.dropWhile isStripped).rdropWhile isStripped).dropWhile isStripped
      = (chars.dropWhile isStripped).rdropWhile isStripped := by
    refine List.dropWhile_eq_self_iff.mpr ?_
    intro nonempty
    have kept := List.rdropWhile_prefix isStripped (l := chars.dropWhile isStripped)
    have positive := Nat.lt_of_lt_of_le nonempty kept.length_le
    rw [kept.getElem nonempty]
    exact List.dropWhile_eq_self_iff.mp (List.dropWhile_idempotent isStripped chars) positive
  rw [trimmed, strip, String.toList_ofList, front]
  exact congrArg String.ofList (List.rdropWhile_idempotent isStripped _)

/-- The null character, which no statement to the database can carry. -/
def hasNull (text : String) : Bool := text.toList.any (fun char => char.toNat == 0)

/-- `String#humanize`, on attribute names: `total_copies` reads `Total copies`. -/
def humanize (name : String) : String :=
  match name.toList.map (fun char => if char == '_' then ' ' else char) with
  | [] => ""
  | first :: rest => String.ofList (first.toUpper :: rest)

end LibraryManagement
