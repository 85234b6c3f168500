import Mathlib.Data.List.Infix

/-! The SQL pattern language of LIKE, over lists of characters. -/

namespace Relational

/-- `text LIKE pattern`: `%` matches any run of characters, `_` any one character, and a
backslash takes the next character literally. Literal characters are compared after
`fold`, the identity for LIKE and a case folding for ILIKE.
-/
def like (fold : Char → Char) : List Char → List Char → Bool
  | [], text => text.isEmpty
  | '%' :: pattern, text => text.tails.any (like fold pattern)
  | '_' :: pattern, text =>
      match text with
      | [] => false
      | _ :: rest => like fold pattern rest
  | '\\' :: literal :: pattern, text =>
      match text with
      | [] => false
      | char :: rest => fold char == fold literal && like fold pattern rest
  | literal :: pattern, text =>
      match text with
      | [] => false
      | char :: rest => fold char == fold literal && like fold pattern rest

/-- A character that a pattern does not take literally. -/
def isWildcard (char : Char) : Bool := char == '%' || char == '_' || char == '\\'

def Contains (fold : Char → Char) (needle text : List Char) : Prop :=
  needle.map fold <:+: text.map fold

instance (fold : Char → Char) (needle text : List Char) : Decidable (Contains fold needle text) :=
  inferInstanceAs (Decidable (_ <:+: _))

section Equations

variable (fold : Char → Char) (pattern : List Char)

theorem like_percent (text : List Char)
    : like fold ('%' :: pattern) text ↔ ∃ rest, rest <:+ text ∧ like fold pattern rest := by
  simp [like, List.any_eq_true]

@[simp] theorem like_underscore (char : Char) (text : List Char)
    : like fold ('_' :: pattern) (char :: text) = like fold pattern text := rfl

@[simp] theorem like_escaped (literal char : Char) (text : List Char)
    : like fold ('\\' :: literal :: pattern) (char :: text)
      = (fold char == fold literal && like fold pattern text) := rfl

variable {literal : Char} (plain : isWildcard literal = false)
include plain

theorem like_literal_nil : like fold (literal :: pattern) [] = false := by
  simp only [isWildcard, Bool.or_eq_false_iff, beq_eq_false_iff_ne] at plain
  obtain ⟨⟨percent, underscore⟩, backslash⟩ := plain
  unfold like
  split <;> simp_all

theorem like_literal (char : Char) (text : List Char)
    : like fold (literal :: pattern) (char :: text)
      = (fold char == fold literal && like fold pattern text) := by
  simp only [isWildcard, Bool.or_eq_false_iff, beq_eq_false_iff_ne] at plain
  obtain ⟨⟨percent, underscore⟩, backslash⟩ := plain
  rw [like.eq_def]
  split <;> simp_all

end Equations

-----------------------------------------------------------------------------------------
-- Text between two percent signs
-----------------------------------------------------------------------------------------

section Within

variable {fold : Char → Char} {needle : List Char}

/-- Literal characters match a front of the text, by induction over them. -/
theorem like_append_literal (plain : ∀ char ∈ needle, isWildcard char = false)
    (pattern text : List Char)
    : like fold (needle ++ pattern) text
      ↔ ∃ front rest, front ++ rest = text ∧ front.map fold = needle.map fold
          ∧ like fold pattern rest := by
  induction needle generalizing text with
  | nil => simp
  | cons literal needle ih =>
      have here := plain literal List.mem_cons_self
      have later := ih (fun char member => plain char (List.mem_cons_of_mem literal member))
      cases text with
      | nil => simp [like_literal_nil fold _ here]
      | cons char text =>
          rw [List.cons_append, like_literal fold _ here, Bool.and_eq_true, beq_iff_eq, later]
          constructor
          · rintro ⟨same, front, rest, rfl, folded, matched⟩
            exact ⟨char :: front, rest, rfl, by simp [same, folded], matched⟩
          · rintro ⟨front, rest, split, folded, matched⟩
            cases front with
            | nil => simp at folded
            | cons first front =>
                obtain ⟨rfl, rfl⟩ := List.cons.inj split
                obtain ⟨same, tail⟩ := List.cons.inj folded
                exact ⟨same, front, rest, rfl, tail, matched⟩

/-- Between percent signs, text without wildcards matches where it is contained. -/
theorem like_within_iff (plain : ∀ char ∈ needle, isWildcard char = false) (text : List Char)
    : like fold ('%' :: needle ++ ['%']) text ↔ Contains fold needle text := by
  rw [List.cons_append, like_percent]
  simp only [like_append_literal plain, Contains]
  constructor
  · rintro ⟨_, ⟨before, rfl⟩, front, rest, rfl, folded, _⟩
    exact ⟨before.map fold, rest.map fold, by simp [folded]⟩
  · rintro ⟨before, after, split⟩
    obtain ⟨initial, rest, rfl, whole, _⟩ := List.map_eq_append_iff.mp split.symm
    obtain ⟨first, front, rfl, _, folded⟩ := List.map_eq_append_iff.mp whole
    refine ⟨front ++ rest, ⟨first, by simp⟩, front, rest, rfl, folded, ?_⟩
    exact (like_percent fold [] rest).mpr ⟨[], List.nil_suffix, rfl⟩

/-- A shortest text that a pattern matches, the needle being followed by a percent sign. A
trailing backslash takes that sign literally.
-/
def shortest : List Char → List Char
  | [] => []
  | '%' :: needle => shortest needle
  | '_' :: needle => '%' :: shortest needle
  | ['\\'] => ['%']
  | '\\' :: literal :: needle => literal :: shortest needle
  | literal :: needle => literal :: shortest needle

/-- What is left after the other cases of `shortest` is no wildcard. -/
theorem isWildcard_eq_false {literal : Char} {needle : List Char} (percent : literal ≠ '%')
    (underscore : literal ≠ '_') (lone : literal = '\\' → needle ≠ [])
    (paired : ∀ next rest, literal = '\\' → needle ≠ next :: rest)
    : isWildcard literal = false := by
  have backslash : literal ≠ '\\' := by
    intro slash
    cases needle with
    | nil => exact lone slash rfl
    | cons next rest => exact paired next rest slash rfl
  simp [isWildcard, percent, underscore, backslash]

theorem like_shortest (fold : Char → Char) (needle : List Char)
    : like fold (needle ++ ['%']) (shortest needle) := by
  fun_induction shortest needle with
  | case1 => exact (like_percent fold [] []).mpr ⟨[], List.suffix_rfl, rfl⟩
  | case2 needle ih => exact (like_percent fold _ _).mpr ⟨_, List.suffix_rfl, ih⟩
  | case3 needle ih => exact ih
  | case4 => simp [like]
  | case5 literal needle ih => simpa using ih
  | case6 literal needle percent underscore lone paired ih =>
      simpa [like_literal fold _ (isWildcard_eq_false percent underscore lone paired)] using ih

theorem shortest_length_le (needle : List Char) : (shortest needle).length ≤ needle.length := by
  fun_induction shortest needle with
  | case1 | case4 => exact Nat.le_refl _
  | case2 needle ih => exact Nat.le_succ_of_le ih
  | case3 needle ih | case6 _ needle _ _ _ _ ih => exact Nat.succ_le_succ ih
  | case5 literal needle ih => exact Nat.succ_le_succ (Nat.le_succ_of_le ih)

/-- Every wildcard makes the shortest match shorter than the needle or another text, so a needle
that folds to its shortest match has none. By induction over the match.
-/
theorem plain_of_map_shortest (underscored : fold '%' ≠ fold '_')
    (escaped : fold '%' ≠ fold '\\') (same : needle.map fold = (shortest needle).map fold)
    : ∀ char ∈ needle, isWildcard char = false := by
  have lengths := congrArg List.length same
  simp only [List.length_map] at lengths
  fun_induction shortest needle with
  | case1 => simp
  | case2 needle _ =>
      have shorter := shortest_length_le needle
      simp only [List.length_cons] at lengths
      omega
  | case3 needle _ => exact absurd (List.cons.inj same).1.symm underscored
  | case4 => exact absurd (List.cons.inj same).1.symm escaped
  | case5 literal needle _ =>
      have shorter := shortest_length_le needle
      simp only [List.length_cons] at lengths
      omega
  | case6 literal needle percent underscore lone paired ih =>
      refine List.forall_mem_cons.mpr ⟨isWildcard_eq_false percent underscore lone paired, ?_⟩
      exact ih (List.cons.inj same).2 (Nat.succ.inj lengths)

/-- A needle with a wildcard is not contained in the shortest text that matches it. -/
theorem plain_of_contains_shortest (underscored : fold '%' ≠ fold '_')
    (escaped : fold '%' ≠ fold '\\') (inside : Contains fold needle (shortest needle))
    : ∀ char ∈ needle, isWildcard char = false := by
  refine plain_of_map_shortest underscored escaped (inside.eq_of_length_le ?_)
  simpa using shortest_length_le needle

/-- The pattern of a needle between percent signs finds the texts that contain it, exactly when
the needle has no wildcards.
-/
theorem like_within_forall_iff (underscored : fold '%' ≠ fold '_')
    (escaped : fold '%' ≠ fold '\\')
    : (∀ text, like fold ('%' :: needle ++ ['%']) text ↔ Contains fold needle text)
      ↔ ∀ char ∈ needle, isWildcard char = false := by
  refine ⟨fun literal => ?_, like_within_iff⟩
  refine plain_of_contains_shortest underscored escaped ((literal _).mp ?_)
  exact (like_percent fold _ _).mpr ⟨_, List.suffix_rfl, like_shortest fold needle⟩

end Within

end Relational
