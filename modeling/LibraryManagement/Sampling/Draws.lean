import Mathlib.Init

/-! Programs that draw at random and read a clock. Both are sequences that the program reads one
after another, so that every outcome of its draws is one of some source.
-/

namespace Sampling

/-- What a program reads from outside, by position. -/
structure Source where
  draw : Nat → Nat
  clock : Nat → Int

/-- A program, with the position up to which it has read. -/
abbrev Draws := ReaderT Source (StateM Nat)

namespace Draws

def value (program : Draws α) (source : Source) (position : Nat) : α :=
  ((program.run source).run position).1

def below (bound : Nat) : Draws Nat := fun source position =>
  (source.draw position % bound, position + 1)

def between (low high : Nat) : Draws Nat := do
  let offset ← below (high - low + 1)
  return low + offset

def current : Draws Int := fun source position => (source.clock position, position + 1)

def sample (items : List α) (nonempty : items ≠ []) : Draws α := fun source position =>
  (items.get ⟨source.draw position % items.length,
    Nat.mod_lt _ (List.length_pos_iff.mpr nonempty)⟩, position + 1)

/-- A number of items in any order, none more than once, as long as there are any. -/
def sampleMany : Nat → List α → Draws (List α)
  | 0, _ => return []
  | count + 1, items => do
      let index ← below items.length
      match items[index]? with
      | none => return []
      | some item =>
          let others ← sampleMany count (items.eraseIdx index)
          return item :: others

-----------------------------------------------------------------------------------------
-- What holds of every outcome
-----------------------------------------------------------------------------------------

/-- Every outcome of the program satisfies `holds`. -/
def Yields (program : Draws α) (holds : α → Prop) : Prop :=
  ∀ source position, holds (program.value source position)

variable {program : Draws α} {holds : α → Prop}

theorem yields_any (program : Draws α) : program.Yields (fun _ => True) := fun _ _ => trivial

/-- A value that is not drawn is what it is. -/
theorem yields_pure {outcome : α} (here : holds outcome) : Yields (pure outcome) holds :=
  fun _ _ => here

/-- The rule of sequences. -/
theorem Yields.bind {next : α → Draws β} {after : β → Prop} (first : program.Yields holds)
    (second : ∀ outcome, holds outcome → (next outcome).Yields after)
    : Yields (program >>= next) after :=
  fun source position =>
    second _ (first source position) source ((program.run source).run position).2

/-- A step whose outcome does not matter. -/
theorem yields_bind {next : α → Draws β} {after : β → Prop}
    (second : ∀ outcome, (next outcome).Yields after)
    : Yields (program >>= next) after :=
  (yields_any program).bind (fun outcome _ => second outcome)

/-- The rule of loops. -/
theorem yields_mapM {body : α → Draws β} {items : List α} {after : β → Prop}
    (each : ∀ item ∈ items, (body item).Yields after)
    : Yields (items.mapM body) (fun outcomes => ∀ outcome ∈ outcomes, after outcome) := by
  induction items with
  | nil => exact yields_pure (List.forall_mem_nil _)
  | cons item items ih =>
      rw [List.mapM_cons]
      refine (each item List.mem_cons_self).bind (fun outcome here => ?_)
      refine (ih (fun other later => each other (List.mem_cons_of_mem item later))).bind ?_
      exact fun outcomes rest => yields_pure (List.forall_mem_cons.mpr ⟨here, rest⟩)

/-- A loop whose steps have several outcomes each. -/
theorem yields_flatten {body : α → Draws (List β)} {items : List α} {after : β → Prop}
    (each
      : ∀ item ∈ items, (body item).Yields (fun outcomes => ∀ outcome ∈ outcomes, after outcome))
    : Yields (do let outcomes ← items.mapM body; return outcomes.flatten)
        (fun outcomes => ∀ outcome ∈ outcomes, after outcome) :=
  (yields_mapM each).bind (fun _ all => yields_pure (List.forall_mem_flatten.mpr all))

/-- A sampled item is one of the items. -/
theorem yields_sample (items : List α) (nonempty : items ≠ [])
    : (sample items nonempty).Yields (fun item => item ∈ items) :=
  fun _ _ => List.get_mem items _

/-- So are all items of a larger sample, each of which was left over by those before. -/
theorem yields_sampleMany (count : Nat) (items : List α)
    : (sampleMany count items).Yields (fun sampled => ∀ item ∈ sampled, item ∈ items) := by
  induction count generalizing items with
  | zero => exact yields_pure (List.forall_mem_nil _)
  | succ count ih =>
      refine yields_bind (fun index => ?_)
      cases found : items[index]? with
      | none => exact yields_pure (List.forall_mem_nil _)
      | some item =>
          refine (ih (items.eraseIdx index)).bind (fun others within => yields_pure ?_)
          refine List.forall_mem_cons.mpr ⟨List.mem_of_getElem? found, ?_⟩
          exact fun other later => List.mem_of_mem_eraseIdx (within other later)

-----------------------------------------------------------------------------------------
-- What holds of every outcome under some sources
-----------------------------------------------------------------------------------------

/-- Every outcome under one of the sources satisfies `holds`. -/
def YieldsFrom (sources : Source → Prop) (program : Draws α) (holds : α → Prop) : Prop :=
  ∀ source, sources source → ∀ position, holds (program.value source position)

variable {sources : Source → Prop}

/-- What holds whatever is drawn holds for the draws of some sources. -/
theorem Yields.from (yields : program.Yields holds) : program.YieldsFrom sources holds :=
  fun source _ position => yields source position

theorem yieldsFrom_pure {outcome : α} (here : holds outcome)
    : YieldsFrom sources (pure outcome) holds :=
  fun _ _ _ => here

/-- What follows from the first outcome for each continuation holds of the whole program: the rule
for sequencing, with the intermediate fact that the continuation may use.
-/
theorem YieldsFrom.bind {next : α → Draws β} {after : β → Prop}
    (first : program.YieldsFrom sources holds)
    (second : ∀ outcome, holds outcome → (next outcome).YieldsFrom sources after)
    : YieldsFrom sources (program >>= next) after :=
  fun source known position =>
    second _ (first source known position) source known ((program.run source).run position).2

/-- The rule for loops that collect: what holds of the outcome for each item holds of all outcomes,
by induction on the items.
-/
theorem yieldsFrom_mapM {body : α → Draws β} {items : List α} {after : β → Prop}
    (each : ∀ item ∈ items, (body item).YieldsFrom sources after)
    : YieldsFrom sources (items.mapM body)
        (fun outcomes => ∀ outcome ∈ outcomes, after outcome) := by
  induction items with
  | nil => exact yieldsFrom_pure (List.forall_mem_nil _)
  | cons item items ih =>
      rw [List.mapM_cons]
      refine (each item List.mem_cons_self).bind (fun outcome here => ?_)
      refine (ih (fun other later => each other (List.mem_cons_of_mem item later))).bind ?_
      exact fun outcomes rest => yieldsFrom_pure (List.forall_mem_cons.mpr ⟨here, rest⟩)

/-- The same for loops each round of which collects a list. -/
theorem yieldsFrom_flatten {body : α → Draws (List β)} {items : List α} {after : β → Prop}
    (each
      : ∀ item ∈ items,
        (body item).YieldsFrom sources (fun outcomes => ∀ outcome ∈ outcomes, after outcome))
    : YieldsFrom sources (do let outcomes ← items.mapM body; return outcomes.flatten)
        (fun outcomes => ∀ outcome ∈ outcomes, after outcome) :=
  (yieldsFrom_mapM each).bind (fun _ all => yieldsFrom_pure (List.forall_mem_flatten.mpr all))

/-- A reading of the clock has what all readings of the sources have. -/
theorem yieldsFrom_current {holds : Int → Prop}
    (reads : ∀ source, sources source → ∀ position, holds (source.clock position))
    : current.YieldsFrom sources holds :=
  reads

/-- A number that is drawn between two bounds is between them. -/
theorem yields_between {low high : Nat} (ordered : low ≤ high)
    : (between low high).Yields (fun number => low ≤ number ∧ number ≤ high) := by
  intro source position
  have bounded : source.draw position % (high - low + 1) < high - low + 1 :=
    Nat.mod_lt _ (Nat.succ_pos _)
  have drawn : (between low high).value source position
      = low + source.draw position % (high - low + 1) := rfl
  omega

end Draws
end Sampling
