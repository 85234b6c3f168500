import LibraryManagement.Relational.Query
import Mathlib.Order.Basic

/-! `ORDER BY score DESC LIMIT limit`: the rows with the highest scores. Which of several rows with
one score are among them is up to the database; the scores are not.
-/

namespace Relational

variable {α : Type u} {β : Type v} [LinearOrder β]

/-- A selection of rows of the highest scores, highest first. -/
structure Ranks (score : α → β) (limit : Nat) (candidates ranking : List α) : Prop where
  subset : ranking ⊆ candidates
  distinct : ranking.Nodup
  ordered : ranking.Pairwise (fun higher lower => score lower ≤ score higher)
  length : ranking.length = min limit candidates.length
  best
    : ∀ other ∈ candidates, other ∉ ranking → ∀ chosen ∈ ranking, score other ≤ score chosen

/-- The order of `ORDER BY score DESC`. -/
abbrev higher (score : α → β) (first second : α) : Prop := score second ≤ score first

instance (score : α → β) : Std.Total (higher score) where
  total first second := le_total (score second) (score first)

instance (score : α → β) : IsTrans α (higher score) where
  trans _ _ _ hf hs := le_trans hs hf

/-- The query selects such rows, whatever the order of ties: what is taken comes before what is
dropped.
-/
theorem ranks_take_orderBy (score : α → β) (tie : α → Nat) (limit : Nat) {candidates : List α}
    (distinct : candidates.Nodup)
    : Ranks score limit candidates ((orderBy (higher score) tie candidates).take limit) where
  subset _ selected := mem_orderBy.mp (List.mem_of_mem_take selected)
  distinct := ((orderBy_perm _ _ _).nodup_iff.mpr distinct).sublist (List.take_sublist _ _)
  ordered := (orderBy_pairwise (higher score) tie candidates).sublist (List.take_sublist _ _)
  length := by rw [List.length_take, (orderBy_perm _ _ _).length_eq]
  best := by
    intro other member left chosen selected
    have split := List.take_append_drop limit (orderBy (higher score) tie candidates)
    have ordered := orderBy_pairwise (higher score) tie candidates
    rw [← split] at ordered
    have listed : other ∈ orderBy (higher score) tie candidates := mem_orderBy.mpr member
    rw [← split] at listed
    have dropped := (List.mem_append.mp listed).resolve_left left
    exact (List.pairwise_append.mp ordered).2.2 chosen selected other dropped

/-- A ranking of rows ranks what they stand for, where scores agree and no two rows stand for the
same.
-/
theorem Ranks.map {γ : Type w} {score : α → β} {score' : γ → β} {limit : Nat}
    {candidates ranking : List α} (ranks : Ranks score limit candidates ranking) {f : α → γ}
    (same : ∀ row ∈ candidates, score' (f row) = score row) (distinct : (candidates.map f).Nodup)
    : Ranks score' limit (candidates.map f) (ranking.map f) where
  subset := List.map_subset f ranks.subset
  distinct := by
    refine ranks.distinct.map_on (fun first hf second hs equal => ?_)
    exact List.inj_on_of_nodup_map distinct (ranks.subset hf) (ranks.subset hs) equal
  ordered := by
    refine List.pairwise_map.mpr (ranks.ordered.imp_of_mem ?_)
    intro high low hh hl ordered
    rwa [same high (ranks.subset hh), same low (ranks.subset hl)]
  length := by rw [List.length_map, List.length_map, ranks.length]
  best := by
    intro other member left chosen selected
    obtain ⟨row, listed, rfl⟩ := List.mem_map.mp member
    obtain ⟨best, ranked, rfl⟩ := List.mem_map.mp selected
    rw [same row listed, same best (ranks.subset ranked)]
    exact ranks.best row listed (fun taken => left (List.mem_map_of_mem taken)) best ranked

/-- Scores that never rise determine a list up to permutation. -/
theorem map_score_eq {score : α → β} {first second : List α} (same : first.Perm second)
    (hf : first.Pairwise (higher score)) (hs : second.Pairwise (higher score))
    : first.map score = second.map score := by
  have descends {rows : List α} (ordered : rows.Pairwise (higher score))
      : (rows.map score).Pairwise (fun high low => low ≤ high) :=
    List.pairwise_map.mpr ordered
  refine List.Perm.eq_of_pairwise ?_ (descends hf) (descends hs) (same.map score)
  exact fun _ _ _ _ forth back => le_antisymm back forth

/-- A ranking goes on with the other rows in the order of their scores, which makes it the front of
a whole list.
-/
theorem Ranks.exists_append [DecidableEq α] {score : α → β} {limit : Nat}
    {candidates ranking : List α} (ranks : Ranks score limit candidates ranking)
    (distinct : candidates.Nodup)
    : ∃ rest, (ranking ++ rest).Perm candidates ∧ (ranking ++ rest).Pairwise (higher score)
        ∧ (ranking ++ rest).take limit = ranking := by
  let others := candidates.filter (fun other => other ∉ ranking)
  let rest := others.insertionSort (higher score)
  have sorted : rest.Perm others := List.perm_insertionSort _ _
  have perm : (ranking ++ rest).Perm candidates := by
    refine (List.perm_ext_iff_of_nodup ?_ distinct).mpr (fun row => ?_)
    · refine List.Nodup.append ranks.distinct (sorted.nodup_iff.mpr (distinct.filter _)) ?_
      intro row chosen other
      simpa [chosen] using (List.mem_filter.mp (sorted.mem_iff.mp other)).2
    · rw [List.mem_append, sorted.mem_iff, List.mem_filter, decide_eq_true_iff]
      constructor
      · rintro (chosen | ⟨member, _⟩)
        · exact ranks.subset chosen
        · exact member
      · intro member
        by_cases chosen : row ∈ ranking
        · exact Or.inl chosen
        · exact Or.inr ⟨member, chosen⟩
  refine ⟨rest, perm, ?_, ?_⟩
  · refine List.pairwise_append.mpr ⟨ranks.ordered, List.pairwise_insertionSort _ _, ?_⟩
    intro chosen selected other left
    obtain ⟨member, absent⟩ := List.mem_filter.mp (sorted.mem_iff.mp left)
    exact ranks.best other member (by simpa using absent) chosen selected
  · have total := perm.length_eq
    have taken := ranks.length
    rw [List.length_append] at total
    rcases Nat.le_total limit candidates.length with enough | few
    · rw [Nat.min_eq_left enough] at taken
      exact List.take_left' taken
    · rw [Nat.min_eq_right few] at taken
      have none : rest = [] := List.eq_nil_of_length_eq_zero (by omega)
      rw [none, List.append_nil, List.take_of_length_le (by omega)]

/-- Two rankings of the same rows have the same scores. -/
theorem Ranks.scores_eq {score : α → β} {limit : Nat} {candidates first second : List α}
    (hf : Ranks score limit candidates first) (hs : Ranks score limit candidates second)
    (distinct : candidates.Nodup)
    : first.map score = second.map score := by
  classical
  obtain ⟨rest, perm, ordered, taken⟩ := hf.exists_append distinct
  obtain ⟨rest', perm', ordered', taken'⟩ := hs.exists_append distinct
  have scores := map_score_eq (perm.trans perm'.symm) ordered ordered'
  rw [← taken, ← taken', List.map_take, List.map_take, scores]

/-- The list shows a ranking, with the scores that every ranking has. -/
def ShowsRanking {γ : Type w} (score : α → β) (limit : Nat) (candidates : List α) (render : α → γ)
    (shown : List γ)
    : Prop :=
  ∃ ranking, Ranks score limit candidates ranking ∧ shown = ranking.map render
    ∧ ∀ other, Ranks score limit candidates other → other.map score = ranking.map score

theorem Ranks.shows {γ : Type w} {score : α → β} {limit : Nat} {candidates ranking : List α}
    (ranks : Ranks score limit candidates ranking) (distinct : candidates.Nodup)
    {render : α → γ} {shown : List γ} (rendered : shown = ranking.map render)
    : ShowsRanking score limit candidates render shown :=
  ⟨ranking, ranks, rendered, fun _ other => other.scores_eq ranks distinct⟩

end Relational
