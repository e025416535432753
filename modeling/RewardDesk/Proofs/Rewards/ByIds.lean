import Mathlib.Data.List.Sort
import RewardDesk.Proofs.Links.Book

/-!
# Rewards by their ids

To look rewards up by a list of ids is to look up a set: what is shown are the stored rewards of
that set in the order in which the table holds them (`Store.rewardsById_eq_filter`). Repetitions,
unknown ids and the order of the list make no difference.
-/

namespace RewardDesk.Store

instance : Std.Irrefl fun a b : Reward => Recorded.id a < Recorded.id b :=
  ⟨fun r => String.lt_irrefl (Recorded.id r)⟩

/-- What is shown is what is stored under one of the ids. -/
theorem rewardsById_eq_filter {s : Store} (h : s.rewards.Filed) (ids : List String) :
    s.rewardsById ids = s.rewards.values.filter fun r => r.id ∈ ids := by
  have hshown := (s.once_rewardsById ids).ascending
  have hstored := h.ascending.filter fun r => decide (r.id ∈ ids)
  refine hshown.eq_of_mem_iff hstored fun r => ?_
  rw [mem_rewardsById h, List.mem_filter, h.mem_values, decide_eq_true_iff, And.comm]
  exact Iff.rfl

/-- In every store that statements make, a look-up of rewards by a list of ids shows the stored
rewards whose ids are in the list and no others, strictly ascending by id and so each once. Any
other list of the same ids gives the same. -/
theorem rewards_by_ids (statements : List Statement) (ids : List String) :
    let s := after statements
    let shown : List String → List Reward := fun ids => (s.execute (.getRewards ids)).1
    (∀ r, r ∈ shown ids ↔ r ∈ s.rewards.values ∧ r.id ∈ ids) ∧
    (shown ids).Pairwise (fun a b => a.id < b.id) ∧
    ∀ others, (∀ id, id ∈ others ↔ id ∈ ids) → shown others = shown ids := by
  intro s shown
  have hfiled : s.rewards.Filed := (filed_after statements).rewards
  have hshown : ∀ ids, shown ids = s.rewards.values.filter fun r => r.id ∈ ids :=
    rewardsById_eq_filter hfiled
  refine ⟨fun r => ?_, (s.once_rewardsById ids).ascending, fun others hsame => ?_⟩
  · rw [hshown, List.mem_filter, decide_eq_true_iff]
  · simp only [hshown, hsame]

/-- Two rewards that are created, the one with the greater id first. -/
def creations : List Statement :=
  ["s", "r"].map fun id => .createReward ⟨id, "R", none, .badge "b", default, default⟩

/-- A list with repetitions and an id that nobody knows shows the two, the lesser id first, and so
does a list of the same ids without repetitions. -/
theorem rewards_by_ids_of_creations :
    let s := after creations
    let shown : List String → List Reward := fun ids => (s.execute (.getRewards ids)).1
    (∀ id, id ∈ ["?", "r", "s"] ↔ id ∈ ["s", "r", "?", "s", "r"]) ∧
      (shown ["s", "r", "?", "s", "r"]).map (·.id) = ["r", "s"] ∧
      shown ["?", "r", "s"] = shown ["s", "r", "?", "s", "r"] := by
  intro s shown
  have hsame : ∀ id, id ∈ ["?", "r", "s"] ↔ id ∈ ["s", "r", "?", "s", "r"] := by
    intro id
    simp only [List.mem_cons, List.not_mem_nil, or_false]
    tauto
  have hshown : shown ["s", "r", "?", "s", "r"] =
      s.rewards.values.filter fun r => r.id ∈ ["s", "r", "?", "s", "r"] :=
    rewardsById_eq_filter (filed_after creations).rewards _
  obtain ⟨-, -, hothers⟩ := rewards_by_ids creations ["s", "r", "?", "s", "r"]
  refine ⟨hsame, ?_, hothers _ hsame⟩
  rw [hshown]
  decide +kernel

end RewardDesk.Store
