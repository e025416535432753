import Mathlib.Data.List.Sort
import RewardDesk.Proofs.Store.Filed
import RewardDesk.Proofs.Time.Order

/-!
# The order of a listing

A listing shows the newest records first, and of two records of one moment the one with the greater
id (`Listing.Newer`). No record comes before itself, so to list some records in this order is to
have each of them once: what a listing is follows from what is meant to be in it
(`Listing.Newest.unique`). To sort records by `newerFirst` is to list them, if they have different
ids (`Listing.newest_mergeSort`).
-/

namespace RewardDesk

namespace Listing

variable {α : Type} [Recorded α]

/-- Was `a` created later than `b`, or at the same time and has the greater id? -/
def Newer (a b : α) : Prop :=
  Recorded.createdAt b < Recorded.createdAt a ∨
    Recorded.createdAt b = Recorded.createdAt a ∧ Recorded.id b < Recorded.id a

instance (a b : α) : Decidable (Newer a b) :=
  inferInstanceAs (Decidable (Recorded.createdAt b < Recorded.createdAt a ∨
    Recorded.createdAt b = Recorded.createdAt a ∧ Recorded.id b < Recorded.id a))

/-- Records by age: the oldest first, and of the same age by id. -/
def byAge : α → α → Ordering := compareLex (compareOn Recorded.createdAt) (compareOn Recorded.id)

instance : Std.TransCmp (byAge : α → α → Ordering) :=
  inferInstanceAs (Std.TransCmp (compareLex (compareOn Recorded.createdAt) (compareOn Recorded.id)))

theorem byAge_eq_lt {a b : α} : byAge a b = .lt ↔ Newer b a := by
  show (compare (Recorded.createdAt a) (Recorded.createdAt b)).then
    (compare (Recorded.id a) (Recorded.id b)) = .lt ↔ _
  rw [Ordering.then_eq_lt, Std.LawfulEqOrd.compare_eq_iff_eq, Instant.compare_eq_lt,
    RewardDesk.compare_eq_lt]
  exact Iff.rfl

theorem id_eq_of_byAge {a b : α} (h : byAge a b = .eq) : Recorded.id a = Recorded.id b :=
  Std.LawfulEqOrd.eq_of_compare (Ordering.then_eq_eq.1 h).2

theorem Newer.asymm {a b : α} (h : Newer a b) : ¬ Newer b a := by
  rw [← byAge_eq_lt] at h ⊢
  rw [Std.OrientedCmp.gt_of_lt h]
  exact nofun

instance : Std.Irrefl (Newer : α → α → Prop) := ⟨fun _ h => h.asymm h⟩

instance : Std.Antisymm (Newer : α → α → Prop) := ⟨fun _ _ hab hba => absurd hba hab.asymm⟩

/-! ### Sorting by `newerFirst` -/

theorem newerFirst_trans (a b c : α) (hab : newerFirst a b) (hbc : newerFirst b c) :
    newerFirst a c :=
  @Std.TransCmp.isLE_trans α byAge _ c b a hbc hab

theorem newerFirst_total (a b : α) : newerFirst a b || newerFirst b a := by
  show (byAge b a).isLE || (byAge a b).isLE
  rw [@Std.OrientedCmp.eq_swap α byAge _ a b]
  cases byAge b a <;> rfl

theorem newer_of_newerFirst {a b : α} (h : newerFirst a b) (hne : Recorded.id a ≠ Recorded.id b) :
    Newer a b := by
  have hle : (byAge b a).isLE := h
  rw [← byAge_eq_lt]
  cases hage : byAge b a with
  | lt => rfl
  | eq => exact absurd (id_eq_of_byAge hage).symm hne
  | gt => rw [hage] at hle; exact absurd hle nofun

/-- The records that are meant, and no others, the newest first. -/
structure Newest (meant : α → Prop) (listing : List α) : Prop where
  mem_iff : ∀ a, a ∈ listing ↔ meant a
  sorted : listing.Pairwise Newer

variable {meant : α → Prop} {records listing : List α}

/-- There is only one way to list records. -/
theorem Newest.unique {other : List α} (h : Newest meant listing) (hother : Newest meant other) :
    other = listing :=
  hother.sorted.eq_of_mem_iff h.sorted fun a => (hother.mem_iff a).trans (h.mem_iff a).symm

/-- Records with different ids are listed by sorting them. -/
theorem newest_mergeSort (h : records.Pairwise fun a b => Recorded.id a < Recorded.id b)
    (hmem : ∀ a, a ∈ records ↔ meant a) : Newest meant (records.mergeSort newerFirst) where
  mem_iff a := List.mem_mergeSort.trans (hmem a)
  sorted := by
    have hsorted := List.pairwise_mergeSort newerFirst_trans newerFirst_total records
    have hids : (records.mergeSort newerFirst).Pairwise fun a b => Recorded.id a ≠ Recorded.id b := by
      refine (h.imp fun hlt heq => ?_).perm (List.mergeSort_perm ..).symm fun hne => hne.symm
      exact String.lt_irrefl _ (heq ▸ hlt)
    exact hsorted.imp₂ (fun _ _ => newer_of_newerFirst) hids

end Listing
end RewardDesk
