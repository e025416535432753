import Mathlib.Algebra.Order.Floor.Div
import RewardDesk.Session.World
import RewardDesk.Store.Basic

/-!
# Leafing through pages

Somebody reads a page, then the one that it leads to, and so on, until a page leads to no other
(`World.Leafed`). What is read that way is determined by where it began (`World.Leafed.unique`).
-/

namespace RewardDesk

/-! ## How many pages there are -/

namespace Paging

variable {n k m : Nat}

/-- There is a page behind `m` pages if and only if these do not reach the end. -/
theorem lt_ceilDiv_iff (hk : 0 < k) : m < n ⌈/⌉ k ↔ m * k < n := by
  rw [← Nat.not_le, ceilDiv_le_iff_le_smul hk, Nat.not_le, smul_eq_mul, Nat.mul_comm]

/-- What a full page leaves makes one page less. -/
theorem max_ceilDiv_add (hk : 0 < k) (hn : 0 < n) :
    max 1 ((k + n) ⌈/⌉ k) = max 1 (n ⌈/⌉ k) + 1 := by
  have hadd : (k + n) ⌈/⌉ k = n ⌈/⌉ k + 1 := by
    rw [Nat.ceilDiv_eq_add_pred_div, Nat.ceilDiv_eq_add_pred_div, ← Nat.add_div_right _ hk]
    congr 1
    omega
  have hpos : 0 < n ⌈/⌉ k := by rwa [lt_ceilDiv_iff hk, Nat.zero_mul]
  omega

end Paging

/-! ## Reading one page after the other -/

namespace World

variable {κ π : Type} {supply : Supply} {read : κ → Desk π} {next : π → Option κ}

/-- The pages that are read from a spot on, where `next` says to which spot a page leads. -/
inductive Leafed (supply : Supply) (read : κ → Desk π) (next : π → Option κ) :
    World Store → κ → List π → Prop
  | last {w w' : World Store} {spot : κ} {page : π}
      (hread : run .memory supply (read spot).run w = (.ok page, w')) (hlast : next page = none) :
      Leafed supply read next w spot [page]
  | turn {w w' : World Store} {spot spot' : κ} {page : π} {pages : List π}
      (hread : run .memory supply (read spot).run w = (.ok page, w'))
      (hnext : next page = some spot') (hrest : Leafed supply read next w' spot' pages) :
      Leafed supply read next w spot (page :: pages)

variable {w : World Store} {spot : κ} {pages : List π}

theorem Leafed.unique {others : List π} (h : Leafed supply read next w spot pages)
    (hothers : Leafed supply read next w spot others) : others = pages := by
  induction h generalizing others with
  | last hread hlast =>
    cases hothers with
    | last hread' _ =>
      rw [hread] at hread'
      cases hread'
      rfl
    | turn hread' hnext _ =>
      rw [hread] at hread'
      cases hread'
      rw [hlast] at hnext
      exact absurd hnext nofun
  | turn hread hnext _ ih =>
    cases hothers with
    | last hread' hlast =>
      rw [hread] at hread'
      cases hread'
      rw [hlast] at hnext
      exact absurd hnext nofun
    | turn hread' hnext' hrest =>
      rw [hread] at hread'
      cases hread'
      rw [hnext] at hnext'
      cases hnext'
      rw [ih hrest]

end World
end RewardDesk
