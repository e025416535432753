import RewardDesk.Time.Instant

/-!
# The order of time

Instants are ordered by second and nanosecond, so the order is total and two instants that compare
alike are the same one.
-/

namespace RewardDesk.Instant

instance : Std.TransOrd Instant :=
  inferInstanceAs (Std.TransCmp (compareLex (compareOn second) (compareOn nano)))

instance : Std.LawfulEqOrd Instant where
  eq_of_compare := by
    intro a b h
    obtain ⟨hsecond, hnano⟩ := Ordering.then_eq_eq.1
      (h : (compare a.second b.second).then (compare a.nano b.nano) = .eq)
    have hsecond : a.second = b.second := Std.LawfulEqOrd.eq_of_compare hsecond
    have hnano : a.nano = b.nano := Std.LawfulEqOrd.eq_of_compare hnano
    cases a
    cases b
    simp_all

variable {a b : Instant}

theorem compare_eq_lt : compare a b = .lt ↔ a < b := Iff.rfl

theorem le_refl (t : Instant) : t ≤ t := Std.ReflCmp.isLE_rfl

theorem not_lt : ¬ b < a ↔ a ≤ b := by
  show ¬ compare b a = .lt ↔ (compare a b).isLE
  rw [@Std.OrientedCmp.eq_swap Instant compare _ a b]
  cases compare b a <;> simp

end RewardDesk.Instant
