import Mathlib.Algebra.Group.Nat.Defs
import RewardDesk.Number.Binary64

/-!
# Counting with doubles

Up to `2 ^ 53` every whole number is a double, so that somebody who starts at zero and adds one
again and again makes no error (`Binary64.ofNat_add_one`, `Binary64.foldl_add_one`).

A whole number `n` is `n * 2 ^ 1074` units large. Its significand is `n` with so many zeros behind
it that it has 53 binary digits, and if `n` has no more than that itself, nothing is cut off
(`Binary64.nearest_shifted`): the double gives the units back (`Binary64.signedUnits_ofNat`). The
sum of two doubles is the double nearest to the sum of their units, and the double of a whole number
is the one nearest to its units.
-/

namespace RewardDesk
namespace Binary64

/-! ## Rounding nothing -/

/-- A quotient without a remainder is not rounded. -/
theorem roundHalfEven_mul (q : Nat) {den : Nat} (h : 0 < den) : roundHalfEven (q * den) den = q := by
  have hnone : ¬ (den < 2 * 0 ∨ 2 * 0 = den ∧ q % 2 = 1) := by omega
  rw [roundHalfEven, Nat.mul_mod_left, Nat.mul_div_left _ h]
  exact if_neg hnone

/-- Zeros behind a number are so many digits more. -/
theorem log2_mul_two_pow {n : Nat} (h : n ≠ 0) (k : Nat) : (n * 2 ^ k).log2 = n.log2 + k := by
  have hk : 0 < 2 ^ k := Nat.two_pow_pos k
  rw [Nat.log2_eq_iff (Nat.mul_ne_zero h (Nat.ne_of_gt hk)), Nat.pow_add, Nat.add_right_comm,
    Nat.pow_add]
  exact ⟨Nat.mul_le_mul_right _ (Nat.log2_self_le h),
    Nat.mul_lt_mul_of_pos_right Nat.lt_log2_self hk⟩

/-- The significand of a number with up to 53 digits: there are zeros behind it until it has 53. -/
theorem significand_bounds {n : Nat} (hpos : n ≠ 0) (h : n < 2 ^ 53) :
    2 ^ 52 ≤ n * 2 ^ (52 - n.log2) ∧ n * 2 ^ (52 - n.log2) < 2 ^ 53 := by
  have hlog : n.log2 ≤ 52 := Nat.le_of_lt_succ ((Nat.log2_lt hpos).2 h)
  have hlow := Nat.mul_le_mul_right (2 ^ (52 - n.log2)) (Nat.log2_self_le hpos)
  have hhigh := Nat.mul_lt_mul_of_pos_right (@Nat.lt_log2_self n) (Nat.two_pow_pos (52 - n.log2))
  rw [← Nat.pow_add] at hlow hhigh
  rw [show n.log2 + (52 - n.log2) = 52 by omega] at hlow
  rw [show n.log2 + 1 + (52 - n.log2) = 53 by omega] at hhigh
  exact ⟨hlow, hhigh⟩

/-- A number with up to 53 digits, and zeros behind it: its double has this rank. -/
theorem nearest_shifted {n e : Nat} (hpos : n ≠ 0) (h : n < 2 ^ 53) :
    nearest (n * 2 ^ (e + 52)) 1 = (n.log2 + e) * 2 ^ 52 + n * 2 ^ (52 - n.log2) := by
  have hlog : n.log2 ≤ 52 := Nat.le_of_lt_succ ((Nat.log2_lt hpos).2 h)
  have hshift : (n * 2 ^ (e + 52) / 1).log2 - 52 = n.log2 + e := by
    rw [Nat.div_one, log2_mul_two_pow hpos]
    omega
  have hwhole : n * 2 ^ (e + 52) = n * 2 ^ (52 - n.log2) * 2 ^ (n.log2 + e) := by
    rw [Nat.mul_assoc, ← Nat.pow_add]
    congr 2
    omega
  simp only [nearest, hshift, Nat.pow_eq, Nat.one_mul]
  rw [hwhole, roundHalfEven_mul _ (Nat.two_pow_pos _)]

/-! ## Whole numbers -/

/-- The double with a significand of 53 digits at some place. -/
theorem units_ofRank {shift q : Nat} (hshift : shift < 2046) (hlow : 2 ^ 52 ≤ q) (hhigh : q < 2 ^ 53) :
    (ofRank false (shift * 2 ^ 52 + q)).signedUnits = (q * 2 ^ shift : Nat) := by
  have hbits : (ofRank false (shift * 2 ^ 52 + q)).bits.toNat = shift * 2 ^ 52 + q := by
    refine UInt64.toNat_ofNat_of_lt' (show shift * 2 ^ 52 + q < 2 ^ 64 from ?_)
    omega
  have hrank : (ofRank false (shift * 2 ^ 52 + q)).rank = shift * 2 ^ 52 + q := by
    rw [rank, hbits, Nat.pow_eq]
    omega
  have hscale : (ofRank false (shift * 2 ^ 52 + q)).scale = shift := by
    rw [scale, hrank, Nat.pow_eq]
    omega
  have hsign : (ofRank false (shift * 2 ^ 52 + q)).isNegative = false := by
    rw [isNegative, hbits, Nat.pow_eq, decide_eq_false_iff_not]
    omega
  rw [signedUnits, hsign, units, significand, hscale, hrank, Nat.pow_eq, Nat.pow_eq,
    Nat.add_sub_cancel_left]
  rfl

/-- The double of a whole number is the one nearest to its units. Their exponent is kept as a
variable, so that the power is never worked out. -/
theorem ofNat_eq {e : Nat} (he : e = 1074) (n : Nat) :
    ofNat n = ofRank false (min (nearest (n * 2 ^ e) 1) infinityRank) := by
  have hdecimal : nearestDecimal n 0 = nearest (n * Nat.pow 2 1074) 1 := by
    by_cases hn : n = 0
    · have hzero (m : Nat) : nearestDecimal 0 0 = nearest (0 * m) 1 := by
        rw [Nat.zero_mul]
        rfl
      subst hn
      apply hzero
    · have hlarge : ¬ (310 : Int) ≤ 0 := by decide
      have hsmall : ¬ (0 : Int) < -(n.log2 + 350) := by omega
      have hone : n * Nat.pow 10 (Int.toNat 0) = n := Nat.mul_one n
      rw [nearestDecimal, if_neg hn, if_neg hlarge, if_neg hsmall, hone]
      rfl
  rw [ofNat, ofDecimal, hdecimal, ← he, Nat.pow_eq]

/-- The units of a whole number are what they should be. -/
theorem signedUnits_ofNat {e n : Nat} (he : e = 1074) (h : n < 2 ^ 53) :
    (ofNat n).signedUnits = (n * 2 ^ e : Nat) := by
  by_cases hn : n = 0
  · subst hn
    rw [Nat.zero_mul]
    rfl
  · have hlog : n.log2 ≤ 52 := Nat.le_of_lt_succ ((Nat.log2_lt hn).2 h)
    obtain ⟨hlow, hhigh⟩ := significand_bounds hn h
    obtain ⟨place, rfl⟩ : ∃ place, e = place + 52 := ⟨e - 52, by omega⟩
    have hfinite : (n.log2 + place) * 2 ^ 52 + n * 2 ^ (52 - n.log2) ≤ infinityRank := by
      rw [infinityRank, Nat.pow_eq]
      omega
    have hexponent : 52 - n.log2 + (n.log2 + place) = place + 52 := by omega
    rw [ofNat_eq he, nearest_shifted hn h, Nat.min_eq_left hfinite,
      units_ofRank (by omega) hlow hhigh, Nat.mul_assoc, ← Nat.pow_add, hexponent]

/-- The double of a whole number that ranks lowest is zero itself, with the sign of zero. -/
theorem ofNat_of_rank {n : Nat} (h : (ofNat n).rank = 0) : ofNat n = zero false := by
  rw [ofNat, ofDecimal] at h ⊢
  have hle : min (nearestDecimal n 0) infinityRank ≤ infinityRank := Nat.min_le_right ..
  generalize min (nearestDecimal n 0) infinityRank = r at h hle ⊢
  have hlt : r < 2 ^ 63 := Nat.lt_of_le_of_lt hle (by decide)
  have hrank : (ofRank false r).rank = r := by
    have hbits : (ofRank false r).bits.toNat = r :=
      UInt64.toNat_ofNat_of_lt' (Nat.lt_trans hlt (by decide))
    rw [rank, hbits]
    exact Nat.mod_eq_of_lt hlt
  rw [← hrank, h]
  rfl

/-! ## Adding one -/

/-- One more is the next number. -/
theorem ofNat_add_one {n : Nat} (h : n < 2 ^ 53) : (ofNat n).add (ofNat 1) = ofNat (n + 1) := by
  obtain ⟨e, he⟩ : ∃ e, e = 1074 := ⟨_, rfl⟩
  have hsum : (ofNat n).signedUnits + (ofNat 1).signedUnits = ((n + 1) * 2 ^ e : Nat) := by
    rw [signedUnits_ofNat he h, signedUnits_ofNat he (by decide), ← Int.natCast_add, ← Nat.add_mul]
  have hsign : ¬ (((n + 1) * 2 ^ e : Nat) : Int) < 0 := Int.not_lt.2 (Int.natCast_nonneg _)
  rw [add, hsum, ofSignedUnits, decide_eq_false hsign, Int.natAbs_natCast, ← ofNat_eq he]

/-- Somebody who starts at zero and adds one so many times has come to that number. -/
theorem foldl_add_one {n : Nat} (h : n ≤ 2 ^ 53) :
    (List.replicate n (ofNat 1)).foldl add (zero false) = ofNat n := by
  induction n with
  | zero => rfl
  | succ n ih =>
    rw [List.replicate_succ', List.foldl_append, ih (Nat.le_of_succ_le h)]
    exact ofNat_add_one h

end Binary64
end RewardDesk
