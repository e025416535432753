/-!
# Double-precision numbers, bit by bit

A `Binary64` is the 64-bit word of a double-precision number. Magnitudes are
measured in units of 2⁻¹⁰⁷⁴, the smallest positive double, so that every finite
one is a natural number (`Binary64.units`) and every rounding is a quotient of
naturals (`Binary64.nearest`). Nothing here passes through machine arithmetic,
so each result can be computed and argued about inside the logic.
-/

namespace RewardDesk

/-- A double-precision number, given by its 64-bit word. -/
structure Binary64 where
  bits : UInt64
  deriving DecidableEq, Repr, Inhabited

namespace Binary64

/-! ### Fields of the word -/

/-- The word without its sign, as a natural number. It grows with the magnitude. -/
def rank (x : Binary64) : Nat := x.bits.toNat % Nat.pow 2 63

/-- Is the sign bit set? -/
def isNegative (x : Binary64) : Bool := Nat.pow 2 63 ≤ x.bits.toNat

/-- The rank of infinity: every finite magnitude ranks below it, every NaN above. -/
def infinityRank : Nat := 2047 * Nat.pow 2 52

/-- Neither infinite nor NaN. -/
def isFinite (x : Binary64) : Bool := x.rank < infinityRank

/-- Is this one of the words that stand for no number? -/
def isNaN (x : Binary64) : Bool := infinityRank < x.rank

/-- The number with the given sign and rank. -/
def ofRank (negative : Bool) (rank : Nat) : Binary64 :=
  ⟨UInt64.ofNat (if negative then Nat.pow 2 63 + rank else rank)⟩

def zero (negative : Bool) : Binary64 := ofRank negative 0

def infinity (negative : Bool) : Binary64 := ofRank negative infinityRank

/-- The quiet NaN with an empty payload. -/
def nan : Binary64 := ofRank false (infinityRank + Nat.pow 2 51)

/-- The spacing of the doubles around `x` is `2 ^ x.scale` units. -/
def scale (x : Binary64) : Nat := x.rank / Nat.pow 2 52 - 1

/-- The integer significand: `x` is `x.significand * 2 ^ x.scale` units large. -/
def significand (x : Binary64) : Nat := x.rank - x.scale * Nat.pow 2 52

/-- The magnitude of a finite number in units of 2⁻¹⁰⁷⁴. -/
def units (x : Binary64) : Nat := x.significand * Nat.pow 2 x.scale

/-! ### Rounding -/

/-- `num / den` rounded to the nearest natural number, a half to the even neighbour. -/
def roundHalfEven (num den : Nat) : Nat :=
  let quotient := num / den
  let twice := 2 * (num % den)
  if den < twice ∨ (twice = den ∧ quotient % 2 = 1) then quotient + 1 else quotient

/-- The rank of the double nearest to `num / den` units, ties to the even significand.
Ranks from `infinityRank` on mean that the quotient is too large for a finite double. -/
def nearest (num den : Nat) : Nat :=
  let shift := (num / den).log2 - 52
  shift * Nat.pow 2 52 + roundHalfEven num (den * Nat.pow 2 shift)

/-- The rank of the double nearest to `m * 10 ^ e`. Exponents beyond the range of doubles are
settled first, so that no huge power of ten is ever formed. -/
def nearestDecimal (m : Nat) (e : Int) : Nat :=
  if m = 0 then 0
  else if 310 ≤ e then infinityRank
  else if e < -(m.log2 + 350) then 0
  else nearest (m * Nat.pow 10 e.toNat * Nat.pow 2 1074) (Nat.pow 10 (-e).toNat)

/-- The finite or infinite double nearest to `± m * 10 ^ e`. -/
def ofDecimal (negative : Bool) (m : Nat) (e : Int) : Binary64 :=
  ofRank negative (min (nearestDecimal m e) infinityRank)

def ofNat (n : Nat) : Binary64 := ofDecimal false n 0

/-- The product of two magnitudes given by rank, rounded once. -/
def mulRank (a b : Nat) : Nat :=
  nearest ((ofRank false a).units * (ofRank false b).units) (Nat.pow 2 1074)

/-- The quotient of two magnitudes given by rank, rounded once. -/
def divRank (a b : Nat) : Nat :=
  nearest ((ofRank false a).units * Nat.pow 2 1074) (ofRank false b).units

/-- The signed value of a finite number in units of 2⁻¹⁰⁷⁴. -/
def signedUnits (x : Binary64) : Int := if x.isNegative then -x.units else x.units

/-- The double nearest to a signed number of units; an exact zero is positive. -/
def ofSignedUnits (n : Int) : Binary64 :=
  ofRank (n < 0) (min (nearest n.natAbs 1) infinityRank)

/-- The sum of two finite numbers, rounded once. -/
def add (x y : Binary64) : Binary64 := ofSignedUnits (x.signedUnits + y.signedUnits)

/-- The difference of two finite numbers, rounded once. -/
def sub (x y : Binary64) : Binary64 := ofSignedUnits (x.signedUnits - y.signedUnits)

/-! ### Decimal text read in two steps

A reader of unsigned digits that keeps at most 64 bits of them and scales the result by a power of
ten in one rounded step. For up to fifteen digits and small exponents this is the nearest double;
beyond that it may differ from it in the last place. -/

/-- Scale the magnitude of rank `r` by `10 ^ e`, where the power of ten is itself rounded.
Below 10⁻³⁰⁸ it divides in several steps; `none` when the result is too large. -/
def scaleByTen (r : Nat) (e : Int) : Option Nat :=
  if e.natAbs ≤ 308 then
    let power := nearestDecimal 1 e.natAbs
    if 0 ≤ e then
      let product := mulRank r power
      if product < infinityRank then some product else none
    else some (divRank r power)
  else if r = 0 then some 0
  else if 0 ≤ e then none
  else scaleByTen (divRank r (nearestDecimal 1 308)) (e + 308)
termination_by e.natAbs
decreasing_by omega

/-- The number written with the digits of `m` and the exponent `e`, read in two steps. -/
def ofDigits? (negative : Bool) (m : Nat) (e : Int) : Option Binary64 :=
  (scaleByTen (nearestDecimal m 0) e).map (ofRank negative)

end Binary64

end RewardDesk
