import RewardDesk.Number.Binary64

/-!
# The shortest decimal that reads back

A finite double stands for the whole interval of reals that round to it. `Binary64.shortest`
walks the decimal grids from coarse to fine, asks whether one of the double's two neighbours on the
grid lies in that interval, and takes the first hit; of two hits on one grid the nearer wins.
How such a decimal is laid out on paper is a `DecimalLayout`.
-/

namespace RewardDesk

/-- A decimal number `digits * 10 ^ exponent`. -/
structure Decimal where
  digits : Nat
  exponent : Int
  deriving DecidableEq, Repr

namespace Decimal

/-- The decimal text of the digits. -/
def text (d : Decimal) : List Char := Nat.toDigits 10 d.digits

/-- The exponent of ten of the leading digit. -/
def leading (d : Decimal) : Int := d.exponent + (d.text.length : Int) - 1

/-- Drop trailing zeros of the digits, at most `fuel` of them. -/
def trim : Nat → Decimal → Decimal
  | 0, d => d
  | fuel + 1, d =>
    if d.digits ≠ 0 ∧ d.digits % 10 = 0 then trim fuel ⟨d.digits / 10, d.exponent + 1⟩ else d

end Decimal

namespace Binary64

/-- Does `c * 10 ^ k` round to the positive finite `x`? The interval reaches half-way to the
neighbours, half as far below a power of two, and its ends belong to it for an even significand. -/
def covers (x : Binary64) (c : Nat) (k : Int) : Bool :=
  let unit := Nat.pow 2 x.scale
  let narrow := x.significand = Nat.pow 2 52 ∧ 0 < x.scale
  -- everything in quarters of a unit of 2⁻¹⁰⁷⁴, times the denominator of the grid
  let den := Nat.pow 10 (-k).toNat
  let point := 4 * c * Nat.pow 10 k.toNat * Nat.pow 2 1074
  let centre := 4 * x.units * den
  let low := centre - (if narrow then unit else 2 * unit) * den
  let high := centre + 2 * unit * den
  if x.significand % 2 = 0 then low ≤ point ∧ point ≤ high else low < point ∧ point < high

/-- How far `c * 10 ^ k` is from `x`, in units times the denominator of the grid. -/
def gap (x : Binary64) (c : Nat) (k : Int) : Nat :=
  let point := c * Nat.pow 10 k.toNat * Nat.pow 2 1074
  let centre := x.units * Nat.pow 10 (-k).toNat
  (point - centre) + (centre - point)

/-- The better of the two neighbours of `x` on the grid of multiples of `10 ^ k`, if one of them
rounds to `x`. -/
def onGrid (x : Binary64) (k : Int) : Option Decimal :=
  let below := x.units * Nat.pow 10 (-k).toNat / (Nat.pow 2 1074 * Nat.pow 10 k.toNat)
  let above := below + 1
  match x.covers below k, x.covers above k with
  | true, true =>
    let toBelow := x.gap below k
    let toAbove := x.gap above k
    if toBelow < toAbove ∨ (toBelow = toAbove ∧ below % 2 = 0)
    then some ⟨below, k⟩ else some ⟨above, k⟩
  | true, false => some ⟨below, k⟩
  | false, true => some ⟨above, k⟩
  | false, false => none

/-- The exponent of ten of the leading digit of a positive finite number. -/
def leadingExponent (x : Binary64) : Int :=
  ((Nat.toDigits 10 (x.units * Nat.pow 10 340 / Nat.pow 2 1074)).length : Int) - 341

/-- The shortest decimal that rounds to the finite number `x`, without trailing zeros. -/
def shortest (x : Binary64) : Decimal :=
  if x.rank = 0 then ⟨0, 0⟩
  else
    let first := x.leadingExponent
    match (List.range 17).findSome? fun (n : Nat) => x.onGrid (first - n) with
    | some d => d.trim 20
    | none => ⟨0, 0⟩

end Binary64

/-- How a decimal is written: which leading exponents are written out in full, whether a whole
number keeps a final `.0`, and whether a positive exponent carries a sign. -/
structure DecimalLayout where
  /-- The leading exponents of ten that are written positionally; `none` means all of them. -/
  positional : Option (Int × Int)
  /-- Do whole numbers end in `.0`? -/
  pointZero : Bool
  /-- What stands before the digits of a positive exponent. -/
  plus : String
  deriving Repr

namespace DecimalLayout

/-- Digits with the point after the given number of places; zeros fill up on either side. -/
def positionalText (layout : DecimalLayout) (digits : List Char) (exponent : Int) : String :=
  let whole := (digits.length : Int) + exponent
  if 0 ≤ exponent then
    let text := String.ofList (digits ++ List.replicate exponent.toNat '0')
    if layout.pointZero then text ++ ".0" else text
  else if 0 < whole then
    String.ofList (digits.take whole.toNat ++ '.' :: digits.drop whole.toNat)
  else "0." ++ String.ofList (List.replicate (-whole).toNat '0' ++ digits)

/-- One digit, the point if more follow, the rest, and the exponent. -/
def scientificText (layout : DecimalLayout) (digits : List Char) (leading : Int) : String :=
  let mantissa := match digits with
    | [] => ""
    | [d] => d.toString
    | d :: more => String.ofList (d :: '.' :: more)
  let sign := if leading < 0 then "-" else layout.plus
  mantissa ++ "e" ++ sign ++ toString leading.natAbs

/-- The text of an unsigned decimal. -/
def unsigned (layout : DecimalLayout) (d : Decimal) : String :=
  let inFull : Bool := match layout.positional with
    | none => true
    | some (low, high) => low ≤ d.leading && d.leading ≤ high
  if d.digits = 0 || inFull then layout.positionalText d.text d.exponent
  else layout.scientificText d.text d.leading

/-- The text of a double in its shortest digits. -/
def write (layout : DecimalLayout) (x : Binary64) : String :=
  if x.isNaN then "NaN"
  else
    let sign := if x.isNegative then "-" else ""
    if x.isFinite then sign ++ layout.unsigned x.shortest else sign ++ "inf"

end DecimalLayout

end RewardDesk
