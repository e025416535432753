import RewardDesk.Text.Bytes

/-!
# Percent signs

In addresses a percent sign and two hexadecimal digits stand for a byte.
-/

namespace RewardDesk.Text

/-- The value of a hexadecimal digit. -/
def hexValue? (c : Char) : Option Nat :=
  if c.isDigit then some (c.toNat - 48)
  else if 'a' ≤ c ∧ c ≤ 'f' then some (c.toNat - 87)
  else if 'A' ≤ c ∧ c ≤ 'F' then some (c.toNat - 55)
  else none

/-- The bytes of a text, with each percent sign and two digits resolved. A percent sign without two
digits stands for itself. -/
def resolvePercent : List Char → List UInt8
  | [] => []
  | '%' :: a :: b :: rest =>
    match hexValue? a, hexValue? b with
    | some x, some y => .ofNat (x * 16 + y) :: resolvePercent rest
    | _, _ => 37 :: resolvePercent (a :: b :: rest)
  | c :: rest => bytes (String.singleton c) ++ resolvePercent rest
  termination_by cs => cs.length

end RewardDesk.Text
