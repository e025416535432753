/-!
# Base64

Three bytes are written as four characters, with `=` in the places of bytes that are missing at the
end. `decode` accepts what `encode` writes and nothing else: the filling must be there, and the
bits that it leaves over must be zero.
-/

namespace RewardDesk.Base64

/-- The character of a number below 64. -/
def digit (n : Nat) : Char :=
  if n < 26 then Char.ofNat (n + 65)
  else if n < 52 then Char.ofNat (n + 71)
  else if n < 62 then Char.ofNat (n - 4)
  else if n = 62 then '+'
  else '/'

/-- The number of a character. -/
def value? (c : Char) : Option Nat :=
  let n := c.toNat
  if 65 ≤ n ∧ n ≤ 90 then some (n - 65)
  else if 97 ≤ n ∧ n ≤ 122 then some (n - 71)
  else if 48 ≤ n ∧ n ≤ 57 then some (n + 4)
  else if c = '+' then some 62
  else if c = '/' then some 63
  else none

/-- The characters of some bytes. -/
def encode : List UInt8 → List Char
  | [] => []
  | [a] =>
    let n := a.toNat * 16
    [digit (n / 64), digit (n % 64), '=', '=']
  | [a, b] =>
    let n := (a.toNat * 256 + b.toNat) * 4
    [digit (n / 4096), digit (n / 64 % 64), digit (n % 64), '=']
  | a :: b :: c :: rest =>
    let n := (a.toNat * 256 + b.toNat) * 256 + c.toNat
    digit (n / 262144) :: digit (n / 4096 % 64) :: digit (n / 64 % 64) :: digit (n % 64) ::
      encode rest

/-- The last byte of a text whose last group has two characters. -/
def decodeOne (x y : Nat) : Option (List UInt8) :=
  let n := x * 64 + y
  if n % 16 = 0 then some [.ofNat (n / 16)] else none

/-- The last bytes of a text whose last group has three characters. -/
def decodeTwo (x y z : Nat) : Option (List UInt8) :=
  let n := (x * 64 + y) * 64 + z
  if n % 4 = 0 then some [.ofNat (n / 1024), .ofNat (n / 4 % 256)] else none

/-- The bytes that some characters stand for. -/
def decode : List Char → Option (List UInt8)
  | [] => some []
  | [a, b, '=', '='] => do decodeOne (← value? a) (← value? b)
  | [a, b, c, '='] => do decodeTwo (← value? a) (← value? b) (← value? c)
  | a :: b :: c :: d :: rest => do
    let n := (((← value? a) * 64 + (← value? b)) * 64 + (← value? c)) * 64 + (← value? d)
    let bytes ← decode rest
    return .ofNat (n / 65536) :: .ofNat (n / 256 % 256) :: .ofNat (n % 256) :: bytes
  | _ => none

end RewardDesk.Base64
