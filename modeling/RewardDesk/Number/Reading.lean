import RewardDesk.Number.Binary64

/-!
# Reading numbers

Numbers as they are written in variables and options. A sign may stand in front; there are no
blanks and no separators.
-/

namespace RewardDesk.Number

/-- The value of some decimal digits, if there is at least one and nothing else. -/
def digitsValue? (cs : List Char) : Option Nat :=
  if cs.isEmpty || !cs.all Char.isDigit then none
  else some (cs.foldl (fun n c => n * 10 + (c.toNat - 48)) 0)

/-- A number that is not negative; a plus may stand in front. -/
def readNat? (cs : List Char) : Option Nat :=
  match cs with
  | '+' :: digits => digitsValue? digits
  | digits => digitsValue? digits

/-- Why a text is no number from zero to a bound. -/
inductive Misread where
  | empty | invalidDigit | tooLarge
  deriving DecidableEq, Repr

def Misread.message : Misread → String
  | .empty => "cannot parse integer from empty string"
  | .invalidDigit => "invalid digit found in string"
  | .tooLarge => "number too large to fit in target type"

/-- Read digits behind a number that has been read so far. The first digit that is none, or that
makes the number too large, ends the reading. -/
def readDigits (bound : Nat) : (soFar : Nat) → List Char → Except Misread Nat
  | n, [] => .ok n
  | n, c :: rest =>
    if !c.isDigit then .error .invalidDigit
    else
      let next := n * 10 + (c.toNat - 48)
      if next ≤ bound then readDigits bound next rest else .error .tooLarge

/-- A number from zero to a bound; a plus may stand in front. -/
def readBounded (bound : Nat) (s : String) : Except Misread Nat :=
  match s.toList with
  | [] => .error .empty
  | ['+'] => .error .invalidDigit
  | '+' :: digits => readDigits bound 0 digits
  | digits => readDigits bound 0 digits

/-- A signed number of 64 bits. -/
def readInt64? (s : String) : Option Int := do
  let n ← match s.toList with
    | '-' :: digits => (digitsValue? digits).map fun n => -(n : Int)
    | cs => (readNat? cs).map fun n => (n : Int)
  if -Int.pow 2 63 ≤ n ∧ n < Int.pow 2 63 then some n else none

/-! ### Floating-point numbers -/

/-- The exponent behind its mark, zero if there is none. -/
def readExponent? : List Char → Option Int
  | [] => some 0
  | 'e' :: '-' :: digits | 'E' :: '-' :: digits => (digitsValue? digits).map fun n => -(n : Int)
  | 'e' :: digits | 'E' :: digits => (readNat? digits).map fun n => (n : Int)
  | _ => none

/-- A decimal without a sign: digits with a point among them or not, and an exponent. -/
def readDecimal? (negative : Bool) (cs : List Char) : Option Binary64 := do
  let whole := cs.takeWhile Char.isDigit
  let rest := cs.drop whole.length
  let (part, rest) := match rest with
    | '.' :: rest => (rest.takeWhile Char.isDigit, rest.dropWhile Char.isDigit)
    | rest => ([], rest)
  let digits ← digitsValue? (whole ++ part)
  let exponent ← readExponent? rest
  return .ofDecimal negative digits (exponent - part.length)

/-- A floating-point number, infinity and NaN included. -/
def readFloat? (s : String) : Option Binary64 :=
  let (negative, cs) := match s.toList with
    | '-' :: cs => (true, cs)
    | '+' :: cs => (false, cs)
    | cs => (false, cs)
  let word := String.ofList (cs.map Char.toLower)
  if word = "inf" ∨ word = "infinity" then some (.infinity negative)
  else if word = "nan" then some .nan
  else readDecimal? negative cs

end RewardDesk.Number
