import RewardDesk.Text.Percent

/-!
# Internet addresses

Which texts are addresses of the fourth or the sixth version of the internet protocol.
-/

namespace RewardDesk.IpAddress

/-- Cut a text at each separator. There is always at least one part. -/
def cutAt (separator : Char) : List Char → List (List Char)
  | [] => [[]]
  | c :: rest =>
    if c = separator then [] :: cutAt separator rest
    else match cutAt separator rest with
      | [] => [[c]]
      | part :: parts => (c :: part) :: parts

/-- Is it a number from 0 to 255, without needless zeros? -/
def isOctet (cs : List Char) : Bool :=
  !cs.isEmpty && cs.length ≤ 3 && cs.all Char.isDigit && (cs.length = 1 || cs.head? ≠ some '0') &&
    cs.foldl (fun n c => n * 10 + (c.toNat - 48)) 0 ≤ 255

def isVersion4 (cs : List Char) : Bool :=
  let parts := cutAt '.' cs
  parts.length = 4 && parts.all isOctet

/-- Is it a group of an address of the sixth version? -/
def isGroup (cs : List Char) : Bool :=
  1 ≤ cs.length && cs.length ≤ 4 && cs.all fun c => (Text.hexValue? c).isSome

/-- The number of groups between colons. The last part may be an address of the fourth version,
which stands for two, if `tail` says so. -/
def groups? (tail : Bool) : List (List Char) → Option Nat
  | [] => some 0
  | [part] =>
    if isGroup part then some 1 else if tail && isVersion4 part then some 2 else none
  | part :: parts => if isGroup part then (groups? tail parts).map (· + 1) else none

/-- What stands in front of the first two colons in a row, and what stands behind them. -/
def cutAtGap : List Char → Option (List Char × List Char)
  | ':' :: ':' :: rest => some ([], rest)
  | c :: rest => (cutAtGap rest).map fun (front, behind) => (c :: front, behind)
  | [] => none

/-- The groups of a side of the gap, which may be empty. -/
def side? (tail : Bool) (cs : List Char) : Option Nat :=
  if cs.isEmpty then some 0 else groups? tail (cutAt ':' cs)

/-- Is it an address of the sixth version? Two colons in a row stand for at least one group. -/
def isVersion6 (cs : List Char) : Bool :=
  match cutAtGap cs with
  | none => groups? true (cutAt ':' cs) = some 8
  | some (front, behind) =>
    match side? false front, side? true behind with
    | some m, some n => m + n ≤ 7
    | _, _ => false

end RewardDesk.IpAddress
