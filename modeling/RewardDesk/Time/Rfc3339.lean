import RewardDesk.Time.Instant
import RewardDesk.Text.Blank

/-!
# Reading dates and times

The lenient form of RFC 3339. Blanks may stand around every field; date and time are divided by
a `T` of either case or a blank; the offset is `Z`, `UTC` or a sign with hours and minutes, with or
without a colon. A year with a sign may have any number of digits. Fields are checked in the
order in which they stand, each for its range as soon as it is read, and the calendar at the end.
-/

namespace RewardDesk
namespace Rfc3339

/-- Why a text is no date and time. -/
inductive Problem where
  | outOfRange | impossible | invalid | tooShort | tooLong
  deriving DecidableEq, Repr

def Problem.message : Problem → String
  | .outOfRange => "input is out of range"
  | .impossible => "no possible date and time matching input"
  | .invalid => "input contains invalid characters"
  | .tooShort => "premature end of input"
  | .tooLong => "trailing input"

/-- The value of a run of decimal digits. -/
def digitsValue (digits : List Char) : Nat :=
  digits.foldl (fun n c => n * 10 + (c.toNat - 48)) 0

/-- Read between one and `most` digits; `most` is absent for any number of them. Numbers beyond 63
bits are out of range. -/
def number (most : Option Nat) (cs : List Char) : Except Problem (Nat × List Char) :=
  let run := cs.takeWhile Char.isDigit
  let digits := match most with
    | some n => run.take n
    | none => run
  match cs, digits with
  | [], _ => .error .tooShort
  | _, [] => .error .invalid
  | _, _ =>
    if digitsValue digits < Nat.pow 2 63 then .ok (digitsValue digits, cs.drop digits.length)
    else .error .outOfRange

/-- Read a two-digit field behind blanks and check its range. -/
def field (low high : Nat) (cs : List Char) : Except Problem (Nat × List Char) := do
  let (n, cs) ← number (some 2) (Text.trimStart cs)
  if low ≤ n ∧ n ≤ high then return (n, cs) else throw .outOfRange

/-- Read the year behind blanks. -/
def year (cs : List Char) : Except Problem (Int × List Char) := do
  let (n, cs) ← match Text.trimStart cs with
    | '-' :: cs => (number none cs).map fun r => (-(r.1 : Int), r.2)
    | '+' :: cs => (number none cs).map fun r => ((r.1 : Int), r.2)
    | cs => (number (some 4) cs).map fun r => ((r.1 : Int), r.2)
  if -Int.pow 2 31 ≤ n ∧ n < Int.pow 2 31 then return (n, cs) else throw .outOfRange

/-- Read a mark behind blanks. -/
def mark (c : Char) (cs : List Char) : Except Problem (Unit × List Char) :=
  match Text.trimStart cs with
  | [] => .error .tooShort
  | d :: rest => if d = c then .ok ((), rest) else .error .invalid

def date (cs : List Char) : Except Problem (Date × List Char) := do
  let (y, cs) ← year cs
  let (_, cs) ← mark '-' cs
  let (m, cs) ← field 1 12 cs
  let (_, cs) ← mark '-' cs
  let (d, cs) ← field 1 31 cs
  return (⟨y, m, d⟩, cs)

/-- Read what divides date and time. -/
def divider : List Char → Except Problem (Unit × List Char)
  | [] => .error .tooShort
  | c :: rest => if c = 't' ∨ c = 'T' ∨ c = ' ' then .ok ((), rest) else .error .invalid

/-- Read the fraction of a second, in nanoseconds. Digits beyond the ninth are dropped. -/
def fraction : List Char → Except Problem (Nat × List Char)
  | '.' :: cs => do
    let (n, rest) ← number (some 9) cs
    let count := cs.length - rest.length
    return (n * Nat.pow 10 (9 - count), rest.dropWhile Char.isDigit)
  | cs => .ok (0, cs)

/-- A time of day as it is written. -/
structure Clock where
  hour : Nat
  minute : Nat
  second : Nat
  nano : Nat
  deriving DecidableEq, Repr

/-- Read the time of day. -/
def clock (cs : List Char) : Except Problem (Clock × List Char) := do
  let (h, cs) ← field 0 23 cs
  let (_, cs) ← mark ':' cs
  let (m, cs) ← field 0 59 cs
  let (_, cs) ← mark ':' cs
  let (s, cs) ← field 0 60 cs
  let (n, cs) ← fraction cs
  return (⟨h, m, s, n⟩, cs)

/-- What is wrong with a text in which two digits are due and fewer than two characters stand. A
single character counts as long enough if it takes two bytes. -/
def shortOfTwo : List Char → Problem
  | [c] => if c.utf8Size = 1 then .tooShort else .invalid
  | _ => .tooShort

/-- Read hours and minutes behind the sign of an offset, in seconds. -/
def offsetDigits (cs : List Char) : Except Problem (Nat × List Char) :=
  match cs with
  | a :: b :: rest =>
    if !(a.isDigit && b.isDigit) then .error .invalid
    else
      let hours := digitsValue [a, b]
      match rest.dropWhile fun c => c = ':' || Text.isBlankChar c with
      | c :: d :: rest =>
        if !(c.isDigit && d.isDigit) then .error .invalid
        else if '6' ≤ c then .error .outOfRange
        else .ok (hours * 3600 + digitsValue [c, d] * 60, rest)
      | rest => .error (shortOfTwo rest)
  | cs => .error (shortOfTwo cs)

/-- Read the offset from universal time, in seconds. -/
def offset (cs : List Char) : Except Problem (Int × List Char) :=
  match cs with
  | [] => .error .tooShort
  | 'Z' :: rest | 'z' :: rest => .ok (0, rest)
  | '+' :: rest => (offsetDigits rest).map fun r => ((r.1 : Int), r.2)
  | '-' :: rest | '\u2212' :: rest => (offsetDigits rest).map fun r => (-(r.1 : Int), r.2)
  | a :: b :: c :: rest =>
    if (a = 'u' ∨ a = 'U') ∧ (b = 't' ∨ b = 'T') ∧ (c = 'c' ∨ c = 'C') then .ok (0, rest)
    else .error .invalid
  | _ => .error .invalid

/-- The instant of a local date and time. The date must exist and its year be one that instants
reach, both at its own place and in universal time. -/
def resolve (d : Date) (c : Clock) (offset : Int) : Except Problem Instant :=
  if ¬ (d.IsValid ∧ Instant.firstYear ≤ d.year ∧ d.year ≤ Instant.lastYear) then
    .error .outOfRange
  else if ¬ (-86400 < offset ∧ offset < 86400) then .error .outOfRange
  else
    let leap := c.second = 60
    let there := Instant.ofDate d c.hour c.minute (if leap then 59 else c.second)
      (if leap then c.nano + 1000000000 else c.nano)
    let here : Instant := { there with second := there.second - offset }
    let y := here.date.year
    if Instant.firstYear ≤ y ∧ y ≤ Instant.lastYear then .ok here else .error .impossible

def read (s : String) : Except Problem Instant := do
  let (d, cs) ← date s.toList
  let (_, cs) ← divider cs
  let (c, cs) ← clock cs
  let (o, cs) ← offset (Text.trimStart cs)
  if !(Text.trimStart cs).isEmpty then throw .tooLong
  resolve d c o

end Rfc3339
end RewardDesk
