import RewardDesk.Keyed
import RewardDesk.Number.Reading
import RewardDesk.Number.Shortest
import RewardDesk.Text.LetterCase

/-!
# Settings

What a source of configuration says: single values, lists, and tables of named settings. Sources
are laid over each other (`Setting.overlay`): of two tables the settings are joined, and anything
else takes the place of what is below it.

A setting need not be of the type that is asked for. Numbers, truth values and their texts stand for
each other, as `toBool?`, `toNat?` and `toText?` say.
-/

namespace RewardDesk

/-- A setting. The entries of a table ascend. -/
inductive Setting where
  /-- Stands where a list was made longer than its items. -/
  | nothing
  | bool (value : Bool)
  | int (value : Int)
  | float (value : Binary64)
  | text (value : String)
  | list (items : List Setting)
  | table (entries : List (String × Setting))
  deriving Inhabited, Repr

namespace Setting

/-- The entries of a table; anything else has none. -/
def entries : Setting → List (String × Setting)
  | .table entries => entries
  | _ => []

/-- The items of a list; anything else has none. -/
def items : Setting → List Setting
  | .list items => items
  | _ => []

/-- The entry of a name, `nothing` if there is none. -/
def entry (name : String) (entries : List (String × Setting)) : Setting :=
  (Keyed.get? name entries).getD .nothing

mutual

/-- Lay a setting over another one. -/
def overlay : (upper lower : Setting) → Setting
  | .table entries, lower => .table (overlayEntries entries lower.entries)
  | upper, _ => upper

/-- Lay entries over other ones. -/
def overlayEntries : (upper lower : List (String × Setting)) → List (String × Setting)
  | [], lower => lower
  | (name, value) :: rest, lower =>
    overlayEntries rest (Keyed.set name (overlay value (entry name lower)) lower)

end

/-! ### Paths -/

/-- A step into a setting. -/
inductive Step where
  | name (name : String)
  /-- The item at a place of a list, counted from its end if negative. -/
  | place (place : Int)
  deriving DecidableEq, Repr

/-- Make a list reach a place: its items, and the index of the place. A list grows at its end, or
at its front for places counted from the end. -/
def reach (place : Int) (items : List Setting) : List Setting × Nat :=
  if 0 ≤ place then
    let index := place.toNat
    (items ++ List.replicate (index + 1 - items.length) .nothing, index)
  else
    let missing := place.natAbs - items.length
    (List.replicate missing .nothing ++ items, items.length + missing - place.natAbs)

/-- Change what is at the end of a path. Whatever is in the way becomes a table or a list. -/
def alter (f : Setting → Setting) : List Step → Setting → Setting
  | [], s => f s
  | .name name :: path, s =>
    .table (Keyed.set name (alter f path (entry name s.entries)) s.entries)
  | .place place :: path, s =>
    let (items, index) := reach place s.items
    .list (items.modify index (alter f path))

def isNameChar (c : Char) : Bool := c.isAlphanum || c = '_' || c = '-'

/-- The place between brackets, and what stands behind them. -/
def readPlace? (cs : List Char) : Option (Int × List Char) :=
  let (sign, cs) := match cs with
    | '-' :: rest => ((-1 : Int), rest)
    | rest => (1, rest)
  let digits := cs.takeWhile Char.isDigit
  match Number.digitsValue? digits, cs.drop digits.length with
  | some n, ']' :: rest => if n < Nat.pow 2 63 then some (sign * n, rest) else none
  | _, _ => none

/-- Read the rest of a path, each step with the mark in front of it; `fuel` bounds their number. -/
def readSteps? : (fuel : Nat) → List Char → Option (List Step)
  | _, [] => some []
  | 0, _ => none
  | fuel + 1, '.' :: rest =>
    let name := rest.takeWhile isNameChar
    if name.isEmpty then none
    else (readSteps? fuel (rest.drop name.length)).map (.name (.ofList name) :: ·)
  | fuel + 1, '[' :: rest => do
    let (place, rest) ← readPlace? rest
    return .place place :: (← readSteps? fuel rest)
  | _, _ => none

/-- The path that a key spells out, such as `a.b[0]`. A key that spells none is one name. -/
def pathOf (key : String) : List Step :=
  let path := if key.isEmpty then none else readSteps? (key.length + 1) ('.' :: key.toList)
  path.getD [.name key]

/-- Lay a value over the setting of a key. -/
def assign (root : Setting) (key : String) (value : Setting) : Setting :=
  root.alter value.overlay (pathOf key)

/-- Lay all settings of a source over what there is. -/
def join (root : Setting) (source : List (String × Setting)) : Setting :=
  source.foldl (fun root e => root.assign e.1 e.2) root

/-! ### Settings as values -/

/-- How numbers are written where a text is asked for. -/
def layout : DecimalLayout := ⟨none, false, ""⟩

/-- The texts that say yes, and those that say no. -/
def wordValue? (word : String) : Option Bool :=
  if word = "true" ∨ word = "on" ∨ word = "yes" then some true
  else if word = "false" ∨ word = "off" ∨ word = "no" then some false
  else none

/-- A truth value. Numbers are true unless they are zero. -/
def toBool? : Setting → Option Bool
  | .bool b => some b
  | .int n => some (n != 0)
  | .float x => some (x.rank != 0)
  | .text s =>
    let word := Text.lowercase s
    if word = "1" then some true
    else if word = "0" then some false
    else wordValue? word
  | _ => none

/-- The largest number that is read for a count. -/
def maxCount : Nat := Nat.pow 2 64 - 1

/-- The nearest count: a half is rounded up, and what is too small or too large is cut off. -/
def nearestCount (x : Binary64) : Nat :=
  if x.isNaN || x.isNegative then 0
  else if x.isFinite then min ((x.units + Nat.pow 2 1073) / Nat.pow 2 1074) maxCount
  else maxCount

/-- A count up to a bound. -/
def toNat? (bound : Nat) (s : Setting) : Option Nat := do
  let n ← match s with
    | .bool b => some b.toNat
    | .int n => if 0 ≤ n then some n.toNat else none
    | .float x => some (nearestCount x)
    | .text s =>
      match wordValue? (Text.lowercase s) with
      | some b => some b.toNat
      | none => (Number.readBounded maxCount s).toOption
    | _ => none
  if n ≤ bound then some n else none

def toText? : Setting → Option String
  | .text s => some s
  | .bool b => some (toString b)
  | .int n => some (toString n)
  | .float x => some (layout.write x)
  | _ => none

end Setting
end RewardDesk
