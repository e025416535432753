import RewardDesk.Keyed
import RewardDesk.Number.Binary64

/-!
# JSON values

Whole numbers and floating-point numbers are different values (`1` is not `1.0`), and the members
of an object are kept in ascending order of their keys, as `Json.Ordered` says. Objects are built
with `Json.ofMembers`, which sorts them; of two members with one key the later one stays.
-/

namespace RewardDesk

/-- A JSON value. -/
inductive Json where
  | null
  | bool (value : Bool)
  | int (value : Int)
  | float (value : Binary64)
  | string (value : String)
  | array (items : List Json)
  | object (members : List (String × Json))
  deriving Inhabited, Repr

namespace Json

/-! ### Objects -/

/-- The object with the given members. -/
def ofMembers (members : List (String × Json)) : Json := .object (Keyed.ofList members)

/-- The value of a member of an object. -/
def member? (key : String) : Json → Option Json
  | .object members => (members.find? (·.1 == key)).map (·.2)
  | _ => none

mutual

/-- Every object inside has strictly ascending keys. -/
def Ordered : Json → Prop
  | .array items => OrderedItems items
  | .object members => Keyed.Ascending members ∧ OrderedMembers members
  | _ => True

def OrderedItems : List Json → Prop
  | [] => True
  | item :: rest => Ordered item ∧ OrderedItems rest

def OrderedMembers : List (String × Json) → Prop
  | [] => True
  | (_, value) :: rest => Ordered value ∧ OrderedMembers rest

end

mutual

/-- The number of arrays and objects around the innermost value. -/
def depth : Json → Nat
  | .array items => depthItems items + 1
  | .object members => depthMembers members + 1
  | _ => 0

def depthItems : List Json → Nat
  | [] => 0
  | item :: rest => max (depth item) (depthItems rest)

def depthMembers : List (String × Json) → Nat
  | [] => 0
  | (_, value) :: rest => max (depth value) (depthMembers rest)

end

/-! ### Numbers -/

/-- The whole numbers a text is read to: those of 64 bits, signed or not. Longer ones are
floating-point numbers. -/
def IsWord (n : Int) : Prop := -Int.pow 2 63 ≤ n ∧ n < Int.pow 2 64

/-- An optional value, absence being null. -/
def ofOption (f : α → Json) : Option α → Json
  | none => .null
  | some a => f a

end Json

end RewardDesk
