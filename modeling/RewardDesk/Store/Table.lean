import RewardDesk.Keyed

/-!
# Tables

A `Table` holds at most one value for each key. Its entries stand in ascending order of their keys,
which makes the table a function of what it holds: the order in which things were entered has left
no trace.
-/

namespace RewardDesk

/-- At most one value for each key. -/
structure Table (κ α : Type) [Ord κ] where
  entries : List (κ × α)
  ascending : Keyed.Ascending entries

namespace Table

variable {κ α : Type} [Ord κ]

def empty : Table κ α := ⟨[], Keyed.ascending_nil⟩

instance : Inhabited (Table κ α) := ⟨empty⟩

/-- The value of a key. -/
def get? (t : Table κ α) (key : κ) : Option α := Keyed.get? key t.entries

/-- Does a key have a value? -/
def contains (t : Table κ α) (key : κ) : Bool := (t.get? key).isSome

/-- The values, in ascending order of their keys. -/
def values (t : Table κ α) : List α := t.entries.map (·.2)

/-- The keys, ascending. -/
def keys (t : Table κ α) : List κ := t.entries.map (·.1)

/-- Take a key out. -/
def erase (t : Table κ α) (key : κ) : Table κ α := ⟨Keyed.erase key t.entries, t.ascending.erase⟩

/-- Take a key out, and give the value it had. -/
def take (t : Table κ α) (key : κ) : Option α × Table κ α := (t.get? key, t.erase key)

section
variable [Std.TransOrd κ] [Std.LawfulEqOrd κ]

/-- Give a key a value, in place of the one it has. -/
def set (t : Table κ α) (key : κ) (value : α) : Table κ α :=
  ⟨Keyed.set key value t.entries, t.ascending.set⟩

/-- Give a key a value unless it has one, and say whether that was done. -/
def setIfAbsent (t : Table κ α) (key : κ) (value : α) : Bool × Table κ α :=
  if t.contains key then (false, t) else (true, t.set key value)

/-- Give a key a value only if it has one, and say whether that was done. -/
def replace (t : Table κ α) (key : κ) (value : α) : Bool × Table κ α :=
  if t.contains key then (true, t.set key value) else (false, t)

/-- Change the value of a key if `change` gives a new one, and give that. -/
def update (t : Table κ α) (key : κ) (change : α → Option α) : Option α × Table κ α :=
  match (t.get? key).bind change with
  | some value => (some value, t.set key value)
  | none => (none, t)

end
end Table
end RewardDesk
