import RewardDesk.Json.Codec

/-!
# Objects with named fields

A type that is an object in JSON is described by its `Fields`: for each its name, other names
it goes by, its codec, and what happens when it is absent. From the description come both
directions. An object is read member by member in the order in which the members stand, so the
first misfit met that way is the one reported; what is missing is found at the end. An array
is accepted too and gives the fields in their own order.
-/

namespace RewardDesk
namespace Json

/-- What stands for a field that is not given. -/
inductive Absent (α : Type) where
  /-- The field is required. -/
  | refused
  /-- Objects may leave the field out, arrays may not. -/
  | inObject (value : α)
  /-- Objects and arrays may leave the field out. -/
  | everywhere (value : α)

/-- A field of an object. -/
structure Field (α : Type) where
  name : String
  codec : Codec α
  absent : Absent α := .refused
  /-- Another name under which the field is read. -/
  otherName : Option String := none
  /-- The values that are left out when the object is written. -/
  omits : α → Bool := fun _ => false

namespace Field

/-- A field that must be there. -/
def required (name : String) (codec : Codec α) : Field α := { name, codec }

/-- A field that may be null or absent. -/
def optional (name : String) (codec : Codec α) : Field (Option α) :=
  { name, codec := codec.optional, absent := .inObject none }

/-- A field with a default. -/
def withDefault (name : String) (codec : Codec α) (value : α) : Field α :=
  { name, codec, absent := .everywhere value }

/-- Does the field go by this name? -/
def answersTo (f : Field α) (key : String) : Bool := f.name == key || f.otherName == some key

end Field

/-- The fields of an object, one for each type of a list. -/
inductive Fields : List Type → Type 1 where
  | nil : Fields []
  | cons (field : Field α) (rest : Fields αs) : Fields (α :: αs)

/-- A value for each field. -/
def Row : List Type → Type
  | [] => Unit
  | α :: αs => α × Row αs

/-- The values read so far. -/
def Draft : List Type → Type
  | [] => Unit
  | α :: αs => Option α × Draft αs

namespace Fields

/-- The names of the fields. -/
def names : Fields αs → List String
  | .nil => []
  | .cons f rest => f.name :: rest.names

/-- Nothing read yet. -/
def blank : (αs : List Type) → Draft αs
  | [] => ()
  | _ :: αs => (none, blank αs)

/-- The field that goes by a name: its own name, and whether it has a value already. -/
def find (key : String) : Fields αs → Draft αs → Option (String × Bool)
  | .nil, _ => none
  | .cons f rest, (value, draft) =>
    if f.answersTo key then some (f.name, value.isSome) else find key rest draft

/-- Read the value of the field that goes by a name. -/
def put (key : String) (o : Origin) (d : Document) :
    Fields αs → Draft αs → Except Fault (Draft αs)
  | .nil, draft => .ok draft
  | .cons f rest, (value, draft) =>
    if f.answersTo key then (f.codec.decode o d).map fun a => (some a, draft)
    else (put key o d rest draft).map fun draft => (value, draft)

/-- Fill in what may be absent; the first required field without a value is missed. -/
def complete : Fields αs → Draft αs → Except Fault (Row αs)
  | .nil, _ => .ok ()
  | .cons f rest, (value, draft) => do
    let a ← match value, f.absent with
      | some a, _ => pure a
      | none, .inObject a => pure a
      | none, .everywhere a => pure a
      | none, .refused => throw ⟨.missingField f.name, .nowhere⟩
    return (a, ← complete rest draft)

/-- What an object makes of members that are no fields. -/
inductive Others where
  | ignored | refused | collected
  deriving DecidableEq

/-- Read the members one after the other. The result holds the values of the fields and the
members that were collected, in order. -/
def readMembers (fs : Fields αs) (others : Others) (o : Origin) (draft : Draft αs) :
    List (Key × Document) → Except Fault (Draft αs × List (String × Json))
  | [] => .ok (draft, [])
  | (key, value) :: members =>
    match fs.find key.name draft with
    | some (name, true) => .error ⟨.duplicateField name, key.after⟩
    | some (_, false) => do
      let draft ← fs.put key.name o value draft
      readMembers fs others o draft members
    | none =>
      match others with
      | .refused => .error ⟨.unknownField key.name fs.names, key.after⟩
      | .ignored =>
        match key.barrier with
        | some f => .error f
        | none => readMembers fs others o draft members
      | .collected => do
        let j ← value.toJson
        let (draft, more) ← readMembers fs others o draft members
        return (draft, (key.name, j) :: more)

/-- Read an object: its fields, the members it collects, and the place behind it. -/
def readObject (fs : Fields αs) (others : Others) (o : Origin) (members : List (Key × Document))
    (ending : Except Fault Place) : Except Fault (Row αs × List (String × Json) × Place) := do
  let (draft, more) ← fs.readMembers others o (blank αs) members
  match ending with
  | .error f => throw f
  | .ok stop =>
    match fs.complete draft with
    | .ok row => return (row, more, stop)
    | .error f => throw (f.orAt stop)

/-- Read the fields from the items of an array, and give the items that are left. -/
def readItems (o : Origin) (expected : String) (ending : Ending) :
    Fields αs → (index : Nat) → List (Place × Document) →
      Except Fault (Row αs × List (Place × Document))
  | .nil, _, items => .ok ((), items)
  | .cons f rest, index, (_, item) :: items => do
    let a ← f.codec.decode o item
    let (row, items) ← readItems o expected ending rest (index + 1) items
    return ((a, row), items)
  | .cons f rest, index, [] =>
    match ending, f.absent with
    | .failed wanted _, _ => .error wanted
    | .closed _, .everywhere a => do
      let (row, items) ← readItems o expected ending rest (index + 1) []
      return ((a, row), items)
    | .closed stop, _ => .error ⟨.wrongLength index expected, stop⟩

def count : Fields αs → Nat
  | .nil => 0
  | .cons _ rest => rest.count + 1

/-- What is said of an array that is too short. -/
def expectation (name : String) (fs : Fields αs) : String :=
  "struct " ++ name ++ " with " ++ toString fs.count ++
    (if fs.count = 1 then " element" else " elements")

/-- What is said of an array that is too long. -/
def surplus (o : Origin) (length count : Nat) (place : Place) : Fault :=
  match o with
  | .text => .malformed .trailingCharacters place
  | .value => ⟨.wrongLength length "fewer elements in array", .nowhere⟩
  | .buffer => ⟨.wrongLength length
      (toString count ++ (if count = 1 then " element in sequence" else " elements in sequence")),
      .nowhere⟩

/-- Read an array that holds the fields in order. -/
def readArray (fs : Fields αs) (name : String) (o : Origin) (items : List (Place × Document))
    (ending : Ending) : Except Fault (Row αs) := do
  let (row, left) ← fs.readItems o (expectation name fs) ending 0 items
  match left, ending with
  | (place, _) :: _, _ => throw (surplus o items.length fs.count place)
  | [], .failed _ unwanted => throw unwanted
  | [], .closed _ => return row

/-- Write the fields as members, in their own order. -/
def members : Fields αs → Row αs → List (String × Json)
  | .nil, _ => []
  | .cons f rest, (a, row) =>
    if f.omits a then members rest row else (f.name, f.codec.encode a) :: members rest row

end Fields

/-- The codec of an object with named fields. -/
def Codec.record (name : String) (fs : Fields αs) (build : Row αs → α) (view : α → Row αs)
    (others : Fields.Others := .ignored) : Codec α where
  decode o d := match d with
    | .record _ members ending =>
      (fs.readObject others o members ending).map fun r => build r.1
    | .list _ items ending => (fs.readArray name o items ending).map build
    | d => .error (d.misfit ("struct " ++ name))
  encode a := Json.ofMembers (fs.members (view a))

end Json
end RewardDesk
