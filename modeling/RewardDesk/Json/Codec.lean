import RewardDesk.Json.Document
import RewardDesk.Time.Rfc3339

/-!
# Codecs

A `Codec` reads a type from documents and writes it to JSON. Reading depends a little on where the
document comes from: a text is read once from front to back, a value is at hand as a whole, and a
buffer is what was set aside while another type was read. The differences are in what is said about
misfits, and in whether the choice of a variant may be given by its number.

This module holds the codecs of single values; `Json.Record` adds objects with named fields.
-/

namespace RewardDesk
namespace Json

/-- Where a document comes from. -/
inductive Origin where
  | text | value | buffer
  deriving DecidableEq, Repr

/-- How a type is read and written. -/
structure Codec (α : Type) where
  decode : Origin → Document → Except Fault α
  encode : α → Json

namespace Document

/-- The fault of a document that is not what was expected. -/
def misfit (expected : String) : Document → Fault
  | .broken f => f
  | .leaf v spot => ⟨.wrongType (found v) expected, spot.stop⟩
  | .list spot _ _ => ⟨.wrongType .sequence expected, spot.start⟩
  | .record spot _ _ => ⟨.wrongType .map expected, spot.start⟩

end Document

namespace Codec

/-- Read a value as the type asks for. -/
def ofValue (c : Codec α) (j : Json) : Except Fault α := c.decode .value (.ofJson j)

/-- Read a text as the type asks for. -/
def ofText (c : Codec α) (text : List UInt8) : Except Fault α := do
  let (document, behind) := Document.ofText text
  let a ← c.decode .text document
  match behind with
  | some f => throw f
  | none => return a

/-- Any JSON at all. -/
def any : Codec Json := ⟨fun _ d => d.toJson, id⟩

def string : Codec String where
  decode _ d := match d with
    | .leaf (.string s) _ => .ok s
    | d => .error (d.misfit "a string")
  encode := .string

def bool : Codec Bool where
  decode _ d := match d with
    | .leaf (.bool b) _ => .ok b
    | d => .error (d.misfit "a boolean")
  encode := .bool

/-- A whole number from `low` to `high`, of a type called `name`. -/
def integer (name : String) (low high : Int) : Codec Int where
  decode _ d := match d with
    | .leaf (.int n) spot =>
      if low ≤ n ∧ n ≤ high then .ok n else .error ⟨.wrongValue (.int n) name, spot.stop⟩
    | d => .error (d.misfit name)
  encode := .int

/-- Read and write a type through another one. -/
def iso (c : Codec α) (forth : α → β) (back : β → α) : Codec β :=
  ⟨fun o d => (c.decode o d).map forth, fun b => c.encode (back b)⟩

def int64 : Codec Int64 :=
  (integer "i64" (-Int.pow 2 63) (Int.pow 2 63 - 1)).iso Int64.ofInt Int64.toInt

def uint64 : Codec UInt64 :=
  (integer "u64" 0 (Int.pow 2 64 - 1)).iso (fun n => .ofNat n.toNat) (fun n => n.toNat)

def uint32 : Codec UInt32 :=
  (integer "u32" 0 (Int.pow 2 32 - 1)).iso (fun n => .ofNat n.toNat) (fun n => n.toNat)

def uint16 : Codec UInt16 :=
  (integer "u16" 0 (Int.pow 2 16 - 1)).iso (fun n => .ofNat n.toNat) (fun n => n.toNat)

def instant : Codec Instant where
  decode _ d := match d with
    | .leaf (.string s) spot => match Rfc3339.read s with
      | .ok t => .ok t
      | .error p => .error ⟨.unreadable p.message, spot.stop⟩
    | d => .error (d.misfit "an RFC 3339 formatted date and time string")
  encode t := .string t.iso8601

/-- A value that may be null. -/
def optional (c : Codec α) : Codec (Option α) where
  decode o d := match d with
    | .leaf .null _ => .ok none
    | d => (c.decode o d).map some
  encode := Json.ofOption c.encode

/-- Read the items of a list one after the other. -/
def decodeItems (c : Codec α) (o : Origin) : List (Place × Document) → Except Fault (List α)
  | [] => .ok []
  | (_, item) :: rest => do
    let a ← c.decode o item
    return a :: (← decodeItems c o rest)

def list (c : Codec α) : Codec (List α) where
  decode o d := match d with
    | .list _ items ending => do
      let as ← decodeItems c o items
      match ending with
      | .closed _ => return as
      | .failed wanted _ => throw wanted
    | d => .error (d.misfit "a sequence")
  encode as := .array (as.map c.encode)

/-! ### Choices by name -/

/-- The value with a given name. -/
def lookup (names : List (String × α)) (name : String) (place : Place) : Except Fault α :=
  match names.find? (·.1 == name) with
  | some (_, a) => .ok a
  | none => .error ⟨.unknownVariant name (names.map (·.1)), place⟩

/-- A choice written as an object must have null as its value. -/
def expectUnit : Document → Except Fault Unit
  | .leaf .null _ => .ok ()
  | d => .error (d.misfit "unit")

/-- Read a choice from an object in a text: one member, whose key is the choice. -/
def choiceOfTextMembers (names : List (String × α)) (members : List (Key × Document))
    (ending : Except Fault Place) : Except Fault α :=
  match members, ending with
  | [], .ok stop => .error (.malformed .expectedValue stop)
  | [], .error f => .error f
  | (key, value) :: more, ending => do
    let a ← lookup names key.name key.stop
    expectUnit value
    match more, ending with
    | [], .ok _ => return a
    | [], .error f =>
      if f.cause = .malformed .endInObject then throw f
      else throw (.malformed .expectedValue key.next)
    | _, _ => throw (.malformed .expectedValue key.next)

/-- Read a choice from an object that is at hand. -/
def choiceOfMembers (names : List (String × α)) : List (Key × Document) → Except Fault α
  | [(key, value)] => do
    let a ← lookup names key.name .nowhere
    expectUnit value
    return a
  | _ => .error ⟨.wrongValue .map "map with a single key", .nowhere⟩

/-- One of some named values: its name, or an object with the name as its only key. -/
def choice (names : List (String × α)) (name : α → String) : Codec α where
  decode o d := match d with
    | .leaf (.string s) spot => lookup names s spot.stop
    | .record _ members ending =>
      if o = .text then choiceOfTextMembers names members ending
      else choiceOfMembers names members
    | .leaf _ spot =>
      if o = .text then .error (.malformed .expectedValue spot.peek)
      else .error (d.misfit "string or map")
    | .list spot _ _ =>
      if o = .text then .error (.malformed .expectedValue spot.peek)
      else .error (d.misfit "string or map")
    | .broken f => .error f
  encode a := .string (name a)

/-- The tag that chooses a variant: its name or, in a buffer, also its number. -/
def tag (names : List (String × α)) (o : Origin) (d : Document) : Except Fault α :=
  match d with
  | .leaf (.string s) spot => lookup names s spot.stop
  | .leaf (.int n) spot =>
    if o = .buffer ∧ 0 ≤ n then
      match names[n.toNat]? with
      | some (_, a) => .ok a
      | none => .error ⟨.wrongValue (.int n)
          ("variant index 0 <= i < " ++ toString names.length), spot.stop⟩
    else .error (d.misfit "variant identifier")
  | d => .error (d.misfit "variant identifier")

end Codec
end Json
end RewardDesk
