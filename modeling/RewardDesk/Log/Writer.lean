import RewardDesk.Json.Basic
import RewardDesk.Log.Filter
import RewardDesk.Text.Quoted

/-!
# The written log

A record is written as a JSON object or as a line in colours. What tells the time or depends on it
is left out of both.
-/

namespace RewardDesk.Log

/-! ### As JSON -/

namespace Value

def toJson (order : FieldOrder) : Value → Json
  | .number n => .int n
  | .bool b => .bool b
  | v => .string (v.plain order)

end Value

def FieldList.members (order : FieldOrder) (fields : FieldList) : List (String × Json) :=
  fields.map fun (name, value) => (name, value.toJson order)

/-- A span as an object: its fields and its name, which hides a field of the name `name`. -/
def Span.toJson (order : FieldOrder) (s : Span) : Json :=
  .ofMembers (FieldList.members order s.fields ++ [("name", .string s.name)])

/-- The fields that tell how long something took. -/
def timed : List String := ["latency"]

namespace Record

/-- The object of a record. -/
def object (order : FieldOrder) (level : Level) (target : String) (fields : List (String × Json))
    (span : Option Span) (spans : Option (List Span)) : Json :=
  .ofMembers ([("level", .string level.name), ("target", .string target),
      ("fields", .ofMembers (fields.filter fun f => !timed.contains f.1))] ++
    span.toList.map (fun s => ("span", s.toJson order)) ++
    spans.toList.map fun s => ("spans", .array (s.map (Span.toJson order))))

def toJson (order : FieldOrder) : Record → Json
  | .note n spans =>
    object order n.level n.target
      (("message", .string n.message) :: FieldList.members order n.fields) spans.getLast?
        (if spans.isEmpty then none else some spans)
  | .close s parents =>
    object order s.level s.target [("message", .string "close")] (some s) (some parents)

end Record

/-! ### In colours -/

/-- A text in a style, which ends with it. -/
def styled (style : Nat) (text : String) : String :=
  "\x1b[" ++ toString style ++ "m" ++ text ++ "\x1b[0m"

def bold : String → String := styled 1

def dimmed : String → String := styled 2

def italic : String → String := styled 3

/-- The name of a level in its colour, five characters wide. -/
def Level.coloured : Level → String
  | .error => styled 31 "ERROR"
  | .warn => styled 33 " WARN"
  | .info => styled 32 " INFO"
  | .debug => styled 34 "DEBUG"
  | .trace => styled 35 "TRACE"

/-- A value for people: texts stand between quotation marks. -/
def Value.shown (order : FieldOrder) : Value → String
  | .text s => Text.quoted s
  | v => v.plain order

/-- A field: its name and its value. -/
def fieldText (order : FieldOrder) (f : String × Value) : String :=
  italic f.1 ++ dimmed "=" ++ f.2.shown order

/-- A character of a message. Those that could steer a terminal are written by number. -/
def messageChar (c : Char) : List Char :=
  if c = '\x1b' ∨ c = '\x07' ∨ c = '\x08' ∨ c = '\x0c' ∨ c = '\x7f' then
    '\\' :: 'x' :: Nat.digitChar (c.toNat / 16) :: [Nat.digitChar (c.toNat % 16)]
  else if '\u0080' ≤ c ∧ c ≤ '\u009f' then
    '\\' :: 'u' :: '\x7b' :: (Nat.toDigits 16 c.toNat ++ ['\x7d'])
  else [c]

/-- A message and its fields. -/
def Note.text (order : FieldOrder) (n : Note) : String :=
  " ".intercalate
    (String.ofList (n.message.toList.flatMap messageChar) :: n.fields.map (fieldText order))

/-- A span: its name and its fields between braces. -/
def Span.text (order : FieldOrder) (s : Span) : String :=
  let fields := if s.fields.isEmpty then ""
    else bold "\x7b" ++ " ".intercalate (s.fields.map (fieldText order)) ++ bold "\x7d"
  bold s.name ++ fields ++ dimmed ":"

/-- A record as a line in colours; spans that are left are not shown. -/
def Record.text? (order : FieldOrder) : Record → Option String
  | .note n spans =>
    let around := if spans.isEmpty then "" else String.join (spans.map (Span.text order)) ++ " "
    some (n.level.coloured ++ " " ++ around ++ dimmed n.target ++ dimmed ":" ++ " " ++ n.text order)
  | .close .. => none

/-- A log as it is written: each record as an object, or each line of the text. -/
def written (order : FieldOrder) (asJson : Bool) (records : List Record) : List Json :=
  if asJson then records.map (Record.toJson order)
  else (records.filterMap (Record.text? order)).flatMap fun text => (text.splitOn "\n").map .string

end RewardDesk.Log
