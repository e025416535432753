import RewardDesk.Error.Basic

/-!
# Log entries

What a program says while it runs. A `Note` is said at one moment; a `Span` is entered and left, and
what is said in between is said inside it. Both carry fields: a name and a value.
-/

namespace RewardDesk.Log

/-- How much a note matters, from most to least. -/
inductive Level where
  | error | warn | info | debug | trace
  deriving DecidableEq, Repr

namespace Level

/-- The rank of a level; what matters less has the higher one. -/
def rank : Level → Nat
  | .error => 1
  | .warn => 2
  | .info => 3
  | .debug => 4
  | .trace => 5

def name : Level → String
  | .error => "ERROR"
  | .warn => "WARN"
  | .info => "INFO"
  | .debug => "DEBUG"
  | .trace => "TRACE"

end Level

/-- The value of a field. -/
inductive Value where
  /-- A text as it is; for people it is put between quotation marks. -/
  | text (s : String)
  /-- Something that has been put into words. -/
  | words (s : String)
  | number (n : Nat)
  | bool (b : Bool)
  /-- An error, which is put into words when the entry is written. -/
  | error (e : DeskError)
  deriving DecidableEq, Repr

/-- The text of a value, without quotation marks. -/
def Value.plain (order : FieldOrder) : Value → String
  | .text s => s
  | .words s => s
  | .number n => toString n
  | .bool b => toString b
  | .error e => e.message order

/-- Named values, in order. -/
abbrev FieldList := List (String × Value)

/-- A stretch of work. -/
structure Span where
  level : Level := .info
  target : String
  name : String
  fields : FieldList
  deriving DecidableEq, Repr

/-- Something said at one moment. -/
structure Note where
  level : Level
  target : String
  message : String
  fields : FieldList := []
  deriving DecidableEq, Repr

/-- An entry of the log. -/
inductive Entry where
  | enter (span : Span)
  | note (note : Note)
  /-- Leave the span that was entered last. -/
  | leave
  deriving DecidableEq, Repr

end RewardDesk.Log
