import RewardDesk.Json.Writer
import RewardDesk.Text.Quoted

/-!
# What can be wrong with a JSON document

A `Fault` is a cause, with the place in the text where the reader noticed it when there was a text.
Causes are of three kinds: the text is not JSON, the JSON does not have the shape that was asked
for, or a string inside it could not be read further. `Fault.message` is the one place that puts
them into words.
-/

namespace RewardDesk
namespace Json

/-- A place in a text: its line, from one, and the bytes of that line in front of it. Values that
were never text are nowhere. -/
inductive Place where
  | nowhere
  | inText (line column : Nat)
  deriving DecidableEq, Repr, Inhabited

namespace Place

/-- The start of a text. -/
def origin : Place := .inText 1 0

/-- The place behind one more byte. -/
def after (p : Place) (byte : UInt8) : Place :=
  match p with
  | .nowhere => .nowhere
  | .inText line column => if byte = 10 then .inText (line + 1) 0 else .inText line (column + 1)

/-- The place behind some more bytes. -/
def afterAll (p : Place) (bytes : List UInt8) : Place := bytes.foldl after p

end Place

/-- The ways in which a text fails to be JSON. -/
inductive Malformed where
  | endInList | endInObject | endInString | endInValue
  | expectedColon | expectedListCommaOrEnd | expectedObjectCommaOrEnd
  | expectedLiteral | expectedValue
  | invalidEscape | invalidNumber | numberOutOfRange | invalidCodePoint | controlCharacter
  | keyMustBeString | loneSurrogate | unfinishedSurrogatePair
  | trailingComma | trailingCharacters | tooDeep
  deriving DecidableEq, Repr

def Malformed.message : Malformed → String
  | .endInList => "EOF while parsing a list"
  | .endInObject => "EOF while parsing an object"
  | .endInString => "EOF while parsing a string"
  | .endInValue => "EOF while parsing a value"
  | .expectedColon => "expected `:`"
  | .expectedListCommaOrEnd => "expected `,` or `]`"
  | .expectedObjectCommaOrEnd => "expected `,` or `\x7d`"
  | .expectedLiteral => "expected ident"
  | .expectedValue => "expected value"
  | .invalidEscape => "invalid escape"
  | .invalidNumber => "invalid number"
  | .numberOutOfRange => "number out of range"
  | .invalidCodePoint => "invalid unicode code point"
  | .controlCharacter => "control character (\\u0000-\\u001F) found while parsing a string"
  | .keyMustBeString => "key must be a string"
  | .loneSurrogate => "lone leading surrogate in hex escape"
  | .unfinishedSurrogatePair => "unexpected end of hex escape"
  | .trailingComma => "trailing comma"
  | .trailingCharacters => "trailing characters"
  | .tooDeep => "recursion limit exceeded"

/-- What stood where something else was expected. -/
inductive Found where
  | null
  | bool (value : Bool)
  | int (value : Int)
  | float (value : Binary64)
  | string (value : String)
  | sequence
  | map
  deriving DecidableEq, Repr

/-- How a found value is named. -/
def Found.describe : Found → String
  | .null => "null"
  | .bool b => "boolean `" ++ toString b ++ "`"
  | .int n => "integer `" ++ toString n ++ "`"
  | .float x => "floating point `" ++ numberLayout.write x ++ "`"
  | .string s => "string " ++ Text.quoted s
  | .sequence => "sequence"
  | .map => "map"

/-- What is found when a value is looked at from outside. -/
def found : Json → Found
  | .null => .null
  | .bool b => .bool b
  | .int n => .int n
  | .float x => .float x
  | .string s => .string s
  | .array _ => .sequence
  | .object _ => .map

/-- The causes of a fault. -/
inductive Cause where
  | malformed (m : Malformed)
  | wrongType (found : Found) (expected : String)
  | wrongValue (found : Found) (expected : String)
  | wrongLength (length : Nat) (expected : String)
  | missingField (name : String)
  | duplicateField (name : String)
  | unknownField (name : String) (expected : List String)
  | unknownVariant (name : String) (expected : List String)
  | unreadable (message : String)
  deriving DecidableEq, Repr

/-- The list of names that would have been accepted. -/
def alternatives : List String → String
  | [] => ""
  | [a] => "`" ++ a ++ "`"
  | [a, b] => "`" ++ a ++ "` or `" ++ b ++ "`"
  | names => "one of " ++ ", ".intercalate (names.map fun n => "`" ++ n ++ "`")

def Cause.message : Cause → String
  | .malformed m => m.message
  | .wrongType found expected => "invalid type: " ++ found.describe ++ ", expected " ++ expected
  | .wrongValue found expected => "invalid value: " ++ found.describe ++ ", expected " ++ expected
  | .wrongLength n expected => "invalid length " ++ toString n ++ ", expected " ++ expected
  | .missingField name => "missing field `" ++ name ++ "`"
  | .duplicateField name => "duplicate field `" ++ name ++ "`"
  | .unknownField name expected =>
    "unknown field `" ++ name ++ "`, expected " ++ alternatives expected
  | .unknownVariant name expected =>
    "unknown variant `" ++ name ++ "`, expected " ++ alternatives expected
  | .unreadable message => message

/-- Something wrong with a document. -/
structure Fault where
  cause : Cause
  place : Place := .nowhere
  deriving DecidableEq, Repr

namespace Fault

/-- A malformation at a place. -/
def malformed (m : Malformed) (place : Place) : Fault := ⟨.malformed m, place⟩

/-- Give a fault without a place the place where it surfaces. -/
def orAt (fault : Fault) (place : Place) : Fault :=
  match fault.place with
  | .nowhere => { fault with place }
  | _ => fault

/-- The cause in words, followed by its place in the text. -/
def message (fault : Fault) : String :=
  match fault.place with
  | .nowhere => fault.cause.message
  | .inText line column =>
    fault.cause.message ++ " at line " ++ toString line ++ " column " ++ toString column

end Fault
end Json
end RewardDesk
