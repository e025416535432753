import RewardDesk.Json.Basic
import RewardDesk.Number.Shortest

/-!
# Writing JSON

`Json.compact` prints a value without blanks. Only the quotation mark, the backslash and the
control characters below U+0020 are escaped in strings; floating-point numbers are written in
their shortest digits with `Json.numberLayout`.
-/

namespace RewardDesk
namespace Json

/-- Numbers from 10⁻⁵ up to 10¹⁶ are written positionally, a whole one with `.0`; the exponent of
any other carries its sign. -/
def numberLayout : DecimalLayout := ⟨some (-5, 15), true, "+"⟩

/-- The hexadecimal digit of a number below sixteen. -/
def hexDigit (n : Nat) : Char := (Nat.digitChar n)

/-- How a character is written inside a string. -/
def escapeChar (c : Char) : List Char :=
  if c = '"' then ['\\', '"']
  else if c = '\\' then ['\\', '\\']
  else if c = '\x08' then ['\\', 'b']
  else if c = '\x0c' then ['\\', 'f']
  else if c = '\n' then ['\\', 'n']
  else if c = '\r' then ['\\', 'r']
  else if c = '\t' then ['\\', 't']
  else if c.toNat < 0x20 then
    ['\\', 'u', '0', '0', hexDigit (c.toNat / 16), hexDigit (c.toNat % 16)]
  else [c]

/-- The characters of a string literal, quotation marks included. -/
def quoteChars (cs : List Char) : List Char := '"' :: (cs.flatMap escapeChar ++ ['"'])

def quote (s : String) : String := String.ofList (quoteChars s.toList)

mutual

/-- The characters of a value. -/
def chars : Json → List Char
  | .null => "null".toList
  | .bool true => "true".toList
  | .bool false => "false".toList
  | .int n => (toString n).toList
  | .float x => (numberLayout.write x).toList
  | .string s => quoteChars s.toList
  | .array items => '[' :: (itemChars items ++ [']'])
  | .object members => '\x7b' :: (memberChars members ++ ['\x7d'])

/-- The items of an array, with commas between them. -/
def itemChars : List Json → List Char
  | [] => []
  | [item] => chars item
  | item :: rest => chars item ++ ',' :: itemChars rest

/-- The members of an object, with commas between them. -/
def memberChars : List (String × Json) → List Char
  | [] => []
  | [(key, value)] => quoteChars key.toList ++ ':' :: chars value
  | (key, value) :: rest => quoteChars key.toList ++ ':' :: (chars value ++ ',' :: memberChars rest)

end

/-- The text of a value, without blanks. -/
def compact (j : Json) : String := String.ofList j.chars

end Json
end RewardDesk
