import RewardDesk.Config.Setting
import RewardDesk.Text.Percent
import RewardDesk.Time.Calendar

/-!
# TOML: texts, numbers and dates

The values that stand in one piece. A reader takes the value off the front of the document and
gives what is left; `none` says that there is no such value.
-/

namespace RewardDesk.Toml

/-- What is read from the front of a document, and the rest of it. -/
abbrev Reader (α : Type) := List Char → Option (α × List Char)

/-- Is it a blank inside a line? -/
def isBlank (c : Char) : Bool := c = ' ' || c = '\t'

def skipBlanks (cs : List Char) : List Char := cs.dropWhile isBlank

/-- The characters that no text and no comment may hold as they are. -/
def isControl (c : Char) : Bool := c.toNat < 0x20 && c ≠ '\t' || c.toNat = 0x7F

/-- Does a line end here? -/
def atLineEnd : List Char → Bool
  | '\n' :: _ | '\r' :: '\n' :: _ => true
  | _ => false

/-! ### Texts -/

/-- The character whose number has these hexadecimal digits. -/
def charOfHex? (digits : List Char) : Option Char := do
  let n ← digits.foldlM (fun n c => (Text.hexValue? c).map (n * 16 + ·)) 0
  if n < 0xD800 ∨ (0xE000 ≤ n ∧ n < 0x110000) then some (Char.ofNat n) else none

/-- The character that a letter behind a backslash stands for. -/
def escaped? : Char → Option Char
  | 'b' => some '\x08'
  | 't' => some '\t'
  | 'n' => some '\n'
  | 'f' => some '\x0c'
  | 'r' => some '\r'
  | 'e' => some '\x1b'
  | '"' => some '"'
  | '\\' => some '\\'
  | _ => none

/-- Put a character in front of a text that is read. -/
def prepend (c : Option Char) (text : Option (List Char × List Char)) :
    Option (List Char × List Char) := do
  let c ← c
  let (cs, rest) ← text
  return (c :: cs, rest)

/-- The text up to a quotation mark, with escapes. -/
def basicText : Reader (List Char)
  | [] => none
  | '"' :: rest => some ([], rest)
  | '\\' :: 'x' :: a :: b :: rest => prepend (charOfHex? [a, b]) (basicText rest)
  | '\\' :: 'u' :: a :: b :: c :: d :: rest => prepend (charOfHex? [a, b, c, d]) (basicText rest)
  | '\\' :: 'U' :: a :: b :: c :: d :: e :: f :: g :: h :: rest =>
    prepend (charOfHex? [a, b, c, d, e, f, g, h]) (basicText rest)
  | '\\' :: c :: rest => prepend (escaped? c) (basicText rest)
  | c :: rest => if isControl c then none else prepend (some c) (basicText rest)

/-- The text up to three quotation marks, with escapes. A backslash at the end of a line takes
away the line end and the blanks and line ends behind it, which is what `trimming` says. -/
def basicLines (trimming : Bool) : Reader (List Char)
  | [] => none
  | '"' :: '"' :: '"' :: '"' :: '"' :: rest => some (['"', '"'], rest)
  | '"' :: '"' :: '"' :: '"' :: rest => some (['"'], rest)
  | '"' :: '"' :: '"' :: rest => some ([], rest)
  | '\r' :: '\n' :: rest =>
    if trimming then basicLines true rest
    else prepend (some '\r') (prepend (some '\n') (basicLines false rest))
  | '\\' :: 'x' :: a :: b :: rest => prepend (charOfHex? [a, b]) (basicLines false rest)
  | '\\' :: 'u' :: a :: b :: c :: d :: rest =>
    prepend (charOfHex? [a, b, c, d]) (basicLines false rest)
  | '\\' :: 'U' :: a :: b :: c :: d :: e :: f :: g :: h :: rest =>
    prepend (charOfHex? [a, b, c, d, e, f, g, h]) (basicLines false rest)
  | '\\' :: c :: rest =>
    if atLineEnd (skipBlanks (c :: rest)) then basicLines true rest
    else prepend (escaped? c) (basicLines false rest)
  | c :: rest =>
    if trimming && (isBlank c || c = '\n') then basicLines true rest
    else if isControl c && c ≠ '\n' then none
    else prepend (some c) (basicLines false rest)

/-- The text up to an apostrophe, as it is. -/
def literalText : Reader (List Char)
  | [] => none
  | '\'' :: rest => some ([], rest)
  | c :: rest => if isControl c then none else prepend (some c) (literalText rest)

/-- The text up to three apostrophes, as it is. -/
def literalLines : Reader (List Char)
  | [] => none
  | '\'' :: '\'' :: '\'' :: '\'' :: '\'' :: rest => some (['\'', '\''], rest)
  | '\'' :: '\'' :: '\'' :: '\'' :: rest => some (['\''], rest)
  | '\'' :: '\'' :: '\'' :: rest => some ([], rest)
  | '\r' :: '\n' :: rest => prepend (some '\r') (prepend (some '\n') (literalLines rest))
  | c :: rest =>
    if isControl c && c ≠ '\n' then none else prepend (some c) (literalLines rest)

/-- Drop a line end at the front. -/
def skipLineEnd : List Char → List Char
  | '\n' :: rest | '\r' :: '\n' :: rest => rest
  | cs => cs

/-- A text of any of the four kinds, character by character. -/
def anyText : Reader (List Char)
  | '"' :: '"' :: '"' :: rest => basicLines false (skipLineEnd rest)
  | '\'' :: '\'' :: '\'' :: rest => literalLines (skipLineEnd rest)
  | '"' :: rest => basicText rest
  | '\'' :: rest => literalText rest
  | _ => none

/-- A text of any of the four kinds. -/
def text? : Reader String := fun cs => (anyText cs).map fun r => (.ofList r.1, r.2)

/-! ### Numbers -/

/-- Digits with single underscores between them, without the underscores. -/
def grouped? (isDigit : Char → Bool) : List Char → Option (List Char)
  | [] => none
  | [c] => if isDigit c then some [c] else none
  | c :: '_' :: rest => if isDigit c then (grouped? isDigit rest).map (c :: ·) else none
  | c :: rest => if isDigit c then (grouped? isDigit rest).map (c :: ·) else none

/-- Decimal digits without a needless zero at the front. -/
def wholeDigits? (cs : List Char) : Option (List Char) := do
  let digits ← grouped? Char.isDigit cs
  if digits.head? = some '0' ∧ digits.length ≠ 1 then none else some digits

/-- A whole number of 64 bits. -/
def word? (n : Int) : Option Setting :=
  if -Int.pow 2 63 ≤ n ∧ n < Int.pow 2 63 then some (.int n) else none

/-- A whole number in another base than ten. -/
def inBase? (base : Nat) (isDigit : Char → Bool) (cs : List Char) : Option Setting := do
  let digits ← grouped? isDigit cs
  let n ← digits.foldlM (fun n c => (Text.hexValue? c).map (n * base + ·)) 0
  word? n

/-- The exponent of a floating-point number, with its mark. -/
def exponentDigits? : List Char → Option (List Char)
  | [] => some []
  | mark :: sign :: rest =>
    if mark = 'e' ∨ mark = 'E' then
      if sign = '-' then (grouped? Char.isDigit rest).map ('e' :: '-' :: ·)
      else if sign = '+' then (grouped? Char.isDigit rest).map ('e' :: ·)
      else (grouped? Char.isDigit (sign :: rest)).map ('e' :: ·)
    else none
  | _ => none

/-- A floating-point number without a sign. One that is too large is none. -/
def float? (negative : Bool) (cs : List Char) : Option Setting := do
  if cs = "inf".toList then return .float (.infinity negative)
  if cs = "nan".toList then return .float .nan
  let whole := cs.takeWhile fun c => c.isDigit || c = '_'
  let digits ← wholeDigits? whole
  let (part, rest) ← match cs.drop whole.length with
    | '.' :: rest =>
      let part := rest.takeWhile fun c => c.isDigit || c = '_'
      (grouped? Char.isDigit part).map fun digits => ('.' :: digits, rest.drop part.length)
    | rest => some ([], rest)
  let exponent ← exponentDigits? rest
  let x ← Number.readDecimal? negative (digits ++ part ++ exponent)
  if x.isFinite then some (.float x) else none

/-- A decimal number without a sign. -/
def decimal? (negative : Bool) (cs : List Char) : Option Setting :=
  if cs.all fun c => c.isDigit || c = '_' then do
    let digits ← wholeDigits? cs
    let n ← Number.digitsValue? digits
    word? (if negative then -n else n)
  else float? negative cs

def number? : List Char → Option Setting
  | '0' :: 'x' :: digits => inBase? 16 (fun c => (Text.hexValue? c).isSome) digits
  | '0' :: 'o' :: digits => inBase? 8 (fun c => '0' ≤ c && c ≤ '7') digits
  | '0' :: 'b' :: digits => inBase? 2 (fun c => c = '0' || c = '1') digits
  | '-' :: cs => decimal? true cs
  | '+' :: cs => decimal? false cs
  | cs => decimal? false cs

/-! ### Dates and times -/

/-- A number of exactly so many digits at the front, from `low` to `high`. -/
def digits? (count low high : Nat) : Reader Nat := fun cs => do
  let digits := cs.take count
  if digits.length ≠ count then none
  else
    let n ← Number.digitsValue? digits
    if low ≤ n ∧ n ≤ high then some (n, cs.drop count) else none

/-- A character that has to stand here. -/
def skip? (c : Char) : List Char → Option (List Char)
  | d :: rest => if c = d then some rest else none
  | [] => none

/-- A number with zeros in front up to a width. -/
def padded (width n : Nat) : List Char :=
  let digits := Nat.toDigits 10 n
  List.replicate (width - digits.length) '0' ++ digits

/-- A date, in its usual form. -/
def date? : Reader (List Char) := fun cs => do
  let (year, cs) ← digits? 4 0 9999 cs
  let (month, cs) ← digits? 2 1 12 (← skip? '-' cs)
  let (day, cs) ← digits? 2 1 (Date.monthLength year month) (← skip? '-' cs)
  return (padded 4 year ++ '-' :: padded 2 month ++ '-' :: padded 2 day, cs)

/-- A fraction of a second, up to nanoseconds and without zeros at its end. -/
def fraction? : Reader (List Char)
  | '.' :: cs =>
    let digits := cs.takeWhile Char.isDigit
    if digits.isEmpty then none
    else
      let kept := ((digits.take 9).reverse.dropWhile (· = '0')).reverse
      some ('.' :: (if kept.isEmpty then ['0'] else kept), cs.drop digits.length)
  | cs => some ([], cs)

/-- A time of day, in its usual form. -/
def time? : Reader (List Char) := fun cs => do
  let (hour, cs) ← digits? 2 0 23 cs
  let (minute, cs) ← digits? 2 0 59 (← skip? ':' cs)
  let text := padded 2 hour ++ ':' :: padded 2 minute
  match cs with
  | ':' :: cs =>
    let (second, cs) ← digits? 2 0 60 cs
    let (fraction, cs) ← fraction? cs
    return (text ++ ':' :: padded 2 second ++ fraction, cs)
  | cs => return (text, cs)

/-- A distance from universal time, if there is one, in its usual form. -/
def offset? : Reader (List Char)
  | 'Z' :: cs | 'z' :: cs => some (['Z'], cs)
  | sign :: cs => do
    if sign = '+' ∨ sign = '-' then
      let (hour, cs) ← digits? 2 0 23 cs
      let (minute, cs) ← digits? 2 0 59 (← skip? ':' cs)
      return (sign :: padded 2 hour ++ ':' :: padded 2 minute, cs)
    else return ([], sign :: cs)
  | [] => some ([], [])

/-- A date, a time or both, in their usual form. -/
def moment? : Reader (List Char) := fun cs =>
  match date? cs with
  | none => time? cs
  | some (date, []) => some (date, [])
  | some (date, mark :: rest) => do
    if mark = 'T' ∨ mark = 't' ∨ mark = ' ' then
      let (time, rest) ← time? rest
      let (offset, rest) ← offset? rest
      return (date ++ 'T' :: time ++ offset, rest)
    else none

/-! ### Values in one piece -/

/-- Is the character part of a number, a date or a word? -/
def isScalarChar (c : Char) : Bool :=
  c.isAlphanum || c = '_' || c = '-' || c = '+' || c = '.' || c = ':'

/-- Does the text begin like a date? -/
def beginsDate (cs : List Char) : Bool := (date? cs).any (·.2.isEmpty)

/-- The number, date or word at the front. A blank may stand between a date and a time. -/
def scalarText (cs : List Char) : List Char × List Char :=
  let first := cs.takeWhile isScalarChar
  match cs.drop first.length with
  | ' ' :: c :: rest =>
    if beginsDate first && c.isDigit then
      let second := (c :: rest).takeWhile isScalarChar
      (first ++ ' ' :: second, (c :: rest).drop second.length)
    else (first, ' ' :: c :: rest)
  | rest => (first, rest)

/-- A number, a date or a truth value. Dates are texts. -/
def scalar? : Reader Setting := fun cs => do
  let (text, rest) := scalarText cs
  let value ←
    if text = "true".toList then some (.bool true)
    else if text = "false".toList then some (.bool false)
    else match moment? text with
      | some (moment, []) => some (.text (.ofList moment))
      | _ => number? text
  return (value, rest)

end RewardDesk.Toml
