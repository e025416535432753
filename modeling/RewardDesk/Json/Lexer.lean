import RewardDesk.Json.Fault
import RewardDesk.Text.Bytes

/-!
# The lexemes of JSON text

    bytes ──lexemes──▶ List Token ──Document.read──▶ Document ──decode──▶ a value of some type

The lexer never fails. A lexeme that cannot be read carries its fault, which counts only if a reader
gets that far, and ends the stream unless a reader that skips over values could pass it: numbers
too large for a double and unpaired surrogates do no harm where nobody looks at them.

Every token knows the place in front of it, the place behind its first byte and the place behind
all of it. Faults are reported at one of the three.
-/

namespace RewardDesk
namespace Json

/-- The lexemes of JSON. -/
inductive Lexeme where
  | openArray | closeArray | openObject | closeObject | comma | colon
  | null
  | bool (value : Bool)
  /-- A number, and what keeps even a skipper from passing it. -/
  | number (value : Except Fault Json) (barrier : Option Fault)
  /-- A string, and what keeps even a skipper from passing it. -/
  | string (value : Except Fault String) (barrier : Option Fault)
  /-- Neither a number, nor a string, nor anything else. -/
  | stray (fault : Fault)

/-- A lexeme and its places. -/
structure Token where
  lexeme : Lexeme
  start : Place
  peek : Place
  stop : Place

/-- What is left to read, and the place it starts at. -/
structure Cursor where
  rest : List UInt8
  place : Place

namespace Cursor

/-- The cursor behind `n` more bytes. -/
def advance (c : Cursor) (n : Nat) : Cursor :=
  ⟨c.rest.drop n, c.place.afterAll (c.rest.take n)⟩

/-- The place behind the next byte, or this place at the end of the text. -/
def peekPlace (c : Cursor) : Place :=
  match c.rest with
  | [] => c.place
  | b :: _ => c.place.after b

/-- The next byte as a character, or NUL at the end. -/
def peekChar (c : Cursor) : Char :=
  match c.rest with
  | [] => '\x00'
  | b :: _ => Char.ofUInt8 b

/-- A fault at this place. -/
def fault (c : Cursor) (m : Malformed) : Fault := .malformed m c.place

/-- A fault behind the next byte. -/
def peekFault (c : Cursor) (m : Malformed) : Fault := .malformed m c.peekPlace

end Cursor

/-! ### Numbers -/

def isDigitByte (b : UInt8) : Bool := 48 ≤ b && b ≤ 57

/-- The digits in front, as numbers. -/
def leadingDigits (bs : List UInt8) : List Nat :=
  (bs.takeWhile isDigitByte).map fun b => b.toNat - 48

/-- Digits gathered into a significand of at most 64 bits. The first digit that does not fit is
left out, and all digits after it. -/
structure Significand where
  value : Nat
  /-- How many digits were left out. -/
  dropped : Nat

/-- Take one more digit. -/
def Significand.push (s : Significand) (digit : Nat) : Significand :=
  if s.dropped = 0 ∧ s.value * 10 + digit < Nat.pow 2 64 then ⟨s.value * 10 + digit, 0⟩
  else ⟨s.value, s.dropped + 1⟩

/-- A scanned exponent: its value, or the place at which it grew beyond 31 bits. -/
inductive Exponent where
  | value (e : Int)
  | tooLarge (place : Place)
  | tooSmall

/-- Scan the digits of an exponent; `seen` is the value so far. -/
def exponentDigits (negative : Bool) (place : Place) (seen : Nat) : List UInt8 → Exponent
  | [] => .value (if negative then -seen else seen)
  | b :: rest =>
    if isDigitByte b then
      let next := seen * 10 + (b.toNat - 48)
      if next < Nat.pow 2 31 then exponentDigits negative (place.after b) next rest
      else if negative then .tooSmall else .tooLarge (place.after b)
    else .value (if negative then -seen else seen)

/-- The number with a significand and an exponent, at the cursor behind its text. -/
def scaledNumber (negative : Bool) (significand : Nat) (e : Int) (c : Cursor) :
    Except Fault (Json × Cursor) :=
  match Binary64.ofDigits? negative significand e with
  | some x => .ok (.float x, c)
  | none => .error (c.fault .numberOutOfRange)

/-- Read an exponent, the cursor standing on its `e`. -/
def readExponent (negative : Bool) (significand : Nat) (e : Int) (c : Cursor) :
    Except Fault (Json × Cursor) :=
  let c := c.advance 1
  let down := c.peekChar = '-'
  let c := if down ∨ c.peekChar = '+' then c.advance 1 else c
  match c.rest with
  | [] => .error (c.fault .endInValue)
  | b :: _ =>
    if !isDigitByte b then .error ((c.advance 1).fault .invalidNumber)
    else
      let behind := c.advance (leadingDigits c.rest).length
      match exponentDigits down c.place 0 c.rest with
      | .value digits => scaledNumber negative significand (e + digits) behind
      | .tooLarge place =>
        if significand = 0 then .ok (.float (.zero negative), behind)
        else .error (.malformed .numberOutOfRange place)
      | .tooSmall => .ok (.float (.zero negative), behind)

/-- Read a fraction, the cursor standing on its point. -/
def readFraction (negative : Bool) (whole : Significand) (c : Cursor) :
    Except Fault (Json × Cursor) :=
  let c := c.advance 1
  let digits := leadingDigits c.rest
  if digits.isEmpty then
    .error (if c.rest.isEmpty then c.fault .endInValue else c.peekFault .invalidNumber)
  else
    let all := digits.foldl Significand.push ⟨whole.value, 0⟩
    let e := (whole.dropped : Int) - (digits.length - all.dropped : Nat)
    let c := c.advance digits.length
    if c.peekChar = 'e' ∨ c.peekChar = 'E' then readExponent negative all.value e c
    else scaledNumber negative all.value e c

/-- The number without fraction and exponent. Negative zero, and what needs more than 64 bits, is a
floating-point number. -/
def wholeNumber (negative : Bool) (whole : Significand) (c : Cursor) :
    Except Fault (Json × Cursor) :=
  if whole.dropped ≠ 0 then scaledNumber negative whole.value whole.dropped c
  else if !negative then .ok (.int whole.value, c)
  else if whole.value = 0 ∨ Nat.pow 2 63 < whole.value then scaledNumber true whole.value 0 c
  else .ok (.int (-whole.value), c)

/-- Read the number in front of the cursor, its sign being read already. -/
def readNumber (negative : Bool) (c : Cursor) : Except Fault (Json × Cursor) :=
  match c.rest with
  | [] => .error (c.fault .endInValue)
  | b :: _ =>
    if !isDigitByte b then .error ((c.advance 1).fault .invalidNumber)
    else if b = 48 ∧ isDigitByte ((c.advance 1).rest.headD 0) then
      .error ((c.advance 1).peekFault .invalidNumber)
    else
      let digits := leadingDigits c.rest
      let whole := digits.foldl Significand.push ⟨0, 0⟩
      let c := c.advance digits.length
      if c.peekChar = '.' then readFraction negative whole c
      else if c.peekChar = 'e' ∨ c.peekChar = 'E' then
        readExponent negative whole.value whole.dropped c
      else wholeNumber negative whole c

/-- Skip an exponent, the cursor standing on its `e`. -/
def skipExponent (c : Cursor) : Except Fault Cursor :=
  let c := c.advance 1
  let c := if c.peekChar = '-' ∨ c.peekChar = '+' then c.advance 1 else c
  let digits := leadingDigits c.rest
  if digits.isEmpty then .error ((c.advance 1).fault .invalidNumber)
  else .ok (c.advance digits.length)

/-- Skip the number in front of the cursor, its sign being read already. -/
def skipNumber (c : Cursor) : Except Fault Cursor :=
  let digits := leadingDigits c.rest
  if digits.isEmpty then .error ((c.advance 1).fault .invalidNumber)
  else if digits.headD 0 = 0 ∧ digits.length ≠ 1 then
    .error ((c.advance 1).peekFault .invalidNumber)
  else
    let c := c.advance digits.length
    if c.peekChar = '.' then
      let c := c.advance 1
      let digits := leadingDigits c.rest
      if digits.isEmpty then .error (c.peekFault .invalidNumber)
      else
        let c := c.advance digits.length
        if c.peekChar = 'e' ∨ c.peekChar = 'E' then skipExponent c else .ok c
    else if c.peekChar = 'e' ∨ c.peekChar = 'E' then skipExponent c
    else .ok c

/-! ### Strings -/

/-- The value of a hexadecimal digit. -/
def hexValue (b : UInt8) : Option Nat :=
  if 48 ≤ b && b ≤ 57 then some (b.toNat - 48)
  else if 97 ≤ b && b ≤ 102 then some (b.toNat - 87)
  else if 65 ≤ b && b ≤ 70 then some (b.toNat - 55)
  else none

/-- Read the four digits of an escape by number. -/
def readHex (c : Cursor) : Except Fault (Nat × Cursor) :=
  match c.rest with
  | a :: b :: d :: e :: _ =>
    match hexValue a, hexValue b, hexValue d, hexValue e with
    | some a, some b, some d, some e => .ok (((a * 16 + b) * 16 + d) * 16 + e, c.advance 4)
    | _, _, _, _ => .error ((c.advance 4).fault .invalidEscape)
  | rest => .error ((c.advance rest.length).fault .endInString)

/-- The character of a short escape. -/
def shortEscape (c : Char) : Option Char :=
  if c = '"' ∨ c = '\\' ∨ c = '/' then some c
  else if c = 'b' then some '\x08'
  else if c = 'f' then some '\x0c'
  else if c = 'n' then some '\n'
  else if c = 'r' then some '\r'
  else if c = 't' then some '\t'
  else none

/-- Read an escape by number, the cursor standing behind its `u`. A leading surrogate must be
followed by the escape of a trailing one. -/
def readCodePoint (c : Cursor) : Except Fault (Char × Cursor) := do
  let (n, c) ← readHex c
  if 0xDC00 ≤ n ∧ n ≤ 0xDFFF then throw (c.fault .loneSurrogate)
  if n < 0xD800 ∨ 0xDBFF < n then return (Char.ofNat n, c)
  if c.rest.isEmpty then throw (c.fault .endInString)
  if c.peekChar ≠ '\\' then throw ((c.advance 1).fault .unfinishedSurrogatePair)
  let c := c.advance 1
  if c.rest.isEmpty then throw (c.fault .endInString)
  if c.peekChar ≠ 'u' then throw ((c.advance 1).fault .unfinishedSurrogatePair)
  let (m, c) ← readHex (c.advance 1)
  if m < 0xDC00 ∨ 0xDFFF < m then throw (c.fault .loneSurrogate)
  return (Char.ofNat (0x10000 + (n - 0xD800) * 0x400 + (m - 0xDC00)), c)

/-- Read an escape, the cursor standing behind its backslash. -/
def readEscape (c : Cursor) : Except Fault (Char × Cursor) :=
  match c.rest with
  | [] => .error (c.fault .endInString)
  | b :: _ =>
    let behind := c.advance 1
    if Char.ofUInt8 b = 'u' then readCodePoint behind
    else match shortEscape (Char.ofUInt8 b) with
      | some r => .ok (r, behind)
      | none => .error (behind.fault .invalidEscape)

/-- Skip an escape, the cursor standing behind its backslash. -/
def skipEscape (c : Cursor) : Except Fault Cursor :=
  match c.rest with
  | [] => .error (c.fault .endInString)
  | b :: _ =>
    let behind := c.advance 1
    if Char.ofUInt8 b = 'u' then (readHex behind).map (·.2)
    else match shortEscape (Char.ofUInt8 b) with
      | some _ => .ok behind
      | none => .error (behind.fault .invalidEscape)

/-- Behind the first byte that begins no character. -/
def illFormedPlace (c : Cursor) : Place :=
  (c.advance (Text.wellFormedLength c.rest.length c.rest + 1)).place

/-- Read the rest of a string, `start` being its beginning and `seen` the bytes read so far, the
last one first. Every step uses up a byte, so `fuel` only has to be the number of bytes left. -/
def readString (start : Cursor) (fuel : Nat) (seen : List UInt8) (c : Cursor) :
    Except Fault (String × Cursor) :=
  match fuel, c.rest with
  | 0, _ | _, [] => .error (c.fault .endInString)
  | fuel + 1, b :: _ =>
    let behind := c.advance 1
    if b = 34 then
      match Text.ofBytes? seen.reverse with
      | some s => .ok (s, behind)
      | none => .error (.malformed .invalidCodePoint (illFormedPlace start))
    else if b = 92 then
      match readEscape behind with
      | .ok (r, c) => readString start fuel ((String.utf8EncodeChar r).reverse ++ seen) c
      | .error f => .error f
    else if b < 32 then .error (behind.fault .controlCharacter)
    else readString start fuel (b :: seen) behind

/-- Skip the rest of a string. -/
def skipString (fuel : Nat) (c : Cursor) : Except Fault Cursor :=
  match fuel, c.rest with
  | 0, _ | _, [] => .error (c.fault .endInString)
  | fuel + 1, b :: _ =>
    let behind := c.advance 1
    if b = 34 then .ok behind
    else if b = 92 then
      match skipEscape behind with
      | .ok c => skipString fuel c
      | .error f => .error f
    else if b < 32 then .error (c.fault .controlCharacter)
    else skipString fuel behind

/-! ### The stream of tokens -/

def isBlankByte (b : UInt8) : Bool := b = 32 || b = 10 || b = 9 || b = 13

/-- The cursor in front of the next lexeme. -/
def Cursor.skipBlanks (c : Cursor) : Cursor := c.advance (c.rest.takeWhile isBlankByte).length

/-- Read the rest of a literal, the cursor standing behind its first letter. -/
def readLiteral : List UInt8 → Cursor → Except Fault Cursor
  | [], c => .ok c
  | e :: expected, c =>
    match c.rest with
    | [] => .error (c.fault .endInValue)
    | b :: _ =>
      if b = e then readLiteral expected (c.advance 1)
      else .error ((c.advance 1).fault .expectedLiteral)

/-- The lexeme of a literal, and the cursor behind it. -/
def literalLexeme (rest : String) (value : Lexeme) (c : Cursor) : Lexeme × Option Cursor :=
  match readLiteral (Text.bytes rest) (c.advance 1) with
  | .ok c => (value, some c)
  | .error f => (.stray f, none)

/-- The lexeme that a strict and a lenient reading make together. -/
def joinReadings (make : Except Fault α → Option Fault → Lexeme)
    (strict : Except Fault (α × Cursor)) (lenient : Except Fault Cursor) :
    Lexeme × Option Cursor :=
  match strict, lenient with
  | .ok (a, c), _ => (make (.ok a) none, some c)
  | .error f, .ok c => (make (.error f) none, some c)
  | .error f, .error g => (make (.error f) (some g), none)

/-- The lexeme at a byte, and the cursor behind it if reading can go on. -/
def lexemeAt (b : UInt8) (c : Cursor) : Lexeme × Option Cursor :=
  let behind := c.advance 1
  match Char.ofUInt8 b with
  | '[' => (.openArray, some behind)
  | ']' => (.closeArray, some behind)
  | '\x7b' => (.openObject, some behind)
  | '\x7d' => (.closeObject, some behind)
  | ',' => (.comma, some behind)
  | ':' => (.colon, some behind)
  | 'n' => literalLexeme "ull" .null c
  | 't' => literalLexeme "rue" (.bool true) c
  | 'f' => literalLexeme "alse" (.bool false) c
  | '"' =>
    joinReadings .string (readString behind c.rest.length [] behind)
      (skipString c.rest.length behind)
  | '-' => joinReadings .number (readNumber true behind) (skipNumber behind)
  | _ =>
    if isDigitByte b then joinReadings .number (readNumber false c) (skipNumber c)
    else
      (.stray (c.peekFault .expectedValue), none)

/-- The tokens from the cursor on, and the place at which the text ends. Every token uses up a
byte, so `fuel` only has to be the number of bytes left. -/
def tokensFrom : Nat → Cursor → List Token × Place
  | 0, c => ([], c.place)
  | fuel + 1, c =>
    let c := c.skipBlanks
    match c.rest with
    | [] => ([], c.place)
    | b :: _ =>
      let (lexeme, behind) := lexemeAt b c
      match behind with
      | none => ([⟨lexeme, c.place, c.peekPlace, c.place⟩], c.place)
      | some next =>
        let (rest, finish) := tokensFrom fuel next
        (⟨lexeme, c.place, c.peekPlace, next.place⟩ :: rest, finish)

/-- The tokens of a text and the place at which it ends. -/
def tokens (text : List UInt8) : List Token × Place :=
  tokensFrom (text.length + 1) ⟨text, .origin⟩

end Json
end RewardDesk
