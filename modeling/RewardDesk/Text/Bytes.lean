/-!
# Texts as bytes

A text is written in UTF-8. `ofBytes?` reads it back and refuses every other sequence of bytes,
`readBytes` says what is wrong with them, and `lossy` puts a mark for what cannot be read.
-/

namespace RewardDesk.Text

/-- The UTF-8 bytes of a text. -/
def bytes (s : String) : List UInt8 := s.toByteArray.data.toList

/-- The text with the given UTF-8 bytes, if they are well formed. -/
def ofBytes? (bs : List UInt8) : Option String := String.fromUTF8? ⟨bs.toArray⟩

/-- The number of bytes of the character at the front, if there is one. -/
def charLength? (bs : List UInt8) : Option Nat :=
  [1, 2, 3, 4].find? fun n => n ≤ bs.length && (ofBytes? (bs.take n)).isSome

/-- The number of bytes in front of the first one that begins no character, among as many
characters as `fuel` says. -/
def wellFormedLength : (fuel : Nat) → List UInt8 → Nat
  | 0, _ => 0
  | fuel + 1, bs =>
    match charLength? bs with
    | some n => n + wellFormedLength fuel (bs.drop n)
    | none => 0

/-! ### Bytes that are no text -/

/-- The ranges in which the bytes behind a first byte have to lie. -/
def following (first : UInt8) : List (UInt8 × UInt8) :=
  if 0xC2 ≤ first ∧ first ≤ 0xDF then [(0x80, 0xBF)]
  else if first = 0xE0 then [(0xA0, 0xBF), (0x80, 0xBF)]
  else if first = 0xED then [(0x80, 0x9F), (0x80, 0xBF)]
  else if 0xE1 ≤ first ∧ first ≤ 0xEF then [(0x80, 0xBF), (0x80, 0xBF)]
  else if first = 0xF0 then [(0x90, 0xBF), (0x80, 0xBF), (0x80, 0xBF)]
  else if first = 0xF4 then [(0x80, 0x8F), (0x80, 0xBF), (0x80, 0xBF)]
  else if 0xF1 ≤ first ∧ first ≤ 0xF3 then [(0x80, 0xBF), (0x80, 0xBF), (0x80, 0xBF)]
  else []

/-- How many bytes fit the beginning of some ranges; `none` if the bytes end too early. -/
def fitting? : List (UInt8 × UInt8) → List UInt8 → Option Nat
  | [], _ => some 0
  | _, [] => none
  | (low, high) :: ranges, b :: rest =>
    if low ≤ b ∧ b ≤ high then (fitting? ranges rest).map (· + 1) else some 0

/-- The number of bytes that belong together although they are no character, where `bs` begins
with none; `none` if only more bytes could tell. -/
def faultLength? : List UInt8 → Option Nat
  | [] => none
  | b :: rest => (fitting? (following b) rest).map (· + 1)

/-- Read a text, or say where and why its bytes are none. -/
def readBytes (bs : List UInt8) : Except String String :=
  match ofBytes? bs with
  | some s => .ok s
  | none =>
    let index := wellFormedLength bs.length bs
    match faultLength? (bs.drop index) with
    | some n => .error ("invalid utf-8 sequence of " ++ toString n ++ " bytes from index " ++
        toString index)
    | none => .error ("incomplete utf-8 byte sequence from index " ++ toString index)

/-- Read a text, with a mark for bytes that are none; `fuel` is the number of bytes at most. -/
def lossyFrom : (fuel : Nat) → List UInt8 → List Char
  | 0, _ | _, [] => []
  | fuel + 1, bs =>
    match charLength? bs with
    | some n => ((ofBytes? (bs.take n)).getD "").toList ++ lossyFrom fuel (bs.drop n)
    | none =>
      match faultLength? bs with
      | some n => '\uFFFD' :: lossyFrom fuel (bs.drop n)
      | none => ['\uFFFD']

/-- Read a text, with a mark for bytes that are none. -/
def lossy (bs : List UInt8) : String := String.ofList (lossyFrom bs.length bs)

end RewardDesk.Text
