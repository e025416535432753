import RewardDesk.Text.CaseTable
import RewardDesk.Text.Ranges

/-!
# Letter case

`lowercase` and `uppercase` follow the full case mappings of Unicode. A capital sigma that ends a
word becomes a final small sigma, so the lowercase of a text is not the concatenation of the
lowercases of its parts.
-/

namespace RewardDesk.Text

/-- The image of a character in a table of stretches; a character in no stretch stays. -/
def mapChar (table : List Stretch) (c : Char) : Char :=
  match table.findSome? (·.image? c.toNat) with
  | some n => Char.ofNat n
  | none => c

/-- The lowercase of a character on its own. The capital I with a dot keeps its dot as a
combining mark. -/
def lowerChar (c : Char) : List Char :=
  if c.toNat < 0x80 then [c.toLower]
  else if c.toNat = 0x130 then ['i', Char.ofNat 0x307]
  else [mapChar toLower c]

/-- The uppercase of a character. -/
def upperChar (c : Char) : List Char :=
  if c.toNat < 0x80 then [c.toUpper]
  else match toUpperLong.find? (·.1 == c.toNat) with
    | some (_, image) => image.map Char.ofNat
    | none => [mapChar toUpper c]

/-- Is the nearest letter that is not ignored a cased one? -/
def casedAhead (cs : List Char) : Bool :=
  match cs.dropWhile (inRanges caseIgnorable) with
  | [] => false
  | c :: _ => inRanges cased c

/-- The lowercase of the rest of a text whose beginning, last letter first, is `before`. -/
def lowerFrom (before : List Char) : List Char → List Char
  | [] => []
  | c :: rest =>
    let image :=
      if c.toNat = 0x3A3 then
        [Char.ofNat (if casedAhead before && !casedAhead rest then 0x3C2 else 0x3C3)]
      else lowerChar c
    image ++ lowerFrom (c :: before) rest

def lowercase (s : String) : String := String.ofList (lowerFrom [] s.toList)

def uppercase (s : String) : String := String.ofList (s.toList.flatMap upperChar)

/-- Does `part` occur somewhere in `whole`? -/
def occursIn (part : List Char) : List Char → Bool
  | [] => part.isEmpty
  | c :: rest => part.isPrefixOf (c :: rest) || occursIn part rest

end RewardDesk.Text
