import RewardDesk.Text.Ranges

/-!
# Blanks

A character is blank if it has the Unicode property White_Space. `trim` takes the blanks off both
ends of a text; `isBlank` says that nothing would be left.
-/

namespace RewardDesk.Text

/-- The code points with the property White_Space. -/
def blankRanges : List (Nat × Nat) := [
  (0x9, 0xD), (0x20, 0x20), (0x85, 0x85), (0xA0, 0xA0), (0x1680, 0x1680), (0x2000, 0x200A),
  (0x2028, 0x2029), (0x202F, 0x202F), (0x205F, 0x205F), (0x3000, 0x3000)]

/-- Is the character blank? -/
def isBlankChar (c : Char) : Bool := inRanges blankRanges c

def trimStart (cs : List Char) : List Char := cs.dropWhile isBlankChar

def trimEnd (cs : List Char) : List Char := (cs.reverse.dropWhile isBlankChar).reverse

def trim (s : String) : String := String.ofList (trimEnd (trimStart s.toList))

/-- Does the text hold nothing but blanks? -/
def isBlank (s : String) : Bool := s.toList.all isBlankChar

end RewardDesk.Text
