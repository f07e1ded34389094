/-!
# Text/Blank — blank characters and the text between them

A character is blank when Unicode gives it the property `White_Space`.  Blanks around a text count
neither for its length nor for being empty.
-/

namespace Stockroom.Text

/-- The characters with the property `White_Space`. -/
def isBlankChar (c : Char) : Bool :=
  let n := c.toNat
  (0x09 ≤ n && n ≤ 0x0D) || n = 0x20 || n = 0x85 || n = 0xA0 || n = 0x1680 ||
    (0x2000 ≤ n && n ≤ 0x200A) || n = 0x2028 || n = 0x2029 || n = 0x202F || n = 0x205F ||
    n = 0x3000

/-- The characters left when blanks are taken off both ends. -/
def trimChars (cs : List Char) : List Char :=
  ((cs.dropWhile isBlankChar).reverse.dropWhile isBlankChar).reverse

/-- The text without the blanks around it. -/
def trim (s : String) : String := String.ofList (trimChars s.toList)

/-- How many characters stand between the blanks around a text. -/
def innerLength (s : String) : Nat := (trimChars s.toList).length

/-- A text without any other character than blanks. -/
def isBlank (s : String) : Bool := innerLength s = 0

/-- A text that says something; a blank one counts as absent. -/
def nonBlank (s : Option String) : Option String := s.filter fun text => !isBlank text

end Stockroom.Text
