/-!
# Blanks

Two sets of blank characters, and the trimming of text by them. `isSpace` holds the characters
that separate words or lines, the four information separators included; `isWhiteSpace` is the
same set without those four.
-/

namespace VolatilityDesk.Text

/-- White space as a property of characters: spaces, line ends and tabs of every script. -/
def isWhiteSpace (c : Char) : Bool :=
  let n := c.toNat
  (0x9 ≤ n && n ≤ 0xD) || n == 0x20 || n == 0x85 || n == 0xA0 || n == 0x1680 ||
  (0x2000 ≤ n && n ≤ 0x200A) || n == 0x2028 || n == 0x2029 || n == 0x202F || n == 0x205F ||
  n == 0x3000

/-- Blank characters: white space and the information separators. -/
def isSpace (c : Char) : Bool :=
  isWhiteSpace c || (0x1C ≤ c.toNat && c.toNat ≤ 0x1F)

/-- The list without the characters of a class at its end. -/
def dropEndWhile (p : Char → Bool) (s : List Char) : List Char :=
  (s.reverse.dropWhile p).reverse

/-- The list without the characters of a class at either end. -/
def trimWhile (p : Char → Bool) (s : List Char) : List Char :=
  dropEndWhile p (s.dropWhile p)

/-- The text without blanks at either end. -/
def strip (s : String) : String := String.ofList (trimWhile isSpace s.toList)

/-- The text without blanks at its end. -/
def stripEnd (s : String) : String := String.ofList (dropEndWhile isSpace s.toList)

end VolatilityDesk.Text
