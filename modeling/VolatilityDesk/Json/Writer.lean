import VolatilityDesk.Json
import VolatilityDesk.Text.Quoted
import VolatilityDesk.Decimal.Shortest
/-!
# Writing interchange text

Text is written in plain characters only: every other character is escaped by its code, and a
character beyond the basic plane by the two halves of its pair. `line` writes a value on one line
with blanks behind commas and colons, `indented` one item per line with two blanks per level.
-/

namespace VolatilityDesk.Json

/-- An escaped unit of four hexadecimal digits. -/
def unitText (unit : Nat) : List Char := '\\' :: 'u' :: Text.hexDigits 4 unit

/-- One character as it stands between quotes. -/
def escape (c : Char) : List Char :=
  if c = '"' ∨ c = '\\' then ['\\', c]
  else if c = '\n' then ['\\', 'n']
  else if c = '\r' then ['\\', 'r']
  else if c = '\t' then ['\\', 't']
  else if c = '\x0c' then ['\\', 'f']
  else if c = '\x08' then ['\\', 'b']
  else if ' ' ≤ c ∧ c ≤ '~' then [c]
  else if c.toNat < 0x10000 then unitText c.toNat
  else
    let beyond := c.toNat - 0x10000
    unitText (0xD800 + beyond / 0x400) ++ unitText (0xDC00 + beyond % 0x400)

/-- A text between quotes. -/
def textLiteral (s : String) : String :=
  String.ofList ('"' :: s.toList.flatMap escape ++ ['"'])

mutual

/-- A value on one line. -/
def line : Json → String
  | null => "null"
  | bool true => "true"
  | bool false => "false"
  | number literal => literal
  | text value => textLiteral value
  | list items => "[" ++ ", ".intercalate (lineItems items) ++ "]"
  | object members => "\x7b" ++ ", ".intercalate (lineMembers members) ++ "\x7d"

/-- Each item on one line. -/
def lineItems : List Json → List String
  | [] => []
  | item :: rest => line item :: lineItems rest

/-- Each member on one line. -/
def lineMembers : List (String × Json) → List String
  | [] => []
  | (name, value) :: rest => (textLiteral name ++ ": " ++ line value) :: lineMembers rest

end

/-- Entries between brackets, each on a line of its own at the next level. -/
def block (level : Nat) (opening closing : String) (entries : List String) : String :=
  let margin (n : Nat) := "\n" ++ String.ofList (List.replicate (2 * n) ' ')
  if entries.isEmpty then opening ++ closing
  else opening ++ ",".intercalate (entries.map (margin (level + 1) ++ ·)) ++ margin level ++ closing

mutual

/-- A value at a level of indentation. -/
def indentedAt (level : Nat) : Json → String
  | list items => block level "[" "]" (indentedItems (level + 1) items)
  | object members => block level "\x7b" "\x7d" (indentedMembers (level + 1) members)
  | null => "null"
  | bool true => "true"
  | bool false => "false"
  | number literal => literal
  | text value => textLiteral value

/-- Each item at a level of indentation. -/
def indentedItems (level : Nat) : List Json → List String
  | [] => []
  | item :: rest => indentedAt level item :: indentedItems level rest

/-- Each member at a level of indentation. -/
def indentedMembers (level : Nat) : List (String × Json) → List String
  | [] => []
  | (name, value) :: rest =>
    (textLiteral name ++ ": " ++ indentedAt level value) :: indentedMembers level rest

end

/-- A value over several lines. -/
def indented (value : Json) : String := indentedAt 0 value

/-- A double as a number with the fewest digits that read back. -/
def ofFloat (x : Float) : Json := number (Shortest.text .upper x)

end VolatilityDesk.Json
