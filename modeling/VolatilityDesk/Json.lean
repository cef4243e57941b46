/-!
# Interchange values

The values of the interchange format. The text of a number is kept as it stands, so no digit is
lost before a reader decides what kind of number it wants, and the members of an object keep
their order.
-/

namespace VolatilityDesk

/-- A value of the interchange format. Members keep their order, and a number keeps its text. -/
inductive Json where
  | null
  | bool (value : Bool)
  /-- A number by its text. -/
  | number (text : String)
  | text (value : String)
  | list (items : List Json)
  | object (members : List (String × Json))
  deriving Inhabited, BEq, Repr

namespace Json

/-- The member of an object with a name; the last one when the name occurs more than once. -/
def member? (name : String) : Json → Option Json
  | object members => (members.reverse.find? (·.1 == name)).map (·.2)
  | _ => none

/-- A whole number. -/
def ofInt (n : Int) : Json := number (toString n)

/-- A count. -/
def ofNat (n : Nat) : Json := number (toString n)

/-- A list of texts. -/
def texts (items : List String) : Json := list (items.map text)

/-- The value inside, or the null value. -/
def ofOption {α : Type} (encode : α → Json) : Option α → Json
  | some x => encode x
  | none => null

end Json

end VolatilityDesk
