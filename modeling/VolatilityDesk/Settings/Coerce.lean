import VolatilityDesk.Decimal.Shortest
import VolatilityDesk.Json.Number
import VolatilityDesk.Time.Clock
import VolatilityDesk.Word
/-!
# Reading single settings

A setting is given as a value or as text. Each kind of setting accepts every value that denotes
one of its own without loss: a whole number may be written as a double or as text, a truth value
as a word or as zero and one.
-/

namespace VolatilityDesk

/-- Why a value that has the right kind is refused. -/
inductive Rejection where
  | countNotPositive (n : Int)
  | notPositive (x : Float)
  | negativeInterval (n : Int)
  | confidenceRange (x : Float)
  | strengthRange (x : Float)
  | clock (text : String)
  | zone (name : String)
  | strengthOrder (oversold overbought : Float)
  | sessionOrder (start stop : String)

namespace Rejection

/-- A number as a complaint shows it. -/
def floatText (x : Float) : String := Shortest.text .lower x

/-- What is said about a value that is rejected. -/
def message : Rejection → String
  | countNotPositive n => s!"must be > 0, got {n}"
  | notPositive x => s!"must be > 0, got {floatText x}"
  | negativeInterval n => s!"poll_interval_seconds must be >= 0, got {n}"
  | confidenceRange x => s!"confidence_threshold must be in (0, 1], got {floatText x}"
  | strengthRange x => s!"RSI threshold must be in (0, 100), got {floatText x}"
  | clock text => (ClockFault.malformed text).message
  | zone name => "unknown time zone " ++ Text.quoted name
  | strengthOrder oversold overbought =>
    s!"rsi_oversold ({floatText oversold}) must be below rsi_overbought ({floatText overbought})"
  | sessionOrder start stop =>
    s!"trading_start ({start}) must be before trading_end ({stop})"

end Rejection

/-- What is wrong with the value of a setting. -/
inductive ComplaintKind where
  | intParsing
  | intParsingSize
  | intFromFloat
  | intType
  | finiteNumber
  | floatParsing
  | floatType
  | boolParsing
  | boolType
  | stringType
  | listType
  | pathType
  | extraForbidden
  | rejected (reason : Rejection)

namespace ComplaintKind

/-- The short name of the kind. -/
def name : ComplaintKind → String
  | intParsing => "int_parsing"
  | intParsingSize => "int_parsing_size"
  | intFromFloat => "int_from_float"
  | intType => "int_type"
  | finiteNumber => "finite_number"
  | floatParsing => "float_parsing"
  | floatType => "float_type"
  | boolParsing => "bool_parsing"
  | boolType => "bool_type"
  | stringType => "string_type"
  | listType => "list_type"
  | pathType => "path_type"
  | extraForbidden => "extra_forbidden"
  | rejected _ => "value_error"

/-- What is said about a value that cannot be taken. -/
def message : ComplaintKind → String
  | intParsing => "Input should be a valid integer, unable to parse string as an integer"
  | intParsingSize => "Unable to parse input string as an integer, exceeded maximum size"
  | intFromFloat => "Input should be a valid integer, got a number with a fractional part"
  | intType => "Input should be a valid integer"
  | finiteNumber => "Input should be a finite number"
  | floatParsing => "Input should be a valid number, unable to parse string as a number"
  | floatType => "Input should be a valid number"
  | boolParsing => "Input should be a valid boolean, unable to interpret input"
  | boolType => "Input should be a valid boolean"
  | stringType => "Input should be a valid string"
  | listType => "Input should be a valid list"
  | pathType => "Input is not a valid path"
  | extraForbidden => "Extra inputs are not permitted"
  | rejected reason => "Value error, " ++ reason.message

end ComplaintKind

/-- A complaint about the setting at a place. -/
structure Complaint where
  place : List String
  kind : ComplaintKind

/-- A complaint on one line: the place, and what is wrong there. -/
def Complaint.line (c : Complaint) : String := ".".intercalate c.place ++ ": " ++ c.kind.message

namespace Coerce

/-- A double that has no fraction, as a whole number. -/
def wholeOfFloat (x : Float) : Except ComplaintKind Int :=
  match Binary64.floor? x with
  | none => .error .finiteNumber
  | some n =>
    if !((Binary64.ofInt? n).any (· == x)) then .error .intFromFloat
    else if !Word.holds64 n then .error .intParsingSize
    else .ok n

/-- A whole number. -/
def whole : Json → Except ComplaintKind Int
  | .number literal =>
    match Json.numberValue literal with
    | .whole n => .ok n
    | .float x => wholeOfFloat x
  | .bool b => .ok (if b then 1 else 0)
  | .text s =>
    match Decimal.looseInt s with
    | .ok n => .ok n
    | .error .malformed => .error .intParsing
    | .error .tooLong => .error .intParsingSize
  | _ => .error .intType

/-- A double. -/
def float : Json → Except ComplaintKind Float
  | .number literal =>
    match Json.numberValue literal with
    | .float x => .ok x
    | .whole n =>
      match Binary64.ofInt? n with
      | some x => .ok x
      | none => .error .floatType
  | .bool b => .ok (if b then 1.0 else 0.0)
  | .text s =>
    match Decimal.looseFloat? s with
    | some x => .ok x
    | none => .error .floatParsing
  | _ => .error .floatType

/-- The words that mean yes. -/
def yesWords : List String := ["1", "t", "true", "y", "yes", "on"]

/-- The words for false, in lower case. -/
def noWords : List String := ["0", "f", "false", "n", "no", "off"]

/-- Zero or one as a truth value. -/
def flagOfInt (n : Int) : Except ComplaintKind Bool :=
  if n = 0 then .ok false else if n = 1 then .ok true else .error .boolParsing

/-- A truth value. -/
def flag : Json → Except ComplaintKind Bool
  | .bool b => .ok b
  | .number literal =>
    match Json.numberValue literal with
    | .whole n => flagOfInt n
    | .float x =>
      match wholeOfFloat x with
      | .ok n => flagOfInt n
      | .error _ => .error .boolType
  | .text s =>
    let word := String.ofList (s.toList.map Char.toLower)
    if yesWords.contains word then .ok true
    else if noWords.contains word then .ok false
    else .error .boolParsing
  | _ => .error .boolType

/-- A text; nothing else is taken for one. -/
def text : Json → Except ComplaintKind String
  | .text s => .ok s
  | _ => .error .stringType

/-- A path; only a text is taken for one. -/
def path : Json → Except ComplaintKind String
  | .text s => .ok s
  | _ => .error .pathType

/-- The texts of a list, or a complaint about each item that is none, with its place. -/
def items (place : Nat) : List Json → Except (List Complaint) (List String)
  | [] => .ok []
  | item :: rest =>
    match text item, items (place + 1) rest with
    | .ok s, .ok others => .ok (s :: others)
    | .ok _, .error complaints => .error complaints
    | .error kind, .ok _ => .error [⟨[toString place], kind⟩]
    | .error kind, .error complaints => .error (⟨[toString place], kind⟩ :: complaints)

/-- A list of texts. -/
def texts : Json → Except (List Complaint) (List String)
  | .list values => items 0 values
  | _ => .error [⟨[], .listType⟩]

end Coerce

end VolatilityDesk
