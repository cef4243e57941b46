import VolatilityDesk.Json
/-!
# Reading interchange text

A reader of the whole grammar. The words `NaN`, `Infinity` and `-Infinity` count as numbers.
Every value takes at least one character, so the length of the text bounds the nesting and the
number of members, and it is the fuel of the reader.
-/

namespace VolatilityDesk.Json

/-- The blanks between tokens. -/
def isBlank (c : Char) : Bool := c == ' ' || c == '\t' || c == '\n' || c == '\r'

/-- The text behind its leading blanks. -/
def skipBlanks (s : List Char) : List Char := s.dropWhile isBlank

/-- The value of a hexadecimal digit. -/
def hexValue? (c : Char) : Option Nat :=
  if c.isDigit then some (c.toNat - 0x30)
  else if 'a' ≤ c ∧ c ≤ 'f' then some (c.toNat - 0x61 + 10)
  else if 'A' ≤ c ∧ c ≤ 'F' then some (c.toNat - 0x41 + 10)
  else none

/-- The four hexadecimal digits of an escaped unit. -/
def unit? : List Char → Option (Nat × List Char)
  | a :: b :: c :: d :: rest => do
    let a ← hexValue? a
    let b ← hexValue? b
    let c ← hexValue? c
    let d ← hexValue? d
    some (((a * 16 + b) * 16 + c) * 16 + d, rest)
  | _ => none

/-- The character that a letter behind a backslash stands for. -/
def escaped? : Char → Option Char
  | '"' => some '"'
  | '\\' => some '\\'
  | '/' => some '/'
  | 'b' => some '\x08'
  | 'f' => some '\x0c'
  | 'n' => some '\n'
  | 'r' => some '\r'
  | 't' => some '\t'
  | _ => none

/-- The first half of a pair that stands for one character beyond the basic plane. -/
def isHighHalf (unit : Nat) : Bool := 0xD800 ≤ unit && unit < 0xDC00

/-- A unit that can only be the second of a pair. -/
def isLowHalf (unit : Nat) : Bool := 0xDC00 ≤ unit && unit < 0xE000

/-- An escaped character: one unit, or two units that form a pair. A half that stands alone is
read as the replacement character. -/
def escapedUnit? (s : List Char) : Option (Char × List Char) := do
  let (unit, rest) ← unit? s
  if isHighHalf unit then
    match rest with
    | '\\' :: 'u' :: more =>
      match unit? more with
      | some (second, more) =>
        if isLowHalf second then
          some (Char.ofNat (0x10000 + (unit - 0xD800) * 0x400 + (second - 0xDC00)), more)
        else some ('\uFFFD', rest)
      | none => none
    | _ => some ('\uFFFD', rest)
  else if isLowHalf unit then some ('\uFFFD', rest)
  else some (Char.ofNat unit, rest)

/-- The rest of a text behind its opening quote. The characters read so far are kept in
reverse. -/
def textBody? : Nat → List Char → List Char → Option (String × List Char)
  | 0, _, _ => none
  | fuel + 1, read, s =>
    match s with
    | '"' :: rest => some (String.ofList read.reverse, rest)
    | '\\' :: 'u' :: rest =>
      match escapedUnit? rest with
      | some (c, rest) => textBody? fuel (c :: read) rest
      | none => none
    | '\\' :: c :: rest =>
      match escaped? c with
      | some c => textBody? fuel (c :: read) rest
      | none => none
    | c :: rest => if c.toNat < 0x20 then none else textBody? fuel (c :: read) rest
    | [] => none

/-- The digits at the front, at least one. -/
def digits? (s : List Char) : Option (List Char × List Char) :=
  let digits := s.takeWhile Char.isDigit
  if digits.isEmpty then none else some (digits, s.dropWhile Char.isDigit)

/-- The whole part of a number: zero alone, or digits without a leading zero. -/
def wholePart? : List Char → Option (List Char × List Char)
  | '0' :: rest => some (['0'], rest)
  | s => digits? s

/-- A point and digits, if both are there. -/
def fractionPart (s : List Char) : List Char × List Char :=
  match s with
  | '.' :: rest =>
    match digits? rest with
    | some (digits, rest) => ('.' :: digits, rest)
    | none => ([], s)
  | _ => ([], s)

/-- A power of ten, if it is complete. -/
def powerPart (s : List Char) : List Char × List Char :=
  match s with
  | e :: rest =>
    if e = 'e' ∨ e = 'E' then
      let (sign, digits) := match rest with
        | '+' :: digits => (['+'], digits)
        | '-' :: digits => (['-'], digits)
        | digits => ([], digits)
      match digits? digits with
      | some (digits, rest) => (e :: sign ++ digits, rest)
      | none => ([], s)
    else ([], s)
  | [] => ([], s)

/-- A number at the front, as its text. -/
def numberText? (s : List Char) : Option (String × List Char) :=
  let (sign, rest) := match s with
    | '-' :: rest => (['-'], rest)
    | _ => ([], s)
  match wholePart? rest with
  | some (whole, rest) =>
    let (fraction, rest) := fractionPart rest
    let (power, rest) := powerPart rest
    some (String.ofList (sign ++ whole ++ fraction ++ power), rest)
  | none => none

/-- Takes a word off the front. -/
def word? : List Char → List Char → Option (List Char)
  | [], s => some s
  | c :: word, d :: rest => if c = d then word? word rest else none
  | _ :: _, [] => none

/-- The words of the grammar and what they stand for. -/
def words : List (String × Json) :=
  [("null", .null), ("true", .bool true), ("false", .bool false), ("NaN", .number "NaN"),
    ("Infinity", .number "Infinity"), ("-Infinity", .number "-Infinity")]

/-- A word or a number at the front. -/
def scalar? (s : List Char) : Option (Json × List Char) :=
  match words.findSome? fun (word, value) =>
      (word? word.toList s).map fun rest => (value, rest) with
  | some found => some found
  | none => (numberText? s).map fun (literal, rest) => (.number literal, rest)

/-- What stands between two members or behind the last one. -/
inductive Turn where
  | more (rest : List Char)
  | finished (rest : List Char)

/-- A comma or the closing bracket. -/
def turn? (close : Char) (s : List Char) : Option Turn :=
  match skipBlanks s with
  | c :: rest =>
    if c = ',' then some (.more (skipBlanks rest))
    else if c = close then some (.finished rest) else none
  | [] => none

/-- A text at the front. -/
def text? (s : List Char) : Option (String × List Char) :=
  match s with
  | '"' :: rest => textBody? (rest.length + 1) [] rest
  | _ => none

/-- The colon behind a member's name. -/
def colon? (s : List Char) : Option (List Char) :=
  match skipBlanks s with
  | ':' :: rest => some (skipBlanks rest)
  | _ => none

mutual

/-- A value at the front. -/
def value? : Nat → List Char → Option (Json × List Char)
  | 0, _ => none
  | fuel + 1, s =>
    match s with
    | '"' :: _ => (text? s).map fun (value, rest) => (.text value, rest)
    | '[' :: rest =>
      match skipBlanks rest with
      | ']' :: rest => some (.list [], rest)
      | rest => items? fuel [] rest
    | '\x7b' :: rest =>
      match skipBlanks rest with
      | '\x7d' :: rest => some (.object [], rest)
      | rest => members? fuel [] rest
    | _ => scalar? s

/-- The items of a list up to its closing bracket. Those read so far are kept in reverse. -/
def items? : Nat → List Json → List Char → Option (Json × List Char)
  | 0, _, _ => none
  | fuel + 1, read, s => do
    let (item, rest) ← value? fuel s
    match ← turn? ']' rest with
    | .more rest => items? fuel (item :: read) rest
    | .finished rest => some (.list (item :: read).reverse, rest)

/-- The members of an object up to its closing brace. Those read so far are kept in reverse. -/
def members? : Nat → List (String × Json) → List Char → Option (Json × List Char)
  | 0, _, _ => none
  | fuel + 1, read, s => do
    let (name, rest) ← text? s
    let (value, rest) ← value? fuel (← colon? rest)
    match ← turn? '\x7d' rest with
    | .more rest => members? fuel ((name, value) :: read) rest
    | .finished rest => some (.object ((name, value) :: read).reverse, rest)

end

/-- Reads a text that holds one value and nothing else but blanks. -/
def read? (s : String) : Option Json :=
  match value? (2 * s.length + 1) (skipBlanks s.toList) with
  | some (value, rest) => if (skipBlanks rest).isEmpty then some value else none
  | none => none

end VolatilityDesk.Json
