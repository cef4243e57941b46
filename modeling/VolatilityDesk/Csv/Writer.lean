/-!
# Writing comma-separated records

A cell is put in quotes only when it holds a comma, a quote or part of a line end; a quote inside
is written twice. Every record ends with a carriage return and a line feed.
-/

namespace VolatilityDesk.Csv

/-- The characters for which a cell needs quotes. -/
def needsQuotes (c : Char) : Bool := c == ',' || c == '"' || c == '\r' || c == '\n'

/-- A quote is written twice. -/
def doubled (c : Char) : List Char := if c = '"' then ['"', '"'] else [c]

/-- A cell, in quotes if it needs them. -/
def cellText (cell : String) : String :=
  if cell.toList.any needsQuotes then
    String.ofList ('"' :: cell.toList.flatMap doubled ++ ['"'])
  else cell

/-- One record with its line end. A record of one empty cell shows its quotes, lest it be a blank
line. -/
def recordText (cells : List String) : String :=
  (if cells = [""] then "\"\"" else ",".intercalate (cells.map cellText)) ++ "\r\n"

/-- The records one after the other. -/
def text (records : List (List String)) : String := String.join (records.map recordText)

end VolatilityDesk.Csv
