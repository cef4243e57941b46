/-!
# What is printed

The desk prints lines of text with markup, plain text, tables, and interchange text. How a table
is drawn is up to the terminal, so a table is kept as its headings and cells. A terminal reads the
markup of what it prints, and refuses a text whose markup makes no sense to it.
-/

namespace VolatilityDesk

/-- A table of cells with markup. -/
structure Table where
  title : String
  caption : Option String := none
  columns : List String
  rows : List (List String)
  deriving DecidableEq, Repr

/-- One thing printed. -/
inductive Printed where
  /-- Text with markup. -/
  | line (text : String)
  /-- Text in which nothing is read as markup. -/
  | plain (text : String)
  | table (content : Table)
  /-- Interchange text, which the terminal lays out. -/
  | data (text : String)
  deriving DecidableEq, Repr

/-- The lines of a table: its title, its headings, its rows and its caption. -/
def Table.lines (t : Table) : List String :=
  t.title :: (t.columns :: t.rows).map ("  ".intercalate ·) ++ t.caption.toList

/-- What a terminal without any layout shows. -/
def Printed.lines : Printed → List String
  | line text => [text]
  | plain text => [text]
  | table content => content.lines
  | data text => [text]

/-! ### Terminals -/

/-- What is said about markup that makes no sense, such as the end of a style that was not begun. -/
structure MarkupFault where
  message : String
  deriving DecidableEq, Repr

/-- A terminal: what it finds wrong with the markup of lines and of tables. -/
structure Terminal where
  lineFault? : String → Option MarkupFault
  tableFault? : Table → Option MarkupFault

namespace Terminal

/-- A terminal that finds nothing wrong. -/
def lenient : Terminal := ⟨fun _ => none, fun _ => none⟩

/-- What is wrong with the markup of one thing; only lines and tables have any. -/
def fault? (t : Terminal) : Printed → Option MarkupFault
  | .line text => t.lineFault? text
  | .table content => t.tableFault? content
  | .plain _ | .data _ => none

/-- Prints things behind what was printed, up to the first one that is refused, which is not printed
at all. -/
def print (t : Terminal) (printed : List Printed) :
    List Printed → Except MarkupFault Unit × List Printed
  | [] => (.ok (), printed)
  | thing :: rest =>
    match t.fault? thing with
    | some fault => (.error fault, printed)
    | none => t.print (printed ++ [thing]) rest

end Terminal

/-- Text in a colour. -/
def coloured (colour text : String) : String := s!"[{colour}]{text}[/{colour}]"

/-- The colour of a gain or a loss. -/
def gainColour (x : Float) : String := if (0.0 : Float) ≤ x then "green" else "red"

end VolatilityDesk
