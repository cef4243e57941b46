/-!
# Pieces of text

Text is cut at every occurrence of a mark; n marks give n + 1 pieces, some of them perhaps empty.
-/

namespace VolatilityDesk.Text

/-- The pieces between the marks. -/
def segments (mark : Char) : List Char → List (List Char)
  | [] => [[]]
  | c :: rest =>
    if c = mark then [] :: segments mark rest
    else match segments mark rest with
      | first :: others => (c :: first) :: others
      | [] => [[c]]

end VolatilityDesk.Text
