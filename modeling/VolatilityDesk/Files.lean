import VolatilityDesk.Text.Segments
/-!
# Files

The files of the working directory and the paths that lead to them. Parts of a path that lead
nowhere, empty ones and single dots, do not count.
-/

namespace VolatilityDesk

/-- The files of the working directory: their names and their bytes. -/
abbrev Files := List (String × List Nat)

namespace Path

/-- The parts between the slashes. -/
def segments (path : String) : List String := (Text.segments '/' path.toList).map String.ofList

/-- A part that stays where it is. -/
def stays (part : String) : Bool := part == "" || part == "."

/-- The parts that lead somewhere. -/
def parts (path : String) : List String := (segments path).filter (!stays ·)

/-- The path starts at the root. -/
def isAbsolute (path : String) : Bool := path.startsWith "/"

/-- A path of parts. -/
def join (parts : List String) : String := "/".intercalate parts

end Path

namespace Files

/-- The name and the bytes of the file that a path leads to. -/
def find? (files : Files) (path : String) : Option (String × List Nat) :=
  if Path.isAbsolute path then none
  else match (Path.segments path).reverse with
    | name :: before =>
      if before.all Path.stays then (files.lookup name).map (name, ·) else none
    | [] => none

/-- A file of the working directory has this name. -/
def has (files : Files) (name : String) : Bool := (files.lookup name).isSome

end Files

end VolatilityDesk
