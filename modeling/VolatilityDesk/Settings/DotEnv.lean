import VolatilityDesk.Text.Blank
/-!
# Files of assignments

A file may assign values to names, one per line: `NAME=value`, with an optional `export` in front
and a comment behind. Values in quotes may span lines and hold escapes. Every value may refer to a
variable, with a default for the case that it is not set; variables are looked up among the
assignments above, then in the environment. A line that is no assignment is passed over.
-/

namespace VolatilityDesk.DotEnv

/-- An assignment; a name without an equals sign has no value. -/
structure Assignment where
  name : String
  value : Option String
  deriving DecidableEq, Repr

/-- All line ends as line feeds. -/
def unifyLines : List Char → List Char
  | '\r' :: '\n' :: rest => '\n' :: unifyLines rest
  | '\r' :: rest => '\n' :: unifyLines rest
  | c :: rest => c :: unifyLines rest
  | [] => []

/-- A blank that ends no line. -/
def isInnerBlank (c : Char) : Bool := Text.isSpace c && c != '\n' && c != '\r'

/-- The word `export` with a blank behind it is passed over. -/
def skipExport (s : List Char) : List Char :=
  if s.take 6 = "export".toList ∧ ((s.drop 6).head?.map isInnerBlank).getD false then
    (s.drop 6).dropWhile isInnerBlank
  else s

/-- Passes over the rest of the line, with one character that ends it. -/
def skipLine (s : List Char) : List Char :=
  match s.dropWhile fun c => c != '\n' && c != '\r' with
  | _ :: rest => rest
  | [] => []

/-- What is read, and the rest. On a fault only the rest. -/
abbrev Step (α : Type) := Except (List Char) (α × List Char)

/-- The name before the equals sign; a comment has none. -/
def name (s : List Char) : Step (Option String) :=
  match s with
  | '#' :: _ => .ok (none, s)
  | '\'' :: rest =>
    let inside := rest.takeWhile (· ≠ '\'')
    match rest.dropWhile (· ≠ '\'') with
    | _ :: behind => if inside.isEmpty then .error s else .ok (some (String.ofList inside), behind)
    | [] => .error s
  | _ =>
    let isName (c : Char) := c != '=' && c != '#' && !Text.isSpace c
    let found := s.takeWhile isName
    if found.isEmpty then .error s else .ok (some (String.ofList found), s.dropWhile isName)

/-- The place of the closing quote: the first quote without a backslash before it, or, if there
is none, the last quote. The text before the current place is kept in reverse, and `last` is the
last quote behind a backslash with what stood before it. -/
def closing? (quote : Char) (before : List Char) (last : Option (List Char × List Char)) :
    List Char → Option (List Char × List Char)
  | [] => last
  | '\\' :: c :: rest =>
    if c = quote then
      closing? quote (c :: '\\' :: before) (some (('\\' :: before).reverse, rest)) rest
    else closing? quote ('\\' :: before) last (c :: rest)
  | c :: rest =>
    if c = quote then some (before.reverse, rest) else closing? quote (c :: before) last rest

/-- The characters that a backslash stands before in double quotes. -/
def doubleEscape? : Char → Option Char
  | '\\' => some '\\'
  | '\'' => some '\''
  | '"' => some '"'
  | 'a' => some '\x07'
  | 'b' => some '\x08'
  | 'f' => some '\x0c'
  | 'n' => some '\n'
  | 'r' => some '\r'
  | 't' => some '\t'
  | 'v' => some '\x0b'
  | _ => none

/-- In single quotes only the quote and the backslash are escaped. -/
def singleEscape? : Char → Option Char
  | '\\' => some '\\'
  | '\'' => some '\''
  | _ => none

/-- Replaces every escape that is known. -/
def unescape (escape? : Char → Option Char) : List Char → List Char
  | '\\' :: c :: rest =>
    match escape? c with
    | some d => d :: unescape escape? rest
    | none => '\\' :: unescape escape? (c :: rest)
  | c :: rest => c :: unescape escape? rest
  | [] => []

/-- A number sign behind a blank begins a comment. -/
def cutComment : List Char → List Char
  | [] => []
  | c :: rest =>
    if Text.isSpace c ∧ (rest.dropWhile Text.isSpace).head? = some '#' then []
    else c :: cutComment rest

/-- The value behind the equals sign. -/
def value (s : List Char) : Step String :=
  match s with
  | '\'' :: rest =>
    match closing? '\'' [] none rest with
    | some (inside, behind) => .ok (String.ofList (unescape singleEscape? inside), behind)
    | none => .error s
  | '"' :: rest =>
    match closing? '"' [] none rest with
    | some (inside, behind) => .ok (String.ofList (unescape doubleEscape? inside), behind)
    | none => .error s
  | _ =>
    let line := s.takeWhile fun c => c != '\n' && c != '\r'
    .ok (String.ofList (Text.dropEndWhile Text.isSpace (cutComment line)), s.drop line.length)

/-- The end of an assignment: blanks, a comment, and the end of the line. -/
def lineEnd (s : List Char) : Except (List Char) (List Char) :=
  let behind := s.dropWhile isInnerBlank
  let behind := match behind with
    | '#' :: _ => behind.dropWhile fun c => c != '\n' && c != '\r'
    | _ => behind
  match behind.dropWhile isInnerBlank with
  | [] => .ok []
  | '\n' :: rest => .ok rest
  | '\r' :: rest => .ok rest
  | _ => .error behind

/-- One assignment or comment, from its first character that is no blank. -/
def assignment (s : List Char) : Except (List Char) (Option Assignment × List Char) := do
  let (found, rest) ← name (skipExport s)
  let (given, rest) ← match rest.dropWhile isInnerBlank with
    | '=' :: behind => do
      let (text, rest) ← value (behind.dropWhile isInnerBlank)
      pure (some text, rest)
    | rest => pure (none, rest)
  return (found.map fun name => ⟨name, given⟩, ← lineEnd rest)

/-- All assignments. Each step takes at least one character, so the length is enough fuel. -/
def assignmentsFrom : Nat → List Char → List Assignment
  | 0, _ => []
  | fuel + 1, s =>
    match s.dropWhile Text.isSpace with
    | [] => []
    | s =>
      match assignment s with
      | .ok (some found, rest) => found :: assignmentsFrom fuel rest
      | .ok (none, rest) => assignmentsFrom fuel rest
      | .error rest => assignmentsFrom fuel (skipLine rest)

/-- The assignments of a file in their order. -/
def assignments (text : String) : List Assignment :=
  assignmentsFrom (text.length + 1) (unifyLines text.toList)

/-! ### Variables -/

/-- A reference to a variable behind the opening brace: its name, its default and the rest. -/
def reference? (s : List Char) : Option (String × Option String × List Char) :=
  let isName (c : Char) := c != '\x7d' && c != ':'
  let name := String.ofList (s.takeWhile isName)
  match s.dropWhile isName with
  | '\x7d' :: rest => some (name, none, rest)
  | ':' :: '-' :: rest =>
    match rest.dropWhile (· ≠ '\x7d') with
    | _ :: behind => some (name, some (String.ofList (rest.takeWhile (· ≠ '\x7d'))), behind)
    | [] => none
  | _ => none

/-- Replaces every reference by the variable's value. A variable without a value counts as empty,
one that is not set as its default. -/
def expand (lookup : String → Option (Option String)) : Nat → List Char → List Char
  | 0, s => s
  | _ + 1, [] => []
  | fuel + 1, c :: rest =>
    match c, rest with
    | '$', '\x7b' :: behind =>
      match reference? behind with
      | some (name, default, behind) =>
        let found := match lookup name with
          | some value => value.getD ""
          | none => default.getD ""
        found.toList ++ expand lookup fuel behind
      | none => c :: expand lookup fuel rest
    | _, _ => c :: expand lookup fuel rest

/-- The value last assigned to a name. -/
def lastValue? (name : String) (found : List Assignment) : Option (Option String) :=
  (found.reverse.find? (·.name == name)).map (·.value)

/-- The assignments with their references replaced, in order. -/
def resolve (environment : List (String × String)) (found : List Assignment) :
    List Assignment :=
  found.foldl (fun done a =>
    let lookup (name : String) : Option (Option String) :=
      (lastValue? name done).or
        ((environment.reverse.find? (·.1 == name)).map fun entry => some entry.2)
    done ++ [⟨a.name, a.value.map fun text =>
      String.ofList (expand lookup (text.length + 1) text.toList)⟩]) []

/-- The assignments of a file. -/
def read (environment : List (String × String)) (text : String) : List Assignment :=
  resolve environment (assignments text)

end VolatilityDesk.DotEnv
