/-!
# Command-line arguments

Arguments are options and positional arguments. An option has long names, which start with two
dashes, and short names of one dash and one character. The value of a long option follows an equals
sign or is the next argument, whatever it looks like; short options may be written together, and
the rest of such a group is the value of the first that takes one. Two dashes end the options. Where
positional arguments and options may not be mixed, the first positional argument ends them too.
-/

namespace VolatilityDesk

/-- An option: its names, the setting that it gives, and the value it gives to it; without a value
of its own it takes one from the arguments. -/
structure OptionRule where
  names : List String
  setting : String
  constant : Option String

namespace OptionRule

/-- An option that takes its value from the arguments. -/
def valued (setting : String) (names : List String) : OptionRule := ⟨names, setting, none⟩

/-- An option that is there or not. -/
def flag (setting value : String) (names : List String) : OptionRule :=
  ⟨names, setting, some value⟩

end OptionRule

/-- A setting given by an option, with its value. -/
abbrev Given := String × String

/-- What arguments amount to. -/
structure Arguments where
  /-- The settings in the order in which they were given. -/
  given : List Given := []
  positional : List String := []
  deriving DecidableEq, Repr

/-- What one argument gives, and the setting whose value must follow it. -/
structure OptionReading where
  given : List Given
  awaits : Option String

namespace Arguments

/-- The last value given to a setting. -/
def value? (a : Arguments) (setting : String) : Option String := a.given.reverse.lookup setting

/-- A setting was given. -/
def has (a : Arguments) (setting : String) : Bool := (a.value? setting).isSome

/-- Arguments with settings in front. -/
def withGiven (given : List Given) (a : Arguments) : Arguments :=
  { a with given := given ++ a.given }

/-- Arguments with a positional argument in front. -/
def withPositional (argument : String) (a : Arguments) : Arguments :=
  { a with positional := argument :: a.positional }

/-- The argument is an option or a group of options. -/
def isOption (argument : String) : Bool :=
  match argument.toList with
  | '-' :: _ :: _ => true
  | _ => false

/-- The name before the first equals sign, and the value behind it. -/
def splitValue (argument : String) : String × Option String :=
  let name := argument.toList.takeWhile (· ≠ '=')
  match argument.toList.dropWhile (· ≠ '=') with
  | [] => (argument, none)
  | _ :: value => (String.ofList name, some (String.ofList value))

/-- The rule of the option with a name. -/
def ruleFor? (rules : List OptionRule) (name : String) : Option OptionRule :=
  rules.find? (·.names.contains name)

/-- A group of short options. -/
def readGroup (rules : List OptionRule) : List Char → Option OptionReading
  | [] => some ⟨[], none⟩
  | c :: rest =>
    match ruleFor? rules (String.ofList ['-', c]) with
    | none => none
    | some rule =>
      match rule.constant with
      | some value =>
        (readGroup rules rest).map fun r => ⟨(rule.setting, value) :: r.given, r.awaits⟩
      | none =>
        if rest.isEmpty then some ⟨[], some rule.setting⟩
        else some ⟨[(rule.setting, String.ofList rest)], none⟩

/-- An option under one of its long names. -/
def readLong (rule : OptionRule) (value : Option String) : Option OptionReading :=
  match rule.constant, value with
  | some value, none => some ⟨[(rule.setting, value)], none⟩
  | some _, some _ => none
  | none, some value => some ⟨[(rule.setting, value)], none⟩
  | none, none => some ⟨[], some rule.setting⟩

/-- An option or a group of options; none if there is no such option. -/
def readOption (rules : List OptionRule) (argument : String) : Option OptionReading :=
  let (name, value) := splitValue argument
  let rule := if name.startsWith "--" then ruleFor? rules name else none
  match rule with
  | some rule => readLong rule value
  | none =>
    if argument.startsWith "--" then none else readGroup rules (argument.toList.drop 1)

/-- Reads arguments by rules; none if they break them. -/
def read (rules : List OptionRule) (mixed : Bool) : List String → Option Arguments
  | [] => some {}
  | argument :: rest =>
    if argument = "--" then some { positional := rest }
    else if isOption argument then
      match readOption rules argument with
      | none => none
      | some ⟨given, none⟩ => (read rules mixed rest).map (withGiven given)
      | some ⟨given, some setting⟩ =>
        match rest with
        | [] => none
        | value :: rest => (read rules mixed rest).map (withGiven (given ++ [(setting, value)]))
    else if mixed then (read rules mixed rest).map (withPositional argument)
    else some { positional := argument :: rest }

end Arguments

end VolatilityDesk
