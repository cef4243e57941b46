import VolatilityDesk.Json.Reader
import VolatilityDesk.Settings.DotEnv
import VolatilityDesk.Settings.Field
/-!
# Gathering the settings

A setting is taken from the caller, else from the environment, else from the file of assignments,
else it has its default. Names in the environment and in the file may be in any letter case. All
complaints about single settings are gathered; only when there are none are the settings checked
against each other.
-/

namespace VolatilityDesk

/-- A place that settings come from. -/
inductive SettingsSource where
  | environment
  | file
  deriving DecidableEq, Repr

/-- The name of a source in messages. -/
def SettingsSource.text : SettingsSource → String
  | environment => "EnvSettingsSource"
  | file => "DotEnvSettingsSource"

/-- Why there are no settings. -/
inductive SettingsFault where
  /-- The value of a setting that holds a list cannot be read. -/
  | unreadable (name : String) (source : SettingsSource)
  | invalid (found : List Complaint)
  | clock (fault : ClockFault)

/-- What is said about the fault. -/
def SettingsFault.message : SettingsFault → String
  | unreadable name source =>
    s!"error parsing value for field \"{name}\" from source \"{source.text}\""
  | invalid found => "\n".intercalate (found.map Complaint.line)
  | clock fault => fault.message

/-- What is written down outside the program: the environment, and the text of the file of
assignments if there is one. -/
structure Surroundings where
  environment : List (String × String)
  file : Option String := none

namespace Settings

/-- Entries with every name once: the last one counts, at the place of the first. -/
def lastOfEach {β : Type} (entries : List (String × β)) : List (String × β) :=
  entries.foldl (fun done (name, value) =>
    if done.any (·.1 == name) then
      done.map fun entry => if entry.1 == name then (name, value) else entry
    else done ++ [(name, value)]) []

/-- Entries under their names in lower case. Entries of the very same name count as one, also
where entries of another spelling stand between them. -/
def lowerNames {β : Type} (entries : List (String × β)) : List (String × β) :=
  lastOfEach ((lastOfEach entries).map fun (name, value) => (Text.lowerCase name, value))

/-- The name of the one setting that holds a list. -/
def listField : String := "watchlist"

/-- The value of a setting as a source of text gives it. A list is written as an interchange value
of its own. -/
def givenBy (source : SettingsSource) (entries : List (String × Option String)) (name : String) :
    Except SettingsFault (Option Json) :=
  match (entries.lookup name).join with
  | none => .ok none
  | some text =>
    if name = listField then
      match Json.read? text with
      | none => .error (.unreadable name source)
      | some .null => .ok none
      | some value => .ok (some value)
    else .ok (some (.text text))

/-- All settings that a source of text gives. -/
def allGivenBy (source : SettingsSource) (entries : List (String × Option String)) :
    Except SettingsFault (List (String × Json)) := do
  let found ← Field.names.mapM fun name => return (← givenBy source entries name).map (name, ·)
  return found.filterMap id

/-- The names in a file that belong to no setting. -/
def unknownNames (entries : List (String × Option String)) : List String :=
  entries.filterMap fun (name, value) =>
    if (value.getD "").isEmpty ∨ Field.names.contains name ∨
        listField.toList.isPrefixOf name.toList then none
    else some name

/-- The settings set so far, and the complaints about the others. -/
structure Draft where
  settings : Settings
  complaints : List Complaint

/-- Sets one setting from the first source that gives it. -/
def applyField (given : List (String × Json)) (d : Draft) (f : Field) :
    Except SettingsFault Draft :=
  match given.lookup f.name with
  | none => .ok d
  | some value =>
    match f.set value d.settings with
    | .ok s => .ok { d with settings := s }
    | .error (.complaints found) =>
      .ok { d with complaints := d.complaints ++ found.map fun c =>
        { c with place := f.name :: c.place } }
    | .error (.clock fault) => .error (.clock fault)

/-- What is wrong with settings that are in order one by one. -/
def conflict? (s : Settings) : Except ClockFault (Option Rejection) := do
  if s.rules.overbought ≤ s.rules.oversold then
    return some (.strengthOrder s.rules.oversold s.rules.overbought)
  let start ← Clock.parse s.session.start
  let stop ← Clock.parse s.session.stop
  return if start.isBefore stop then none
    else some (.sessionOrder s.session.start s.session.stop)

/-- Settings from given values, with defaults for all others. -/
def build (given : List (String × Json)) (unknown : List String) :
    Except SettingsFault Settings := do
  let draft ← Field.all.foldlM (applyField given) ⟨defaults, []⟩
  let complaints := draft.complaints ++ unknown.map fun name => ⟨[name], .extraForbidden⟩
  if complaints.isEmpty then
    match conflict? draft.settings with
    | .ok none => return draft.settings
    | .ok (some reason) => throw (.invalid [⟨[], .rejected reason⟩])
    | .error fault => throw (.clock fault)
  else throw (.invalid complaints)

/-- Settings from the caller, the environment and the file of assignments. -/
def load (keywords : List (String × Json)) (around : Surroundings) :
    Except SettingsFault Settings := do
  let named := lowerNames (around.environment.map fun (name, value) => (name, some value))
  let assigned := lowerNames <| ((around.file.map (DotEnv.read around.environment)).getD []).map
    fun a => (a.name, a.value)
  let fromEnvironment ← allGivenBy .environment named
  let fromFile ← allGivenBy .file assigned
  let unknown := unknownNames assigned ++
    (keywords.map (·.1)).filter (!Field.names.contains ·)
  build (keywords ++ fromEnvironment ++ fromFile) unknown

/-- Settings with some values changed, none of them checked. -/
def amend (changes : List (String × Json)) (s : Settings) : Settings :=
  changes.foldl (fun s (name, value) =>
    match Field.all.find? (·.name == name) with
    | some f => f.force value s
    | none => s) s

end Settings

end VolatilityDesk
