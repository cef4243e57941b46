import VolatilityDesk.Time.Timestamp
/-!
# Time zones

A zone says by how much its wall clocks differ from universal time at every instant. `Zone.local`
sets a timestamp to the wall clock of a zone. A table gives the offsets of a zone by the instants
at which they changed, and by a rule for summer time after the last of them.
-/

namespace VolatilityDesk

/-- A zone: its name, and its offset in seconds at each second of universal time since 1970. -/
structure Zone where
  name : String
  offsetAt : Int → Int

namespace Zone

/-- The seconds from the start of year one to 1970. -/
def epoch : Int := 719162 * 86400

/-- The second of universal time since 1970 in which an instant lies. -/
def secondOf (instant : Int) : Int := instant / Micros.perSecond - epoch

/-- The offset at an instant, in microseconds. -/
def offset (z : Zone) (instant : Int) : Int := z.offsetAt (secondOf instant) * Micros.perSecond

/-- Universal time, by which all other clocks are described. -/
def universal : Zone := ⟨"UTC", fun _ => 0⟩

/-- The same instant on the wall clock of the zone. -/
def toLocal (z : Zone) (t : Timestamp) : Except TimeFault Timestamp := do
  let instant := (← t.toUniversal).instant
  let wall := instant + z.offset instant
  if Timestamp.inRange wall then return ⟨wall, some (z.offset instant)⟩
  else throw .outOfRange

end Zone

/-- The day and the time of day of a yearly change of the clocks: a day of the week (Monday is
zero) in the first to fourth or, for five, the last week of a month, and the seconds after
midnight on the wall clock. -/
structure YearlyChange where
  month : Nat
  week : Nat
  weekday : Nat
  seconds : Int

/-- Summer time between two yearly changes, with the offsets of both halves in seconds. -/
structure SummerRule where
  standard : Int
  summer : Int
  begins : YearlyChange
  ends : YearlyChange

/-- The second since 1970 at which the wall clock shows the yearly change. -/
def YearlyChange.secondIn (c : YearlyChange) (year : Int) : Int :=
  let first := (CivilDate.date ⟨year, c.month, 1⟩).number
  let toWeekday := ((c.weekday : Int) - first % 7) % 7
  let day := toWeekday + ((c.week : Int) - 1) * 7
  let day := if CivilDate.daysInMonth year c.month ≤ day then day - 7 else day
  (first + day) * 86400 - Zone.epoch + c.seconds

/-- The offset at a second of universal time. Where summer time spans the turn of the year, it is
the rest of the year that has standard time. -/
def SummerRule.offsetAt (r : SummerRule) (second : Int) : Int :=
  let year := (Date.civil ⟨(second + Zone.epoch) / 86400⟩).year
  let begins := r.begins.secondIn year - r.standard
  let ends := r.ends.secondIn year - r.summer
  let isSummer :=
    if begins < ends then decide (begins ≤ second ∧ second < ends)
    else !decide (ends ≤ second ∧ second < begins)
  if isSummer then r.summer else r.standard

/-- The offsets of a zone: the one before all changes, the changes in order, and the rule in force
since the last of them. A change is its second of universal time since the start of 1800 and the
seconds by which the clocks are ahead of a base from then on. The same clocks may go by other
names. -/
structure ZoneTable where
  name : String
  aliases : List String := []
  before : Int
  base : Int
  changes : List (Nat × Nat)
  rule : Option SummerRule

namespace ZoneTable

/-- The start of 1800 in seconds since 1970. -/
def origin : Int := -62091 * 86400

/-- The offset after the last change that is not later than a second, none after all changes. -/
def lookup (base second : Int) : Int → List (Nat × Nat) → Option Int
  | current, (time, ahead) :: rest =>
    if second < origin + time then some current else lookup base second (base + ahead) rest
  | _, [] => none

/-- The offset at a second of universal time: from the table, else from the rule, else the last
one. -/
def offsetAt (t : ZoneTable) (second : Int) : Int :=
  match lookup t.base second t.before t.changes with
  | some offset => offset
  | none =>
    match t.rule with
    | some rule => rule.offsetAt second
    | none => (t.changes.getLast?.map fun (_, ahead) => t.base + ahead).getD t.before

/-- The zone that a table describes. -/
def zone (t : ZoneTable) : Zone := ⟨t.name, t.offsetAt⟩

end ZoneTable

end VolatilityDesk
