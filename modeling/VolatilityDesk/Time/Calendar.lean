/-!
# The calendar

Days are numbered from the first of January of year one, which has number zero. A civil date is
the year, month and day of such a number. Months are counted from March inside a year, so the leap
day comes last and every day of the year has one formula.
-/

namespace VolatilityDesk

/-- A year, a month and a day of the month. -/
structure CivilDate where
  year : Int
  month : Int
  day : Int
  deriving DecidableEq, Repr

/-- A calendar day by its number. -/
structure Date where
  number : Int
  deriving DecidableEq, Repr

namespace CivilDate

/-- The year has a 29th of February. -/
def isLeapYear (year : Int) : Bool :=
  year % 4 == 0 && (year % 100 != 0 || year % 400 == 0)

/-- The number of days of a month. -/
def daysInMonth (year month : Int) : Int :=
  if month = 2 then (if isLeapYear year then 29 else 28)
  else if month = 4 ∨ month = 6 ∨ month = 9 ∨ month = 11 then 30 else 31

/-- The days from the first of March to the first of a month, with March as month zero. -/
def daysToMonth (fromMarch : Int) : Int := (153 * fromMarch + 2) / 5

/-- The day with this date. -/
def date (c : CivilDate) : Date :=
  let year := if c.month ≤ 2 then c.year - 1 else c.year
  let fromMarch := if c.month ≤ 2 then c.month + 9 else c.month - 3
  ⟨365 * year + year / 4 - year / 100 + year / 400 + daysToMonth fromMarch + c.day - 1 - 306⟩

end CivilDate

namespace Date

/-- The days of four hundred years, after which the calendar repeats. -/
def cycle : Int := 146097

/-- The year, month and day of a date. -/
def civil (d : Date) : CivilDate :=
  let sinceMarch := d.number + 306
  let era := sinceMarch / cycle
  let inEra := sinceMarch % cycle
  let yearInEra := (inEra - inEra / 1460 + inEra / 36524 - inEra / 146096) / 365
  let inYear := inEra - (365 * yearInEra + yearInEra / 4 - yearInEra / 100)
  let fromMarch := (5 * inYear + 2) / 153
  let month := if fromMarch < 10 then fromMarch + 3 else fromMarch - 9
  let year := yearInEra + era * 400
  { year := if month ≤ 2 then year + 1 else year
    month := month
    day := inYear - CivilDate.daysToMonth fromMarch + 1 }

/-- The day of the week, Monday first. -/
def weekday (d : Date) : Int := d.number % 7

/-- The last day of year 9999. -/
def last : Date := ⟨3652058⟩

/-- The day lies in the years 1 to 9999. -/
def inRange (d : Date) : Bool := 0 ≤ d.number && d.number ≤ last.number

/-- A number with zeros in front up to a width. -/
def padded (width : Nat) (n : Int) : String :=
  let digits := toString n
  String.ofList (List.replicate (width - digits.length) '0') ++ digits

/-- Year, month and day joined by hyphens. -/
def text (d : Date) : String :=
  let c := d.civil
  padded 4 c.year ++ "-" ++ padded 2 c.month ++ "-" ++ padded 2 c.day

/-- The short name of the day of the week. -/
def weekdayName (d : Date) : String :=
  match d.weekday.toNat with
  | 0 => "Mon" | 1 => "Tue" | 2 => "Wed" | 3 => "Thu" | 4 => "Fri" | 5 => "Sat" | _ => "Sun"

end Date

end VolatilityDesk
