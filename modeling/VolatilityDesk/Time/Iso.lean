import VolatilityDesk.Time.Timestamp
/-!
# Reading dates and times

The standard's calendar dates and week dates, with or without hyphens, may be followed by any one
character and a time with or without colons, a fraction behind a point or a comma, and an offset or
the letter Z. The text is read as bytes, and a place behind its end reads as zero.

The date ends where its first characters say. A date with a bare week is told from one with a day
of the week by the number of digits behind the week: times come in pairs of digits. One character
behind the last pair of digits of the time is let pass when an offset follows.
-/

namespace VolatilityDesk.Iso

/-- The byte at a place, zero behind the end. -/
def byteAt (b : Array Nat) (i : Nat) : Nat := b[i]?.getD 0

/-- Bytes that are decimal digits. -/
def isDigit (byte : Nat) : Bool := 0x30 ≤ byte && byte ≤ 0x39

/-- A digit stands at a place. -/
def digitAt (b : Array Nat) (i : Nat) : Bool := isDigit (byteAt b i)

/-- The number written by `count` digits from a place on. -/
def number? (b : Array Nat) (start count : Nat) : Option Nat :=
  let bytes := (List.range count).map fun i => byteAt b (start + i)
  if bytes.all isDigit then some (bytes.foldl (fun n byte => 10 * n + (byte - 0x30)) 0) else none

/-- Separates the parts of a date. -/
def hyphen : Nat := 0x2D

/-- Stands before the number of a week. -/
def weekMark : Nat := 0x57

/-- Separates the parts of a time of day. -/
def colon : Nat := 0x3A

/-- The place behind the digits that stand from a place on. -/
def digitsEnd (b : Array Nat) : Nat → Nat → Nat
  | 0, i => i
  | fuel + 1, i => if digitAt b i then digitsEnd b fuel (i + 1) else i

/-- Where the date ends and the separator stands. -/
def dateEnd (b : Array Nat) : Nat :=
  let size := b.size
  if size = 7 then 7
  else if byteAt b 4 = hyphen then
    if byteAt b 5 = weekMark then
      if size > 8 ∧ byteAt b 8 = hyphen then
        if size > 10 ∧ digitAt b 10 then 8 else 10
      else 8
    else 10
  else if byteAt b 4 = weekMark then
    let behind := digitsEnd b size 7
    if behind < 9 then behind else if behind % 2 = 0 then 7 else 8
  else 8

/-- The Monday of the first week of a year: the week that holds the first Thursday. -/
def firstMonday (year : Int) : Int :=
  let first := (CivilDate.date ⟨year, 1, 1⟩).number
  let monday := first - first % 7
  if 3 < first % 7 then monday + 7 else monday

/-- A year has 53 weeks when it starts on a Thursday, or on a Wednesday with a leap day to come. -/
def hasLongYear (year : Int) : Bool :=
  let weekday := (CivilDate.date ⟨year, 1, 1⟩).weekday
  weekday == 3 || (weekday == 2 && CivilDate.isLeapYear year)

/-- A day before the first month of the calendar. -/
def beforeCalendar : CivilDate := ⟨1, 0, 1⟩

/-- The date of a day in a week of a year. The weeks of a year zero lie before the calendar. -/
def weekDate? (year week day : Nat) : Option CivilDate :=
  if week = 0 ∨ 53 < week ∨ (week = 53 ∧ !hasLongYear year) ∨ day = 0 ∨ 7 < day then none
  else if year = 0 then some beforeCalendar
  else some (Date.civil ⟨firstMonday year + (week - 1) * 7 + (day - 1)⟩)

/-- The date at the front, which ends at a given place. -/
def date? (b : Array Nat) (stop : Nat) : Option CivilDate := do
  let year ← number? b 0 4
  let hyphens := byteAt b 4 = hyphen
  let i := if hyphens then 5 else 4
  if byteAt b i = weekMark then
    let week ← number? b (i + 1) 2
    if i + 3 < stop then
      if hyphens then
        if byteAt b (i + 3) ≠ hyphen then none
        else weekDate? year week (← number? b (i + 4) 1)
      else weekDate? year week (← number? b (i + 3) 1)
    else weekDate? year week 1
  else
    let month ← number? b i 2
    if hyphens then
      if byteAt b (i + 2) ≠ hyphen then none
      else some ⟨year, month, ← number? b (i + 3) 2⟩
    else some ⟨year, month, ← number? b (i + 2) 2⟩

/-- A time read from digits: its fields from the hour on, the microseconds, and whether something
stands behind it. -/
structure ClockText where
  fields : List Nat
  micros : Nat
  more : Bool

/-- Up to six digits of a fraction of a second; further digits are passed over. -/
def fraction? (b : Array Nat) (stop start : Nat) (fields : List Nat) : Option ClockText := do
  let count := min (stop - start) 6
  let value ← number? b start count
  let behind := digitsEnd b b.size (start + count)
  some ⟨fields, value * Nat.pow 10 (6 - count), byteAt b behind ≠ 0⟩

/-- The fields of a time between two places, `missing` of them still to come. The first character
behind the hour decides whether colons divide the fields. -/
def fields? (b : Array Nat) (stop : Nat) : Nat → Nat → List Nat → Bool → Option ClockText
  | 0, start, fields, _ => fraction? b stop start fields
  | missing + 1, start, fields, colons => do
    let value ← number? b start 2
    let next := byteAt b (start + 2)
    let colons := if fields.isEmpty then decide (next = colon) else colons
    let fields := fields ++ [value]
    if stop ≤ start + 3 then some ⟨fields, 0, next ≠ 0⟩
    else if colons ∧ next = colon then fields? b stop missing (start + 3) fields colons
    else if next = 0x2E ∨ next = 0x2C then fraction? b stop (start + 3) fields
    else if colons then none
    else fields? b stop missing (start + 2) fields colons

/-- The time between two places. -/
def clock? (b : Array Nat) (start stop : Nat) : Option ClockText := fields? b stop 3 start [] true

/-- A field, zero if it is not written. -/
def ClockText.field (c : ClockText) (i : Nat) : Nat := c.fields[i]?.getD 0

/-- The seconds of the fields. -/
def ClockText.seconds (c : ClockText) : Int := c.field 0 * 3600 + c.field 1 * 60 + c.field 2

/-- The offset that a text gives, in microseconds: one of less than a second is none. -/
structure TimeText where
  clock : ClockText
  offset : Option Int

/-- Bytes that begin an offset. -/
def isZoneMark (byte : Nat) : Bool := byte == 0x2B || byte == hyphen || byte == 0x5A

/-- The time and its offset from a place on. -/
def time? (b : Array Nat) (start : Nat) : Option TimeText := do
  let mark := ((List.range (b.size - start)).find? fun i => isZoneMark (byteAt b (start + i)))
  match mark with
  | none =>
    if start = b.size then none
    else
      let clock ← clock? b start b.size
      if clock.more then none else some ⟨clock, none⟩
  | some i =>
    let place := start + i
    let clock ← clock? b start place
    if byteAt b place = 0x5A then
      if byteAt b (place + 1) ≠ 0 then none else some ⟨clock, some 0⟩
    else
      let zone ← clock? b (place + 1) b.size
      if zone.more then none
      else if zone.seconds = 0 then some ⟨clock, some 0⟩
      else
        let size := zone.seconds * Micros.perSecond + zone.micros
        some ⟨clock, some (if byteAt b place = hyphen then -size else size)⟩

/-- The number of bytes of the character that starts with a byte. -/
def characterSize (byte : Nat) : Nat :=
  if byte < 0x80 then 1
  else if byte / 16 = 0xE then 3
  else if byte / 16 = 0xF then 4 else 2

/-- The date and the time of a text, before any field is checked against the calendar. -/
def parts? (b : Array Nat) : Option (CivilDate × TimeText) := do
  if b.size < 7 then none
  else
    let stop := dateEnd b
    let date ← date? b stop
    if stop < b.size then
      let time ← time? b (stop + characterSize (byteAt b stop))
      some (date, time)
    else some (date, ⟨⟨[], 0, false⟩, none⟩)

/-- Checks the fields of a date and a time, in their order, and joins them. -/
def check (date : CivilDate) (time : TimeText) : Except TimeFault Timestamp := do
  let clock := time.clock
  match time.offset with
  | some offset => if Micros.perDay ≤ offset.natAbs then throw (.offsetRange offset)
  | none => pure ()
  if date.year < 1 ∨ 9999 < date.year then throw (.yearRange date.year)
  if date.month < 1 ∨ 12 < date.month then throw .monthRange
  if date.day < 1 ∨ CivilDate.daysInMonth date.year date.month < date.day then throw .dayRange
  if 23 < clock.field 0 then throw .hourRange
  if 59 < clock.field 1 then throw .minuteRange
  if 59 < clock.field 2 then throw .secondRange
  return ⟨date.date.number * Micros.perDay + clock.seconds * Micros.perSecond + clock.micros,
    time.offset⟩

/-- Reads a date with an optional time and an optional offset. -/
def read (text : String) : Except TimeFault Timestamp :=
  match parts? (text.toUTF8.toList.map UInt8.toNat).toArray with
  | some (date, time) => check date time
  | none => .error (.notIso text)

end VolatilityDesk.Iso
