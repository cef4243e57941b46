import Mathlib.Tactic.IntervalCases
import VolatilityDesk.Time.Calendar
/-!
# Days and dates

The year, month and day of a day are within their bounds, and they determine the day: `date_civil`.
Four hundred years are counted in centuries of 36524 days; only the very last of their days is in
none of the four centuries.

* `date_civil` — a day is determined by its date.
* `civil_bounds`, `civil_year_pos` — the ranges of year, month and day.
-/

namespace VolatilityDesk.Date

/-! ### Years of an era -/

section Era

variable {n year : Int}

/-- Days of one century lie in years of one century. -/
theorem century_eq (low : 0 ≤ n) (high : n < 146096)
    (yearly : year = (n - n / 1460 + n / 36524) / 365) : year / 100 = n / 36524 := by
  obtain ⟨century, same⟩ : ∃ century, n / 36524 = century := ⟨_, rfl⟩
  have nonneg : 0 ≤ century := by omega
  have small : century < 4 := by omega
  rw [same] at yearly ⊢
  interval_cases century <;> omega

/-- A day that is counted from the start of its year is one of 366. -/
theorem inYear_bounds (low : 0 ≤ n) (high : n < 146097)
    (yearly : year = (n - n / 1460 + n / 36524 - n / 146096) / 365) :
    0 ≤ year ∧ year < 400 ∧ 365 * year + year / 4 - year / 100 ≤ n ∧
      n - (365 * year + year / 4 - year / 100) < 366 := by
  rcases Int.lt_or_le n 146096 with inside | last
  · have century : year / 100 = n / 36524 := century_eq low inside (by omega)
    refine ⟨by omega, by omega, ?_, ?_⟩ <;> rw [century] <;> omega
  · obtain rfl : n = 146096 := by omega
    omega

end Era

/-! ### Years, months and days -/

/-- What the calendar counts a date from: the era of four hundred years, the year in it, and the day
and the month in that year, both from the first of March. -/
structure Counted (d : Date) (era year day month : Int) : Prop where
  year_nonneg : 0 ≤ year
  year_lt : year < 400
  month_nonneg : 0 ≤ month
  month_le : month ≤ 11
  day_ge : CivilDate.daysToMonth month ≤ day
  day_le : day ≤ CivilDate.daysToMonth month + 30
  number : d.number + 306 = cycle * era + (365 * year + year / 4 - year / 100) + day
  civil : d.civil =
    ⟨if month < 10 then year + era * 400 else year + era * 400 + 1,
      if month < 10 then month + 3 else month - 9, day - CivilDate.daysToMonth month + 1⟩

/-- The year of a day in an era. -/
def yearInEra (n : Int) : Int := (n - n / 1460 + n / 36524 - n / 146096) / 365

/-- Later days of an era are not in earlier years. -/
theorem yearInEra_mono {m n : Int} (before : m ≤ n) : yearInEra m ≤ yearInEra n := by
  have leapYears : m - m / 1460 ≤ n - n / 1460 := by omega
  have centuries : m / 36524 - m / 146096 ≤ n / 36524 - n / 146096 := by omega
  exact Int.ediv_le_ediv (by decide) (by omega)

theorem exists_counted_in_era (d : Date) : ∃ year day month,
    d.Counted ((d.number + 306) / cycle) year day month ∧
      year = yearInEra ((d.number + 306) % cycle) := by
  obtain ⟨n, rest⟩ : ∃ n, (d.number + 306) % cycle = n := ⟨_, rfl⟩
  obtain ⟨year, yearly⟩ : ∃ year, (n - n / 1460 + n / 36524 - n / 146096) / 365 = year := ⟨_, rfl⟩
  obtain ⟨day, daily⟩ : ∃ day, n - (365 * year + year / 4 - year / 100) = day := ⟨_, rfl⟩
  obtain ⟨month, monthly⟩ : ∃ month, (5 * day + 2) / 153 = month := ⟨_, rfl⟩
  have low : 0 ≤ n := rest ▸ Int.emod_nonneg _ (by decide)
  have high : n < 146097 := rest ▸ Int.emod_lt_of_pos _ (by decide)
  obtain ⟨year_nonneg, year_lt, le, lt⟩ := inYear_bounds low high yearly.symm
  have split := Int.mul_ediv_add_emod (d.number + 306) cycle
  refine ⟨year, day, month, ?_, by rw [rest, ← yearly]; rfl⟩
  refine
    { year_nonneg := year_nonneg
      year_lt := year_lt
      month_nonneg := by omega
      month_le := by omega
      day_ge := ?day_ge
      day_le := ?day_le
      number := by omega
      civil := ?civil }
  case day_ge =>
    unfold CivilDate.daysToMonth
    omega
  case day_le =>
    unfold CivilDate.daysToMonth
    omega
  case civil =>
    unfold Date.civil
    simp only [rest, yearly, daily, monthly]
    by_cases early : month < 10
    · simp [early]
      omega
    · simp [early]
      omega

theorem exists_counted (d : Date) : ∃ era year day month, d.Counted era year day month := by
  obtain ⟨year, day, month, counted, -⟩ := d.exists_counted_in_era
  exact ⟨_, year, day, month, counted⟩

/-- The year, the month and the day of a date make it up again. -/
theorem date_civil (d : Date) : d.civil.date = d := by
  obtain ⟨era, year, day, month, counted⟩ := d.exists_counted
  obtain ⟨year_nonneg, year_lt, month_nonneg, month_le, -, -, number, civil⟩ := counted
  have whole : cycle = 146097 := rfl
  rw [whole] at number
  obtain ⟨n⟩ := d
  rw [civil]
  unfold CivilDate.date
  by_cases early : month < 10
  · have late : ¬ month + 3 ≤ 2 := by omega
    simp only [early, late, if_true, if_false, Date.mk.injEq, Int.add_sub_cancel] at number ⊢
    omega
  · have turned : month - 9 ≤ 2 := by omega
    simp only [early, turned, if_true, if_false, Date.mk.injEq, Int.add_sub_cancel,
      Int.sub_add_cancel] at number ⊢
    omega

theorem civil_bounds (d : Date) :
    (1 ≤ d.civil.month ∧ d.civil.month ≤ 12) ∧ 1 ≤ d.civil.day ∧ d.civil.day ≤ 31 := by
  obtain ⟨era, year, day, month, counted⟩ := d.exists_counted
  obtain ⟨-, -, month_nonneg, month_le, day_ge, day_le, -, civil⟩ := counted
  rw [civil]
  constructor
  · dsimp only
    split <;> omega
  · dsimp only
    omega

/-- The days from the first of January of year one on are in positive years. -/
theorem civil_year_pos {d : Date} (nonneg : 0 ≤ d.number) : 1 ≤ d.civil.year := by
  obtain ⟨era, year, day, month, counted⟩ := d.exists_counted
  obtain ⟨year_nonneg, -, month_nonneg, month_le, day_ge, day_le, number, civil⟩ := counted
  have whole : cycle = 146097 := rfl
  rw [whole] at number
  rw [civil]
  dsimp only
  unfold CivilDate.daysToMonth at day_ge day_le
  split <;> omega

end VolatilityDesk.Date
