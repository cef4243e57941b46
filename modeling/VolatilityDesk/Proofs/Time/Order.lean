import VolatilityDesk.Proofs.Text.Order
import VolatilityDesk.Proofs.Time.Timestamp
/-!
# Times in order

The text of a time begins with what its clock shows, from the year down to the microsecond, and ends
with the offset of the clock. A fraction of a second is written only where there is one, and the
point before it comes after both signs of an offset. So times stand in the order of their texts when
they stand in the order of what the clocks show, and of times that show the same the texts of the
offsets decide: `text_lt_iff`. Offsets do not count before that, so the order is that of the
instants only where the offset is one.

* `text_lt_iff`, `text_eq_iff` — the order of texts in terms of readings and offsets.
-/

namespace VolatilityDesk

/-! ### Dates -/

/-- Of two dates the first is in an earlier year, or in an earlier month of the same year, or on an
earlier day of the same month. -/
def CivilDate.Before (c c' : CivilDate) : Prop :=
  c.year < c'.year ∨ c.year = c'.year ∧
    (c.month < c'.month ∨ c.month = c'.month ∧ c.day < c'.day)

namespace Date

/-- An earlier day has an earlier date. -/
theorem civil_before {d e : Date} (earlier : d.number < e.number) : d.civil.Before e.civil := by
  obtain ⟨year, day, month, counted, yearly⟩ := d.exists_counted_in_era
  obtain ⟨year', day', month', counted', yearly'⟩ := e.exists_counted_in_era
  obtain ⟨-, year_lt, month_nonneg, month_le, day_ge, day_le, number, civil⟩ := counted
  obtain ⟨year_nonneg', -, month_nonneg', month_le', day_ge', day_le', number', civil'⟩ := counted'
  have start := Int.mul_ediv_add_emod (d.number + 306) cycle
  have start' := Int.mul_ediv_add_emod (e.number + 306) cycle
  have eras : (d.number + 306) / cycle ≤ (e.number + 306) / cycle :=
    Int.ediv_le_ediv (by decide) (by omega)
  generalize (d.number + 306) / cycle = era at *
  generalize (e.number + 306) / cycle = era' at *
  -- In one era the years do not go back, and in one year the days go on.
  have later : era < era' ∨ era = era' ∧ (year < year' ∨ year = year' ∧ day < day') := by
    rcases Int.lt_or_le era era' with before | after
    · exact .inl before
    · obtain rfl : era = era' := by omega
      have years : year ≤ year' := by
        rw [yearly, yearly']
        exact yearInEra_mono (by omega)
      rcases Int.lt_or_le year year' with before | after
      · exact .inr ⟨rfl, .inl before⟩
      · obtain rfl : year = year' := by omega
        exact .inr ⟨rfl, .inr ⟨rfl, by omega⟩⟩
  unfold CivilDate.daysToMonth at day_ge day_le day_ge' day_le' civil civil'
  rw [civil, civil', CivilDate.Before]
  dsimp only
  omega

/-- The days of the calendar are in the years up to 9999. -/
theorem civil_year_le {d : Date} (within : d.number ≤ last.number) : d.civil.year ≤ 9999 := by
  have final : last.civil.year = 9999 := by decide
  rcases Int.lt_or_eq_of_le within with before | same
  · have before := civil_before before
    rw [CivilDate.Before, final] at before
    omega
  · obtain rfl : d = last := by
      cases d
      exact congrArg Date.mk same
    exact le_of_eq final

end Date

/-! ### Texts of times -/

namespace Timestamp

open Text (append_lt_append_right append_lt_append_of_lt padded_append_lt)
open Date (padded)

/-- How the offset of a time is written. -/
def zoneText (t : Timestamp) : String := (t.offset.map offsetText).getD ""

/-- How the microseconds of a time are written. -/
def fractionText (t : Timestamp) : String :=
  if t.fraction = 0 then "" else "." ++ padded 6 t.fraction

variable {s t : Timestamp}

theorem text_eq (t : Timestamp) : t.text =
    padded 4 t.date.civil.year ++ ("-" ++ (padded 2 t.date.civil.month ++ ("-" ++
      (padded 2 t.date.civil.day ++ ("T" ++ (padded 2 t.hour ++ (":" ++
        (padded 2 t.minute ++ (":" ++ (padded 2 t.second ++
          (t.fractionText ++ t.zoneText))))))))))) := by
  simp only [text, Date.text, secondText, minuteText, fractionText, zoneText, String.append_assoc]

/-- Times in the calendar have years of at most four digits. -/
theorem year_bounds (inside : inRange t.wall = true) :
    0 ≤ t.date.civil.year ∧ t.date.civil.year < 10 ^ 4 := by
  obtain ⟨nonneg, within⟩ := inRange_iff.mp inside
  have positive := Date.civil_year_pos (number_date_nonneg nonneg)
  have last : t.date.number ≤ Date.last.number := by
    unfold limit Micros.perDay Micros.perHour Micros.perMinute Micros.perSecond at within
    unfold date Date.last Micros.perDay Micros.perHour Micros.perMinute Micros.perSecond
    dsimp only
    omega
  have least := Date.civil_year_le last
  omega

/-- A sign of an offset comes before the point of a fraction. -/
theorem zoneText_lt_point (t : Timestamp) (a : String) : t.zoneText < "." ++ a := by
  unfold zoneText
  cases t.offset with
  | none =>
    rw [Option.map_none, Option.getD_none, String.lt_iff_toList_lt, String.toList_append]
    exact List.nil_lt_cons _ _
  | some offset =>
    rw [Option.map_some, Option.getD_some, offsetText]
    simp only [String.append_assoc]
    split
    · exact append_lt_append_of_lt rfl (by decide)
    · exact append_lt_append_of_lt rfl (by decide)

theorem fraction_zone_lt (less : s.fraction < t.fraction) :
    s.fractionText ++ s.zoneText < t.fractionText ++ t.zoneText := by
  have bounds := s.fraction_bounds
  have later : t.fractionText = "." ++ padded 6 t.fraction := if_neg (by omega)
  rw [later, String.append_assoc]
  by_cases whole : s.fraction = 0
  · have none_written : s.fractionText = "" := if_pos whole
    rw [none_written, String.empty_append]
    exact s.zoneText_lt_point _
  · have earlier : s.fractionText = "." ++ padded 6 s.fraction := if_neg whole
    rw [earlier, String.append_assoc]
    exact append_lt_append_right
      (padded_append_lt (by decide) bounds t.fraction_bounds (.inl less))

/-- A clock that shows less shows an earlier date, or less in one of the parts of the time of day
when the parts before it are the same. -/
theorem parts_of_wall_lt (earlier : s.wall < t.wall) : s.date.civil.Before t.date.civil ∨
    s.date = t.date ∧ (s.hour < t.hour ∨ s.hour = t.hour ∧ (s.minute < t.minute ∨
      s.minute = t.minute ∧ (s.second < t.second ∨
        s.second = t.second ∧ s.fraction < t.fraction))) := by
  have bounds := s.timeOfDay_bounds
  have bounds' := t.timeOfDay_bounds
  rw [s.wall_eq, t.wall_eq] at earlier
  unfold Micros.perDay Micros.perHour Micros.perMinute Micros.perSecond at earlier bounds bounds'
  rcases Int.lt_trichotomy s.date.number t.date.number with before | same | after
  · exact .inl (Date.civil_before before)
  · have dates : s.date = t.date := congrArg Date.mk same
    have less : s.timeOfDay < t.timeOfDay := by omega
    refine .inr ⟨dates, ?_⟩
    unfold hour minute second fraction Micros.perHour Micros.perMinute Micros.perSecond
    omega
  · omega

/-- Of two times the one whose clock shows less has the smaller text. -/
theorem text_lt_of_wall_lt (left : inRange s.wall = true) (right : inRange t.wall = true)
    (earlier : s.wall < t.wall) : s.text < t.text := by
  obtain ⟨month, day⟩ := s.date.civil_bounds
  obtain ⟨month', day'⟩ := t.date.civil_bounds
  rw [text_eq, text_eq]
  rcases parts_of_wall_lt earlier with date | ⟨same, time⟩
  · refine padded_append_lt (by decide) (year_bounds left) (year_bounds right) (date.imp_right ?_)
    rintro ⟨years, date⟩
    refine ⟨years, append_lt_append_right ?_⟩
    refine padded_append_lt (by decide) (by omega) (by omega) (date.imp_right ?_)
    rintro ⟨months, days⟩
    refine ⟨months, append_lt_append_right ?_⟩
    exact padded_append_lt (by decide) (by omega) (by omega) (.inl days)
  · rw [same]
    iterate 6 refine append_lt_append_right ?_
    refine padded_append_lt (by decide) s.hour_bounds t.hour_bounds (time.imp_right ?_)
    rintro ⟨hours, time⟩
    refine ⟨hours, append_lt_append_right ?_⟩
    refine padded_append_lt (by decide) s.minute_bounds t.minute_bounds (time.imp_right ?_)
    rintro ⟨minutes, time⟩
    refine ⟨minutes, append_lt_append_right ?_⟩
    refine padded_append_lt (by decide) s.second_bounds t.second_bounds (time.imp_right ?_)
    rintro ⟨seconds, fractions⟩
    exact ⟨seconds, fraction_zone_lt fractions⟩

/-- The texts of times that show the same differ behind what is shown. -/
theorem exists_text_eq (same : s.wall = t.wall) :
    ∃ shown, s.text = shown ++ s.zoneText ∧ t.text = shown ++ t.zoneText := by
  have shows (t : Timestamp) : t.text = (⟨t.wall, none⟩ : Timestamp).text ++ t.zoneText := by
    simp only [text, Option.map_none, Option.getD_none, String.append_empty]
    rfl
  exact ⟨(⟨s.wall, none⟩ : Timestamp).text, shows s, by rw [same]; exact shows t⟩

/-- Texts of times are compared by what the clocks show, and then by the offsets as they are
written. -/
theorem text_lt_iff (left : inRange s.wall = true) (right : inRange t.wall = true) :
    s.text < t.text ↔ s.wall < t.wall ∨ s.wall = t.wall ∧ s.zoneText < t.zoneText := by
  have behind (same : s.wall = t.wall) : s.text < t.text ↔ s.zoneText < t.zoneText := by
    obtain ⟨shown, first, second⟩ := exists_text_eq same
    rw [first, second]
    exact Text.append_lt_append_iff
  constructor
  · intro less
    rcases Int.lt_trichotomy s.wall t.wall with before | same | after
    · exact .inl before
    · exact .inr ⟨same, (behind same).mp less⟩
    · exact absurd less (lt_asymm (text_lt_of_wall_lt right left after))
  · rintro (before | ⟨same, zones⟩)
    · exact text_lt_of_wall_lt left right before
    · exact (behind same).mpr zones

theorem text_eq_iff (left : inRange s.wall = true) (right : inRange t.wall = true) :
    s.text = t.text ↔ s.wall = t.wall ∧ s.zoneText = t.zoneText := by
  have less := text_lt_iff left right
  have greater := text_lt_iff right left
  constructor
  · intro same
    rw [same] at less greater
    have neither : ¬ (s.wall < t.wall) ∧ ¬ (t.wall < s.wall) :=
      ⟨fun before => lt_irrefl _ (less.mpr (.inl before)),
        fun after => lt_irrefl _ (greater.mpr (.inl after))⟩
    have shown : s.wall = t.wall := by omega
    obtain ⟨_, first, second⟩ := exists_text_eq shown
    rw [first, second] at same
    exact ⟨shown, (String.append_right_inj _).mp same⟩
  · rintro ⟨shown, zones⟩
    obtain ⟨_, first, second⟩ := exists_text_eq shown
    rw [first, second, zones]

end Timestamp

end VolatilityDesk
