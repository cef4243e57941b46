import VolatilityDesk.Proofs.Text.Padded
import VolatilityDesk.Proofs.Time.Calendar
import VolatilityDesk.Time.Timestamp
/-!
# Readings of a clock

What a wall clock shows is a date and a time of day, and the time of day is hours, minutes, seconds
and microseconds. The stamp of a time writes all of these without marks between them. It is taken
apart from its end, since all of its parts but the year have known widths, so times that show
different things have different stamps: `wall_eq_of_stamp_eq`.

* `wall_eq_of_stamp_eq` — times with one stamp show the same.
* `isDigit_of_mem_stamp` — a stamp has no other characters than digits.
-/

namespace VolatilityDesk.Timestamp

theorem inRange_iff {wall : Int} : inRange wall = true ↔ 0 ≤ wall ∧ wall < limit := by
  simp [inRange]

@[simp] theorem instant_ofInstant (instant : Int) : (ofInstant instant).instant = instant :=
  Int.sub_zero instant

theorem toUniversal_eq_ok_iff {t u : Timestamp} :
    t.toUniversal = .ok u ↔ u = .ofInstant t.instant ∧ inRange t.instant = true := by
  unfold toUniversal
  split
  · rename_i ranged
    rw [Except.ok.injEq, eq_comm]
    exact ⟨fun same => ⟨same, ranged⟩, fun told => told.1⟩
  · rename_i missing
    exact ⟨nofun, fun told => absurd told.2 missing⟩

section Parts

variable (t : Timestamp)

theorem wall_eq : t.wall = t.date.number * Micros.perDay + t.timeOfDay :=
  (Int.ediv_mul_add_emod t.wall Micros.perDay).symm

theorem timeOfDay_bounds : 0 ≤ t.timeOfDay ∧ t.timeOfDay < Micros.perDay :=
  ⟨Int.emod_nonneg _ (by decide), Int.emod_lt_of_pos _ (by decide)⟩

theorem hour_bounds : 0 ≤ t.hour ∧ t.hour < 10 ^ 2 := by
  unfold hour timeOfDay Micros.perDay Micros.perHour Micros.perMinute Micros.perSecond
  omega

theorem minute_bounds : 0 ≤ t.minute ∧ t.minute < 10 ^ 2 := by
  unfold minute Micros.perHour Micros.perMinute Micros.perSecond
  omega

theorem second_bounds : 0 ≤ t.second ∧ t.second < 10 ^ 2 := by
  unfold second Micros.perMinute Micros.perSecond
  omega

theorem fraction_bounds : 0 ≤ t.fraction ∧ t.fraction < 10 ^ 6 := by
  unfold fraction Micros.perSecond
  omega

/-- The time of day is made up of its parts. -/
theorem timeOfDay_eq : t.timeOfDay = t.hour * Micros.perHour + t.minute * Micros.perMinute +
    t.second * Micros.perSecond + t.fraction := by
  unfold hour minute second fraction Micros.perHour Micros.perMinute Micros.perSecond
  omega

end Parts

/-! ### Stamps -/

variable {s t : Timestamp}

/-- A time in a year of the calendar has a date in it. -/
theorem number_date_nonneg (nonneg : 0 ≤ t.wall) : 0 ≤ t.date.number :=
  Int.ediv_nonneg nonneg (by decide)

/-- A stamp has no other characters than digits. -/
theorem isDigit_of_mem_stamp (nonneg : 0 ≤ t.wall) {c : Char} (member : c ∈ t.stamp.toList) :
    c.isDigit = true := by
  have year := Date.civil_year_pos (number_date_nonneg nonneg)
  obtain ⟨⟨month, -⟩, day, -⟩ := t.date.civil_bounds
  have written {n : Int} {width : Nat} (positive : 0 ≤ n)
      (member : c ∈ (Date.padded width n).toList) : c.isDigit = true := by
    obtain ⟨n, rfl⟩ := Int.eq_ofNat_of_zero_le positive
    exact Date.isDigit_of_mem_padded member
  simp only [stamp, String.toList_append, List.mem_append, Date.toString_eq_padded] at member
  rcases member with (((((inYear | inMonth) | inDay) | inHour) | inMinute) | inSecond) | inFraction
  · exact written (by omega) inYear
  · exact written (by omega) inMonth
  · exact written (by omega) inDay
  · exact written t.hour_bounds.1 inHour
  · exact written t.minute_bounds.1 inMinute
  · exact written t.second_bounds.1 inSecond
  · exact written t.fraction_bounds.1 inFraction

/-- Times with one stamp show the same. -/
theorem wall_eq_of_stamp_eq (left : 0 ≤ s.wall) (right : 0 ≤ t.wall) (same : s.stamp = t.stamp) :
    s.wall = t.wall := by
  have year := Date.civil_year_pos (number_date_nonneg left)
  have year' := Date.civil_year_pos (number_date_nonneg right)
  obtain ⟨⟨month, month_le⟩, day, day_le⟩ := s.date.civil_bounds
  obtain ⟨⟨month', month_le'⟩, day', day_le'⟩ := t.date.civil_bounds
  obtain ⟨same, fractions⟩ :=
    Date.append_padded_inj (by decide) s.fraction_bounds t.fraction_bounds same
  obtain ⟨same, seconds⟩ :=
    Date.append_padded_inj (by decide) s.second_bounds t.second_bounds same
  obtain ⟨same, minutes⟩ :=
    Date.append_padded_inj (by decide) s.minute_bounds t.minute_bounds same
  obtain ⟨same, hours⟩ := Date.append_padded_inj (by decide) s.hour_bounds t.hour_bounds same
  obtain ⟨same, days⟩ := Date.append_padded_inj (by decide) (by omega) (by omega) same
  obtain ⟨years, months⟩ := Date.append_padded_inj (by decide) (by omega) (by omega) same
  rw [Date.toString_eq_padded, Date.toString_eq_padded] at years
  have years := Date.padded_inj (by omega) (by omega) years
  have dates : s.date = t.date := by
    rw [← s.date.date_civil, ← t.date.date_civil]
    congr 1
    exact (CivilDate.mk.injEq ..).mpr ⟨years, months, days⟩
  rw [s.wall_eq, t.wall_eq, s.timeOfDay_eq, t.timeOfDay_eq, dates, hours, minutes, seconds,
    fractions]

end VolatilityDesk.Timestamp
