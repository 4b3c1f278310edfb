import BoundSql.Proofs.Calendar.Timestamp

/-!
# The ends of the calendar

A local date lies in the years from -9999 to 9999, and a timestamp is written in UTC and for the
same years. The offset of the local clock moves some moments beyond either end: those less than the
offset behind the beginning, if the clock is ahead of UTC, and those not more than the offset before
the end, if it is behind. Neither these moments nor their literals are written, and all others are
(`DateTime.exists_timestamp?_iff`). An offset is less than two days, so the first two days and the
last two are the only ones with such moments.
-/

namespace BoundSql

namespace Date

/-! ### The first days and the last -/

/-- A day within two of the beginning of a year is the first or the second of January. -/
theorem eq_first_of_dayNumber_le {d : Date} {y : Int} (hy : y ≤ d.year)
    (h : d.dayNumber ≤ daysBeforeYear y + 2) : d.year = y ∧ d.month = 1 ∧ d.day ≤ 2 := by
  have hlength := daysBeforeYear_succ y
  have hyear : d.year = y := by
    refine Int.le_antisymm (year_le_iff.2 ?_) hy
    have hlong : 365 ≤ daysInYear y := by
      unfold daysInYear
      split_ifs <;> omega
    omega
  rw [dayNumber, hyear] at h
  have hmonth : d.month = 1 := by
    refine Nat.le_antisymm (Nat.not_lt.1 fun hlt => ?_) d.one_le_month
    have hjanuary : daysBeforeMonth y 2 = 31 := rfl
    have hle := daysBeforeMonth_le y (by decide) (show 2 ≤ d.month from hlt)
    omega
  have hjanuary : daysBeforeMonth y 1 = 0 := rfl
  rw [hmonth] at h
  exact ⟨hyear, hmonth, by omega⟩

/-- A day within two of the end of a year is the thirtieth or the thirty-first of December. -/
theorem eq_last_of_lt_dayNumber {d : Date} {y : Int} (hy : d.year ≤ y)
    (h : daysBeforeYear (y + 1) < d.dayNumber + 2) :
    d.year = y ∧ d.month = 12 ∧ 30 ≤ d.day := by
  have hlength := daysBeforeYear_succ y
  have hmonths := daysBeforeMonth_thirteen y
  have hdecember : daysBeforeMonth y 13 = daysBeforeMonth y 12 + 31 := rfl
  have hyear : d.year = y := by
    refine Int.le_antisymm hy (le_year_iff.2 ?_)
    omega
  rw [dayNumber, hyear] at h
  have hmonth : d.month = 12 := by
    refine Nat.le_antisymm d.month_le (Nat.not_lt.1 fun hlt => ?_)
    have hsucc := daysBeforeMonth_succ y d.one_le_month
    have hle := daysBeforeMonth_le y (by omega) (show d.month + 1 ≤ 12 from hlt)
    have hday := d.day_le
    rw [hyear] at hday
    omega
  rw [hmonth] at h
  exact ⟨hyear, hmonth, by omega⟩

end Date

namespace DateTime

/-! ### Moments near the ends -/

/-- The second at which a year begins. -/
def startOfYear (y : Int) : Int := (Date.daysBeforeYear y + 1) * 86400

/-- The seconds on the local clock since the beginning of the first year. -/
def sinceStart (t : DateTime) : Int := t.date.dayNumber * 86400 + t.second - startOfYear (-9999)

/-- The seconds on the local clock until the end of the last year. -/
def untilEnd (t : DateTime) : Int := startOfYear 10000 - (t.date.dayNumber * 86400 + t.second)

theorem sinceStart_nonneg (t : DateTime) : 0 ≤ t.sinceStart := by
  have hyear := Date.le_year_iff.1 t.year_ge
  rw [sinceStart, startOfYear]
  omega

theorem untilEnd_pos (t : DateTime) : 0 < t.untilEnd := by
  have hyear : t.date.dayNumber ≤ Date.daysBeforeYear 10000 := Date.year_le_iff.1 t.year_le
  have hsecond := t.second_lt
  rw [untilEnd, startOfYear]
  omega

/-- Where the offset does not move a moment beyond an end. -/
theorem inYears_iff_offset {t : DateTime} :
    t.InYears ↔ t.offset ≤ t.sinceStart ∧ -t.offset < t.untilEnd := by
  rw [inYears_iff, Date.le_year_iff, Date.year_le_iff, t.utc_spec.1]
  have hend : Date.daysBeforeYear (9999 + 1) = Date.daysBeforeYear 10000 := rfl
  rw [hend, sinceStart, untilEnd, startOfYear, startOfYear, instant]
  omega

theorem exists_timestamp?_iff_inYears {t : DateTime} :
    (∃ text, t.timestamp? = some text) ↔ t.InYears := by
  constructor
  · rintro ⟨text, h⟩
    exact (timestamp?_eq_some_iff.1 h).1
  · intro h
    exact ⟨_, timestamp?_eq_some_iff.2 ⟨h, String.toList_ofList⟩⟩

theorem exists_dateLiteral?_iff (d : Dialect) (t : DateTime) :
    (∃ literal, d.dateLiteral? t = some literal) ↔ ∃ text, t.timestamp? = some text := by
  simp only [Dialect.dateLiteral?, Option.map_eq_some_iff]
  constructor
  · rintro ⟨literal, text, h, -⟩
    exact ⟨text, h⟩
  · rintro ⟨text, h⟩
    exact ⟨_, text, h, rfl⟩

/-- A moment beyond the beginning of the years is one of the first two days, and one beyond their
end one of the last two. -/
theorem date_of_not_inYears {t : DateTime} (h : ¬ t.InYears) :
    0 < t.offset ∧ t.date.year = -9999 ∧ t.date.month = 1 ∧ t.date.day ≤ 2 ∨
      t.offset < 0 ∧ t.date.year = 9999 ∧ t.date.month = 12 ∧ 30 ≤ t.date.day := by
  rw [inYears_iff_offset, not_and_or, Int.not_le, Int.not_lt] at h
  rcases h with h | h
  · refine Or.inl ⟨Int.lt_of_le_of_lt t.sinceStart_nonneg h, ?_⟩
    refine Date.eq_first_of_dayNumber_le t.year_ge ?_
    have hoffset := t.offset_le
    rw [sinceStart, startOfYear] at h
    omega
  · have hpos := t.untilEnd_pos
    refine Or.inr ⟨by omega, ?_⟩
    refine Date.eq_last_of_lt_dayNumber t.year_le ?_
    have hoffset := t.offset_ge
    have hsecond := t.second_lt
    have hend : Date.daysBeforeYear (9999 + 1) = Date.daysBeforeYear 10000 := rfl
    rw [untilEnd, startOfYear] at h
    omega

/-- **Which moments can be written.** -/
theorem exists_timestamp?_iff (t : DateTime) :
    ((∃ text, t.timestamp? = some text) ↔ t.offset ≤ t.sinceStart ∧ -t.offset < t.untilEnd) ∧
    (∀ d : Dialect, (∃ literal, d.dateLiteral? t = some literal) ↔
      ∃ text, t.timestamp? = some text) ∧
    (t.timestamp? = none →
      0 < t.offset ∧ t.date.year = -9999 ∧ t.date.month = 1 ∧ t.date.day ≤ 2 ∨
        t.offset < 0 ∧ t.date.year = 9999 ∧ t.date.month = 12 ∧ 30 ≤ t.date.day) := by
  refine ⟨?_, fun d => exists_dateLiteral?_iff d t, fun h => date_of_not_inYears fun hyears => ?_⟩
  · rw [exists_timestamp?_iff_inYears, inYears_iff_offset]
  · obtain ⟨text, htext⟩ := exists_timestamp?_iff_inYears.2 hyears
    exact Option.some_ne_none text (htext.symm.trans h)

/-- Eleven at night on the last day, where the clock is behind UTC: by almost an hour, so that it is
the last second of the years in UTC, and by an hour, so that it is the first one after them. -/
theorem exists_timestamp?_lastSecond :
    let date : Date := ⟨9999, 12, 31, by decide, by decide, by decide, by decide⟩
    let t : DateTime := ⟨date, 82800, 0, -3599, by decide, by decide, by decide, by decide,
      by decide, by decide⟩
    let u : DateTime := ⟨date, 82800, 0, -3600, by decide, by decide, by decide, by decide,
      by decide, by decide⟩
    t.untilEnd = 3600 ∧ t.timestamp? = some "9999-12-31 23:59:59" ∧
      (∃ literal, Dialect.oracle.dateLiteral? t = some literal) ∧
      u.untilEnd = 3600 ∧ ¬ (∃ text, u.timestamp? = some text) ∧
      ¬ ∃ literal, Dialect.oracle.dateLiteral? u = some literal := by
  intro date t u
  have ht : t.untilEnd = 3600 := by decide +kernel
  have hu : u.untilEnd = 3600 := by decide +kernel
  have htext : t.timestamp? = some "9999-12-31 23:59:59" := by decide +kernel
  obtain ⟨-, htliteral, -⟩ := exists_timestamp?_iff t
  obtain ⟨hutext, huliteral, -⟩ := exists_timestamp?_iff u
  have hnone : ¬ ∃ text, u.timestamp? = some text := fun h => by
    have hbefore := (hutext.1 h).2
    rw [hu] at hbefore
    exact absurd hbefore (by decide)
  exact ⟨ht, htext, (htliteral .oracle).2 ⟨_, htext⟩, hu, hnone,
    fun h => hnone ((huliteral .oracle).1 h)⟩

/-- Eleven at night on the last day, two hours behind UTC: neither the moment nor a literal of it is
written. -/
theorem timestamp?_eq_none_lastDay :
    let date : Date := ⟨9999, 12, 31, by decide, by decide, by decide, by decide⟩
    let t : DateTime := ⟨date, 82800, 0, -7200, by decide, by decide, by decide, by decide,
      by decide, by decide⟩
    t.timestamp? = none ∧ ∀ d : Dialect, d.dateLiteral? t = none := by
  intro date t
  have ht : t.timestamp? = none := by decide +kernel
  exact ⟨ht, fun d => by rw [Dialect.dateLiteral?, ht, Option.map_none]⟩

end DateTime

end BoundSql
