import BoundSql.Calendar
import Mathlib.Tactic.SplitIfs

/-!
# The count of days

`Date.dayNumber` gives the place of a day in the count of all days by a closed formula, while days
are counted up and down in the calendar by `next` and `previous`. The two agree: each step changes
the number by one (`Date.dayNumber_addDays`), and no two days have the same number
(`Date.dayNumber_injective`), for all years, before year 0 as after it.
-/

namespace BoundSql

/-- The length of a year. -/
def daysInYear (y : Int) : Nat := if isLeapYear y then 366 else 365

theorem isLeapYear_iff {y : Int} :
    isLeapYear y = true ↔ y % 4 = 0 ∧ (y % 100 ≠ 0 ∨ y % 400 = 0) := by
  simp [isLeapYear]

theorem daysInMonth_le (y : Int) (m : Nat) : daysInMonth y m ≤ 31 := by
  unfold daysInMonth
  split_ifs <;> decide

namespace Date

/-! ### Years and months -/

theorem daysBeforeYear_succ (y : Int) :
    daysBeforeYear (y + 1) = daysBeforeYear y + daysInYear y := by
  unfold daysBeforeYear daysInYear
  split_ifs with h
  · rw [isLeapYear_iff] at h
    omega
  · rw [isLeapYear_iff] at h
    omega

theorem daysBeforeYear_le {y z : Int} (h : y ≤ z) : daysBeforeYear y ≤ daysBeforeYear z := by
  unfold daysBeforeYear
  omega

theorem daysBeforeMonth_succ (y : Int) {m : Nat} (h : 1 ≤ m) :
    daysBeforeMonth y (m + 1) = daysBeforeMonth y m + daysInMonth y m := by
  obtain ⟨k, rfl⟩ := Nat.exists_eq_add_of_le' h
  rfl

theorem daysBeforeMonth_le (y : Int) {m n : Nat} (hm : 1 ≤ m) (h : m ≤ n) :
    daysBeforeMonth y m ≤ daysBeforeMonth y n := by
  induction h with
  | refl => exact Nat.le_refl _
  | step h ih =>
    rw [Nat.succ_eq_add_one, daysBeforeMonth_succ y (Nat.le_trans hm h)]
    omega

/-- The twelve months make up the year. -/
theorem daysBeforeMonth_thirteen (y : Int) : daysBeforeMonth y 13 = daysInYear y := by
  cases h : isLeapYear y <;> simp [daysBeforeMonth, daysInMonth, daysInYear, h]

/-! ### The next day and the day before -/

theorem dayNumber_next (d : Date) : d.next.dayNumber = d.dayNumber + 1 := by
  have hday := d.day_le
  have hmonth := d.month_le
  unfold next
  split_ifs with h1 h2
  · simp only [dayNumber]
    omega
  · have hsucc := daysBeforeMonth_succ d.year d.one_le_month
    simp only [dayNumber, hsucc]
    omega
  · have hm : d.month = 12 := by omega
    have hyear := daysBeforeYear_succ d.year
    have hmonths := daysBeforeMonth_thirteen d.year
    have hsucc : daysBeforeMonth d.year 13 = daysBeforeMonth d.year 12 + daysInMonth d.year 12 :=
      daysBeforeMonth_succ d.year (by decide)
    have hfirst : daysBeforeMonth (d.year + 1) 1 = 0 := rfl
    rw [hm] at h1 hday
    simp only [dayNumber, hm, hyear, hfirst]
    omega

theorem dayNumber_previous (d : Date) : d.previous.dayNumber = d.dayNumber - 1 := by
  have hday := d.one_le_day
  have hmonth := d.one_le_month
  unfold previous
  split_ifs with h1 h2
  · simp only [dayNumber]
    omega
  · have hsucc := daysBeforeMonth_succ d.year (m := d.month - 1) (by omega)
    rw [Nat.sub_add_cancel hmonth] at hsucc
    simp only [dayNumber, hsucc]
    omega
  · have hm : d.month = 1 := by omega
    have hyear := daysBeforeYear_succ (d.year - 1)
    rw [Int.sub_add_cancel] at hyear
    have hmonths := daysBeforeMonth_thirteen (d.year - 1)
    have hsucc : daysBeforeMonth (d.year - 1) 13 =
        daysBeforeMonth (d.year - 1) 12 + daysInMonth (d.year - 1) 12 :=
      daysBeforeMonth_succ (d.year - 1) (by decide)
    have hfirst : daysBeforeMonth d.year 1 = 0 := rfl
    simp only [dayNumber, hm, hyear, hfirst]
    omega

/-- **The count of days follows the calendar.** -/
theorem dayNumber_addDays (d : Date) (n : Int) : (d.addDays n).dayNumber = d.dayNumber + n := by
  have hnext : ∀ n : Nat, (n.repeat next d).dayNumber = d.dayNumber + n := by
    intro n
    induction n with
    | zero => simp [Nat.repeat]
    | succ n ih =>
      rw [Nat.repeat, dayNumber_next, ih]
      omega
  have hprevious : ∀ n : Nat, (n.repeat previous d).dayNumber = d.dayNumber - n := by
    intro n
    induction n with
    | zero => simp [Nat.repeat]
    | succ n ih =>
      rw [Nat.repeat, dayNumber_previous, ih]
      omega
  cases n with
  | ofNat n => exact hnext n
  | negSucc n =>
    rw [addDays, hprevious]
    omega

/-! ### Days with one number -/

/-- A day lies in its year. -/
theorem dayNumber_bounds (d : Date) : daysBeforeYear d.year < d.dayNumber ∧
    d.dayNumber ≤ daysBeforeYear (d.year + 1) := by
  have hday := d.day_le
  have hpos := d.one_le_day
  have hsucc := daysBeforeMonth_succ d.year d.one_le_month
  have hmonths : daysBeforeMonth d.year (d.month + 1) ≤ daysBeforeMonth d.year 13 :=
    daysBeforeMonth_le d.year (by omega) (by have := d.month_le; omega)
  rw [daysBeforeMonth_thirteen] at hmonths
  rw [daysBeforeYear_succ, dayNumber]
  omega

/-- The days of a year and of all later ones. -/
theorem le_year_iff {d : Date} {y : Int} : y ≤ d.year ↔ daysBeforeYear y < d.dayNumber := by
  constructor
  · intro h
    exact Int.lt_of_le_of_lt (daysBeforeYear_le h) d.dayNumber_bounds.1
  · intro h
    refine Int.not_lt.1 fun hlt => ?_
    have hyears := daysBeforeYear_le (show d.year + 1 ≤ y by omega)
    have hd := d.dayNumber_bounds.2
    omega

/-- The days of a year and of all earlier ones. -/
theorem year_le_iff {d : Date} {y : Int} : d.year ≤ y ↔ d.dayNumber ≤ daysBeforeYear (y + 1) := by
  rw [← Int.lt_add_one_iff, ← Int.not_le, le_year_iff, Int.not_lt]

theorem year_le_of_dayNumber_le {d e : Date} (h : d.dayNumber ≤ e.dayNumber) :
    d.year ≤ e.year :=
  le_year_iff.2 (Int.lt_of_lt_of_le d.dayNumber_bounds.1 h)

theorem dayNumber_injective {d e : Date} (h : d.dayNumber = e.dayNumber) : d = e := by
  have hyear : d.year = e.year :=
    Int.le_antisymm (year_le_of_dayNumber_le (Int.le_of_eq h))
      (year_le_of_dayNumber_le (Int.le_of_eq h.symm))
  -- within a year a later month begins after the days of an earlier one
  have hmonth : ∀ d e : Date, d.year = e.year → d.dayNumber = e.dayNumber →
      ¬ d.month < e.month := by
    intro d e hyear h hlt
    have hnext := daysBeforeMonth_succ d.year d.one_le_month
    have hle := daysBeforeMonth_le d.year (by omega) (show d.month + 1 ≤ e.month from hlt)
    have hday := d.day_le
    have hpos := e.one_le_day
    rw [dayNumber, dayNumber, ← hyear] at h
    omega
  have hmonths : d.month = e.month := by
    have h1 := hmonth d e hyear h
    have h2 := hmonth e d hyear.symm h.symm
    omega
  have hday : d.day = e.day := by
    rw [dayNumber, dayNumber, hyear, hmonths] at h
    omega
  cases d
  cases e
  simp only at hyear hmonths hday
  subst hyear hmonths hday
  rfl

end Date

end BoundSql
