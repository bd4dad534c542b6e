import Formwork.Calendar.Date
import Mathlib.Tactic.Common
/-!
# Days and their numbers

The date of a day's number is a day of the calendar that exists, and has that number: the year is
the one in which the number falls, and the month the one in which the rest falls.
-/
namespace Formwork.Calendar

/-! ## Years -/

/-- A year by the spans of 400, 100, 4 and 1 years before it. -/
structure YearSpans where
  cycles : Nat
  centuries : Nat
  fours : Nat
  ones : Nat
  centuries_le : centuries ≤ 3
  fours_le : fours ≤ 24
  ones_le : ones ≤ 3

namespace YearSpans

variable (s : YearSpans)

def year : Nat := 400 * s.cycles + 100 * s.centuries + 4 * s.fours + s.ones + 1

def days : Nat := 146097 * s.cycles + 36524 * s.centuries + 1461 * s.fours + 365 * s.ones

theorem daysBeforeYear_year : daysBeforeYear s.year = s.days := by
  obtain ⟨a, b, c, d, hb, hc, hd⟩ := s
  have h4 : (400 * a + 100 * b + 4 * c + d) / 4 = 100 * a + 25 * b + c := by omega
  have h100 : (400 * a + 100 * b + 4 * c + d) / 100 = 4 * a + b := by omega
  have h400 : (400 * a + 100 * b + 4 * c + d) / 400 = a := by omega
  simp only [daysBeforeYear, year, days, Nat.add_sub_cancel, h4, h100, h400]
  omega

/-- The fourth year is a leap year, unless it ends a century that does not end a cycle. -/
theorem isLeap_year : isLeap s.year = true ↔ s.ones = 3 ∧ (s.fours = 24 → s.centuries = 3) := by
  obtain ⟨a, b, c, d, hb, hc, hd⟩ := s
  change isLeap (400 * a + 100 * b + 4 * c + d + 1) = true ↔ d = 3 ∧ (c = 24 → b = 3)
  simp only [isLeap, Bool.and_eq_true, Bool.or_eq_true, decide_eq_true_eq]
  omega

end YearSpans

theorem daysBeforeYear_mono {year later : Nat} (h : year ≤ later) :
    daysBeforeYear year ≤ daysBeforeYear later := by
  have hhundreds : (later - 1) / 100 ≤ (year - 1) / 100 + (later - year) := by omega
  have hfours : (year - 1) / 4 ≤ (later - 1) / 4 := by omega
  have hcycles : (year - 1) / 400 ≤ (later - 1) / 400 := by omega
  simp only [daysBeforeYear]
  omega

namespace Date

/-- The year of a day is found by its spans. The last day of a cycle belongs to the last of its
centuries, and the last of four years has one day more than the others. -/
theorem exists_spans (n : Nat) : ∃ (s : YearSpans) (rest : Nat), yearOf n = s.year ∧
    n = s.days + rest ∧ rest ≤ 365 ∧ (rest = 365 → isLeap s.year = true) := by
  obtain ⟨b, hb⟩ : ∃ b, b = min (n % 146097 / 36524) 3 := ⟨_, rfl⟩
  obtain ⟨r, hr⟩ : ∃ r, r = n % 146097 - 36524 * b := ⟨_, rfl⟩
  have hcentury : n % 146097 = 36524 * b + r ∧ r ≤ 36524 ∧ (r = 36524 → b = 3) := by omega
  obtain ⟨d, hd⟩ : ∃ d, d = min (r % 1461 / 365) 3 := ⟨_, rfl⟩
  obtain ⟨rest, hrest⟩ : ∃ rest, rest = r % 1461 - 365 * d := ⟨_, rfl⟩
  have hfour : r % 1461 = 365 * d + rest ∧ rest ≤ 365 ∧ (rest = 365 → d = 3 ∧ r % 1461 = 1460) := by
    omega
  refine ⟨⟨n / 146097, b, r / 1461, d, by omega, by omega, by omega⟩, rest, ?year, ?days,
    hfour.2.1, ?last⟩
  case year =>
    subst hd hr hb
    rfl
  case days =>
    simp only [YearSpans.days]
    omega
  case last =>
    intro hlast
    rw [YearSpans.isLeap_year]
    dsimp only
    omega

theorem yearOf_spec (n : Nat) : 1 ≤ yearOf n ∧ daysBeforeYear (yearOf n) ≤ n ∧
    n < daysBeforeYear (yearOf n) + yearLength (yearOf n) := by
  obtain ⟨s, rest, hyear, hdays, hrest, hlast⟩ := exists_spans n
  rw [hyear, s.daysBeforeYear_year, yearLength]
  refine ⟨Nat.le_add_left 1 _, by omega, ?_⟩
  split
  · omega
  · rename_i hcommon
    have hne : rest ≠ 365 := fun h => hcommon (hlast h)
    omega

theorem yearOf_le {n : Nat} (h : n < dayCount) : yearOf n ≤ 9999 := by
  obtain ⟨-, hbegun, -⟩ := yearOf_spec n
  by_contra hlate
  have hcount : dayCount ≤ daysBeforeYear (yearOf n) :=
    daysBeforeYear_mono (Nat.not_le.mp hlate)
  omega

end Date

/-! ## Months -/

theorem monthLength_le (year month : Nat) : monthLength year month ≤ 31 := by
  unfold monthLength
  split <;> (try split) <;> decide

theorem daysBeforeMonth_thirteen (year : Nat) : daysBeforeMonth year 13 = yearLength year := by
  by_cases h : isLeap year = true <;> simp [daysBeforeMonth, monthLength, yearLength, h]

namespace Date

/-- The search finds the month that holds the day, if the months from `month` on hold it. -/
theorem findMonth_spec (year : Nat) {fuel month rest : Nat} (hmonth : month + fuel = 12)
    (hrest : daysBeforeMonth year month + rest < yearLength year) :
    let found := findMonth year fuel month rest
    month ≤ found.1 ∧ found.1 ≤ 12 ∧ found.2 < monthLength year found.1 ∧
      daysBeforeMonth year found.1 + found.2 = daysBeforeMonth year month + rest := by
  induction fuel generalizing month rest with
  | zero =>
    obtain rfl : month = 12 := by omega
    rw [← daysBeforeMonth_thirteen] at hrest
    exact ⟨Nat.le_refl _, Nat.le_refl _, Nat.lt_of_add_lt_add_left hrest, rfl⟩
  | succ fuel ih =>
    rw [findMonth]
    split
    · rename_i hhere
      exact ⟨Nat.le_refl _, by omega, hhere, rfl⟩
    · rename_i hlater
      have hnext : daysBeforeMonth year (month + 1) + (rest - monthLength year month) =
          daysBeforeMonth year month + rest := by
        rw [daysBeforeMonth]
        omega
      obtain ⟨hle, hyear, hday, hsum⟩ := ih (by omega) (hnext ▸ hrest)
      exact ⟨by omega, hyear, hday, hsum.trans hnext⟩

/-- The day exists, and lies in the years 1 to 9999. -/
structure InCalendar (d : Date) : Prop where
  one_le_year : 1 ≤ d.year
  year_le : d.year ≤ 9999
  one_le_month : 1 ≤ d.month
  month_le : d.month ≤ 12
  one_le_day : 1 ≤ d.day
  day_le : d.day ≤ monthLength d.year d.month

theorem findMonth_in_year (n : Nat) :
    let found := findMonth (yearOf n) 11 1 (n - daysBeforeYear (yearOf n))
    1 ≤ found.1 ∧ found.1 ≤ 12 ∧ found.2 < monthLength (yearOf n) found.1 ∧
      daysBeforeYear (yearOf n) + daysBeforeMonth (yearOf n) found.1 + found.2 = n := by
  obtain ⟨-, hbegun, hends⟩ := yearOf_spec n
  have hfirst : daysBeforeMonth (yearOf n) 1 = 0 := rfl
  have hrest : daysBeforeMonth (yearOf n) 1 + (n - daysBeforeYear (yearOf n)) <
      yearLength (yearOf n) := by omega
  obtain ⟨hone, htwelve, hday, hsum⟩ :=
    findMonth_spec (yearOf n) (show 1 + 11 = 12 from rfl) hrest
  exact ⟨hone, htwelve, hday, by omega⟩

theorem inCalendar_ofNumber {n : Nat} (h : n < dayCount) : (ofNumber n).InCalendar := by
  obtain ⟨hone, htwelve, hday, -⟩ := findMonth_in_year n
  exact ⟨(yearOf_spec n).1, yearOf_le h, hone, htwelve, Nat.le_add_left 1 _, hday⟩

@[simp] theorem number_ofNumber (n : Nat) : (ofNumber n).number = n := by
  obtain ⟨-, -, -, hsum⟩ := findMonth_in_year n
  exact hsum

end Date
end Formwork.Calendar
