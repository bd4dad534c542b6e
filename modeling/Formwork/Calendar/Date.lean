/-!
The civil calendar, extended backwards without a break, from year 1 to year 9999. Days are counted
from the first of January of year 1, which is day 0 and a Monday.
-/
namespace Formwork.Calendar

def isLeap (year : Nat) : Bool := year % 4 = 0 && (year % 100 ≠ 0 || year % 400 = 0)

def yearLength (year : Nat) : Nat := if isLeap year then 366 else 365

/-- Days of a month; a number that is no month has none. -/
def monthLength (year month : Nat) : Nat :=
  match month with
  | 1 | 3 | 5 | 7 | 8 | 10 | 12 => 31
  | 4 | 6 | 9 | 11 => 30
  | 2 => if isLeap year then 29 else 28
  | _ => 0

/-- Days of the years before `year`. -/
def daysBeforeYear (year : Nat) : Nat :=
  let y := year - 1
  365 * y + y / 4 - y / 100 + y / 400

/-- Days of the months of the year before `month`. -/
def daysBeforeMonth (year : Nat) : Nat → Nat
  | 0 => 0
  | month + 1 => daysBeforeMonth year month + monthLength year month

structure Date where
  year : Nat
  month : Nat
  day : Nat
  deriving DecidableEq, Repr

namespace Date

/-- The day's number, counted from day 0. -/
def number (d : Date) : Nat :=
  daysBeforeYear d.year + daysBeforeMonth d.year d.month + (d.day - 1)

/-- The year that holds a day, from the spans of 400, 100, 4 and 1 years before it. -/
def yearOf (n : Nat) : Nat :=
  let n400 := n / 146097
  let r400 := n % 146097
  let n100 := min (r400 / 36524) 3
  let r100 := r400 - 36524 * n100
  let n4 := r100 / 1461
  let r4 := r100 % 1461
  400 * n400 + 100 * n100 + 4 * n4 + min (r4 / 365) 3 + 1

/-- The month, from `month` on, that holds the day `rest` days after that month's first. -/
def findMonth (year : Nat) : Nat → Nat → Nat → Nat × Nat
  | 0, month, rest => (month, rest)
  | fuel + 1, month, rest =>
    if rest < monthLength year month then (month, rest)
    else findMonth year fuel (month + 1) (rest - monthLength year month)

def ofNumber (n : Nat) : Date :=
  let year := yearOf n
  let (month, day) := findMonth year 11 1 (n - daysBeforeYear year)
  ⟨year, month, day + 1⟩

/-- Monday is 0. -/
def weekday (d : Date) : Nat := d.number % 7

end Date

/-- The days of the years 1 to 9999. -/
def dayCount : Nat := 3652059

end Formwork.Calendar
