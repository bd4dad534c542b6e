import Formwork.Calendar.Date
/-!
Instants to the microsecond, and stamps. An instant is a point in time of the years 1 to 9999. A
stamp is what a document writes down: the reading of a clock on the wall, with the clock's offset
from universal time where it is known; a clock without an offset shows universal time.
-/
namespace Formwork.Calendar

def microsPerSecond : Nat := 1000000
def microsPerDay : Nat := 86400 * microsPerSecond

/-- The microseconds of the years 1 to 9999. -/
def microCount : Nat := dayCount * microsPerDay

theorem zero_lt_microCount : 0 < microCount := by decide

theorem halfDay_lt_microCount : 43200000000 < microCount := by decide

structure Instant where
  micros : Nat
  micros_lt : micros < microCount
  deriving DecidableEq

namespace Instant

theorem ext_micros {a b : Instant} (h : a.micros = b.micros) : a = b := by
  cases a; cases b; simp_all

def ofMicros? (n : Int) : Option Instant :=
  if h : 0 ≤ n ∧ n < microCount then some ⟨n.toNat, by omega⟩ else none

/-- The instant `n` microseconds later, unless the calendar does not reach it. -/
def shift? (i : Instant) (n : Int) : Option Instant := ofMicros? (i.micros + n)

def date (i : Instant) : Date := Date.ofNumber (i.micros / microsPerDay)

def microOfDay (i : Instant) : Nat := i.micros % microsPerDay

def compare (a b : Instant) : Ordering := Ord.compare a.micros b.micros

/-- Microseconds from `a` to `b`. -/
def elapsed (a b : Instant) : Int := (b.micros : Int) - a.micros

theorem ofMicros?_micros (i : Instant) : ofMicros? i.micros = some i := by
  have := i.micros_lt
  simp [ofMicros?, this]

theorem shift?_zero (i : Instant) : i.shift? 0 = some i := by
  simp [shift?, ofMicros?_micros]

end Instant

/-- A part of a date or time that lies outside its range. -/
inductive Misfit where
  | year (n : Nat)
  | month
  | day
  | hour
  | minute
  | second
  deriving DecidableEq

def Misfit.message : Misfit → String
  | .year n => s!"year {n} is out of range"
  | .month => "month must be in 1..12"
  | .day => "day is out of range for month"
  | .hour => "hour must be in 0..23"
  | .minute => "minute must be in 0..59"
  | .second => "second must be in 0..59"

/-- The instant that a date and a time of day name in universal time. -/
def Instant.ofParts (d : Date) (hour minute second micro : Nat) : Except Misfit Instant :=
  if d.year < 1 ∨ 9999 < d.year then .error (.year d.year)
  else if d.month < 1 ∨ 12 < d.month then .error .month
  else if d.day < 1 ∨ monthLength d.year d.month < d.day then .error .day
  else if 23 < hour then .error .hour
  else if 59 < minute then .error .minute
  else if 59 < second then .error .second
  else
    match Instant.ofMicros?
      (d.number * microsPerDay + ((hour * 60 + minute) * 60 + second) * microsPerSecond + micro)
    with
    | some i => .ok i
    | none => .error (.year d.year)

structure Stamp where
  wall : Instant
  /-- Microseconds by which the clock is ahead of universal time. -/
  offset : Option Int
  deriving DecidableEq

namespace Stamp

def ofInstant (i : Instant) : Stamp := ⟨i, some 0⟩

/-- The instant of a stamp, unless the calendar does not reach it. -/
def instant? (s : Stamp) : Option Instant :=
  match s.offset with
  | none => some s.wall
  | some ahead => s.wall.shift? (-ahead)

def shift? (s : Stamp) (n : Int) : Option Stamp := (s.wall.shift? n).map (⟨·, s.offset⟩)

@[simp] theorem instant?_ofInstant (i : Instant) : (ofInstant i).instant? = some i := by
  simp [ofInstant, instant?, Instant.shift?_zero]

end Stamp
end Formwork.Calendar
