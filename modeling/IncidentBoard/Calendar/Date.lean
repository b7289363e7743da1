/-! Days of the proleptic Gregorian calendar, years -262143 to 262142. -/
namespace IncidentBoard

namespace Calendar

def isLeap (year : Int) : Bool := year % 4 == 0 && (year % 100 != 0 || year % 400 == 0)

/-- Days from 1 January of year 1 to 1 January of `year`. -/
def daysBeforeYear (year : Int) : Int :=
  let n := year - 1
  365 * n + n / 4 - n / 100 + n / 400

def monthLengths (leap : Bool) : List Nat :=
  [31, if leap then 29 else 28, 31, 30, 31, 30, 31, 31, 30, 31, 30, 31]

def monthLength (year : Int) (month : Nat) : Nat := (monthLengths (isLeap year)).getD (month - 1) 0

def daysBeforeMonth (leap : Bool) (month : Nat) : Nat :=
  ((monthLengths leap).take (month - 1)).foldl (· + ·) 0

/-- The month and the day of the month that the `n`-th day after the first of month `month` falls
on. -/
def monthAndDay : Nat → List Nat → Nat → Nat × Nat
  | month, length :: rest, n =>
    if n < length then (month, n + 1) else monthAndDay (month + 1) rest (n - length)
  | month, [], n => (month, n + 1)

/-- 1 January -262143. -/
def firstDay : Int := -95746130

/-- 31 December 262142. -/
def lastDay : Int := 95745398

end Calendar

open Calendar

/-- A day, as the number of days since 1 January of year 1. -/
structure Date where
  number : Int
  first_le : firstDay ≤ number
  le_last : number ≤ lastDay
  deriving DecidableEq

namespace Date

def ofNumber? (n : Int) : Option Date :=
  if h : firstDay ≤ n ∧ n ≤ lastDay then some ⟨n, h.1, h.2⟩ else none

/-- 146097 days make 400 years; the quotient misses the year by one at most. -/
def year (d : Date) : Int :=
  let y := 400 * d.number / 146097 + 1
  if d.number < daysBeforeYear y then y - 1
  else if daysBeforeYear (y + 1) ≤ d.number then y + 1
  else y

/-- Days since 1 January of the same year. -/
def dayOfYear (d : Date) : Nat := (d.number - daysBeforeYear d.year).toNat

def monthAndDay (d : Date) : Nat × Nat :=
  Calendar.monthAndDay 1 (monthLengths (isLeap d.year)) d.dayOfYear

def month (d : Date) : Nat := d.monthAndDay.1

def day (d : Date) : Nat := d.monthAndDay.2

def ofYMD? (year : Int) (month day : Nat) : Option Date :=
  if 1 ≤ month ∧ month ≤ 12 ∧ 1 ≤ day ∧ day ≤ monthLength year month then
    ofNumber? (daysBeforeYear year + daysBeforeMonth (isLeap year) month + (day - 1))
  else none

def addDays? (d : Date) (n : Int) : Option Date := ofNumber? (d.number + n)

/-- Days since the last Monday: 1 January of year 1 was one. -/
def weekday (d : Date) : Int := d.number % 7

end Date

end IncidentBoard
