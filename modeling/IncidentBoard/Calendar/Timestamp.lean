import IncidentBoard.Calendar.Date

/-! Moments of a day, to the nanosecond, in one time zone. -/
namespace IncidentBoard

/-- `second` counts from midnight. A second that ends a minute may be drawn out by a leap second,
whose nanoseconds follow on those of the second before it. -/
structure Timestamp where
  date : Date
  second : Nat
  nano : Nat
  second_lt : second < 86400
  nano_lt : nano < if second % 60 = 59 then 2000000000 else 1000000000
  deriving DecidableEq

namespace Timestamp

def ofParts? (date : Date) (second nano : Nat) : Option Timestamp :=
  if h : second < 86400 ∧ nano < if second % 60 = 59 then 2000000000 else 1000000000 then
    some ⟨date, second, nano, h.1, h.2⟩
  else none

/-- `second` may be 60, which is the leap second after second 59. -/
def ofClock? (date : Date) (hour minute second nano : Nat) : Option Timestamp :=
  if hour < 24 ∧ minute < 60 ∧ nano < 1000000000 then
    if second < 60 then ofParts? date (hour * 3600 + minute * 60 + second) nano
    else if second = 60 then ofParts? date (hour * 3600 + minute * 60 + 59) (nano + 1000000000)
    else none
  else none

/-- A position on one axis: leap seconds lie between the seconds beside them. -/
def instant (t : Timestamp) : Int := (t.date.number * 86400 + t.second) * 2000000000 + t.nano

instance : LE Timestamp := ⟨fun s t => s.instant ≤ t.instant⟩

instance : LT Timestamp := ⟨fun s t => s.instant < t.instant⟩

instance (s t : Timestamp) : Decidable (s ≤ t) :=
  inferInstanceAs (Decidable (s.instant ≤ t.instant))

instance (s t : Timestamp) : Decidable (s < t) :=
  inferInstanceAs (Decidable (s.instant < t.instant))

def hour (t : Timestamp) : Nat := t.second / 3600

def minute (t : Timestamp) : Nat := t.second / 60 % 60

/-- The second a clock shows, 60 in a leap second. -/
def clockSecond (t : Timestamp) : Nat := t.second % 60 + t.nano / 1000000000

/-- The fraction of the second that a clock shows. -/
def fraction (t : Timestamp) : Nat := t.nano % 1000000000

end Timestamp

def Date.midnight (d : Date) : Timestamp := ⟨d, 0, 0, by decide, by decide⟩

namespace Timestamp

/-- Moves by whole seconds; a leap second stays one if it still ends a minute. -/
def addSeconds? (t : Timestamp) (n : Int) : Option Timestamp := do
  let s := t.second + n
  let date ← t.date.addDays? (s / 86400)
  ofParts? date (s % 86400).toNat t.nano

/-- The last multiple of `step` seconds of the day. -/
def floorSeconds (t : Timestamp) (step : Nat) : Timestamp where
  date := t.date
  second := t.second - t.second % step
  nano := 0
  second_lt := by have := t.second_lt; omega
  nano_lt := by split <;> decide

/-- Midnight of 1 January 1970 is second 0. -/
def ofEpochSeconds? (n : Int) : Option Timestamp := do
  let date ← Date.ofNumber? (719162 + n / 86400)
  ofParts? date (n % 86400).toNat 0

/-- The last moment of the calendar, leap seconds apart. -/
def last : Timestamp :=
  ⟨⟨Calendar.lastDay, by decide, by decide⟩, 86399, 999999999, by decide, by decide⟩

end Timestamp

end IncidentBoard
