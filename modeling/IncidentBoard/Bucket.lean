import IncidentBoard.Calendar.Text

/-! Buckets of time: rounding down, moving on, and the bucket starts of a window. -/
namespace IncidentBoard

inductive Bucket
  | minute | fiveMinutes | fifteenMinutes | hour | day | week | month | year
  deriving DecidableEq, Repr

namespace Bucket

def all : List Bucket := [.minute, .fiveMinutes, .fifteenMinutes, .hour, .day, .week, .month, .year]

def name : Bucket → String
  | .minute => "minute"
  | .fiveMinutes => "5minute"
  | .fifteenMinutes => "15minute"
  | .hour => "hour"
  | .day => "day"
  | .week => "week"
  | .month => "month"
  | .year => "year"

def ofName? (s : String) : Option Bucket := all.find? (·.name == s)

def firstOfMonth? (year : Int) (month : Nat) : Option Timestamp :=
  (Date.ofYMD? year month 1).map Date.midnight

/-- The start of the bucket that holds `t`; a week starts on Monday. The first Monday of the first
week may lie before the calendar. -/
def floor? (b : Bucket) (t : Timestamp) : Option Timestamp :=
  match b with
  | .minute => some (t.floorSeconds 60)
  | .fiveMinutes => some (t.floorSeconds 300)
  | .fifteenMinutes => some (t.floorSeconds 900)
  | .hour => some (t.floorSeconds 3600)
  | .day => some t.date.midnight
  | .week => (t.date.addDays? (-t.date.weekday)).map Date.midnight
  | .month => firstOfMonth? t.date.year t.date.month
  | .year => firstOfMonth? t.date.year 1

/-- The start of the month after the one that `t` starts, or the last moment of the calendar. -/
def nextMonth (t : Timestamp) : Timestamp :=
  let next :=
    if t.date.month < 12 then firstOfMonth? t.date.year (t.date.month + 1)
    else firstOfMonth? (t.date.year + 1) 1
  next.getD Timestamp.last

def nextYear (t : Timestamp) : Timestamp :=
  (firstOfMonth? (t.date.year + 1) 1).getD Timestamp.last

/-- The start of the next bucket. Months and years end with the calendar, shorter buckets may not
leave it. -/
def advance? (b : Bucket) (t : Timestamp) : Option Timestamp := do
  let start ← b.floor? t
  match b with
  | .minute => start.addSeconds? 60
  | .fiveMinutes => start.addSeconds? 300
  | .fifteenMinutes => start.addSeconds? 900
  | .hour => start.addSeconds? 3600
  | .day => start.addSeconds? 86400
  | .week => start.addSeconds? 604800
  | .month => some (nextMonth start)
  | .year => some (nextYear start)

/-- The label of the bucket that `t` starts. -/
def display (b : Bucket) (t : Timestamp) : String :=
  match b with
  | .minute | .fiveMinutes | .fifteenMinutes | .hour =>
    String.ofList (t.date.text ++ ' ' :: t.minuteText)
  | .day | .week => String.ofList t.date.text
  | .month => String.ofList t.date.monthText
  | .year => String.ofList (Calendar.yearText t.date.year)

/-- A window may be refused because it has too many buckets. -/
def defaultMaxPoints : Nat := 2000

/-- The bucket starts from `current` to `stop`: `some none` if there are more than `room`, `none` if
the walk leaves the calendar. -/
def walk? (b : Bucket) (stop : Timestamp) : Nat → Timestamp → Option (Option (List Timestamp))
  | 0, current => if current ≤ stop then some none else some (some [])
  | room + 1, current =>
    if current ≤ stop then do
      let next ← b.advance? current
      let points ← walk? b stop room next
      return points.map (current :: ·)
    else some (some [])

/-- Every bucket start from the one that holds `start` to `stop`, or none if they are more than
`maxPoints`. -/
def range? (b : Bucket) (start stop : Timestamp) (maxPoints : Nat) : Option (List Timestamp) :=
  if start ≤ stop then do
    let points ← b.walk? stop maxPoints (← b.floor? start)
    return points.getD []
  else some []

end Bucket

end IncidentBoard
