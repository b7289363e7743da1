import IncidentBoard.Calendar.Timestamp
import IncidentBoard.Text.Digit

/-! Written forms of dates and timestamps. -/
namespace IncidentBoard

namespace Calendar

open Text

/-- Four digits; a year that needs more, or lies before year 0, has a sign. -/
def yearText (year : Int) : List Char :=
  if 0 ≤ year ∧ year ≤ 9999 then padded 4 year.toNat
  else (if year < 0 then '-' else '+') :: padded 4 year.natAbs

end Calendar

open Calendar Text

namespace Date

def monthText (d : Date) : List Char := yearText d.year ++ '-' :: padded 2 d.month

def text (d : Date) : List Char := d.monthText ++ '-' :: padded 2 d.day

end Date

namespace Timestamp

def minuteText (t : Timestamp) : List Char := padded 2 t.hour ++ ':' :: padded 2 t.minute

def clockText (t : Timestamp) : List Char := t.minuteText ++ ':' :: padded 2 t.clockSecond

/-- `2024-03-07T13:45:00`, to the second. -/
def sortKey (t : Timestamp) : String := String.ofList (t.date.text ++ 'T' :: t.clockText)

/-- `2024-03-07 13:45:00`, to the second. -/
def readable (t : Timestamp) : String := String.ofList (t.date.text ++ ' ' :: t.clockText)

/-- The fraction in the least of three, six and nine digits that holds it; none when it is zero. -/
def fractionText (t : Timestamp) : List Char :=
  let n := t.fraction
  if n = 0 then []
  else if n % 1000000 = 0 then '.' :: padded 3 (n / 1000000)
  else if n % 1000 = 0 then '.' :: padded 6 (n / 1000)
  else '.' :: padded 9 n

/-- The sort key with the fraction that is left after it. -/
def exactChars (t : Timestamp) : List Char := t.date.text ++ 'T' :: (t.clockText ++ t.fractionText)

def exactText (t : Timestamp) : String := String.ofList t.exactChars

/-- The sort key with nine digits of the fraction. -/
def nanoText (t : Timestamp) : String := t.sortKey ++ String.ofList ('.' :: padded 9 t.fraction)

end Timestamp

end IncidentBoard
