import Rota.Checked
import Rota.Calendar.Date

/-!
Months counted from January of year 0, and the days a month offers: its last day, a day brought
into its length, its n-th weekday. The length of a month is taken from the first day of the month
after it, and is 28 where the calendar does not have that day, as for the last month of all.
-/

namespace Rota

/-- Years are signed 32-bit words; a larger number is read modulo 2^32. -/
def wrapYear (year : Int) : Int := Int.bmod year 4294967296

def largestYear : Int := 2147483647
def largestMonth : Nat := 4294967295

/-- The month after `month` of `year`. Only 12 is taken as the last of a year. -/
def nextMonth (year : Int) (month : Nat) : Checked (Int × Nat) :=
  if month = 12 then
    if year = largestYear then .error .word else .ok (year + 1, 1)
  else if month = largestMonth then .error .word
  else .ok (year, month + 1)

def daysInMonth (year : Int) (month : Nat) : Checked Nat := do
  let (nextYear, next) ← nextMonth year month
  return match (Date.ofYmd? nextYear next 1).bind Date.pred? with
    | some last => last.day
    | none => 28

/-- The day of the month nearest to the one asked for: 31 in April is 30 April. -/
def clampedDate (year : Int) (month day : Nat) : Checked (Option Date) := do
  let length ← daysInMonth year month
  return Date.ofYmd? year month (max 1 (min day length))

def weekdaysOfMonth (year : Int) (month : Nat) (weekday : Weekday) : Checked (List Date) := do
  let length ← daysInMonth year month
  return ((List.range' 1 length).filterMap (Date.ofYmd? year month)).filter
    fun date => date.weekday == weekday

/-- The `week`-th `weekday` of a month; from 5 on the last one, and there is no week 0. -/
def nthWeekdayOfMonth (year : Int) (month week : Nat) (weekday : Weekday) :
    Checked (Option Date) := do
  let matching ← weekdaysOfMonth year month weekday
  return if week = 0 then none
    else if week ≤ 4 then matching[week - 1]?
    else matching.getLast?

namespace Date

/-- Months from January of year 0 to the month of the date. -/
def monthIndex (date : Date) : Int := date.year * 12 + ((date.month : Int) - 1)

def quarterIndex (date : Date) : Int := date.year * 4 + (((date.month - 1) / 3 : Nat) : Int)

end Date

def splitMonthIndex (index : Int) : Int × Nat :=
  (wrapYear (index / 12), (index % 12).toNat + 1)

def splitQuarterIndex (quarter : Int) (month : Nat) : Int × Nat :=
  (wrapYear (quarter / 4), (quarter % 4).toNat * 3 + month)

end Rota
