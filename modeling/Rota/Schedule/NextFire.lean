import Rota.Schedule.Cron
import Rota.Zone.Basic
import Rota.Calendar.Month

/-!
When a cron expression fires next. The search starts at the wall clock one second after the instant
asked about and goes up year by year, month by month, down to the second. The start bounds each
field from below as long as all coarser fields stand at their own start. In a start year before
1970 the bounds of month and day hold for 1970; a start day past the end of its month is brought
back to that end.

A wall-clock time that does not come up, or comes up twice, is passed over. A day of which the
clock shows neither the first nor the last second just once stops the search with a fault.
-/

namespace Rota

structure WallTime where
  date : Date
  hour : Nat
  minute : Nat
  second : Nat

namespace Zone

/-- The first or the last second of the day comes up on the wall clock just once. -/
def showsDay (zone : Zone) (date : Date) : Bool :=
  (zone.timesAt (date.number * secondsPerDay)).length == 1 ||
    (zone.timesAt (date.number * secondsPerDay + 86399)).length == 1

/-- The instant at which the wall clock shows a second of a day, when that comes up just once. -/
def onlyTime? (zone : Zone) (date : Date) (second : Nat) : Option Instant :=
  match zone.timesAt (date.number * secondsPerDay + second) with
  | [time] => Instant.ofSeconds? time
  | _ => none

def wallTime? (zone : Zone) (time : Int) : Option WallTime := do
  let wall := zone.wallClock time
  let date ← Date.ofNumber? (wall / secondsPerDay)
  let second := (wall % secondsPerDay).toNat
  return ⟨date, second / 3600, second / 60 % 60, second % 60⟩

end Zone

def findFirst {α β : Type} (find : α → Checked (Option β)) : List α → Checked (Option β)
  | [] => .ok none
  | item :: rest => do
    match ← find item with
    | some found => return some found
    | none => findFirst find rest

/-- The values at or above the bound, when there is one. The bound of the next finer field goes on
with the value that equals this one. -/
def boundedBy (values : List Nat) (bound : Option Nat) : List (Nat × Bool) :=
  match bound with
  | none => values.map fun n => (n, false)
  | some bound => (values.filter fun n => decide (bound ≤ n)).map fun n => (n, n == bound)

namespace Cron

def secondsOfDay (cron : Cron) (start : Option WallTime) : List Nat :=
  (boundedBy cron.hours (start.map WallTime.hour)).flatMap fun (hour, atHour) =>
    let start := start.filter fun _ => atHour
    (boundedBy cron.minutes (start.map WallTime.minute)).flatMap fun (minute, atMinute) =>
      let start := start.filter fun _ => atMinute
      (boundedBy cron.seconds (start.map WallTime.second)).map fun (second, _) =>
        hour * 3600 + minute * 60 + second

def firesOnDay (cron : Cron) (zone : Zone) (date : Date) (seconds : List Nat) :
    Checked (Option Instant) :=
  if seconds.isEmpty then .ok none
  else if !zone.showsDay date then .error .skippedDay
  else if !cron.weekdays.contains (date.weekday.index + 1) then .ok none
  else .ok (seconds.findSome? (zone.onlyTime? date))

/-- The days of a month to look at: a bound past the end of the month becomes that end. -/
def daysOfMonth (cron : Cron) (length : Nat) (start : Option WallTime) : List (Nat × Bool) :=
  let days := cron.days.filter fun day => decide (day ≤ length)
  match start with
  | none => boundedBy days none
  | some start =>
    (boundedBy days (some (min start.date.day length))).map fun (day, bounded) =>
      (day, bounded && cron.days.contains start.date.day)

def firesInMonth (cron : Cron) (zone : Zone) (year month : Nat) (start : Option WallTime) :
    Checked (Option Instant) :=
  findFirst (fun (day, bounded) =>
      match Date.ofYmd? year month day with
      | none => .ok none
      | some date => cron.firesOnDay zone date (cron.secondsOfDay (start.filter fun _ => bounded)))
    (cron.daysOfMonth (monthLength year month) start)

def firesInYear (cron : Cron) (zone : Zone) (year : Nat) (start : Option WallTime) :
    Checked (Option Instant) :=
  findFirst
    (fun (month, bounded) => cron.firesInMonth zone year month (start.filter fun _ => bounded))
    (boundedBy cron.months (start.map fun start => start.date.month))

def firesFrom (cron : Cron) (zone : Zone) (start : WallTime) : Checked (Option Instant) :=
  match cron.years.filter fun (year : Nat) => decide (start.date.year ≤ year) with
  | [] => .ok none
  | first :: rest => do
    match ← cron.firesInYear zone first (some start) with
    | some fire => return some fire
    | none => findFirst (fun year => cron.firesInYear zone year none) rest

/-- The first time the expression fires after an instant. A start in a year before the year 0 finds
none. -/
def nextAfter (cron : Cron) (zone : Zone) (after : Instant) : Checked (Option Instant) :=
  let time := after.toSeconds + 1
  if (Instant.ofSeconds? time).isNone then .error .calendar
  else
    match zone.wallTime? time with
    | none => .ok none
    | some start => if start.date.year < 0 then .ok none else cron.firesFrom zone start

def firesAfter (cron : Cron) (zone : Zone) (after : Instant) : Nat → Checked (List Instant)
  | 0 => .ok []
  | count + 1 => do
    match ← cron.nextAfter zone after with
    | none => return []
    | some fire => return fire :: (← cron.firesAfter zone fire count)

end Cron

def TriggerTime.nextAfter (time : TriggerTime) (zone : Zone) (after : Instant) :
    Checked (Option Instant) :=
  time.cron.nextAfter zone after

end Rota
