import Rota.Task.Basic
import Rota.Zone.Basic

/-!
What one look at a series or a recurring task comes to: an occurrence that is due, because it is at
most the lookahead away; one that is not; or none any more. An occurrence before today is never due.
-/

namespace Rota

inductive Resolution where
  | due (date : Date)
  | notDue (date : Date)
  | exhausted
  deriving DecidableEq

/-- How far ahead occurrences are taken up, and the zone whose calendar day is today. -/
structure Horizon where
  lookahead : Int := 7
  zone : Zone := .utc

namespace Horizon

def today (horizon : Horizon) (now : Instant) : Checked Date := horizon.zone.localDate now

def reaches (horizon : Horizon) (candidate today : Date) : Bool :=
  decide (0 ≤ candidate.daysFrom today ∧ candidate.daysFrom today ≤ horizon.lookahead)

def classify (horizon : Horizon) (today candidate : Date) : Resolution :=
  if horizon.reaches candidate today then .due candidate else .notDue candidate

def resolve (horizon : Horizon) (series : Series) (today : Date) : Checked Resolution := do
  match ← series.nextOccurrence today with
  | none => return .exhausted
  | some candidate => return horizon.classify today candidate

end Horizon

/-- The day of the month in the month of `today`, or in the next one when it has passed. -/
def nextMonthlyDay (day : Nat) (today : Date) : Checked (Option Date) := do
  match ← clampedDate today.year today.month day with
  | none => return none
  | some thisMonth =>
    if today ≤ thisMonth then return some thisMonth
    else
      let (year, month) := splitMonthIndex (today.monthIndex + 1)
      clampedDate year month day

def nextInterval (interval : Int) (due today : Date) : Checked (Option Date) := do
  let cycles := today.daysFrom due / interval
  let days ← checkedDays (← checkedWord ((cycles + 1) * interval))
  return due.addDays? days

namespace Task

/-- The next due date of a recurring task; none for a task without a positive interval, and for one
with neither a day of the month nor a due date. A day of the month wins over the interval. -/
def nextDue (task : Task) (today : Date) : Checked (Option Date) :=
  match task.interval, task.monthlyDate, task.dueDate with
  | none, _, _ => .ok none
  | some interval, monthly, due =>
    if interval ≤ 0 then .ok none
    else match monthly, due with
      | some day, _ => nextMonthlyDay (max 1 (min 31 day.toInt)).toNat today
      | none, none => .ok none
      | none, some due => nextInterval interval.toInt due today

end Task

def Horizon.resolveTask (horizon : Horizon) (task : Task) (today : Date) :
    Checked (Option Resolution) := do
  return (← task.nextDue today).map (horizon.classify today)

end Rota
