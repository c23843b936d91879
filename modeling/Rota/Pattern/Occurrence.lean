import Rota.Pattern.Rule

/-!
The search for the next occurrence of a rule. Periods are numbered (months, quarters, years from
the year 0, steps from the anchor), and those in phase with the anchor are a frequency apart. Since
every period in phase offers a day, the first period at or after the one asked about or the one
after it holds the answer, so two periods are looked at and no more. A period whose day cannot be
built ends the search with no answer.
-/

namespace Rota

/-- The first number at or after `start` that is a multiple of `step` away from `anchor`. -/
def alignUp (anchor start step : Int) : Int :=
  let offset := (start - anchor) % step
  if offset = 0 then start else start + step - offset

/-- The first of the listed months whose day is not before `start`, unless one before it has no
day. -/
def firstFrom (pick : Int → Nat → Checked (Option Date)) (start : Date) :
    List (Int × Nat) → Checked (Option Date)
  | [] => .ok none
  | (year, month) :: rest => do
    match ← pick year month with
    | none => return none
    | some day => if start ≤ day then return some day else firstFrom pick start rest

/-- A frequency of 0 counts as 1. -/
def stride (frequency : UInt32) : Int := max 1 (frequency.toNat : Int)

def dedupSorted (months : List UInt32) : List Nat :=
  ((months.map UInt32.toNat).mergeSort).eraseReps

namespace Rule

def monthlyPeriods (frequency : UInt32) (anchor start : Date) : List (Int × Nat) :=
  let index := alignUp anchor.monthIndex start.monthIndex (stride frequency)
  [splitMonthIndex index, splitMonthIndex (index + stride frequency)]

def quarterlyPeriods (frequency : UInt32) (monthOfQuarter : Option UInt32) (anchor start : Date) :
    List (Int × Nat) :=
  let month := max 1 (min 3 (monthOfQuarter.getD 1).toNat)
  let quarter := alignUp anchor.quarterIndex start.quarterIndex (stride frequency)
  [splitQuarterIndex quarter month, splitQuarterIndex (quarter + stride frequency) month]

def yearlyPeriods (frequency : UInt32) (months : List UInt32) (anchor start : Date) :
    List (Int × Nat) :=
  let listed := if months.isEmpty then [anchor.month] else dedupSorted months
  let year := alignUp anchor.year start.year (stride frequency)
  [year, year + stride frequency].flatMap fun year => listed.map fun month => (wrapYear year, month)

def steppedMonths (step : Int) (anchor start : Date) : List (Int × Nat) :=
  let steps := max 0 (start.monthIndex - anchor.monthIndex) / step
  [splitMonthIndex (anchor.monthIndex + steps * step),
    splitMonthIndex (anchor.monthIndex + (steps + 1) * step)]

def steppedDay (step : Int) (anchor start : Date) : Option Date :=
  let elapsed := max 0 (start.daysFrom anchor)
  anchor.addDays? ((elapsed + step - 1) / step * step)

/-- The earliest day at or after `start` that the rule picks, in periods in phase with `anchor`.
Callers ask only about a `start` that is not before `anchor`. -/
def nextOnOrAfter (rule : Rule) (anchor start : Date) : Checked (Option Date) :=
  match rule with
  | monthly frequency day =>
    firstFrom (day.rule.resolve anchor) start (monthlyPeriods frequency anchor start)
  | quarterly frequency monthOfQuarter day =>
    firstFrom (day.rule.resolve anchor) start
      (quarterlyPeriods frequency monthOfQuarter anchor start)
  | yearly frequency months day =>
    firstFrom (day.rule.resolve anchor) start (yearlyPeriods frequency months anchor start)
  | custom frequency .days _ _ _ => .ok (steppedDay (stride frequency) anchor start)
  | custom frequency .weeks _ _ _ => .ok (steppedDay (stride frequency * 7) anchor start)
  | custom frequency .months _ _ _ =>
    firstFrom (DayRule.anchorDay.resolve anchor) start
      (steppedMonths (stride frequency) anchor start)
  | custom frequency .years _ _ _ =>
    firstFrom (DayRule.anchorDay.resolve anchor) start
      (steppedMonths (stride frequency * 12) anchor start)

end Rule
end Rota
