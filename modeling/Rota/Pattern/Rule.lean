import Rota.Calendar.Month

/-!
Recurrence rules. A rule repeats every so many months, quarters, years or custom units; the first
three also select a day inside the period. Any numbers can be written down in a rule. `Rule.check`
says which ones a stored rule may have, and names the first fault it finds.
-/

namespace Rota

structure DaySelection where
  dayOfMonth : Option UInt32 := none
  weekOfMonth : Option UInt8 := none
  dayOfWeek : Option UInt8 := none
  endOfMonth : Bool := false
  deriving DecidableEq, Repr

inductive DayRule where
  /-- A day number, or the last day of a shorter month. -/
  | dayOfMonth (day : UInt32)
  /-- The first to fourth weekday, the last one from week 5 on. -/
  | nthWeekday (week : UInt8) (weekday : Weekday)
  | endOfMonth
  | anchorDay
  deriving DecidableEq, Repr

inductive RepeatUnit where
  | days | weeks | months | years
  deriving DecidableEq, Repr

inductive Rule where
  | monthly (frequency : UInt32) (day : DaySelection)
  /-- An empty month list stands for the month the pattern starts in. -/
  | yearly (frequency : UInt32) (months : List UInt32) (day : DaySelection)
  | quarterly (frequency : UInt32) (monthOfQuarter : Option UInt32) (day : DaySelection)
  /-- The three sets are checked and kept, and play no part in the dates. -/
  | custom (frequency : UInt32) (unit : RepeatUnit) (daysOfWeek : List UInt8)
      (daysOfMonth monthsOfYear : List UInt32)
  deriving DecidableEq, Repr

inductive RuleFault where
  | monthlyFrequency (frequency : UInt32)
  | yearlyFrequency (frequency : UInt32)
  | quarterlyFrequency (frequency : UInt32)
  | customFrequency
  | month (month : UInt32)
  | monthOfQuarter (month : UInt32)
  | dayOfMonth (day : UInt32)
  | weekOfMonth (week : UInt8)
  | dayOfWeek (day : UInt8)
  | customSets
  | noOccurrences
  deriving DecidableEq, Repr

def RuleFault.text : RuleFault → String
  | monthlyFrequency n => "monthly frequency " ++ toString n ++ " is outside 1-12"
  | yearlyFrequency n => "yearly frequency " ++ toString n ++ " is outside 1-10"
  | quarterlyFrequency n => "quarterly frequency " ++ toString n ++ " is outside 1-4"
  | customFrequency => "custom frequency must be at least 1"
  | month n => "month " ++ toString n ++ " is outside 1-12"
  | monthOfQuarter n => "month of quarter " ++ toString n ++ " is outside 1-3"
  | dayOfMonth n => "day of month " ++ toString n ++ " is outside 1-31"
  | weekOfMonth n => "week of month " ++ toString n ++ " is outside 1-5"
  | dayOfWeek n => "day of week " ++ toString n ++ " is outside 0-6"
  | customSets => "custom day/month sets contain out-of-range values"
  | noOccurrences => "end condition needs at least one occurrence"

def require (holds : Prop) [Decidable holds] {ε : Type} (fault : ε) : Except ε Unit :=
  if holds then .ok () else .error fault

def requireSome {α ε : Type} (value : Option α) (holds : α → Prop) [DecidablePred holds]
    (fault : α → ε) : Except ε Unit :=
  match value with
  | none => .ok ()
  | some a => require (holds a) (fault a)

namespace DaySelection

def check (day : DaySelection) : Except RuleFault Unit := do
  requireSome day.dayOfMonth (fun n => 1 ≤ n ∧ n ≤ 31) .dayOfMonth
  requireSome day.weekOfMonth (fun n => 1 ≤ n ∧ n ≤ 5) .weekOfMonth
  requireSome day.dayOfWeek (fun n => n ≤ 6) .dayOfWeek

/-- A day number wins over a weekday of a week, and that over the end of the month. -/
def rule (day : DaySelection) : DayRule :=
  match day.dayOfMonth, day.weekOfMonth, day.dayOfWeek.bind fun n => Weekday.ofIndex? n.toNat with
  | some n, _, _ => .dayOfMonth n
  | none, some week, some weekday => .nthWeekday week weekday
  | none, _, _ => if day.endOfMonth then .endOfMonth else .anchorDay

end DaySelection

def ordinalName (week : UInt8) : String :=
  if week ≤ 1 then "first" else if week = 2 then "second" else if week = 3 then "third"
  else if week = 4 then "fourth" else "last"

namespace DayRule

/-- The day of the month that the rule picks; `anchor` is the date the pattern starts on. -/
def resolve (rule : DayRule) (anchor : Date) (year : Int) (month : Nat) :
    Checked (Option Date) :=
  match rule with
  | .dayOfMonth day => clampedDate year month day.toNat
  | .nthWeekday week weekday => nthWeekdayOfMonth year month week.toNat weekday
  | .endOfMonth => clampedDate year month 31
  | .anchorDay => clampedDate year month anchor.day

def describe? : DayRule → Option String
  | .dayOfMonth day => some ("on day " ++ toString day)
  | .nthWeekday week weekday => some ("on the " ++ ordinalName week ++ " " ++ weekday.name)
  | .endOfMonth => some "on the last day"
  | .anchorDay => none

end DayRule

def RepeatUnit.name : RepeatUnit → String
  | days => "days"
  | weeks => "weeks"
  | months => "months"
  | years => "years"

def monthNames : List String :=
  ["Jan", "Feb", "Mar", "Apr", "May", "Jun", "Jul", "Aug", "Sep", "Oct", "Nov", "Dec"]

def monthName? (month : Nat) : Option String :=
  if month = 0 then none else monthNames[month - 1]?

namespace Rule

def kind : Rule → String
  | monthly .. => "monthly"
  | yearly .. => "yearly"
  | quarterly .. => "quarterly"
  | custom .. => "custom"

def check : Rule → Except RuleFault Unit
  | monthly frequency day => do
    require (1 ≤ frequency ∧ frequency ≤ 12) (.monthlyFrequency frequency)
    day.check
  | yearly frequency months day => do
    require (1 ≤ frequency ∧ frequency ≤ 10) (.yearlyFrequency frequency)
    requireSome (months.find? fun n => !decide (1 ≤ n ∧ n ≤ 12)) (fun _ => False) .month
    day.check
  | quarterly frequency monthOfQuarter day => do
    require (1 ≤ frequency ∧ frequency ≤ 4) (.quarterlyFrequency frequency)
    requireSome monthOfQuarter (fun n => 1 ≤ n ∧ n ≤ 3) .monthOfQuarter
    day.check
  | custom frequency _ daysOfWeek daysOfMonth monthsOfYear => do
    require (frequency ≠ 0) .customFrequency
    require ((daysOfWeek.all fun d => d ≤ 6) ∧ (daysOfMonth.all fun d => 1 ≤ d ∧ d ≤ 31) ∧
      (monthsOfYear.all fun m => 1 ≤ m ∧ m ≤ 12)) .customSets

def describe : Rule → String
  | monthly frequency day =>
    let base := "Every " ++ toString frequency ++ " month(s)"
    match day.rule.describe? with
    | some text => base ++ " " ++ text
    | none => base
  | yearly frequency months _ =>
    let base := "Every " ++ toString frequency ++ " year(s)"
    if months.isEmpty then base
    else base ++ " in " ++ ", ".intercalate (months.filterMap fun n => monthName? n.toNat)
  | quarterly frequency _ _ => "Every " ++ toString frequency ++ " quarter(s)"
  | custom frequency unit _ _ _ => "Every " ++ toString frequency ++ " " ++ unit.name

end Rule
end Rota
