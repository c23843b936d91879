import Rota.Pattern.Occurrence

/-!
A series of occurrences: a rule, the date it starts on and the condition that ends it. An end date
is looked at twice, for the day asked about and for the day found. A count of occurrences is kept
and checked when stored, and ends nothing.
-/

namespace Rota

inductive EndCondition where
  | never
  | afterOccurrences (occurrences : UInt32)
  | byDate (endDate : Date)
  deriving DecidableEq

namespace EndCondition

def check : EndCondition → Except RuleFault Unit
  | afterOccurrences occurrences => require (occurrences ≠ 0) .noOccurrences
  | _ => .ok ()

def excludes (condition : EndCondition) (date : Date) : Bool :=
  match condition with
  | byDate endDate => decide (endDate < date)
  | _ => false

end EndCondition

structure Series where
  rule : Rule
  ending : EndCondition
  startsOn : Date
  deriving DecidableEq

namespace Series

/-- The earliest occurrence at or after `start`; none when the series has ended or the calendar
does. -/
def nextOccurrence (series : Series) (start : Date) : Checked (Option Date) :=
  if series.ending.excludes start then .ok none
  else do
    match ← series.rule.nextOnOrAfter series.startsOn (max start series.startsOn) with
    | none => return none
    | some next => if series.ending.excludes next then return none else return some next

/-- Up to `count` occurrences at or after `start`, each found from the day after the one before. -/
def upcoming (series : Series) (start : Date) : Nat → Checked (List Date)
  | 0 => .ok []
  | count + 1 => do
    match ← series.nextOccurrence start with
    | none => return []
    | some next =>
      match next.succ? with
      | none => return [next]
      | some following => return next :: (← series.upcoming following count)

end Series
end Rota
