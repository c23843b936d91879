import Rota.Calendar.Date

/-!
How far off something is, in words: "in 5 days", "a month ago", "now". The unit is the largest one
the distance comes near to; each plural count is at least two.
-/

namespace Rota

def minuteSeconds : Nat := 60
def hourSeconds : Nat := 3600
def daySeconds : Nat := 86400

/-- A unit, how long it takes, the word for one, and when a distance is told as one or as many. -/
structure SpanUnit where
  name : String
  single : String
  seconds : Nat
  /-- Distances above this are one unit. -/
  aboveOne : Nat
  /-- Distances above this are several. -/
  aboveMany : Nat

namespace SpanUnit

def all : List SpanUnit :=
  [⟨"years", "a year", 365 * daySeconds, 345 * daySeconds, 547 * daySeconds⟩,
    ⟨"months", "a month", 30 * daySeconds, 29 * daySeconds, 45 * daySeconds⟩,
    ⟨"weeks", "a week", 7 * daySeconds, 6 * daySeconds + 12 * hourSeconds,
      10 * daySeconds + 12 * hourSeconds⟩,
    ⟨"days", "a day", daySeconds, 22 * hourSeconds, 36 * hourSeconds⟩,
    ⟨"hours", "an hour", hourSeconds, 45 * minuteSeconds, 90 * minuteSeconds⟩,
    ⟨"minutes", "a minute", minuteSeconds, 45, 90⟩]

def distance? (unit : SpanUnit) (seconds : Nat) : Option String :=
  if unit.aboveMany < seconds then
    some (toString (max (seconds / unit.seconds) 2) ++ " " ++ unit.name)
  else if unit.aboveOne < seconds then some unit.single
  else none

end SpanUnit

/-- A distance in words; none for one of ten seconds or less. -/
def distanceText? (seconds : Nat) : Option String :=
  match SpanUnit.all.findSome? fun unit => unit.distance? seconds with
  | some text => some text
  | none => if 10 < seconds then some (toString seconds ++ " seconds") else none

/-- How far ahead something is, in seconds; what is past counts below zero. -/
def relativeText (seconds : Int) : String :=
  match distanceText? seconds.natAbs with
  | none => "now"
  | some text => if 0 ≤ seconds then "in " ++ text else text ++ " ago"

def relativeDay (date today : Date) : String :=
  if date = today then "today" else relativeText (date.daysFrom today * daySeconds)

end Rota
